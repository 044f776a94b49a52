import LakeCat.CanonicalProjections

/-!
The sink that keeps nothing of a lineage event but its hashes: `open_lineage_event`
and `HashOnlyLineageSink`.
-/

namespace LakeCat

def lineageProducer : String := "https://querygraph.ai/lakecat"

def lineageSchemaUrl (facet : String) : String :=
  "https://querygraph.ai/schemas/openlineage/" ++ facet ++ "/0.1.0.json"

def openLineageDataset (table : TableIdent) (payload : Json) : Json :=
  let uri := ((((payload.get "storage-location").or (payload.get "location")).or
    (payload.get "metadata-location")).bind Json.asStr).getD table.stableId
  .object [
    ("namespace", .str ("lakecat." ++ table.warehouse.value ++ "." ++ table.ns.path)),
    ("name", .str table.name.value),
    ("facets", .object [
      ("dataSource", .object [
        ("_producer", .str lineageProducer),
        ("_schemaURL", .str
          "https://openlineage.io/spec/facets/1-0-0/DatasourceDatasetFacet.json"),
        ("name", .str "LakeCat"), ("uri", .str uri)]),
      ("lakecat_catalog", .object [
        ("_producer", .str lineageProducer),
        ("_schemaURL", .str (lineageSchemaUrl "lakecat-catalog-facet")),
        ("stableId", .str table.stableId), ("payload", payload)])])]

/-- An output that is no table: one facet, with the parts of the payload that it repeats. -/
def lineageOutput (ns name facet schema : String) (repeated : List (String × String))
    (payload : Json) : Json :=
  .object [
    ("namespace", .str ns),
    ("name", .str name),
    ("facets", .object [
      (facet, .object ([("_producer", .str lineageProducer),
        ("_schemaURL", .str (lineageSchemaUrl schema))] ++
          repeated.map (fun entry => (entry.1, payload.field entry.2)) ++
            [("payload", payload)]))])]

def namespaceText (payload : Json) : String :=
  match payload.get "namespace" with
  | some (.arr parts) => joinText "." (parts.filterMap Json.asStr)
  | some (.str path) => path
  | _ => "unknown"

namespace LineageEvent

variable (event : LineageEvent)

def namespaceLineageOutputName : String := namespaceText event.payload

def viewLineageOutputName : String :=
  match (event.payload.getPath ["view", "name"]).bind Json.asStr with
  | some name => name
  | none => ((event.payload.get "view").bind Json.asStr).getD (namespaceText event.payload)

def textOr (path : List String) (otherwise : String) : String :=
  ((event.payload.getPath path).bind Json.asStr).getD otherwise

def lineageInputs : List Json :=
  match event.eventType with
  | .tableLoaded | .tableScanPlanned | .tableDeleted =>
      event.table.toList.map fun table => openLineageDataset table event.payload
  | .tableRenamed =>
      ((event.payload.get "source").bind OutboxEvent.tableFromValue).toList.map fun source =>
        openLineageDataset source event.payload
  | _ => []

def viewOutput (ns : String) : Json :=
  lineageOutput ns event.viewLineageOutputName "lakecat_view" "lakecat-view-facet"
    [("warehouse", "warehouse"), ("namespace", "namespace")] event.payload

def namespaceOutput (ns name : String) : Json :=
  lineageOutput ns name "lakecat_namespace" "lakecat-namespace-facet" [] event.payload

def policyBindingOutput (ns name : String) : Json :=
  lineageOutput ns name "lakecat_policyBinding" "lakecat-policy-binding-facet"
    [("warehouse", "warehouse")] event.payload

def projectOutput (ns name : String) : Json :=
  lineageOutput ns name "lakecat_project" "lakecat-project-facet" [] event.payload

def serverOutput (ns name : String) : Json :=
  lineageOutput ns name "lakecat_server" "lakecat-server-facet" [] event.payload

def storageProfileOutput (ns name : String) : Json :=
  lineageOutput ns name "lakecat_storageProfile" "lakecat-storage-profile-facet"
    [("warehouse", "warehouse")] event.payload

def warehouseOutput (ns name : String) : Json :=
  lineageOutput ns name "lakecat_warehouse" "lakecat-warehouse-facet" [] event.payload

def lineageOutputs : List Json :=
  match event.eventType with
  | .tableCreated | .tableCommitted | .tableRenamed | .tableRestored =>
      event.table.toList.map fun table => openLineageDataset table event.payload
  | .catalogConfigRead =>
      [lineageOutput "lakecat.catalog-config" (event.textOr ["warehouse"] "unknown")
        "lakecat_catalogConfig" "lakecat-catalog-config-facet" [] event.payload]
  | .namespaceCreated | .namespaceDropped | .namespaceLoaded | .namespacePropertiesUpdated =>
      [event.namespaceOutput "lakecat.namespace" event.namespaceLineageOutputName]
  | .namespaceListed =>
      [event.namespaceOutput "lakecat.namespace-list" (event.textOr ["warehouse"] "unknown")]
  | .policyBindingListed =>
      [event.policyBindingOutput "lakecat.policy-list" (event.textOr ["warehouse"] "unknown")]
  | .policyBindingUpserted =>
      [event.policyBindingOutput "lakecat.policy" (event.textOr ["policy", "policy-id"] "unknown")]
  | .projectListed => [event.projectOutput "lakecat.project-list" "projects"]
  | .projectUpserted =>
      [event.projectOutput "lakecat.project" (event.textOr ["project-id"] "unknown")]
  | .serverListed => [event.serverOutput "lakecat.server-list" "servers"]
  | .serverUpserted => [event.serverOutput "lakecat.server" (event.textOr ["server-id"] "unknown")]
  | .storageProfileListed =>
      [event.storageProfileOutput "lakecat.storage-profile-list"
        (event.textOr ["warehouse"] "unknown")]
  | .storageProfileUpserted =>
      [event.storageProfileOutput "lakecat.storage-profile"
        (event.textOr ["storage-profile", "profile-id"] "unknown")]
  | .viewListed | .viewVersionReceiptChainsListed | .viewVersionReceiptsListed =>
      [event.viewOutput "lakecat.view-list"]
  | .viewDropped | .viewLoaded | .viewUpserted => [event.viewOutput "lakecat.view"]
  | .warehouseListed =>
      [event.warehouseOutput "lakecat.warehouse-list" (event.textOr ["project-id"] "warehouses")]
  | .warehouseUpserted =>
      [event.warehouseOutput "lakecat.warehouse" (event.textOr ["warehouse"] "unknown")]
  | .queryGraphBootstrap =>
      [lineageOutput "lakecat.querygraph" "bootstrap" "queryGraph_bootstrap"
        "querygraph-bootstrap-facet"
        [("warehouse", "warehouse"), ("tableCount", "table-count"),
          ("policyBindingCount", "policy-binding-count"), ("bundleHash", "bundle-hash"),
          ("graphHash", "graph-hash"), ("openLineageHash", "open-lineage-hash"),
          ("queryGraphImportHash", "querygraph-import-hash")] event.payload]
  | .tableLoaded | .tableCommitRecordsListed | .tableScanPlanned | .tableDeleted
  | .credentialsVendAttempted | .modelPublished => []

variable [External]

def openLineageEventWithIdentity (identity : CanonicalLineageIdentity) : Json :=
  let eventType := lineageEventTypeName event.eventType
  let runId := lineageRunHash event eventType identity
  .object [
    ("eventType", .str "COMPLETE"),
    ("eventTime", serializeTimestamp event.emittedAt),
    ("run", .object [
      ("runId", .str ("lakecat-" ++ runId)),
      ("facets", .object [
        ("lakecat_catalogEvent", .object [
          ("_producer", .str lineageProducer),
          ("_schemaURL", .str (lineageSchemaUrl "lakecat-catalog-event-facet")),
          ("eventType", .str eventType), ("principal", event.principal.toJson),
          ("payload", event.payload)])])]),
    ("job", .object [("namespace", .str "lakecat.catalog"), ("name", .str eventType)]),
    ("inputs", .arr event.lineageInputs),
    ("outputs", .arr event.lineageOutputs),
    ("producer", .str lineageProducer),
    ("schemaURL", .str "https://openlineage.io/spec/2-0-2/OpenLineage.json")]

/-- `HashOnlyLineageSink::emit`. -/
def hashOnly : LineageReceipt :=
  let identity := CanonicalLineageIdentity.fromEvent event
  ⟨lineageEventHash event identity,
    contentHashJson (event.openLineageEventWithIdentity identity)⟩

end LineageEvent

end LakeCat
