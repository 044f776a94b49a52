import LakeCat.BundleSerialization
import LakeCat.CanonicalJson
import LakeCat.OutboxEmissions

/-!
The documents that are hashed without building a `serde_json::Value`. Each writes its
fields in the order of their keys, so its text is that of the value it stands for.
-/

namespace LakeCat

def lineageEventTypeName : LineageEventType → String
  | .catalogConfigRead => "catalog-config-read"
  | .namespaceCreated => "namespace-created"
  | .namespaceDropped => "namespace-dropped"
  | .namespaceListed => "namespace-listed"
  | .namespaceLoaded => "namespace-loaded"
  | .namespacePropertiesUpdated => "namespace-properties-updated"
  | .policyBindingListed => "policy-binding-listed"
  | .policyBindingUpserted => "policy-binding-upserted"
  | .projectListed => "project-listed"
  | .projectUpserted => "project-upserted"
  | .serverListed => "server-listed"
  | .serverUpserted => "server-upserted"
  | .storageProfileListed => "storage-profile-listed"
  | .storageProfileUpserted => "storage-profile-upserted"
  | .tableCreated => "table-created"
  | .tableLoaded => "table-loaded"
  | .tableCommitRecordsListed => "table-commit-records-listed"
  | .tableScanPlanned => "table-scan-planned"
  | .tableCommitted => "table-committed"
  | .tableRenamed => "table-renamed"
  | .tableDeleted => "table-deleted"
  | .tableRestored => "table-restored"
  | .viewDropped => "view-dropped"
  | .viewLoaded => "view-loaded"
  | .viewListed => "view-listed"
  | .viewVersionReceiptChainsListed => "view-version-receipt-chains-listed"
  | .viewVersionReceiptsListed => "view-version-receipts-listed"
  | .viewUpserted => "view-upserted"
  | .warehouseListed => "warehouse-listed"
  | .warehouseUpserted => "warehouse-upserted"
  | .credentialsVendAttempted => "credentials-vend-attempted"
  | .queryGraphBootstrap => "querygraph-bootstrap"
  | .modelPublished => "model-published"

/-- `rename_all = "kebab-case"`, which parts the words of one name that the source writes as one. -/
def LineageEventType.kebabCase : LineageEventType → String
  | .queryGraphBootstrap => "query-graph-bootstrap"
  | eventType => lineageEventTypeName eventType

/-- The bundle as the `json!` that its hash was defined by. -/
def bundleValue (warehouse : WarehouseName) (manifest : QueryGraphBundleManifest)
    (tables : List QueryGraphTableProjection) (views : List QueryGraphViewProjection)
    (graph : QueryGraphCatalogGraph) (openLineage : Json) : Json :=
  .object [("warehouse", .str warehouse.value), ("manifest", manifest.toJson),
    ("tables", .arr (tables.map QueryGraphTableProjection.toJson)),
    ("views", .arr (views.map QueryGraphViewProjection.toJson)), ("graph", graph.toJson),
    ("openLineage", openLineage)]

def artifactImportValue (artifact : QueryGraphTableArtifactHashes) : Json :=
  .object [("stable-id", .str artifact.stableId), ("croissant-hash", .str artifact.croissantHash),
    ("cdif-hash", .str artifact.cdifHash), ("osi-hash", .str artifact.osiHash),
    ("odrl-hash", .str artifact.odrlHash)]

def tableImportValue (table : QueryGraphTableProjection) : Json :=
  .object [("ident", table.ident.toJson), ("stable-id", .str table.stableId),
    ("location", .str table.location), ("metadata-location", ofOptionStr table.metadataLocation),
    ("version", ofU64 table.version), ("format-version", Json.ofOption .int table.formatVersion),
    ("croissant", table.croissant), ("cdif", table.cdif), ("osi", table.osi),
    ("odrl", table.odrl)]

/-- The table-only import as the `json!` that its hash was defined by. -/
def importValue (warehouse : WarehouseName) (manifest : QueryGraphBundleManifest)
    (tables : List QueryGraphTableProjection) (graph : QueryGraphCatalogGraph)
    (openLineage : Json) : Json :=
  .object [("warehouse", .str warehouse.value),
    ("manifest", .object [("schema-version", .str manifest.schemaVersion),
      ("producer", .str manifest.producer), ("standards", strings manifest.standards),
      ("table-artifacts", .arr (manifest.tableArtifacts.map artifactImportValue)),
      ("open-lineage-hash", .str manifest.openLineageHash)]),
    ("tables", .arr (tables.map tableImportValue)), ("graph", graph.toJson),
    ("openLineage", openLineage)]

/-- The principal and the table as values. -/
structure CanonicalLineageIdentity where
  principal : Json
  table : Option Json

def CanonicalLineageIdentity.fromEvent (event : LineageEvent) : CanonicalLineageIdentity :=
  ⟨event.principal.toJson, event.table.map TableIdent.toJson⟩

namespace LineageEvent

variable [External] (event : LineageEvent)

/-- `LineageEventHashEvidence`. -/
def hashEvidence (identity : CanonicalLineageIdentity) : Json :=
  .obj [("emitted_at", serializeTimestamp event.emittedAt),
    ("event_type", .str event.eventType.kebabCase), ("payload", event.payload),
    ("principal", identity.principal), ("table", Json.ofOption id identity.table)]

/-- `LineageRunHashEvidence`. -/
def runHashEvidence (eventType : String) (identity : CanonicalLineageIdentity) : Json :=
  .obj [("emitted-at", serializeTimestamp event.emittedAt), ("event-type", .str eventType),
    ("payload", event.payload), ("principal", identity.principal),
    ("table", Json.ofOption id identity.table)]

def toJson : Json :=
  .object [("event_type", .str event.eventType.kebabCase), ("principal", event.principal.toJson),
    ("table", Json.ofOption TableIdent.toJson event.table), ("payload", event.payload),
    ("emitted_at", serializeTimestamp event.emittedAt)]

/-- What the hash of a run was defined by. -/
def runValue : Json :=
  .object [("event-type", .str (lineageEventTypeName event.eventType)),
    ("principal", event.principal.toJson),
    ("table", Json.ofOption TableIdent.toJson event.table), ("payload", event.payload),
    ("emitted-at", serializeTimestamp event.emittedAt)]

theorem hashEvidence_value :
    event.hashEvidence (CanonicalLineageIdentity.fromEvent event) = event.toJson := by
  cases table : event.table <;>
    simp +decide [hashEvidence, toJson, CanonicalLineageIdentity.fromEvent, table, Json.ofOption,
      Json.object, Json.insertField]

theorem runHashEvidence_value :
    event.runHashEvidence (lineageEventTypeName event.eventType)
      (CanonicalLineageIdentity.fromEvent event) = event.runValue := by
  cases table : event.table <;>
    simp +decide [runHashEvidence, runValue, CanonicalLineageIdentity.fromEvent, table,
      Json.ofOption, Json.object, Json.insertField]

end LineageEvent

section

variable [External]

def lineageEventHash (event : LineageEvent) (identity : CanonicalLineageIdentity) : String :=
  contentHashJson (event.hashEvidence identity)

def lineageRunHash (event : LineageEvent) (eventType : String)
    (identity : CanonicalLineageIdentity) : String :=
  contentHashJson (event.runHashEvidence eventType identity)

end

theorem QueryGraphEdge.canonicalJson_value (edge : QueryGraphEdge) :
    edge.canonicalJson = edge.toJson := by
  simp +decide [canonicalJson, toJson, Json.object, Json.insertField]

theorem QueryGraphNode.canonicalJson_value (node : QueryGraphNode) :
    node.canonicalJson = node.toJson := by
  simp +decide [canonicalJson, toJson, Json.object, Json.insertField]

/-- Items that are written alike make slices that are. -/
theorem slice_value {canonical value : α → Json} (same : ∀ item, canonical item = value item)
    (items : List α) : Json.arr (items.map canonical) = .arr (items.map value) := by
  rw [show canonical = value from funext same]

theorem QueryGraphCatalogGraph.canonicalJson_value (graph : QueryGraphCatalogGraph) :
    graph.canonicalJson = graph.toJson := by
  rw [canonicalJson, slice_value QueryGraphEdge.canonicalJson_value,
    slice_value QueryGraphNode.canonicalJson_value]
  simp +decide [toJson, Json.object, Json.insertField]

theorem TableIdent.canonicalJson_value (ident : TableIdent) :
    ident.canonicalJson = ident.toJson := by
  simp +decide [canonicalJson, toJson, Json.object, Json.insertField]

theorem QueryGraphPolicyBindingProjection.canonicalJson_value
    (binding : QueryGraphPolicyBindingProjection) : binding.canonicalJson = binding.toJson := by
  simp +decide [canonicalJson, toJson, Json.object, Json.insertField]

theorem policyBindingsJson_value (table : QueryGraphTableProjection) :
    policyBindingsJson table =
      .arr (table.policyBindings.map QueryGraphPolicyBindingProjection.toJson) :=
  slice_value QueryGraphPolicyBindingProjection.canonicalJson_value table.policyBindings

theorem QueryGraphTableProjection.canonicalJson_value (table : QueryGraphTableProjection) :
    table.canonicalJson = table.toJson := by
  rw [canonicalJson, TableIdent.canonicalJson_value, policyBindingsJson_value]
  simp +decide [toJson, Json.object, Json.insertField]

theorem QueryGraphTableProjection.importJson_value (table : QueryGraphTableProjection) :
    table.importJson = tableImportValue table := by
  rw [importJson, TableIdent.canonicalJson_value]
  simp +decide [tableImportValue, Json.object, Json.insertField]

theorem QueryGraphViewProjection.canonicalJson_value (view : QueryGraphViewProjection) :
    view.canonicalJson = view.toJson := by
  simp +decide [canonicalJson, toJson, Json.object, Json.insertField]

theorem QueryGraphViewReceiptEvidence.canonicalJson_value
    (evidence : QueryGraphViewReceiptEvidence) : evidence.canonicalJson = evidence.toJson := by
  simp +decide [canonicalJson, toJson, Json.object, Json.insertField]

theorem QueryGraphTableArtifactHashes.canonicalJson_value
    (artifact : QueryGraphTableArtifactHashes) : artifact.canonicalJson = artifact.toJson := by
  simp +decide [canonicalJson, toJson, Json.object, Json.insertField]

theorem QueryGraphTableArtifactHashes.importJson_value
    (artifact : QueryGraphTableArtifactHashes) :
    artifact.importJson = artifactImportValue artifact := by
  simp +decide [importJson, artifactImportValue, Json.object, Json.insertField]

theorem QueryGraphViewArtifactHashes.canonicalJson_value
    (artifact : QueryGraphViewArtifactHashes) : artifact.canonicalJson = artifact.toJson := by
  simp +decide [canonicalJson, toJson, Json.object, Json.insertField]

theorem QueryGraphImportCompatibility.canonicalJson_value
    (contract : QueryGraphImportCompatibility) : contract.canonicalJson = contract.toJson := by
  rw [canonicalJson, toJson, slice_value QueryGraphViewReceiptEvidence.canonicalJson_value]
  cases empty : contract.viewReceiptEvidence.isEmpty <;>
    cases contract.viewReceiptEvidenceHash <;>
      simp +decide [Json.presentField, Json.object, Json.insertField]

theorem QueryGraphBundleManifest.canonicalJson_value (manifest : QueryGraphBundleManifest) :
    manifest.canonicalJson = manifest.toJson := by
  rw [canonicalJson, toJson, slice_value QueryGraphTableArtifactHashes.canonicalJson_value,
    slice_value QueryGraphViewArtifactHashes.canonicalJson_value]
  cases manifest.querygraphImport <;>
    simp +decide [Json.presentField, Json.object, Json.insertField,
      QueryGraphImportCompatibility.canonicalJson_value]

theorem QueryGraphBundleManifest.importJson_value (manifest : QueryGraphBundleManifest) :
    manifest.importJson = .object [("schema-version", .str manifest.schemaVersion),
      ("producer", .str manifest.producer), ("standards", strings manifest.standards),
      ("table-artifacts", .arr (manifest.tableArtifacts.map artifactImportValue)),
      ("open-lineage-hash", .str manifest.openLineageHash)] := by
  rw [importJson, slice_value QueryGraphTableArtifactHashes.importJson_value]
  simp +decide [Json.object, Json.insertField]

theorem bundleDocument_value (warehouse : WarehouseName) (manifest : QueryGraphBundleManifest)
    (tables : List QueryGraphTableProjection) (views : List QueryGraphViewProjection)
    (graph : QueryGraphCatalogGraph) (openLineage : Json) :
    bundleDocument warehouse manifest tables views graph openLineage =
      bundleValue warehouse manifest tables views graph openLineage := by
  rw [bundleDocument, QueryGraphCatalogGraph.canonicalJson_value,
    QueryGraphBundleManifest.canonicalJson_value,
    slice_value QueryGraphTableProjection.canonicalJson_value,
    slice_value QueryGraphViewProjection.canonicalJson_value]
  simp +decide [bundleValue, Json.object, Json.insertField]

theorem importDocument_value (warehouse : WarehouseName) (manifest : QueryGraphBundleManifest)
    (tables : List QueryGraphTableProjection) (graph : QueryGraphCatalogGraph)
    (openLineage : Json) :
    importDocument warehouse manifest tables graph openLineage =
      importValue warehouse manifest tables graph openLineage := by
  rw [importDocument, QueryGraphCatalogGraph.canonicalJson_value,
    QueryGraphBundleManifest.importJson_value,
    slice_value QueryGraphTableProjection.importJson_value]
  simp +decide [importValue, Json.object, Json.insertField]

/-- Whatever their content, the borrowed documents of a bundle have the text of the values that
its hashes were defined by, and so have their hashes. -/
theorem bundleProjections_serialize [External] (warehouse : WarehouseName)
    (manifest : QueryGraphBundleManifest) (tables : List QueryGraphTableProjection)
    (views : List QueryGraphViewProjection) (graph : QueryGraphCatalogGraph) (openLineage : Json) :
    (graph.canonicalJson.compact = graph.toJson.compact ∧
      graphHash graph = contentHashJson graph.toJson) ∧
    ((bundleDocument warehouse manifest tables views graph openLineage).compact =
        (bundleValue warehouse manifest tables views graph openLineage).compact ∧
      querygraphBundleHash warehouse manifest tables views graph openLineage =
        contentHashJson (bundleValue warehouse manifest tables views graph openLineage)) ∧
    (importDocument warehouse manifest tables graph openLineage).compact =
        (importValue warehouse manifest tables graph openLineage).compact ∧
      tableOnlyQuerygraphImportHash warehouse manifest tables graph openLineage =
        contentHashJson (importValue warehouse manifest tables graph openLineage) := by
  have whole := bundleDocument_value warehouse manifest tables views graph openLineage
  have tableOnly := importDocument_value warehouse manifest tables graph openLineage
  refine ⟨⟨?_, ?_⟩, ⟨?_, ?_⟩, ?_, ?_⟩
  · rw [graph.canonicalJson_value]
  · rw [graphHash, graph.canonicalJson_value]
  · rw [whole]
  · rw [querygraphBundleHash, whole]
  · rw [tableOnly]
  · rw [tableOnlyQuerygraphImportHash, tableOnly]

theorem sliceProjections_serialize [External] (table : QueryGraphTableProjection)
    (evidence : List QueryGraphViewReceiptEvidence) :
    ((policyBindingsJson table).compact =
        (Json.arr (table.policyBindings.map QueryGraphPolicyBindingProjection.toJson)).compact ∧
      policyBindingsHash table = contentHashJson
        (.arr (table.policyBindings.map QueryGraphPolicyBindingProjection.toJson))) ∧
    (Json.arr (evidence.map QueryGraphViewReceiptEvidence.canonicalJson)).compact =
        (Json.arr (evidence.map QueryGraphViewReceiptEvidence.toJson)).compact ∧
      viewReceiptEvidenceHash evidence =
        contentHashJson (.arr (evidence.map QueryGraphViewReceiptEvidence.toJson)) := by
  have records := slice_value QueryGraphViewReceiptEvidence.canonicalJson_value evidence
  refine ⟨⟨?_, ?_⟩, ?_, ?_⟩
  · rw [policyBindingsJson_value]
  · rw [policyBindingsHash, policyBindingsJson_value]
  · rw [records]
  · rw [viewReceiptEvidenceHash, records]

theorem lineageProjections_serialize [External] (event : LineageEvent) :
    let identity := CanonicalLineageIdentity.fromEvent event
    let name := lineageEventTypeName event.eventType
    ((event.hashEvidence identity).compact = event.toJson.compact ∧
      lineageEventHash event identity = contentHashJson event.toJson) ∧
    (event.runHashEvidence name identity).compact = event.runValue.compact ∧
      lineageRunHash event name identity = contentHashJson event.runValue := by
  intro identity name
  refine ⟨⟨?_, ?_⟩, ?_, ?_⟩
  · rw [event.hashEvidence_value]
  · rw [lineageEventHash, event.hashEvidence_value]
  · rw [event.runHashEvidence_value]
  · rw [lineageRunHash, event.runHashEvidence_value]

/-- The borrowed documents of bundles, of their parts and of lineage events serialize and hash as
the values they stand for, whatever they hold. -/
theorem canonicalProjections_serialize [External] :
    (∀ warehouse manifest tables views graph openLineage,
      ((QueryGraphCatalogGraph.canonicalJson graph).compact = graph.toJson.compact ∧
        graphHash graph = contentHashJson graph.toJson) ∧
      ((bundleDocument warehouse manifest tables views graph openLineage).compact =
          (bundleValue warehouse manifest tables views graph openLineage).compact ∧
        querygraphBundleHash warehouse manifest tables views graph openLineage =
          contentHashJson (bundleValue warehouse manifest tables views graph openLineage)) ∧
      (importDocument warehouse manifest tables graph openLineage).compact =
          (importValue warehouse manifest tables graph openLineage).compact ∧
        tableOnlyQuerygraphImportHash warehouse manifest tables graph openLineage =
          contentHashJson (importValue warehouse manifest tables graph openLineage)) ∧
    (∀ (table : QueryGraphTableProjection) (evidence : List QueryGraphViewReceiptEvidence),
      ((policyBindingsJson table).compact =
          (Json.arr (table.policyBindings.map QueryGraphPolicyBindingProjection.toJson)).compact ∧
        policyBindingsHash table = contentHashJson
          (.arr (table.policyBindings.map QueryGraphPolicyBindingProjection.toJson))) ∧
      (Json.arr (evidence.map QueryGraphViewReceiptEvidence.canonicalJson)).compact =
          (Json.arr (evidence.map QueryGraphViewReceiptEvidence.toJson)).compact ∧
        viewReceiptEvidenceHash evidence =
          contentHashJson (.arr (evidence.map QueryGraphViewReceiptEvidence.toJson))) ∧
    (∀ event : LineageEvent,
      let identity := CanonicalLineageIdentity.fromEvent event
      let name := lineageEventTypeName event.eventType
      ((event.hashEvidence identity).compact = event.toJson.compact ∧
        lineageEventHash event identity = contentHashJson event.toJson) ∧
      (event.runHashEvidence name identity).compact = event.runValue.compact ∧
        lineageRunHash event name identity = contentHashJson event.runValue) :=
  ⟨bundleProjections_serialize, sliceProjections_serialize, lineageProjections_serialize⟩

end LakeCat
