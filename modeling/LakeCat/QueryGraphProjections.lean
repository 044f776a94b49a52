import LakeCat.QueryGraphBundles
import LakeCat.ViewRecords

/-!
How a snapshot of the catalog becomes a bundle: the projection of each table
and view, the graph over them, the OpenLineage event, and the hashes.
-/

namespace LakeCat

open Fallible

structure IcebergFieldProjection where
  id : Option Int
  name : String
  dataType : String
  required : Bool
  description : String
  semanticType : Option String

def fieldType : Json → String
  | .str text => text
  | .obj fields => ((fields.lookup "type").bind Json.asStr).getD "struct"
  | _ => "unknown"

def icebergField (field : Json) : IcebergFieldProjection :=
  let name := ((field.get "name").bind Json.asStr).getD "field"
  {
    id := (field.get "id").bind Json.asI64
    name := name
    dataType := fieldType (field.field "type")
    required := ((field.get "required").bind Json.asBool).getD false
    description := (((field.get "doc").or (field.get "description")).bind Json.asStr).getD
      s!"Iceberg field {name}."
    semanticType := ((field.get "semantic-type").or (field.get "semanticType")).bind Json.asStr
  }

def currentSchema (metadata : Json) : Option Json := do
  let currentSchemaId ← (← metadata.get "current-schema-id").asI64
  let schemas ← (← metadata.get "schemas").asArray
  schemas.find? fun schema => (schema.get "schema-id").bind Json.asI64 = some currentSchemaId

def icebergFields (metadata : Json) : List IcebergFieldProjection :=
  let schema := ((currentSchema metadata).or (metadata.get "schema")).getD .null
  (((schema.get "fields").bind Json.asArray).map (·.map icebergField)).getD []

/-- `char::is_ascii_alphanumeric`, lowered; every other character is an underscore. -/
def safeSqlChar (ch : Char) : Char :=
  if isAsciiAlphanumeric ch then
    if 'A' ≤ ch && ch ≤ 'Z' then Char.ofNat (ch.toNat + 32) else ch
  else '_'

def safeSqlName (value : String) : String :=
  let trimmed := (((value.toList.map safeSqlChar).dropWhile (· = '_')).reverse.dropWhile
    (· = '_')).reverse
  if trimmed.isEmpty then "lakecat_value" else String.ofList trimmed

def croissantField (field : IcebergFieldProjection) : Json :=
  .object [("@type", .str "cr:Field"), ("name", .str field.name),
    ("dataType", .str field.dataType), ("description", .str field.description),
    ("sameAs", ofOptionStr field.semanticType), ("required", .bool field.required),
    ("source", ofOptionStr (field.id.map fun id => s!"iceberg-field-id:{id}"))]

def croissantDataset (table : TableRecord) (stableId : String)
    (fields : List IcebergFieldProjection) : Json :=
  .object [("@context", .object [("@vocab", .str "https://schema.org/"),
      ("cr", .str "http://mlcommons.org/croissant/"), ("dcat", .str "http://www.w3.org/ns/dcat#"),
      ("odrl", .str "http://www.w3.org/ns/odrl/2/")]),
    ("@type", .str "cr:Dataset"), ("@id", .str stableId), ("name", .str table.ident.name.asStr),
    ("description",
      .str s!"Iceberg table {table.ident.stableId} served by LakeCat for QueryGraph."),
    ("license", .str "https://spdx.org/licenses/Apache-2.0.html"),
    ("creator", .arr [.object [("@type", .str "Organization"), ("name", .str "LakeCat")]]),
    ("keywords", strings ["lakecat", "iceberg", "sail", "querygraph"]),
    ("distribution", .arr [.object [("@type", .str "cr:FileObject"),
      ("@id", .str s!"{stableId}#metadata"), ("name", .str "Iceberg table metadata"),
      ("contentUrl", .str (table.metadataLocation.getD table.location)),
      ("encodingFormat", .str "application/vnd.apache.iceberg.metadata+json")]]),
    ("recordSet", .arr [.object [("@type", .str "cr:RecordSet"),
      ("@id", .str s!"{stableId}#record-set"), ("name", .str table.ident.name.asStr),
      ("field", .arr (fields.map croissantField))]])]

def cdifDataElement (stableId : String) (field : IcebergFieldProjection) : Json :=
  .object [("@type", .str "cdif:DataElement"), ("@id", .str s!"{stableId}/field/{field.name}"),
    ("dct:title", .str field.name), ("dct:description", .str field.description),
    ("cdif:dataType", .str field.dataType), ("cdif:semanticType", ofOptionStr field.semanticType),
    ("cdif:recordSet", .str s!"{stableId}#record-set")]

def cdifResource (table : TableRecord) (stableId : String) (fields : List IcebergFieldProjection)
    (odrl : Json) : Json :=
  .object [("@context", .object [("cdif", .str "https://cdif.codata.org/"),
      ("dcat", .str "http://www.w3.org/ns/dcat#"), ("dct", .str "http://purl.org/dc/terms/"),
      ("odrl", .str "http://www.w3.org/ns/odrl/2/")]),
    ("@type", .str "dcat:Dataset"), ("@id", .str stableId),
    ("dct:title", .str table.ident.name.asStr),
    ("dct:description",
      .str s!"LakeCat CDIF projection for Iceberg table {table.ident.stableId}."),
    ("cdif:profile", strings ["https://cdif.codata.org/profile/discovery",
      "https://cdif.codata.org/profile/manifest",
      "https://cdif.codata.org/profile/data-description",
      "https://cdif.codata.org/profile/data-access",
      "https://cdif.codata.org/profile/access-rights",
      "https://cdif.codata.org/profile/data-integration",
      "https://cdif.codata.org/profile/provenance"]),
    ("dcat:landingPage", .str s!"lakecat://{table.ident.stableId}"),
    ("dcat:accessService", .object [("@type", .str "dcat:DataService"),
      ("endpointURL",
        .str s!"/catalog/v1/namespaces/{table.ident.ns.path}/tables/{table.ident.name.asStr}")]),
    ("dcat:distribution", .arr [.object [("@type", .str "dcat:Distribution"),
      ("@id", .str s!"{stableId}#metadata"), ("dct:title", .str "Iceberg table metadata"),
      ("dcat:downloadURL", .str (table.metadataLocation.getD table.location)),
      ("dcat:mediaType", .str "application/vnd.apache.iceberg.metadata+json")]]),
    ("cdif:dataElement", .arr (fields.map (cdifDataElement stableId))),
    ("dct:accessRights", .object [("@type", .str "dct:RightsStatement"),
      ("@id", ofOptionStr ((odrl.get "@id").bind Json.asStr)),
      ("dct:license", .str "https://spdx.org/licenses/Apache-2.0.html"),
      ("dct:description", .str ("Access and usage must satisfy ODRL and TypeSec policy before " ++
        "agent use.")),
      ("odrl:policy", odrl)])]

def osiField (field : IcebergFieldProjection) : Json :=
  .object [("id", Json.ofOption .int field.id), ("name", .str field.name),
    ("dataType", .str field.dataType), ("required", .bool field.required),
    ("description", .str field.description), ("semanticType", ofOptionStr field.semanticType)]

def osiHandoff (table : TableRecord) (stableId : String) (fields : List IcebergFieldProjection) :
    Json :=
  .object [("schemaVersion", .str "lakecat.querygraph.osi-handoff.v1"),
    ("standard", .str "Open Semantic Interchange"),
    ("ownership", .object [("authoritativeSystem", .str "QueryGraph"),
      ("lakecatRole", .str "catalog-discovery-handoff")]),
    ("dataset", .object [("stableId", .str stableId),
      ("name", .str (safeSqlName table.ident.name.asStr)),
      ("warehouse", .str table.ident.warehouse.asStr), ("namespace", .str table.ident.ns.path),
      ("location", .str table.location), ("metadataLocation", ofOptionStr table.metadataLocation),
      ("source", .object [("type", .str "iceberg-rest"), ("catalog", .str "lakecat"),
        ("governedPlanner", .str "sail"), ("table", .str table.ident.stableId)]),
      ("fields", .arr (fields.map osiField))]),
    ("policy", .object [("odrlPolicyId", .str s!"{stableId}#odrl"),
      ("governance", .str ("TypeSec capabilities and ODRL constraints are enforced by LakeCat " ++
        "before governed Sail planning."))]),
    ("queryGraphImport", .object [("semanticModelStatus", .str "delegated"),
      ("expectedOwner", .str "QueryGraph"),
      ("notes", .str ("LakeCat does not publish metrics, dimensions, measures, joins, or business " ++
        "ontology claims as authoritative OSI semantics."))])]

def viewOsiHandoff (view : ViewRecord) (stableId : String) : Json :=
  .object [("schemaVersion", .str "lakecat.querygraph.view-osi-handoff.v1"),
    ("standard", .str "Open Semantic Interchange"),
    ("ownership", .object [("authoritativeSystem", .str "QueryGraph"),
      ("lakecatRole", .str "catalog-view-discovery-handoff")]),
    ("view", .object [("stableId", .str stableId), ("name", .str (safeSqlName view.name.asStr)),
      ("warehouse", .str view.warehouse.asStr), ("namespace", .str view.ns.path),
      ("viewVersion", ofU64 view.viewVersion), ("dialect", .str view.dialect),
      ("schemaVersion", Json.ofOption ofU64 view.schemaVersion),
      ("columns", .arr (view.columns.map ViewColumnRecord.toJson)), ("sql", .str view.sql),
      ("properties", Json.ofStringMap view.properties.toList)]),
    ("policy", .object [("governance", .str ("View access is governed by LakeCat and TypeSec " ++
      "before QueryGraph or agents materialize dependent reads."))]),
    ("queryGraphImport", .object [("semanticModelStatus", .str "delegated"),
      ("expectedOwner", .str "QueryGraph"),
      ("notes", .str ("LakeCat publishes catalog-owned view definitions, not authoritative " ++
        "business metrics, dimensions, measures, or joins."))])]

/-- The derived `Serialize`. -/
def QueryGraphPolicyBindingProjection.toJson (binding : QueryGraphPolicyBindingProjection) : Json :=
  .object [("policy-id", .str binding.policyId), ("enforced", .bool binding.enforced),
    ("namespace", Json.ofOption strings binding.ns), ("table", ofOptionStr binding.table),
    ("odrl", binding.odrl)]

def odrlPolicy (stableId : String) (bindings : List QueryGraphPolicyBindingProjection) : Json :=
  .object [("@type", .str "odrl:Policy"), ("@id", .str s!"{stableId}#odrl"),
    ("odrl:target", .str stableId), ("odrl:assigner", .str "did:web:querygraph.ai:lakecat"),
    ("lakecat:policy-bindings", .arr (bindings.map QueryGraphPolicyBindingProjection.toJson)),
    ("odrl:permission", .arr [
      .object [("odrl:action", .str "odrl:read"),
        ("odrl:assignee", .str "did:web:querygraph.ai:agent"),
        ("odrl:constraint", .str "typesec:catalog.table.load")],
      .object [("odrl:action", .str "querygraph:index"),
        ("odrl:assignee", .str "did:web:querygraph.ai:agent"),
        ("odrl:constraint", .str "typesec:catalog.table.plan_scan")]]),
    ("odrl:prohibition", .arr [])]

def policyBindingProjectionFromBinding (binding : PolicyBinding) :
    QueryGraphPolicyBindingProjection where
  policyId := binding.policyId
  enforced := binding.enforced
  ns := binding.ns.map Namespace.parts
  table := binding.table.map TableName.asStr
  odrl := binding.odrl

def tableProjectionFromTableWithPolicies (table : TableRecord) (bindings : List PolicyBinding) :
    QueryGraphTableProjection :=
  let stableId := table.ident.stableId
  let fields := icebergFields table.metadata
  let policyBindings := bindings.map policyBindingProjectionFromBinding
  let odrl := odrlPolicy stableId policyBindings
  {
    ident := table.ident
    stableId := stableId
    location := table.location
    metadataLocation := table.metadataLocation
    version := table.version
    formatVersion := (table.metadata.get "format-version").bind Json.asI64
    croissant := croissantDataset table stableId fields
    cdif := cdifResource table stableId fields odrl
    osi := osiHandoff table stableId fields
    odrl := odrl
    policyBindings := policyBindings
  }

def viewProjectionFromView (view : ViewRecord) : QueryGraphViewProjection :=
  let stableId := viewStableId view
  {
    stableId := stableId
    warehouse := view.warehouse.asStr
    ns := view.ns.parts
    name := view.name.asStr
    viewVersion := view.viewVersion
    sql := view.sql
    dialect := view.dialect
    schemaVersion := view.schemaVersion
    columns := .arr (view.columns.map ViewColumnRecord.toJson)
    properties := Json.ofStringMap view.properties.toList
    osi := viewOsiHandoff view stableId
  }

structure QueryGraphTenantProjection where
  serverId : String
  serverDisplayName : Option String
  serverEndpointUrlHash : Option String
  projectId : String
  projectDisplayName : Option String
  warehouse : Option String
  warehouseProjectId : Option String
  warehouseStorageRootHash : Option String
  source : String

/-! The graph: nodes by their id, the first to come, and edges in order. -/

structure GraphParts where
  nodes : BTreeMap QueryGraphNode
  edges : List QueryGraphEdge

def QueryGraphEdge.order (edge other : QueryGraphEdge) : Ordering :=
  (compare edge.from_ other.from_).then
    ((compare edge.to_ other.to_).then (compare edge.label other.label))

/-- `BTreeSet::insert` on the sorted edges. -/
def insertEdge (edge : QueryGraphEdge) : List QueryGraphEdge → List QueryGraphEdge
  | [] => [edge]
  | other :: rest =>
      match edge.order other with
      | .lt => edge :: other :: rest
      | .eq => other :: rest
      | .gt => other :: insertEdge edge rest

namespace GraphParts

def insertNode (parts : GraphParts) (id label : String) (properties : Json) : GraphParts :=
  { parts with nodes := parts.nodes.insertIfNew id ⟨id, label, properties⟩ }

def insertEdge (parts : GraphParts) (source target label : String) : GraphParts :=
  { parts with edges := LakeCat.insertEdge ⟨source, target, label⟩ parts.edges }

end GraphParts

def serverGraphId (serverId : String) : String := "lakecat:server:" ++ serverId

def projectGraphId (projectId : String) : String := "lakecat:project:" ++ projectId

def warehouseGraphId (warehouse : WarehouseName) : String :=
  "lakecat:warehouse:" ++ warehouse.asStr

def namespaceGraphId (warehouse ns : String) : String :=
  "lakecat:namespace:" ++ warehouse ++ ":" ++ ns

def insertNamespaceNode (parts : GraphParts) (warehouse ns : String)
    (validatedWarehouse : Option WarehouseName) : GraphParts :=
  let namespaceId := namespaceGraphId warehouse ns
  if parts.nodes.contains namespaceId then parts
  else
    let inserted := (parts.insertNode namespaceId "Namespace"
      (.object [("warehouse", .str warehouse), ("namespace", .str ns)])).insertEdge
        "lakecat:catalog" namespaceId "HAS_NAMESPACE"
    match validatedWarehouse with
    | some name => inserted.insertEdge (warehouseGraphId name) namespaceId "HAS_NAMESPACE"
    | none => inserted

def insertTenantSpine (parts : GraphParts) (warehouse : WarehouseName)
    (tenant : QueryGraphTenantProjection) : GraphParts :=
  let serverId := serverGraphId tenant.serverId
  let projectId := projectGraphId tenant.projectId
  let warehouseId := warehouseGraphId warehouse
  let server := parts.insertNode serverId "Server"
    (.object [("serverId", .str tenant.serverId),
      ("displayName", ofOptionStr tenant.serverDisplayName),
      ("endpointUrlHash", ofOptionStr tenant.serverEndpointUrlHash),
      ("source", .str tenant.source)])
  let project := server.insertNode projectId "Project"
    (.object [("projectId", .str tenant.projectId),
      ("displayName", ofOptionStr tenant.projectDisplayName), ("serverId", .str tenant.serverId),
      ("source", .str tenant.source)])
  let nodes := project.insertNode warehouseId "Warehouse"
    (.object [("warehouse", .str (tenant.warehouse.getD warehouse.asStr)),
      ("projectId", .str (tenant.warehouseProjectId.getD tenant.projectId)),
      ("storageRootHash", ofOptionStr tenant.warehouseStorageRootHash),
      ("source", .str tenant.source)])
  ((nodes.insertEdge "lakecat:catalog" serverId "HAS_SERVER").insertEdge serverId projectId
    "HAS_PROJECT").insertEdge projectId warehouseId "HAS_WAREHOUSE"

def insertTable (parts : GraphParts) (table : QueryGraphTableProjection) : GraphParts :=
  let ns := table.ident.ns.path
  let policyId := ((table.odrl.get "@id").bind Json.asStr).getD "lakecat:policy:unknown"
  let named := insertNamespaceNode parts table.ident.warehouse.asStr ns
    (some table.ident.warehouse)
  let nodes := (named.insertNode table.stableId "IcebergTable"
    (.object [("name", .str table.ident.name.asStr), ("location", .str table.location),
      ("metadataLocation", ofOptionStr table.metadataLocation),
      ("formatVersion", Json.ofOption .int table.formatVersion)])).insertNode policyId
        "ODRLPolicy" (.object [("target", .str table.stableId)])
  (nodes.insertEdge (namespaceGraphId table.ident.warehouse.asStr ns) table.stableId
    "CONTAINS_TABLE").insertEdge table.stableId policyId "GOVERNED_BY"

def insertView (parts : GraphParts) (view : QueryGraphViewProjection) : GraphParts :=
  let ns := joinText "." view.ns
  let named := insertNamespaceNode parts view.warehouse ns
    (WarehouseName.new view.warehouse).toOption
  (named.insertNode view.stableId "View"
    (.object [("name", .str view.name), ("viewVersion", ofU64 view.viewVersion),
      ("dialect", .str view.dialect), ("schemaVersion", Json.ofOption ofU64 view.schemaVersion),
      ("columns", view.columns)])).insertEdge (namespaceGraphId view.warehouse ns) view.stableId
        "CONTAINS_VIEW"

def catalogGraphFromTablesAndViewsForWarehouse (warehouse : WarehouseName)
    (tables : List QueryGraphTableProjection) (views : List QueryGraphViewProjection)
    (tenant : QueryGraphTenantProjection) : QueryGraphCatalogGraph :=
  let catalog := GraphParts.insertNode ⟨∅, []⟩ "lakecat:catalog" "Catalog"
    (.object [("name", .str "LakeCat")])
  let parts := views.foldl insertView
    (tables.foldl insertTable (insertTenantSpine catalog warehouse tenant))
  ⟨parts.nodes.values, parts.edges⟩

/-! The OpenLineage event. -/

def openLineageTableArtifact (artifact : QueryGraphTableArtifactHashes) : Json :=
  .object [("stableId", .str artifact.stableId), ("croissantHash", .str artifact.croissantHash),
    ("cdifHash", .str artifact.cdifHash), ("osiHash", .str artifact.osiHash),
    ("odrlHash", .str artifact.odrlHash),
    ("policyBindingsHash", .str artifact.policyBindingsHash)]

def openLineageViewArtifact (artifact : QueryGraphViewArtifactHashes) : Json :=
  .object [("stableId", .str artifact.stableId), ("osiHash", .str artifact.osiHash)]

def openLineageTable (table : QueryGraphTableProjection) : Json :=
  .object [
    ("namespace", .str s!"lakecat.{table.ident.warehouse.asStr}.{table.ident.ns.path}"),
    ("name", .str table.ident.name.asStr),
    ("facets", .object [
      ("dataSource", .object [("_producer", .str "https://querygraph.ai/lakecat"),
        ("_schemaURL",
          .str "https://openlineage.io/spec/facets/1-0-0/DatasourceDatasetFacet.json"),
        ("name", .str "LakeCat"), ("uri", .str table.location)]),
      ("queryGraph_catalog", .object [("_producer", .str "https://querygraph.ai/lakecat"),
        ("_schemaURL", .str ("https://querygraph.ai/schemas/openlineage/" ++
          "querygraph-catalog-facet/0.1.0.json")),
        ("stableId", .str table.stableId),
        ("metadataLocation", ofOptionStr table.metadataLocation),
        ("formatVersion", Json.ofOption .int table.formatVersion)])])]

def openLineageView (view : QueryGraphViewProjection) : Json :=
  .object [("namespace", .str ("lakecat." ++ view.warehouse ++ "." ++ joinText "." view.ns)),
    ("name", .str view.name),
    ("facets", .object [
      ("queryGraph_catalogView", .object [("_producer", .str "https://querygraph.ai/lakecat"),
        ("_schemaURL", .str ("https://querygraph.ai/schemas/openlineage/" ++
          "querygraph-catalog-view-facet/0.1.0.json")),
        ("stableId", .str view.stableId), ("viewVersion", ofU64 view.viewVersion),
        ("dialect", .str view.dialect),
        ("schemaVersion", Json.ofOption ofU64 view.schemaVersion)])])]

def querygraphBootstrapStandards : List String :=
  ["Iceberg REST", "Croissant", "CDIF", "OSI handoff", "ODRL", "Grust catalog graph",
    "OpenLineage"]

section
variable [External]

def serverEndpointUrlHash (endpointUrl : String) : String :=
  contentHashJson (.object [("endpoint-url", .str endpointUrl)])

def warehouseStorageRootHash (storageRoot : String) : String :=
  contentHashJson (.object [("storage-root", .str storageRoot)])

def tenantProjectionFromRecords (warehouse : WarehouseName)
    (warehouseRecord : Option WarehouseRecord) (projectRecord : Option ProjectRecord)
    (serverRecord : Option ServerRecord) : QueryGraphTenantProjection where
  serverId := ((projectRecord.bind ProjectRecord.serverId).or
    (serverRecord.map ServerRecord.serverId)).getD "default"
  serverDisplayName := serverRecord.bind ServerRecord.displayName
  serverEndpointUrlHash :=
    (serverRecord.bind ServerRecord.endpointUrl).map LakeCat.serverEndpointUrlHash
  projectId := ((warehouseRecord.map WarehouseRecord.projectId).or
    (projectRecord.map ProjectRecord.projectId)).getD "default"
  projectDisplayName := projectRecord.bind ProjectRecord.displayName
  warehouse := some ((warehouseRecord.map (·.warehouse.asStr)).getD warehouse.asStr)
  warehouseProjectId := warehouseRecord.map WarehouseRecord.projectId
  warehouseStorageRootHash :=
    (warehouseRecord.bind WarehouseRecord.storageRoot).map LakeCat.warehouseStorageRootHash
  source :=
    if warehouseRecord.isSome || projectRecord.isSome || serverRecord.isSome then
      "lakecat-management-records"
    else "lakecat-querygraph-bootstrap"

def bootstrapOpenLineage (warehouse : WarehouseName) (tables : List QueryGraphTableProjection)
    (views : List QueryGraphViewProjection) (tableArtifacts : List QueryGraphTableArtifactHashes)
    (viewArtifacts : List QueryGraphViewArtifactHashes) (graphHash : String)
    (generatedAt : Timestamp) : Json :=
  .object [("eventType", .str "COMPLETE"), ("eventTime", serializeTimestamp generatedAt),
    ("run", .object [("runId", .str s!"lakecat-querygraph-bootstrap-{warehouse.asStr}"),
      ("facets", .object [("queryGraph_semanticBundle", .object [
        ("_producer", .str "https://querygraph.ai/lakecat"),
        ("_schemaURL", .str ("https://querygraph.ai/schemas/openlineage/" ++
          "querygraph-semantic-bundle-facet/0.1.0.json")),
        ("tableCount", .int tables.length), ("viewCount", .int views.length),
        ("standards", strings querygraphBootstrapStandards), ("graphHash", .str graphHash),
        ("tableArtifacts", .arr (tableArtifacts.map openLineageTableArtifact)),
        ("viewArtifacts", .arr (viewArtifacts.map openLineageViewArtifact))])])]),
    ("job", .object [("namespace", .str s!"lakecat.{warehouse.asStr}"),
      ("name", .str "querygraph-bootstrap")]),
    ("inputs", .arr []),
    ("outputs", .arr (tables.map openLineageTable ++ views.map openLineageView)),
    ("producer", .str "https://querygraph.ai/lakecat"),
    ("schemaURL", .str "https://openlineage.io/spec/2-0-2/OpenLineage.json")]

def QueryGraphBundleManifest.fromHashes (tableArtifacts : List QueryGraphTableArtifactHashes)
    (viewArtifacts : List QueryGraphViewArtifactHashes) (graphHash : String) (openLineage : Json) :
    QueryGraphBundleManifest where
  schemaVersion := "lakecat.querygraph.bootstrap.v1"
  producer := "https://querygraph.ai/lakecat"
  standards := querygraphBootstrapStandards
  tableArtifacts := tableArtifacts
  viewArtifacts := viewArtifacts
  graphHash := graphHash
  openLineageHash := contentHashJson openLineage
  querygraphImport := none

def QueryGraphImportCompatibility.fromTableOnlyBundle (warehouse : WarehouseName)
    (manifest : QueryGraphBundleManifest) (tables : List QueryGraphTableProjection)
    (graph : QueryGraphCatalogGraph) (openLineage : Json) (viewCount : Nat) :
    QueryGraphImportCompatibility where
  schemaVersion := "lakecat.querygraph.import-compat.v1"
  tableOnlyBundleHash := tableOnlyQuerygraphImportHash warehouse manifest tables graph openLineage
  viewCount := viewCount
  graphHash := manifest.graphHash
  viewReceiptEvidence := []
  viewReceiptEvidenceHash := none

/-- The bundle up to the receipt evidence: its parts, and the manifest of these. -/
def bundleOfSnapshot (generatedAt : Timestamp) (warehouse : WarehouseName)
    (tables : List (TableRecord × List PolicyBinding)) (views : List ViewRecord)
    (tenant : QueryGraphTenantProjection) : QueryGraphBootstrap :=
  let tables := tables.map fun entry => tableProjectionFromTableWithPolicies entry.1 entry.2
  let views := views.map viewProjectionFromView
  let graph := catalogGraphFromTablesAndViewsForWarehouse warehouse tables views tenant
  let tableArtifacts := tables.map QueryGraphTableArtifactHashes.fromTable
  let viewArtifacts := views.map QueryGraphViewArtifactHashes.fromView
  let openLineage := bootstrapOpenLineage warehouse tables views tableArtifacts viewArtifacts
    (graphHash graph) generatedAt
  let manifest := QueryGraphBundleManifest.fromHashes tableArtifacts viewArtifacts
    (graphHash graph) openLineage
  {
    warehouse := warehouse
    generatedAt := generatedAt
    bundleHash := ""
    manifest := {
      manifest with
      querygraphImport := some (.fromTableOnlyBundle warehouse manifest tables graph openLineage
        views.length)
    }
    tables := tables
    views := views
    graph := graph
    openLineage := openLineage
  }

/-- `bootstrap_from_catalog_snapshot`: the evidence is attached before the bundle hash is taken. -/
def bootstrapFromCatalogSnapshot (generatedAt : Timestamp) (warehouse : WarehouseName)
    (tables : List (TableRecord × List PolicyBinding)) (views : List ViewRecord)
    (tenant : QueryGraphTenantProjection) (evidence : List QueryGraphViewReceiptEvidence) :
    LakeCatResult QueryGraphBootstrap :=
  (bundleOfSnapshot generatedAt warehouse tables views tenant).withViewReceiptEvidence evidence

end

end LakeCat
