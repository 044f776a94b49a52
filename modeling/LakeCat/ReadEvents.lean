import LakeCat.ChangeEvents
import LakeCat.LoadCredentials
import LakeCat.NamespaceWalks

/-!
The handlers that read the catalog and record what was read: the event that each
of them makes of what it found.
-/

namespace LakeCat

open Fallible

structure CatalogConfigResponse where
  defaults : List ConfigEntry
  overrides : List ConfigEntry
  endpoints : List String

/-- The lists of which only the lineage sink hears. -/
def lineageOnlyEventTypes : List String :=
  ["policy-binding.listed", "project.listed", "server.listed", "storage-profile.listed",
    "warehouse.listed", "table.listed", "view.version-receipts-listed",
    "view.version-receipt-chains-listed", "querygraph.bootstrap"]

/-- A request that is parsed, authorized and answered from a store. -/
inductive ReadRequest where
  | getConfig (warehouse : WarehouseName) (config : CatalogConfigResponse)
  | listNamespaces (warehouse : WarehouseName) (namespaces : List Namespace)
  | loadNamespace (warehouse : WarehouseName) (ns : Namespace)
  | listViews (warehouse : WarehouseName) (ns : Namespace) (views : List ViewRecord)
  | catalogListViews (warehouse : WarehouseName) (ns : Namespace) (views : List ViewRecord)
  | catalogLoadView (warehouse : WarehouseName) (ns : Namespace) (view : TableName)
  | loadTable (ident : TableIdent) (table : TableRecord)
  | listTableCommits (ident : TableIdent) (commits : List (String × UInt64))
  /-- One of the lists that name no object, with the fields of its own. -/
  | listed (eventType : String) (lineageOnly : eventType ∈ lineageOnlyEventTypes)
      (fields : List (String × Json))

section
variable [External]

def configReadPayload (receipt : AuthorizationReceipt) (warehouse : WarehouseName)
    (config : CatalogConfigResponse) : Json :=
  .object [("event-type", .str "catalog.config-read"), ("authorization-receipt", receipt.toJson),
    ("warehouse", .str warehouse.value),
    ("defaults", .arr (config.defaults.map ConfigEntry.toJson)),
    ("overrides", .arr (config.overrides.map ConfigEntry.toJson)),
    ("endpoints", strings config.endpoints)]

/-- The handler of the catalog interface names it; that of management does not. -/
def viewListedPayload (interface : Option String) (receipt : AuthorizationReceipt)
    (warehouse : WarehouseName) (ns : Namespace) (views : List ViewRecord) : Json :=
  .object ([("event-type", .str "view.listed")] ++ Json.presentField "interface" .str interface ++
    [("warehouse", .str warehouse.value), ("namespace", ns.toJson),
      ("view-count", .int views.length),
      ("view-names", strings (views.map fun view => view.name.value)),
      ("authorization-receipt", receipt.toJson)])

def viewLoadedPayload (receipt : AuthorizationReceipt) (warehouse : WarehouseName)
    (ns : Namespace) (view : ViewRecord) : Json :=
  .object [("event-type", .str "view.loaded"), ("interface", .str "iceberg-rest"),
    ("warehouse", .str warehouse.value), ("namespace", ns.toJson), ("view", viewResponse view),
    ("authorization-receipt", receipt.toJson)]

def tableLoadedPayload (receipt : AuthorizationReceipt) (ident : TableIdent)
    (table : TableRecord) : Json :=
  .object [("event-type", .str "table.loaded"), ("table", ident.toJson),
    ("authorization-receipt", receipt.toJson),
    ("metadata-location", ofOptionStr table.metadataLocation),
    ("format-version", Json.ofOption .int (eventFormatVersion table.metadata)),
    ("metadata-graph", tableMetadataGraphSummary table.metadata), ("version", ofU64 table.version)]

/-- The table is named by its parts here, and not as a whole. -/
def tableCommitsListedPayload (receipt : AuthorizationReceipt) (ident : TableIdent)
    (commits : List (String × UInt64)) : Json :=
  .object [("event-type", .str "table.commits-listed"), ("warehouse", .str ident.warehouse.value),
    ("namespace", ident.ns.toJson), ("table", .str ident.name.value),
    ("commit-count", .int commits.length),
    ("commit-hashes", strings (commits.map Prod.fst)),
    ("sequence-numbers", .arr (commits.map fun commit => ofU64 commit.2)),
    ("principal-subject", .str receipt.principal.subject),
    ("principal-kind", .str receipt.principal.kind.asStr),
    ("authorization-receipt", receipt.toJson)]

namespace ReadRequest

/-- The type, table and payload of the event. -/
def describe (store : MemoryState) (receipt : AuthorizationReceipt) :
    ReadRequest → LakeCatResult (String × Option TableIdent × Json)
  | getConfig warehouse config =>
      .ok ("catalog.config-read", none, configReadPayload receipt warehouse config)
  | listNamespaces warehouse namespaces =>
      .ok ("namespace.listed", none,
        (namespaceListedEvent receipt warehouse namespaces 0).payload)
  | loadNamespace warehouse ns => do
      let ns ← store.loadNamespace warehouse ns
      return ("namespace.loaded", none,
        namespaceEventPayload "namespace.loaded" receipt warehouse ns)
  | listViews warehouse ns views =>
      .ok ("view.listed", none, viewListedPayload none receipt warehouse ns views)
  | catalogListViews warehouse ns views =>
      .ok ("view.listed", none,
        viewListedPayload (some "iceberg-rest") receipt warehouse ns views)
  | catalogLoadView warehouse ns view => do
      let record ← store.loadView warehouse ns view
      return ("view.loaded", none, viewLoadedPayload receipt warehouse ns record)
  | loadTable ident table =>
      .ok ("table.loaded", some ident, tableLoadedPayload receipt ident table)
  | listTableCommits ident commits =>
      .ok ("table.commits-listed", some ident, tableCommitsListedPayload receipt ident commits)
  | listed eventType _ fields =>
      .ok (eventType, none, .object (("event-type", .str eventType) :: fields ++
        [("authorization-receipt", receipt.toJson)]))

/-- The event that the handler records. -/
def event (store : MemoryState) (receipt : AuthorizationReceipt) (recorded : Timestamp)
    (request : ReadRequest) : LakeCatResult CatalogAuditEvent := do
  let described ← request.describe store receipt
  return .new described.1 described.2.1 receipt.principal described.2.2 recorded

end ReadRequest

end

end LakeCat
