import LakeCat.NameKeys
import LakeCat.ScanGrants

/-!
The requests of the service, one for each handler: the object that a handler
reads or changes, and the request that it hands to the governance engine first.
-/

namespace LakeCat

open Fallible

def restNamespaceSeparator : Char := '\x1f'

def parseRestNamespace (value : String) : LakeCatResult Namespace :=
  Namespace.new (splitText value restNamespaceSeparator)

/-- `value.parse::<Namespace>()`. -/
def Namespace.fromStr (value : String) : LakeCatResult Namespace :=
  Namespace.new (((splitText value '.').map trimText).filter fun part => part ≠ "")

def restTableIdent (warehouse : WarehouseName) (ns table : String) : LakeCatResult TableIdent := do
  let warehouse ← WarehouseName.new warehouse.value
  let ns ← parseRestNamespace ns
  let table ← TableName.new table
  return ⟨warehouse, ns, table⟩

/-- A `TableIdentifier` of a request body. -/
structure TableIdentifier where
  ns : List String
  name : String

def tableIdentifierInWarehouse (warehouse : WarehouseName) (identifier : TableIdentifier) :
    LakeCatResult TableIdent := do
  let ns ← Namespace.new identifier.ns
  let name ← TableName.new identifier.name
  return ⟨warehouse, ns, name⟩

/-- An empty parent is none. -/
def namespaceParent (parent : Option String) : LakeCatResult (Option Namespace) :=
  match parent.filter fun text => text ≠ "" with
  | none => .ok none
  | some text => do return some (← parseRestNamespace text)

def TableRenameTarget.new (source destination : TableIdent) :
    LakeCatResult (TableIdent × TableIdent) := do
  rejectIf (source.warehouse ≠ destination.warehouse)
    (.invalidArgument "table rename target cannot cross warehouses")
  return (source, destination)

/-- What a handler reads or changes. -/
inductive CatalogObject where
  | servers
  | server (serverId : String)
  | projects
  | project (projectId : String)
  | projectWarehouses (projectId : String)
  | warehouses
  | warehouse (warehouse : WarehouseName)
  | storageProfiles (warehouse : WarehouseName)
  | storageProfile (warehouse : WarehouseName) (profileId : String)
  | policyBindings (warehouse : WarehouseName)
  | policyBinding (warehouse : WarehouseName) (policyId : String)
  | model (warehouse : WarehouseName) (modelId : String)
  | namespaces (warehouse : WarehouseName) (parent : Option Namespace)
  | ns (warehouse : WarehouseName) (ns : Namespace)
  | tables (warehouse : WarehouseName) (ns : Namespace)
  | views (warehouse : WarehouseName) (ns : Namespace)
  | view (warehouse : WarehouseName) (ns : Namespace) (name : TableName)
  | table (ident : TableIdent)
  | renamed (source destination : TableIdent)
  | catalogGraph (warehouse : WarehouseName)
  | outbox
  deriving DecidableEq

def CatalogObject.warehouse? : CatalogObject → Option WarehouseName
  | .servers | .server _ | .projects | .project _ | .projectWarehouses _ | .warehouses
  | .outbox => none
  | .warehouse owner | .storageProfiles owner | .storageProfile owner _ | .policyBindings owner
  | .policyBinding owner _ | .model owner _ | .namespaces owner _ | .ns owner _ | .tables owner _
  | .views owner _ | .view owner _ _ | .catalogGraph owner => some owner
  | .table ident | .renamed ident _ => some ident.warehouse

/-- What a handler asks for before it touches its object. -/
structure Access where
  action : CatalogAction
  table : Option TableIdent
  /-- A rename tells the engine where the table goes. -/
  destination : Option TableIdent
  object : CatalogObject

namespace Access

/-- `authorize(state, identity, action, None)`. -/
def onCatalog (action : CatalogAction) (object : CatalogObject) : Access :=
  ⟨action, none, none, object⟩

/-- `authorize(state, identity, action, Some(table))`. -/
def onTable (action : CatalogAction) (ident : TableIdent) : Access :=
  ⟨action, some ident, none, .table ident⟩

/-- `authorize_table_rename`. -/
def onRename (source destination : TableIdent) : Access :=
  ⟨.tableRename, some source, some destination, .renamed source destination⟩

end Access

/-- A route without a warehouse is on the warehouse of the service. -/
inductive CatalogPrefix where
  | default
  | named (warehouse : String)

/-- One for each handler, with the parameters that name its object. -/
inductive ServiceRequest where
  | getConfig (catalogPrefix : CatalogPrefix)
  | createNamespace (catalogPrefix : CatalogPrefix) (ns : List String)
  | listNamespaces (catalogPrefix : CatalogPrefix) (parent : Option String)
  | listTables (catalogPrefix : CatalogPrefix) (ns : String)
  | loadNamespace (catalogPrefix : CatalogPrefix) (ns : String)
  | updateNamespaceProperties (catalogPrefix : CatalogPrefix) (ns : String)
  | dropNamespace (catalogPrefix : CatalogPrefix) (ns : String)
  | createTable (catalogPrefix : CatalogPrefix) (ns name : String)
  | registerTable (catalogPrefix : CatalogPrefix) (ns name : String)
  | renameTable (catalogPrefix : CatalogPrefix) (source destination : TableIdentifier)
  | loadTable (catalogPrefix : CatalogPrefix) (ns table : String)
  | commitTable (catalogPrefix : CatalogPrefix) (ns table : String)
  | deleteTable (catalogPrefix : CatalogPrefix) (ns table : String)
  | planTableScan (catalogPrefix : CatalogPrefix) (ns table : String)
  | fetchScanTasks (catalogPrefix : CatalogPrefix) (ns table : String)
  | loadCredentials (catalogPrefix : CatalogPrefix) (ns table : String)
  | restoreTable (warehouse ns table : String)
  | listTableCommits (warehouse ns table : String)
  | catalogListViews (warehouse ns : String)
  | catalogLoadView (warehouse ns view : String)
  | catalogUpsertView (warehouse ns view : String)
  | catalogDropView (warehouse ns view : String)
  | listViews (warehouse ns : String)
  | listViewVersionReceipts (warehouse ns view : String)
  | listViewVersionReceiptChains (warehouse ns : String)
  | upsertView (warehouse ns view : String)
  | dropView (warehouse ns view : String)
  | listProjects
  | upsertProject (project : String)
  | listProjectWarehouses (project : String)
  | upsertProjectWarehouse (project warehouse : String)
  | listWarehouses
  | upsertWarehouse (warehouse : String)
  | listStorageProfiles (warehouse : String)
  | upsertStorageProfile (warehouse profile : String)
  | listPolicyBindings (warehouse : String)
  | upsertPolicyBinding (warehouse policy : String)
  | listModelPublications (warehouse model : String)
  | publishModel (warehouse model : String)
  | listServers
  | upsertServer (server : String)
  | drainLineageOutbox
  | querygraphBootstrap

section Requests

variable [External]

def MemoryState.loadWarehouse (store : MemoryState) (warehouse : WarehouseName) :
    LakeCatResult WarehouseRecord := do
  let record ← okOr store.warehouses[warehouse.value]? (.notFound "warehouse" warehouse.value)
  validateWarehouseRecordMapScope record warehouse.value
  return record

def prefixedCatalogWarehouse (store : MemoryState) (warehouse : String) :
    LakeCatResult WarehouseName := do
  let warehouse ← WarehouseName.new warehouse
  let _ ← store.loadWarehouse warehouse
  return warehouse

def managementWarehouse (warehouse : String) : LakeCatResult WarehouseName :=
  WarehouseName.new warehouse

def CatalogPrefix.warehouse (state : LakeCatState) (store : MemoryState) :
    CatalogPrefix → LakeCatResult WarehouseName
  | .default => .ok state.warehouse
  | .named warehouse => prefixedCatalogWarehouse store warehouse

namespace ServiceRequest

variable (state : LakeCatState) (store : MemoryState)

/-- A handler on a warehouse of the catalog. -/
def inWarehouse (catalogPrefix : CatalogPrefix) (action : CatalogAction)
    (object : WarehouseName → LakeCatResult CatalogObject) : LakeCatResult Access := do
  let warehouse ← catalogPrefix.warehouse state store
  return .onCatalog action (← object warehouse)

/-- A handler on a namespace of the catalog. -/
def inNamespace (catalogPrefix : CatalogPrefix) (ns : String) (action : CatalogAction)
    (object : WarehouseName → Namespace → CatalogObject) : LakeCatResult Access :=
  inWarehouse state store catalogPrefix action fun warehouse => do
    return object warehouse (← parseRestNamespace ns)

/-- A handler on a table of the catalog. -/
def inTable (catalogPrefix : CatalogPrefix) (ns table : String) (action : CatalogAction) :
    LakeCatResult Access := do
  let warehouse ← catalogPrefix.warehouse state store
  return .onTable action (← restTableIdent warehouse ns table)

omit [External] in
/-- A handler of the management routes on a warehouse. -/
def manage (warehouse : String) (action : CatalogAction) (object : WarehouseName → CatalogObject) :
    LakeCatResult Access := do
  return .onCatalog action (object (← managementWarehouse warehouse))

omit [External] in
def manageNamespace (warehouse ns : String) (action : CatalogAction)
    (object : WarehouseName → Namespace → CatalogObject) : LakeCatResult Access := do
  let warehouse ← managementWarehouse warehouse
  return .onCatalog action (object warehouse (← Namespace.fromStr ns))

omit [External] in
def manageView (warehouse ns view : String) (action : CatalogAction) : LakeCatResult Access := do
  let warehouse ← managementWarehouse warehouse
  let ns ← Namespace.fromStr ns
  return .onCatalog action (.view warehouse ns (← TableName.new view))

omit [External] in
def manageTable (warehouse ns table : String) (action : CatalogAction) :
    LakeCatResult Access := do
  let warehouse ← managementWarehouse warehouse
  return .onTable action (← restTableIdent warehouse ns table)

def renamedTable (catalogPrefix : CatalogPrefix) (source destination : TableIdentifier) :
    LakeCatResult Access := do
  let warehouse ← catalogPrefix.warehouse state store
  let source ← tableIdentifierInWarehouse warehouse source
  let destination ← tableIdentifierInWarehouse warehouse destination
  let (source, destination) ← TableRenameTarget.new source destination
  return .onRename source destination

/-- What each handler authorizes, and the object that it goes on to. -/
def access : ServiceRequest → LakeCatResult Access
  | getConfig catalogPrefix =>
      inWarehouse state store catalogPrefix .catalogConfig fun warehouse =>
        .ok (.warehouse warehouse)
  | createNamespace catalogPrefix ns =>
      inWarehouse state store catalogPrefix .namespaceCreate fun warehouse => do
        return .ns warehouse (← Namespace.new ns)
  | listNamespaces catalogPrefix parent =>
      inWarehouse state store catalogPrefix .namespaceList fun warehouse => do
        return .namespaces warehouse (← namespaceParent parent)
  | listTables catalogPrefix ns => inNamespace state store catalogPrefix ns .namespaceList .tables
  | loadNamespace catalogPrefix ns => inNamespace state store catalogPrefix ns .namespaceLoad .ns
  | updateNamespaceProperties catalogPrefix ns =>
      inNamespace state store catalogPrefix ns .namespaceUpdate .ns
  | dropNamespace catalogPrefix ns => inNamespace state store catalogPrefix ns .namespaceDrop .ns
  | createTable catalogPrefix ns name => inTable state store catalogPrefix ns name .tableCreate
  | registerTable catalogPrefix ns name =>
      inTable state store catalogPrefix ns name .tableRegister
  | renameTable catalogPrefix source destination =>
      renamedTable state store catalogPrefix source destination
  | loadTable catalogPrefix ns table => inTable state store catalogPrefix ns table .tableLoad
  | commitTable catalogPrefix ns table => inTable state store catalogPrefix ns table .tableCommit
  | deleteTable catalogPrefix ns table => inTable state store catalogPrefix ns table .tableDrop
  | planTableScan catalogPrefix ns table =>
      inTable state store catalogPrefix ns table .tablePlanScan
  | fetchScanTasks catalogPrefix ns table =>
      inTable state store catalogPrefix ns table .tablePlanScan
  | loadCredentials catalogPrefix ns table =>
      inTable state store catalogPrefix ns table .credentialsVend
  | restoreTable warehouse ns table => manageTable warehouse ns table .tableRestore
  | listTableCommits warehouse ns table => manageTable warehouse ns table .tableLoad
  | catalogListViews warehouse ns => manageNamespace warehouse ns .viewLoad .views
  | catalogLoadView warehouse ns view => manageView warehouse ns view .viewLoad
  | catalogUpsertView warehouse ns view => manageView warehouse ns view .viewManage
  | catalogDropView warehouse ns view => manageView warehouse ns view .viewDrop
  | listViews warehouse ns => manageNamespace warehouse ns .viewManage .views
  | listViewVersionReceipts warehouse ns view => manageView warehouse ns view .viewLoad
  | listViewVersionReceiptChains warehouse ns => manageNamespace warehouse ns .viewLoad .views
  | upsertView warehouse ns view => manageView warehouse ns view .viewManage
  | dropView warehouse ns view => manageView warehouse ns view .viewDrop
  | listProjects => .ok (.onCatalog .projectManage .projects)
  | upsertProject project => .ok (.onCatalog .projectManage (.project project))
  | listProjectWarehouses project =>
      .ok (.onCatalog .warehouseManage (.projectWarehouses project))
  | upsertProjectWarehouse _ warehouse => manage warehouse .warehouseManage .warehouse
  | listWarehouses => .ok (.onCatalog .warehouseManage .warehouses)
  | upsertWarehouse warehouse => manage warehouse .warehouseManage .warehouse
  | listStorageProfiles warehouse => manage warehouse .storageProfileManage .storageProfiles
  | upsertStorageProfile warehouse profile =>
      manage warehouse .storageProfileManage fun warehouse => .storageProfile warehouse profile
  | listPolicyBindings warehouse => manage warehouse .policyManage .policyBindings
  | upsertPolicyBinding warehouse policy =>
      manage warehouse .policyManage fun warehouse => .policyBinding warehouse policy
  | listModelPublications warehouse model =>
      manage warehouse .policyManage fun warehouse => .model warehouse model
  | publishModel warehouse model =>
      manage warehouse .policyManage fun warehouse => .model warehouse model
  | listServers => .ok (.onCatalog .serverManage .servers)
  | upsertServer server => .ok (.onCatalog .serverManage (.server server))
  | drainLineageOutbox => .ok (.onCatalog .lineageRead .outbox)
  | querygraphBootstrap => .ok (.onCatalog .graphRead (.catalogGraph state.warehouse))

end ServiceRequest

/-- The context that only a rename adds to. -/
def operationContext (store : MemoryState) :
    Option TableIdent → LakeCatResult (List (String × Json))
  | none => .ok []
  | some destination => do
      let bindings ← store.policyBindingsForTable destination
      return [("destination-table", destination.toJson),
        ("destination-policy-bindings", policyBindingResponses bindings)]

/-- The receipt that a handler goes on with. -/
def Access.authorize (access : Access) (state : LakeCatState) (store : MemoryState)
    (identity : RequestIdentity) (now : Timestamp) : LakeCatResult AuthorizationReceipt := do
  let context ← operationContext store access.destination
  authorizeWithOperationContext state store identity access.action access.table context now

/-- The request that is handed to the engine on the way. -/
def Access.handed (access : Access) (state : LakeCatState) (store : MemoryState)
    (identity : RequestIdentity) : LakeCatResult AuthorizationRequest := do
  let operation ← operationContext store access.destination
  let policyBindings ← requestBindings store access.table
  let restriction ← actionRestriction access.action policyBindings
  let warehouse := (access.table.map TableIdent.warehouse).getD state.warehouse
  let context ← insertOperationContext
    (restrictedContext (baseContext warehouse identity policyBindings) access.action
      identity.principal restriction) operation
  return ⟨identity.principal, access.action, access.table, context⟩

end Requests

end LakeCat
