import LakeCat.BootstrapRequests
import LakeCat.CredentialIssuers
import LakeCat.Programs
import LakeCat.ReadRestrictions

/-!
The Sail catalog provider. Each of its methods is a program that asks the
governance engine, the store and the planner, and goes on with their answers.
-/

namespace LakeCat

open Fallible Asking

inductive SailObject where
  | database
  | table
  | view
  deriving DecidableEq

inductive CatalogError where
  | invalidArgument (message : String)
  | notFound (object : SailObject) (name : String)
  | alreadyExists (object : SailObject) (name : String)
  | conflict (message : String)
  | notSupported (message : String)
  | internal (message : String)
  | external (message : String)
  deriving DecidableEq

abbrev CatalogResult := Except CatalogError

/-- The kind of an error is read off its text. -/
def catalogError (error : LakeCatError) : CatalogError :=
  let message := error.text
  if containsText message "invalid argument" then .invalidArgument message
  else if containsText message "not found" then .notFound .table message
  else if containsText message "already exists" then .alreadyExists .table message
  else if containsText message "conflict" then .conflict message
  else if containsText message "not supported" then .notSupported message
  else if containsText message "internal error" then .internal message
  else .external message

/-- Sail's own types, and the conversions to and from them, which ask nothing of anyone. -/
class SailCatalog where
  TableStatus : Type
  tableStatus : String → TableRecord → TableStatus
  viewStatus : String → ViewRecord → CatalogResult TableStatus
  TableCommitInfo : Type
  tableCommitInfo : TableCommitRecord → CatalogResult TableCommitInfo
  ColumnOptions : Type
  validateConstraintsSupported : ColumnOptions → CatalogResult Unit
  tableMetadata : String → String → ColumnOptions → Json
  ViewColumns : Type
  viewColumnsFromSail : ViewColumns → CatalogResult (List ViewColumnRecord)

/-- The other fields of the status are empty. -/
structure DatabaseStatus where
  catalog : String
  database : List String

structure CreateTableOptions [SailCatalog] where
  location : Option String
  columns : SailCatalog.ColumnOptions

structure CommitTableOptions where
  format : String
  requirements : List Json
  updates : List Json

structure GetTableCommitsOptions where
  format : String
  startVersion : Int
  endVersion : Option Int

structure CreateViewOptions [SailCatalog] where
  columns : SailCatalog.ViewColumns
  definition : String
  ifNotExists : Bool
  replace : Bool
  comment : Option String
  properties : List (String × String)

structure DropDatabaseOptions where
  ifExists : Bool
  cascade : Bool

structure DropViewOptions where
  ifExists : Bool

structure CommitPreparationRequest where
  table : TableIdent
  principal : Principal
  currentMetadataLocation : Option String
  newMetadataLocation : Option String
  currentMetadata : Json
  newMetadata : Option Json
  requirements : List Json
  updates : List Json

structure CommitPlan where
  preparedBy : String
  requirements : List Json
  updates : List Json
  newMetadataLocation : Option String
  newMetadata : Json
  metadataWriteRequired : Bool
  metadataPatch : Json

/-- What a provider asks of the governance engine, the store and the planner. -/
inductive ProviderCall where
  | authorize (request : AuthorizationRequest)
  | policyBindingsForTable (table : TableIdent)
  | createNamespace (warehouse : WarehouseName) (ns : Namespace)
  | listNamespaces (warehouse : WarehouseName)
  | loadNamespace (warehouse : WarehouseName) (ns : Namespace)
  | dropNamespace (warehouse : WarehouseName) (ns : Namespace)
  | createTable (record : TableRecord)
  | loadTable (table : TableIdent)
  | listTables (warehouse : WarehouseName)
  | softDeleteTable (table : TableIdent) (principal : Principal) (receipt : Option Json)
  | commitTable (table : TableIdent) (commit : TableCommit)
  | tableCommitRecords (table : TableIdent) (startVersion : Nat) (endVersion : Option Nat)
  | loadView (warehouse : WarehouseName) (ns : Namespace) (view : TableName)
  | listViews (warehouse : WarehouseName) (ns : Namespace)
  | upsertView (record : ViewRecord)
  | dropView (warehouse : WarehouseName) (ns : Namespace) (view : TableName)
      (principal : Principal)
  | prepareCommit (request : CommitPreparationRequest)
  | planScan (principal : Principal) (request : ScanPlanningRequest)
  | fetchScanTasks (principal : Principal) (request : FetchScanTasksRequest)

/-- The answers that the provider does not look at are left out. -/
@[reducible] def ProviderCall.Answer : ProviderCall → Type
  | .authorize _ => LakeCatResult AuthorizationReceipt
  | .policyBindingsForTable _ => LakeCatResult (List PolicyBinding)
  | .listNamespaces _ => LakeCatResult (List Namespace)
  | .createNamespace .. | .loadNamespace .. | .dropNamespace .. => LakeCatResult Unit
  | .createTable _ | .loadTable _ | .commitTable .. => LakeCatResult TableRecord
  | .listTables _ => LakeCatResult (List TableRecord)
  | .softDeleteTable .. => LakeCatResult Unit
  | .tableCommitRecords .. => LakeCatResult (List TableCommitRecord)
  | .loadView .. | .upsertView _ | .dropView .. => LakeCatResult ViewRecord
  | .listViews .. => LakeCatResult (List ViewRecord)
  | .prepareCommit _ => LakeCatResult CommitPlan
  | .planScan .. => LakeCatResult ScanPlan
  | .fetchScanTasks .. => LakeCatResult FetchScanTasksPlan

abbrev ProviderMethod := Method ProviderCall ProviderCall.Answer CatalogError

/-- The `map_err(catalog_error)?` behind a call. -/
def orCatalogError (result : LakeCatResult α) : ProviderMethod α :=
  Method.ofExcept (result.mapError catalogError)

def lakecatNamespace (parts : List String) : LakeCatResult Namespace :=
  Namespace.new parts

def startsWithNamespace (ns head : Namespace) : Bool :=
  head.parts.isPrefixOf ns.parts

def databaseStatus (catalog : String) (ns : Namespace) : DatabaseStatus :=
  ⟨catalog, ns.parts⟩

def deniedOperation : CatalogError :=
  .conflict "LakeCat governance denied Sail catalog operation"

def policyBindingContext (binding : PolicyBinding) : Json :=
  .object [("policy-id", .str binding.policyId), ("warehouse", .str binding.warehouse.asStr),
    ("namespace", Json.ofOption (fun ns => .arr (ns.parts.map .str)) binding.ns),
    ("table", Json.ofOption (fun table => .str table.asStr) binding.table),
    ("enforced", .bool binding.enforced), ("odrl", binding.odrl)]

/-- The debug text of the receipt's action is left out of the second error. -/
def validateTableAuthorizationReceipt (receipt : AuthorizationReceipt) (table : TableIdent)
    (expected : CatalogAction) (description : String) : LakeCatResult Unit := do
  rejectIf (receipt.allowed = false) (.conflict "authorization receipt is not allowed")
  rejectIf (receipt.action ≠ expected)
    (.invalidArgument s!"authorization receipt action cannot {description}")
  rejectIf (receipt.table ≠ some table)
    (.invalidArgument "authorization receipt table does not match authorized table")

/-- The governance engine, the store and the planner of a provider are what it asks. -/
structure LakeCatCatalogProvider where
  name : String
  warehouse : WarehouseName
  principal : Principal

namespace LakeCatCatalogProvider

variable [External] [SailCatalog] (provider : LakeCatCatalogProvider)

def ident (database : List String) (table : String) : LakeCatResult TableIdent := do
  let ns ← lakecatNamespace database
  let name ← TableName.new table
  return ⟨provider.warehouse, ns, name⟩

def providerContext : Json :=
  .object [("lakecat:sail-provider", .str provider.name)]

/-- The receipt of an engine that allows the operation. -/
def authorizeAs (request : AuthorizationRequest) : ProviderMethod AuthorizationReceipt := do
  let receipt ← Method.request (.authorize request)
  let receipt ← orCatalogError receipt
  if receipt.allowed then return receipt else Method.fail deniedOperation

def authorizeTableWithContext (action : CatalogAction) (table : TableIdent) (context : Json) :
    ProviderMethod AuthorizationReceipt := do
  let receipt ← authorizeAs ⟨provider.principal, action, some table, context⟩
  orCatalogError receipt.withReadRestrictionPolicyHash

def authorizeTable (action : CatalogAction) (table : TableIdent) :
    ProviderMethod AuthorizationReceipt :=
  provider.authorizeTableWithContext action table provider.providerContext

def authorizeCatalog (action : CatalogAction) : ProviderMethod AuthorizationReceipt :=
  authorizeAs ⟨provider.principal, action, none, provider.providerContext⟩

def scanContext (bindings : List PolicyBinding) (restriction : Option FullReadRestriction) : Json :=
  let context := Json.object [("lakecat:sail-provider", .str provider.name),
    ("policy-bindings", .arr (bindings.map policyBindingContext))]
  match restriction with
  | some restriction => context.set "read-restriction" restriction.toJson
  | none => context

def bindingsRestriction (bindings : List PolicyBinding) :
    LakeCatResult (Option FullReadRestriction) :=
  if bindings = [] then .ok none
  else some <$> FullReadRestriction.fromOdrlPolicies (bindings.map PolicyBinding.odrl)

def authorizeTableScanForIdent (ident : TableIdent) : ProviderMethod TableScanCapability := do
  let bindings ← Method.request (.policyBindingsForTable ident)
  let bindings ← orCatalogError bindings
  let restriction ← orCatalogError (bindingsRestriction bindings)
  let receipt ← provider.authorizeTableWithContext .tablePlanScan ident
    (provider.scanContext bindings restriction)
  orCatalogError (TableScanCapability.fromReceipt receipt ident)

def authorizeTableScan (database : List String) (table : String) :
    ProviderMethod TableScanCapability := do
  let ident ← orCatalogError (provider.ident database table)
  provider.authorizeTableScanForIdent ident

def planWithCapability (capability : TableScanCapability)
    (request : ProviderScanPlanningRequest) : ProviderMethod ScanPlan := do
  let restriction := capability.restriction.toReadRestriction
  let projection ← orCatalogError (restriction.effectiveProjection request.projection)
  let record ← Method.request (.loadTable capability.table)
  let record ← orCatalogError record
  let plan ← Method.request (.planScan capability.receipt.principal
    { request.restricted restriction record projection with table := capability.table })
  orCatalogError plan

def fetchWithCapability (capability : TableScanCapability) (planTask : String) :
    ProviderMethod FetchScanTasksPlan := do
  let restriction := capability.restriction.toReadRestriction
  let record ← Method.request (.loadTable capability.table)
  let record ← orCatalogError record
  let requiredProjection ← orCatalogError (restriction.effectiveProjection [])
  let plan ← Method.request (.fetchScanTasks capability.receipt.principal
    { restriction.fetchRequest record requiredProjection planTask with table := capability.table })
  orCatalogError plan

def planTableScanForIdent (table : TableIdent) (request : ProviderScanPlanningRequest) :
    ProviderMethod ScanPlan := do
  let capability ← provider.authorizeTableScanForIdent table
  planWithCapability capability request

def planTableScan (database : List String) (table : String)
    (request : ProviderScanPlanningRequest) : ProviderMethod ScanPlan := do
  let capability ← provider.authorizeTableScan database table
  planWithCapability capability request

def ensureCapabilityWarehouse (capability : TableScanCapability) : CatalogResult Unit :=
  rejectIf (capability.table.warehouse ≠ provider.warehouse)
    (.conflict "LakeCat scan capability does not target this Sail warehouse")

def planAuthorizedTableScan (capability : TableScanCapability)
    (request : ProviderScanPlanningRequest) : ProviderMethod ScanPlan := do
  Method.ofExcept (provider.ensureCapabilityWarehouse capability)
  planWithCapability capability request

def fetchTableScanTasksForIdent (table : TableIdent) (planTask : String) :
    ProviderMethod FetchScanTasksPlan := do
  let capability ← provider.authorizeTableScanForIdent table
  fetchWithCapability capability planTask

def fetchTableScanTasks (database : List String) (table planTask : String) :
    ProviderMethod FetchScanTasksPlan := do
  let capability ← provider.authorizeTableScan database table
  fetchWithCapability capability planTask

def fetchAuthorizedTableScanTasks (capability : TableScanCapability) (planTask : String) :
    ProviderMethod FetchScanTasksPlan := do
  Method.ofExcept (provider.ensureCapabilityWarehouse capability)
  fetchWithCapability capability planTask

def createDatabase (database : List String) : ProviderMethod DatabaseStatus := do
  let _ ← provider.authorizeCatalog .namespaceCreate
  let ns ← orCatalogError (lakecatNamespace database)
  let created ← Method.request (.createNamespace provider.warehouse ns)
  orCatalogError created
  return databaseStatus provider.name ns

def getDatabase (database : List String) : ProviderMethod DatabaseStatus := do
  let _ ← provider.authorizeCatalog .namespaceList
  let ns ← orCatalogError (lakecatNamespace database)
  let namespaces ← Method.request (.listNamespaces provider.warehouse)
  let namespaces ← orCatalogError namespaces
  if namespaces.any fun existing => existing = ns then
    return databaseStatus provider.name ns
  else Method.fail (.notFound .database ns.path)

def listDatabases (head : Option (List String)) : ProviderMethod (List DatabaseStatus) := do
  let _ ← provider.authorizeCatalog .namespaceList
  let head ← orCatalogError (collect lakecatNamespace head.toList)
  let namespaces ← Method.request (.listNamespaces provider.warehouse)
  let namespaces ← orCatalogError namespaces
  let listed := namespaces.filter fun ns => head.all (startsWithNamespace ns)
  return listed.map (databaseStatus provider.name)

/-- A missing namespace is no error when the caller says so. -/
def droppedDatabase (ifExists : Bool) (result : LakeCatResult Unit) : CatalogResult Unit :=
  match result with
  | .ok _ => .ok ()
  | .error error =>
      if ifExists ∧ containsText error.text "not found" then .ok ()
      else .error (catalogError error)

def dropDatabase (database : List String) (options : DropDatabaseOptions) :
    ProviderMethod Unit := do
  let receipt ← provider.authorizeCatalog .namespaceDrop
  let _ ← orCatalogError (catalogCapabilityFromReceipt receipt .namespaceDrop "drop namespaces")
  let ns ← orCatalogError (lakecatNamespace database)
  if options.cascade then
    Method.fail (.notSupported "LakeCat Sail namespace drop does not support cascade")
  else do
    let dropped ← Method.request (.dropNamespace provider.warehouse ns)
    Method.ofExcept (droppedDatabase options.ifExists dropped)

/-- The receipt of an allowed operation on a table, checked against both. -/
def tableCapability (action : CatalogAction) (description : String) (ident : TableIdent) :
    ProviderMethod AuthorizationReceipt := do
  let receipt ← provider.authorizeTable action ident
  orCatalogError (validateTableAuthorizationReceipt receipt ident action description)
  return receipt

/-- `now` is the time at which the record is made. -/
def createTable (now : Timestamp) (database : List String) (table : String)
    (options : CreateTableOptions) : ProviderMethod SailCatalog.TableStatus := do
  let ident ← orCatalogError (provider.ident database table)
  let receipt ← provider.tableCapability .tableCreate "create table" ident
  let location ← Method.ofExcept (okOr options.location
    (.invalidArgument "LakeCat Sail table creation requires a location"))
  Method.ofExcept (SailCatalog.validateConstraintsSupported options.columns)
  let metadata := SailCatalog.tableMetadata provider.name location options.columns
  let record := TableRecord.new ident location none metadata receipt.principal now
  let record ← Method.request (.createTable record)
  let record ← orCatalogError record
  return SailCatalog.tableStatus provider.name record

def getTable (database : List String) (table : String) :
    ProviderMethod SailCatalog.TableStatus := do
  let ident ← orCatalogError (provider.ident database table)
  let _ ← provider.tableCapability .tableLoad "load table" ident
  let record ← Method.request (.loadTable ident)
  let record ← orCatalogError record
  return SailCatalog.tableStatus provider.name record

def listTables (database : List String) : ProviderMethod (List SailCatalog.TableStatus) := do
  let _ ← provider.authorizeCatalog .namespaceList
  let ns ← orCatalogError (lakecatNamespace database)
  let records ← Method.request (.listTables provider.warehouse)
  let records ← orCatalogError records
  let listed := records.filter fun record => record.ident.ns = ns
  return listed.map (SailCatalog.tableStatus provider.name)

def dropTable (database : List String) (table : String) : ProviderMethod Unit := do
  let ident ← orCatalogError (provider.ident database table)
  let receipt ← provider.tableCapability .tableDrop "drop table" ident
  let dropped ← Method.request (.softDeleteTable ident receipt.principal (some receipt.toJson))
  orCatalogError dropped

def alterTable : ProviderMethod Unit :=
  Method.fail (.notSupported "LakeCat Sail table alter is not implemented")

def commitTable (database : List String) (table : String) (options : CommitTableOptions) :
    ProviderMethod SailCatalog.TableStatus := do
  Method.ofExcept (rejectIf (options.format ≠ "iceberg") (.notSupported
    s!"LakeCat Sail provider only commits Iceberg tables, got {options.format}"))
  let ident ← orCatalogError (provider.ident database table)
  let receipt ← provider.tableCapability .tableCommit "commit table" ident
  let current ← Method.request (.loadTable ident)
  let current ← orCatalogError current
  let plan ← Method.request (.prepareCommit {
    table := ident
    principal := receipt.principal
    currentMetadataLocation := current.metadataLocation
    newMetadataLocation := current.metadataLocation
    currentMetadata := current.metadata
    newMetadata := none
    requirements := options.requirements
    updates := options.updates })
  let plan ← orCatalogError plan
  let updated ← Method.request (.commitTable ident {
    requirements := plan.requirements
    updates := plan.updates
    expectedPreviousMetadataLocation := current.metadataLocation
    newMetadataLocation := plan.newMetadataLocation
    newMetadata := some plan.newMetadata
    idempotencyKey := none
    idempotencyRequestHash := none
    principal := receipt.principal
    authorizationReceipt := some receipt.toJson })
  let updated ← orCatalogError updated
  return SailCatalog.tableStatus provider.name updated

/-- `u64::try_from` of a version. -/
def nonNegativeVersion (label : String) (version : Int) : CatalogResult Nat :=
  if version < 0 then .error (.invalidArgument
    s!"LakeCat Sail commit discovery requires a non-negative {label} version")
  else .ok version.toNat

def checkedI64 (value : Nat) (name : String) : CatalogResult Int :=
  if value < 2 ^ 63 then .ok value
  else .error (.invalidArgument s!"{name} exceeds i64 range")

/-- The latest version and the commits in the range. -/
def getTableCommits (database : List String) (table : String) (options : GetTableCommitsOptions) :
    ProviderMethod (Int × List SailCatalog.TableCommitInfo) := do
  Method.ofExcept (rejectIf (options.format ≠ "iceberg") (.notSupported
    s!"LakeCat Sail provider only discovers Iceberg commits, got {options.format}"))
  let startVersion ← Method.ofExcept (nonNegativeVersion "start" options.startVersion)
  let endVersion ← Method.ofExcept
    (collect (nonNegativeVersion "end") options.endVersion.toList)
  let ident ← orCatalogError (provider.ident database table)
  let records ← Method.request (.tableCommitRecords ident 0 none)
  let records ← orCatalogError records
  let latest := (records.map fun record => record.sequenceNumber.toNat).foldl max 0
  let listed := records.filter fun record => startVersion ≤ record.sequenceNumber.toNat &&
    endVersion.all fun last => record.sequenceNumber.toNat ≤ last
  let commits ← Method.ofExcept (collect SailCatalog.tableCommitInfo listed)
  let latest ← Method.ofExcept (checkedI64 latest "latest table version")
  return (latest, commits)

def viewCommentProperty : String := "lakecat:view-comment"

def viewProperties (options : CreateViewOptions) : BTreeMap String :=
  let properties := options.properties.foldl
    (fun properties entry => properties.insert entry.1 entry.2) (∅ : BTreeMap String)
  match options.comment with
  | some comment => properties.insert viewCommentProperty comment
  | none => properties

/-- `ViewRecord::new(..)?.with_columns(..)?` for the options of the request. -/
def viewRecord (now : Timestamp) (ns : Namespace) (view : TableName) (principal : Principal)
    (options : CreateViewOptions) : CatalogResult ViewRecord := do
  let bare : ViewRecord := {
    warehouse := provider.warehouse
    ns := ns
    name := view
    viewVersion := 1
    sql := options.definition
    dialect := "sql"
    schemaVersion := none
    columns := []
    properties := viewProperties options
    created := ⟨principal, now⟩
    updatedAt := now }
  bare.validate.mapError catalogError
  let columns ← SailCatalog.viewColumnsFromSail options.columns
  let record := { bare with columns := columns }
  record.validate.mapError catalogError
  return record

/-- What a view that is there, or is not, means for a create. -/
def viewToCreate (view : String) (options : CreateViewOptions)
    (existing : LakeCatResult ViewRecord) : CatalogResult (Option ViewRecord) :=
  match existing with
  | .ok record =>
      if options.ifNotExists then .ok (some record)
      else if options.replace then .ok none
      else .error (.alreadyExists .view view)
  | .error (.notFound _ _) => .ok none
  | .error error => .error (catalogError error)

def createView (now : Timestamp) (database : List String) (view : String)
    (options : CreateViewOptions) : ProviderMethod SailCatalog.TableStatus := do
  let receipt ← provider.authorizeCatalog .viewManage
  let receipt ← orCatalogError (catalogCapabilityFromReceipt receipt .viewManage "manage views")
  let ns ← orCatalogError (lakecatNamespace database)
  let loaded ← Method.request (.loadNamespace provider.warehouse ns)
  orCatalogError loaded
  let viewName ← orCatalogError (TableName.new view)
  let existing ← Method.request (.loadView provider.warehouse ns viewName)
  let kept ← Method.ofExcept (viewToCreate view options existing)
  match kept with
  | some record => Method.ofExcept (SailCatalog.viewStatus provider.name record)
  | none => do
      let record ← Method.ofExcept
        (provider.viewRecord now ns viewName receipt.principal options)
      let record ← Method.request (.upsertView record)
      let record ← orCatalogError record
      Method.ofExcept (SailCatalog.viewStatus provider.name record)

def getView (database : List String) (view : String) :
    ProviderMethod SailCatalog.TableStatus := do
  let receipt ← provider.authorizeCatalog .viewLoad
  let _ ← orCatalogError (catalogCapabilityFromReceipt receipt .viewLoad "load views")
  let ns ← orCatalogError (lakecatNamespace database)
  let viewName ← orCatalogError (TableName.new view)
  let record ← Method.request (.loadView provider.warehouse ns viewName)
  let record ← orCatalogError record
  Method.ofExcept (SailCatalog.viewStatus provider.name record)

def listViews (database : List String) : ProviderMethod (List SailCatalog.TableStatus) := do
  let receipt ← provider.authorizeCatalog .viewLoad
  let _ ← orCatalogError (catalogCapabilityFromReceipt receipt .viewLoad "load views")
  let ns ← orCatalogError (lakecatNamespace database)
  let records ← Method.request (.listViews provider.warehouse ns)
  let records ← orCatalogError records
  Method.ofExcept (collect (SailCatalog.viewStatus provider.name) records)

/-- A missing view is no error when the caller says so. -/
def droppedView (options : DropViewOptions) (result : LakeCatResult ViewRecord) :
    CatalogResult Unit :=
  match result with
  | .ok _ => .ok ()
  | .error (.notFound object name) =>
      if options.ifExists then .ok () else .error (catalogError (.notFound object name))
  | .error error => .error (catalogError error)

def dropView (database : List String) (view : String) (options : DropViewOptions) :
    ProviderMethod Unit := do
  let receipt ← provider.authorizeCatalog .viewDrop
  let receipt ← orCatalogError (catalogCapabilityFromReceipt receipt .viewDrop "drop views")
  let ns ← orCatalogError (lakecatNamespace database)
  let viewName ← orCatalogError (TableName.new view)
  let dropped ← Method.request (.dropView provider.warehouse ns viewName receipt.principal)
  Method.ofExcept (droppedView options dropped)

end LakeCatCatalogProvider

/-- The methods of the provider with their arguments. -/
inductive ProviderRequest [External] [SailCatalog] where
  | authorizeTableScan (database : List String) (table : String)
  | authorizeTableScanForIdent (ident : TableIdent)
  | planTableScan (database : List String) (table : String)
      (request : ProviderScanPlanningRequest)
  | planTableScanForIdent (table : TableIdent) (request : ProviderScanPlanningRequest)
  | planAuthorizedTableScan (capability : TableScanCapability)
      (request : ProviderScanPlanningRequest)
  | fetchTableScanTasks (database : List String) (table planTask : String)
  | fetchTableScanTasksForIdent (table : TableIdent) (planTask : String)
  | fetchAuthorizedTableScanTasks (capability : TableScanCapability) (planTask : String)
  | createDatabase (database : List String)
  | getDatabase (database : List String)
  | listDatabases (head : Option (List String))
  | dropDatabase (database : List String) (options : DropDatabaseOptions)
  | createTable (now : Timestamp) (database : List String) (table : String)
      (options : CreateTableOptions)
  | getTable (database : List String) (table : String)
  | listTables (database : List String)
  | dropTable (database : List String) (table : String)
  | alterTable
  | commitTable (database : List String) (table : String) (options : CommitTableOptions)
  | getTableCommits (database : List String) (table : String) (options : GetTableCommitsOptions)
  | createView (now : Timestamp) (database : List String) (view : String)
      (options : CreateViewOptions)
  | getView (database : List String) (view : String)
  | listViews (database : List String)
  | dropView (database : List String) (view : String) (options : DropViewOptions)

inductive ProviderResponse [External] [SailCatalog] where
  | done
  | capability (capability : TableScanCapability)
  | plan (plan : ScanPlan)
  | tasks (plan : FetchScanTasksPlan)
  | database (status : DatabaseStatus)
  | databases (statuses : List DatabaseStatus)
  | table (status : SailCatalog.TableStatus)
  | tables (statuses : List SailCatalog.TableStatus)
  | commits (latest : Int) (commits : List SailCatalog.TableCommitInfo)

namespace LakeCatCatalogProvider

variable [External] [SailCatalog] (provider : LakeCatCatalogProvider)

def answer : ProviderRequest → ProviderMethod ProviderResponse
  | .authorizeTableScan database table =>
      return .capability (← provider.authorizeTableScan database table)
  | .authorizeTableScanForIdent ident =>
      return .capability (← provider.authorizeTableScanForIdent ident)
  | .planTableScan database table request =>
      return .plan (← provider.planTableScan database table request)
  | .planTableScanForIdent table request =>
      return .plan (← provider.planTableScanForIdent table request)
  | .planAuthorizedTableScan capability request =>
      return .plan (← provider.planAuthorizedTableScan capability request)
  | .fetchTableScanTasks database table planTask =>
      return .tasks (← provider.fetchTableScanTasks database table planTask)
  | .fetchTableScanTasksForIdent table planTask =>
      return .tasks (← provider.fetchTableScanTasksForIdent table planTask)
  | .fetchAuthorizedTableScanTasks capability planTask =>
      return .tasks (← provider.fetchAuthorizedTableScanTasks capability planTask)
  | .createDatabase database => return .database (← provider.createDatabase database)
  | .getDatabase database => return .database (← provider.getDatabase database)
  | .listDatabases head => return .databases (← provider.listDatabases head)
  | .dropDatabase database options => do
      provider.dropDatabase database options
      return .done
  | .createTable now database table options =>
      return .table (← provider.createTable now database table options)
  | .getTable database table => return .table (← provider.getTable database table)
  | .listTables database => return .tables (← provider.listTables database)
  | .dropTable database table => do
      provider.dropTable database table
      return .done
  | .alterTable => do
      alterTable
      return .done
  | .commitTable database table options =>
      return .table (← provider.commitTable database table options)
  | .getTableCommits database table options => do
      let listed ← provider.getTableCommits database table options
      return .commits listed.1 listed.2
  | .createView now database view options =>
      return .table (← provider.createView now database view options)
  | .getView database view => return .table (← provider.getView database view)
  | .listViews database => return .tables (← provider.listViews database)
  | .dropView database view options => do
      provider.dropView database view options
      return .done

end LakeCatCatalogProvider

end LakeCat
