import LakeCat.BootstrapRequests
import LakeCat.ChangeEvents
import LakeCat.NamespaceSpelling
import LakeCat.RequestIdentities

/-!
The handlers of the management routes that put a record: the record they build
of a request, the action they ask for, and the two calls of the store they make.
-/

namespace LakeCat

open Fallible

namespace StorageProvider

def fromStr (value : String) : LakeCatResult StorageProvider :=
  let other := toAsciiLowercase (trimText value)
  if other ∈ ["file", "local-file"] then .ok .file
  else if other ∈ ["s3", "s3a"] then .ok .s3
  else if other ∈ ["gcs", "gs"] then .ok .gcs
  else if other ∈ ["azure", "az", "abfs", "abfss"] then .ok .azure
  else if other = "unknown" then .ok .unknown
  else .error (.invalidArgument ("unknown storage provider: " ++ other))

theorem fromStr_asStr (provider : StorageProvider) : fromStr provider.asStr = .ok provider := by
  cases provider <;> decide

end StorageProvider

namespace CredentialIssuanceMode

def fromStr (value : String) : LakeCatResult CredentialIssuanceMode :=
  let other := toAsciiLowercase (trimText value)
  if other ∈ ["governed-read-required", "governed"] then .ok .governedReadRequired
  else if other ∈ ["local-file-no-secret", "no-secret"] then .ok .localFileNoSecret
  else if other ∈ ["short-lived-secret-ref", "secret-ref", "short-lived"] then
    .ok .shortLivedSecretRef
  else .error (.invalidArgument ("unknown credential issuance mode: " ++ other))

theorem fromStr_asStr (mode : CredentialIssuanceMode) : fromStr mode.asStr = .ok mode := by
  cases mode <;> decide

end CredentialIssuanceMode

/-! The bodies of the requests. -/

structure UpsertServerRequest where
  displayName : Option String
  endpointUrl : Option String
  properties : BTreeMap String

structure UpsertProjectRequest where
  serverId : Option String
  displayName : Option String
  properties : BTreeMap String

structure UpsertWarehouseRequest where
  projectId : Option String
  storageRoot : Option String
  properties : BTreeMap String

structure UpsertStorageProfileRequest where
  locationPrefix : String
  provider : String
  issuanceMode : String
  secretRef : Option String
  publicConfig : BTreeMap String

structure UpsertPolicyBindingRequest where
  ns : Option (List String)
  table : Option String
  enforced : Bool
  odrl : Json

/-- The table of a policy binding, which a request body may leave out. -/
def policyBindingTable (table : Option String) : LakeCatResult (Option TableName) :=
  match table with
  | none => .ok none
  | some table => do return some (← TableName.new table)

/-- The times that a handler reads from the clock: for the receipt, for the record or the change,
and for the audit event. -/
structure RequestClock where
  checkedAt : Timestamp
  now : Timestamp
  recordedAt : Timestamp

def AuditStamp.now (principal : Principal) (now : Timestamp) : AuditStamp := ⟨principal, now⟩

section
variable [External]

/-! The records, as they are built. -/

def ServerRecord.new (serverId : String) (displayName endpointUrl : Option String)
    (properties : BTreeMap String) (principal : Principal) (now : Timestamp) :
    LakeCatResult ServerRecord := do
  let created := AuditStamp.now principal now
  let record : ServerRecord := ⟨serverId, displayName, endpointUrl, properties, created, created.time⟩
  record.validate
  return record

def ProjectRecord.new (projectId : String) (serverId displayName : Option String)
    (properties : BTreeMap String) (principal : Principal) (now : Timestamp) :
    LakeCatResult ProjectRecord := do
  let created := AuditStamp.now principal now
  let record : ProjectRecord := ⟨projectId, serverId, displayName, properties, created, created.time⟩
  record.validate
  return record

def WarehouseRecord.new (warehouse : WarehouseName) (projectId : String)
    (storageRoot : Option String) (properties : BTreeMap String) (principal : Principal)
    (now : Timestamp) : LakeCatResult WarehouseRecord := do
  let created := AuditStamp.now principal now
  let record : WarehouseRecord :=
    ⟨warehouse, projectId, storageRoot, properties, created, created.time⟩
  record.validate
  return record

def StorageProfile.new (profileId : String) (warehouse : WarehouseName) (locationPrefix : String)
    (provider : StorageProvider) (issuanceMode : CredentialIssuanceMode)
    (secretRef : Option String) (publicConfig : BTreeMap String) :
    LakeCatResult StorageProfile := do
  validateProfileId profileId
  rejectIf (isBlank locationPrefix)
    (.invalidArgument "storage profile location prefix must not be empty")
  validateLocationPrefixPath locationPrefix
  validateLocationPrefixProvider locationPrefix provider
  validateIssuanceModeProvider issuanceMode provider locationPrefix
  checkSome validateSecretRef secretRef
  validateSecretRefIssuanceMode secretRef issuanceMode
  rejectIf (issuanceMode = .shortLivedSecretRef ∧ secretRef.isNone)
    (.invalidArgument "short-lived-secret-ref issuance mode requires a secret reference")
  validateStorageProfilePublicConfig publicConfig
  return ⟨profileId, warehouse, locationPrefix, provider, issuanceMode, secretRef, publicConfig⟩

def PolicyBinding.new (policyId : String) (warehouse : WarehouseName) (ns : Option Namespace)
    (table : Option TableName) (enforced : Bool) (odrl : Json) (now : Timestamp) :
    LakeCatResult PolicyBinding := do
  validatePolicyId policyId
  rejectIf (table.isSome ∧ ns.isNone)
    (.invalidArgument "table-scoped policy binding requires namespace")
  return ⟨policyId, warehouse, ns, table, enforced, odrl, now⟩

/-- A handler, from the route that it answers: the action that it asks for, and the change that
it makes for a principal at a time. -/
structure ManageHandler where
  action : CatalogAction
  description : String
  change : Principal → Timestamp → LakeCatResult ChangeRequest

def upsertServerHandler (server : String) (request : UpsertServerRequest) : ManageHandler where
  action := .serverManage
  description := "manage servers"
  change principal now := do
    let record ← ServerRecord.new server request.displayName request.endpointUrl request.properties
      principal now
    return .upsertServer record

def upsertProjectHandler (project : String) (request : UpsertProjectRequest) : ManageHandler where
  action := .projectManage
  description := "manage projects"
  change principal now := do
    let record ← ProjectRecord.new project request.serverId request.displayName request.properties
      principal now
    return .upsertProject record

def upsertWarehouseHandler (warehouse : String) (request : UpsertWarehouseRequest) :
    LakeCatResult ManageHandler := do
  let warehouse ← managementWarehouse warehouse
  return {
    action := .warehouseManage
    description := "manage warehouses"
    change principal now := do
      let record ← WarehouseRecord.new warehouse (request.projectId.getD "default")
        request.storageRoot request.properties principal now
      return .upsertWarehouse record }

def upsertProjectWarehouseHandler (project warehouse : String)
    (request : UpsertWarehouseRequest) : LakeCatResult ManageHandler := do
  checkSome (fun requestProject => rejectIf (requestProject ≠ project) (.invalidArgument
      ("warehouse project id " ++ requestProject ++ " does not match route project " ++ project)))
    request.projectId
  let warehouse ← managementWarehouse warehouse
  return {
    action := .warehouseManage
    description := "manage warehouses"
    change principal now := do
      let record ← WarehouseRecord.new warehouse project request.storageRoot request.properties
        principal now
      return .upsertProjectWarehouse record }

def upsertStorageProfileHandler (warehouse profile : String)
    (request : UpsertStorageProfileRequest) : LakeCatResult ManageHandler := do
  let warehouse ← managementWarehouse warehouse
  return {
    action := .storageProfileManage
    description := "manage storage profiles"
    change _ _ := do
      let provider ← StorageProvider.fromStr request.provider
      let issuanceMode ← CredentialIssuanceMode.fromStr request.issuanceMode
      let record ← StorageProfile.new profile warehouse request.locationPrefix provider
        issuanceMode request.secretRef request.publicConfig
      return .upsertStorageProfile record }

def upsertPolicyBindingHandler (warehouse policy : String)
    (request : UpsertPolicyBindingRequest) : LakeCatResult ManageHandler := do
  let warehouse ← managementWarehouse warehouse
  return {
    action := .policyManage
    description := "manage policies"
    change _ now := do
      let ns ← policyBindingNamespace request.ns
      let table ← policyBindingTable request.table
      let binding ← PolicyBinding.new policy warehouse ns table request.enforced request.odrl now
      return .upsertPolicyBinding binding }

/-- The two calls of the store. -/
def recordChange (store : MemoryState) (receipt : AuthorizationReceipt) (change : ChangeRequest)
    (clock : RequestClock) : LakeCatResult MemoryState := do
  let event ← change.event store receipt clock.now clock.recordedAt
  let recorded ← (store.step (change.change receipt clock.now)).recordAuditEvent event
  return recorded.2

def ManageHandler.answer (state : LakeCatState) (verifier : TypeDidVerifier) (store : MemoryState)
    (headers : HeaderMap) (clock : RequestClock) (handler : ManageHandler) :
    LakeCatResult MemoryState := do
  let identity ← identify verifier headers
  let receipt ← authorize state store identity handler.action none clock.checkedAt
  let receipt ← catalogCapabilityFromReceipt receipt handler.action handler.description
  let change ← handler.change receipt.principal clock.now
  recordChange store receipt change clock

end

end LakeCat
