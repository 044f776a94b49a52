import LakeCat.MemoryStoreCore

/-!
The memory store's operations on views, policies, models, servers, projects,
warehouses, storage profiles, scan grants, and on the outbox.
-/

namespace LakeCat

open Fallible

/-- The result of a call together with the state it leaves. -/
abbrev Outcome (α : Type) := LakeCatResult α × MemoryState

/-- An operation whose failures all come before its first write. -/
def atomic (state : MemoryState) (result : LakeCatResult (α × MemoryState)) : Outcome α :=
  match result with
  | .ok (value, next) => (.ok value, next)
  | .error error => (.error error, state)

namespace MemoryState
variable [External]

def saveGovernedScanGrant (state : MemoryState) (grant : GovernedScanGrant) :
    LakeCatResult (GovernedScanGrant × MemoryState) := do
  grant.validate
  match state.governedScanGrants[grant.proof.grantId]? with
  | some existing => do
      rejectIf (¬existing.hasSameStableEvidence grant)
        (.conflict "governed scan grant id was reused with different evidence")
      return (existing, state)
  | none =>
      return (grant, {
        state with
        governedScanGrants := state.governedScanGrants.insert grant.proof.grantId grant
      })

def loadGovernedScanGrant (state : MemoryState) (grantId : String) :
    LakeCatResult GovernedScanGrant := do
  validateGovernedScanGrantId grantId
  let grant ← okOr state.governedScanGrants[grantId]? (.notFound "governed scan grant" grantId)
  grant.validate
  return grant

def upsertServer (state : MemoryState) (server : ServerRecord) :
    LakeCatResult (ServerRecord × MemoryState) := do
  server.validate
  checkSome (fun existing => validateServerRecordMapScope existing server.serverId)
    state.servers[server.serverId]?
  return (server, { state with servers := state.servers.insert server.serverId server })

def upsertProject (state : MemoryState) (project : ProjectRecord) :
    LakeCatResult (ProjectRecord × MemoryState) := do
  project.validate
  checkSome (fun serverId => do
      let server ← okOr state.servers[serverId]? (.notFound "server" serverId)
      validateServerRecordMapScope server serverId)
    project.serverId
  checkSome (fun existing => validateProjectRecordMapScope existing project.projectId)
    state.projects[project.projectId]?
  return (project, { state with projects := state.projects.insert project.projectId project })

def upsertWarehouse (state : MemoryState) (warehouse : WarehouseRecord) :
    LakeCatResult (WarehouseRecord × MemoryState) := do
  warehouse.validate
  let project ← okOr state.projects[warehouse.projectId]? (.notFound "project" warehouse.projectId)
  validateProjectRecordMapScope project warehouse.projectId
  let warehouseKey := warehouse.warehouse.value
  checkSome (fun existing => validateWarehouseRecordMapScope existing warehouseKey)
    state.warehouses[warehouseKey]?
  return (warehouse, { state with warehouses := state.warehouses.insert warehouseKey warehouse })

def upsertStorageProfile (state : MemoryState) (profile : StorageProfile) :
    LakeCatResult (StorageProfile × MemoryState) := do
  profile.validate
  let key := storageProfileKey profile.warehouse profile.profileId
  checkSome (fun existing => validateStorageProfileMapScope existing key)
    state.storageProfiles[key]?
  return (profile, { state with storageProfiles := state.storageProfiles.insert key profile })

def upsertPolicyBinding (state : MemoryState) (binding : PolicyBinding) :
    LakeCatResult (PolicyBinding × MemoryState) := do
  binding.validate
  let key := policyBindingKey binding.warehouse binding.policyId
  checkSome (fun existing => validatePolicyBindingMapScope existing key) state.policyBindings[key]?
  return (binding, { state with policyBindings := state.policyBindings.insert key binding })

def validateMemoryViewReceiptScope (record : MemoryViewVersionReceipt) (warehouse : WarehouseName)
    (ns : Namespace) (view : Option TableName) : LakeCatResult Unit := do
  let receipt := record.receipt
  let mismatch : LakeCatError :=
    .internal "view receipt row scope does not match receipt identity"
  rejectIf (record.viewKey ≠ viewKeyParts receipt.warehouse receipt.ns receipt.name) mismatch
  rejectIf (receipt.warehouse ≠ warehouse ∨ receipt.ns ≠ ns) mismatch
  rejectIf (view.any fun view => receipt.name ≠ view) mismatch
  receipt.validate

/-- The receipts of one view, each checked against its row. -/
def receiptsOfView (state : MemoryState) (warehouse : WarehouseName) (ns : Namespace)
    (view : TableName) : LakeCatResult (List ViewVersionReceipt) :=
  collect (fun receipt => do
      validateMemoryViewReceiptScope receipt warehouse ns (some view)
      return receipt.receipt)
    (state.viewVersionReceipts.filter fun receipt =>
      receipt.viewKey = viewKeyParts warehouse ns view)

/-- `upsert_view_if_version`; `upsert_view` runs the same body and expects no version. -/
def upsertViewIfVersion (state : MemoryState) (view : ViewRecord)
    (expectedViewVersion : Option UInt64) (now : Timestamp) :
    LakeCatResult (ViewRecord × MemoryState) := do
  view.validate
  checkSome validateExpectedViewVersion expectedViewVersion
  let key := viewKey view
  let previous := state.views[key]?
  checkSome (fun previous => validateViewRecordMapScope previous key) previous
  checkSome (requireExpectedViewVersion previous) expectedViewVersion
  let receipts ← state.receiptsOfView view.warehouse view.ns view.name
  let latest ← latestViewReceiptEvidence receipts
  let latestVersion := latest.map Prod.fst
  let next ← view.withNextVersionAfterHistory previous latestVersion
  let previousVersion := (previous.map ViewRecord.viewVersion).or latestVersion
  let receipt := ViewVersionReceipt.upsert previousVersion (latest.map Prod.snd) next
    view.created.principal now
  return (next, {
    state with
    views := state.views.insert key next
    viewVersionReceipts := state.viewVersionReceipts ++ [⟨key, receipt⟩]
  })

def upsertView (state : MemoryState) (view : ViewRecord) (now : Timestamp) :
    LakeCatResult (ViewRecord × MemoryState) :=
  state.upsertViewIfVersion view none now

def loadView (state : MemoryState) (warehouse : WarehouseName) (ns : Namespace)
    (view : TableName) : LakeCatResult ViewRecord := do
  let key := viewKeyParts warehouse ns view
  let record ← okOr state.views[key]? (.notFound "view" view.value)
  validateViewRecordMapScope record key
  validateViewRecordScope record warehouse ns view
  return record

/-- The checks of `drop_view_if_version` that come before the view is removed. -/
def viewToDrop (state : MemoryState) (warehouse : WarehouseName) (ns : Namespace)
    (view : TableName) (expectedViewVersion : Option UInt64) : LakeCatResult ViewRecord := do
  checkSome validateExpectedViewVersion expectedViewVersion
  let current ← state.loadView warehouse ns view
  checkSome (requireExpectedViewVersion (some current)) expectedViewVersion
  return current

def dropReceipt (state : MemoryState) (record : ViewRecord) (warehouse : WarehouseName)
    (ns : Namespace) (view : TableName) (principal : Principal) (now : Timestamp) :
    LakeCatResult ViewVersionReceipt := do
  let receipts ← state.receiptsOfView warehouse ns view
  let previousReceiptHash ← latestViewReceiptHash receipts
  return ViewVersionReceipt.drop record previousReceiptHash principal now

/-- The view is removed before its receipts are read; a failure there keeps the removal. -/
def dropViewIfVersion (state : MemoryState) (warehouse : WarehouseName) (ns : Namespace)
    (view : TableName) (principal : Principal) (expectedViewVersion : Option UInt64)
    (now : Timestamp) : Outcome ViewRecord :=
  match state.viewToDrop warehouse ns view expectedViewVersion with
  | .error error => (.error error, state)
  | .ok record =>
      let key := viewKeyParts warehouse ns view
      let removed := { state with views := state.views.erase key }
      match removed.dropReceipt record warehouse ns view principal now with
      | .error error => (.error error, removed)
      | .ok receipt =>
          (.ok record, {
            removed with
            viewVersionReceipts := removed.viewVersionReceipts ++ [⟨key, receipt⟩]
          })

def publishPayload (publication : ModelPublication) : Json :=
  .object [("event-type", .str "model.published"),
    ("warehouse", publication.warehouse.toJson), ("model-id", .str publication.modelId),
    ("version", ofU64 publication.version), ("artifact-uri", .str publication.artifactUri),
    ("artifact-hash", .str publication.artifactHash),
    ("physical-bindings", publication.physicalBindings),
    ("policy-binding-ids", .arr (publication.policyBindingIds.map .str)),
    ("publisher", publication.publisher.toJson)]

/-- The entry of the model is created before the version is compared. -/
def publishModel (state : MemoryState) (publication : ModelPublication)
    (expectedCurrentVersion : Option UInt64) (now : Timestamp) : Outcome ModelPublication :=
  let audit := CatalogAuditEvent.new "model.published" none publication.publisher
    (publishPayload publication) now
  let prepared : LakeCatResult OutboxEvent := do
    publication.validate
    let outbox ← outboxEventFromPayload (auditOutboxPayload (auditEventId audit) audit) now
    checkEach (fun policyId =>
        rejectIf (¬state.policyBindings.contains
            (policyBindingKey publication.warehouse policyId))
          (.notFound "policy binding" (contentHashBytes policyId)))
      publication.policyBindingIds
    return outbox
  match prepared with
  | .error error => (.error error, state)
  | .ok outbox =>
      let key := modelPublicationKey publication.warehouse publication.modelId
      let publications := (state.modelPublications[key]?).getD []
      let current := publications.getLast?.map ModelPublication.version
      if current ≠ expectedCurrentVersion ∨ publication.version ≠ current.getD 0 + 1 then
        (.error (.conflict "model publication compare-and-swap version mismatch"), {
          state with
          modelPublications := state.modelPublications.insert key publications
        })
      else
        (.ok publication, {
          state with
          modelPublications := state.modelPublications.insert key (publications ++ [publication])
          auditEvents := state.auditEvents ++ [audit]
          outboxEvents := state.outboxEvents ++ [outbox]
        })

def recordAuditEvent (state : MemoryState) (event : CatalogAuditEvent) :
    LakeCatResult (Unit × MemoryState) := do
  event.validateRecordable
  let outboxEvent ← outboxEventFromPayload (auditOutboxPayload (auditEventId event) event)
    event.createdAt
  rejectIf (state.outboxEvents.any fun candidate => candidate.eventId = outboxEvent.eventId)
    (.internal "duplicate audit event id would duplicate outbox replay evidence")
  return ((), {
    state with
    auditEvents := state.auditEvents ++ [event]
    outboxEvents := state.outboxEvents ++ [outboxEvent]
  })

def isDeliverable (eventIds : List String) (event : OutboxEvent) : Bool :=
  event.deliveredAt.isNone && eventIds.contains event.eventId

def markOutboxDelivered (state : MemoryState) (eventIds : List String) (now : Timestamp) :
    LakeCatResult (Nat × MemoryState) :=
  if eventIds = [] then return (0, state)
  else do
    checkEach validateOutboxEventIdShape eventIds
    let due := state.outboxEvents.filter (isDeliverable eventIds)
    checkEach OutboxEvent.validatePending due
    return (due.length, {
      state with
      outboxEvents := state.outboxEvents.map fun event =>
        if isDeliverable eventIds event then { event with deliveredAt := some now } else event
    })

end MemoryState

end LakeCat
