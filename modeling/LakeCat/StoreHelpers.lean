import LakeCat.ViewRecords
import LakeCat.GovernedScan

/-!
The keys the store files its records under, the checks that a filed record
matches its key, and the events a renamed table leaves.
-/

namespace LakeCat

open Fallible

/-- `'\u{1f}'`, which no valid name contains. -/
def unitSeparator : String := "\x1f"

def viewKeyParts (warehouse : WarehouseName) (ns : Namespace) (name : TableName) : String :=
  warehouse.value ++ unitSeparator ++ ns.storageKey ++ unitSeparator ++ name.value

def tableKey (ident : TableIdent) : String :=
  viewKeyParts ident.warehouse ident.ns ident.name

def viewKey (view : ViewRecord) : String :=
  viewKeyParts view.warehouse view.ns view.name

/-- Storage profiles, policy bindings and models are filed under `warehouse:id`. -/
def warehouseScopedKey (warehouse : WarehouseName) (id : String) : String :=
  warehouse.value ++ ":" ++ id

def storageProfileKey (warehouse : WarehouseName) (profileId : String) : String :=
  warehouseScopedKey warehouse profileId

def policyBindingKey (warehouse : WarehouseName) (policyId : String) : String :=
  warehouseScopedKey warehouse policyId

def modelPublicationKey (warehouse : WarehouseName) (modelId : String) : String :=
  warehouseScopedKey warehouse modelId

def idempotencyPrefix (ident : TableIdent) : String :=
  ident.stableId ++ ":"

def idempotencyRecordKey (ident : TableIdent) (idempotencyKey : String) : String :=
  idempotencyPrefix ident ++ idempotencyKey

def namespaceNotFound (ns : Namespace) : LakeCatError :=
  .notFound "namespace" ns.path

def namespaceNotEmpty (ns : Namespace) (reason : String) : LakeCatError :=
  .conflict ("cannot drop non-empty namespace " ++ ns.path ++ ": contains " ++ reason)

def namespaceIsDescendant (candidate parent : Namespace) : Bool :=
  parent.parts.length < candidate.parts.length && parent.parts.isPrefixOf candidate.parts

def tableNotFound (ident : TableIdent) : LakeCatError :=
  .notFound "table" ident.stableId

def tableAlreadyExists (ident : TableIdent) : LakeCatError :=
  .alreadyExists "table" ident.stableId

def idempotencyConflict (ident : TableIdent) : LakeCatError :=
  .conflict ("idempotency key reused with different commit request for " ++ ident.stableId)

def metadataPointerConflict [External] (ident : TableIdent) (expected actual : Option String) :
    LakeCatError :=
  .conflict ("metadata pointer changed for " ++ ident.stableId ++
    "; expected-metadata-location-hash=" ++ optionalLocationHash expected ++
    "; actual-metadata-location-hash=" ++ optionalLocationHash actual)

/-- The shape shared by the map checks: a valid record, filed where its identity says. -/
def validateScope (checked : LakeCatResult Unit) (misplaced : Prop) [Decidable misplaced]
    (kind identity : String) : LakeCatResult Unit := do
  checked
  rejectIf misplaced (.internal s!"{kind} row scope does not match {identity}")

def validateTableRecordIdentity (record : TableRecord) (ident : TableIdent) : LakeCatResult Unit :=
  validateScope record.validate (record.ident ≠ ident) "table record" "requested table"

def validateTableRecordMapScope (record : TableRecord) (recordKey : String) : LakeCatResult Unit :=
  validateScope record.validate (tableKey record.ident ≠ recordKey) "table record"
    "requested table"

def validateSoftDeleteRecordMapScope (record : SoftDeleteRecord) (recordKey : String) :
    LakeCatResult Unit :=
  validateScope (.ok ()) (tableKey record.table ≠ recordKey) "soft-delete" "record identity"

def validateIdempotencyRecordTableKey (rowTableKey : String) (ident : TableIdent) :
    LakeCatResult Unit :=
  validateScope (.ok ()) (rowTableKey ≠ tableKey ident) "idempotency record" "requested table"

def validateIdempotencyRecordRequestHash (rowRequestHash : String) : LakeCatResult Unit :=
  rejectIf (¬isSha256Evidence rowRequestHash)
    (.internal "idempotency record request hash must be full SHA-256 evidence")

section
variable [External]

def validatePolicyBindingMapScope (binding : PolicyBinding) (bindingKey : String) :
    LakeCatResult Unit :=
  validateScope binding.validate
    (policyBindingKey binding.warehouse binding.policyId ≠ bindingKey) "policy binding"
    "binding identity"

def validateStorageProfileMapScope (profile : StorageProfile) (profileKey : String) :
    LakeCatResult Unit :=
  validateScope profile.validate
    (storageProfileKey profile.warehouse profile.profileId ≠ profileKey) "storage profile"
    "profile identity"

def validateServerRecordMapScope (server : ServerRecord) (serverId : String) :
    LakeCatResult Unit :=
  validateScope server.validate (server.serverId ≠ serverId) "server" "server identity"

def validateProjectRecordMapScope (project : ProjectRecord) (projectId : String) :
    LakeCatResult Unit :=
  validateScope project.validate (project.projectId ≠ projectId) "project" "project identity"

def validateWarehouseRecordMapScope (record : WarehouseRecord) (warehouseKey : String) :
    LakeCatResult Unit :=
  validateScope record.validate (record.warehouse.value ≠ warehouseKey) "warehouse"
    "warehouse identity"

def validateViewRecordMapScope (record : ViewRecord) (recordKey : String) : LakeCatResult Unit :=
  validateScope record.validate (viewKey record ≠ recordKey) "view record" "view identity"

def validateViewRecordScope (record : ViewRecord) (warehouse : WarehouseName) (ns : Namespace)
    (view : TableName) : LakeCatResult Unit :=
  validateScope record.validate
    (record.warehouse ≠ warehouse ∨ record.ns ≠ ns ∨ record.name ≠ view) "view record"
    "view identity"

def renamePayload (source : TableIdent) (table : TableRecord)
    (authorizationReceipt : Option Json) : Json :=
  .object ([("event-type", .str "table.renamed"), ("table", table.ident.toJson),
    ("source", source.toJson), ("destination", table.ident.toJson),
    ("metadata-location", ofOptionStr table.metadataLocation),
    ("format-version", Json.ofOption .int (tableCommitFormatVersion table)),
    ("version", ofU64 table.version)] ++
    Json.presentField "authorization-receipt" id authorizationReceipt)

def tableRenameEvents (source : TableIdent) (table : TableRecord) (principal : Principal)
    (authorizationReceipt : Option Json) (renamedAt : Timestamp) :
    LakeCatResult (CatalogAuditEvent × OutboxEvent) := do
  let payload := renamePayload source table authorizationReceipt
  let auditEvent := CatalogAuditEvent.new "table.renamed" (some table.ident) principal payload
    renamedAt
  auditEvent.validateRecordable
  let outboxPayload := auditOutboxPayload (auditEventId auditEvent) auditEvent
  let outboxEvent ← outboxEventFromPayload outboxPayload renamedAt
  return (auditEvent, outboxEvent)

end

theorem renamePayload_get (source : TableIdent) (table : TableRecord) (receipt : Option Json) :
    (renamePayload source table receipt).get "event-type" = some (.str "table.renamed") ∧
      (renamePayload source table receipt).get "table" = some table.ident.toJson ∧
      (renamePayload source table receipt).get "authorization-receipt" = receipt := by
  cases receipt <;> simp [renamePayload, Json.presentField, List.lookup]

section
variable [External]

def renameAuditEvent (source : TableIdent) (table : TableRecord) (principal : Principal)
    (receipt : Option Json) (now : Timestamp) : CatalogAuditEvent :=
  CatalogAuditEvent.new "table.renamed" (some table.ident) principal
    (renamePayload source table receipt) now

def renameOutboxEvent (event : CatalogAuditEvent) (now : Timestamp) : OutboxEvent :=
  outboxEvent "table.renamed" (auditOutboxPayload (auditEventId event) event) now

/-- A rename can be recorded when its receipt, if there is one, fits the principal. -/
theorem renameAuditEvent_recordable (source : TableIdent) (table : TableRecord)
    (principal : Principal) (receipt : Option Json) (now : Timestamp) (done : Unit) :
    (renameAuditEvent source table principal receipt now).validateRecordable = .ok done ↔
      ∀ document, receipt = some document → validateReceiptPrincipal principal document = .ok () := by
  obtain ⟨typed, shown, carried⟩ := renamePayload_get source table receipt
  have isObject : table.ident.toJson.isObject = true := rfl
  have notBlank : isBlank "table.renamed" = false := by decide
  have scope : validateAuditPayloadTableScope (renamePayload source table receipt) table.ident =
      .ok () := by
    simp only [validateAuditPayloadTableScope, shown, okOr_some, ok_bind, isObject, if_true,
      tableIdentFromJson_toJson, rejectIf_ok, ne_eq, not_true, not_false_eq_true]
  simp only [renameAuditEvent, CatalogAuditEvent.validateRecordable, CatalogAuditEvent.new,
    notBlank, typed, Option.bind_some, Json.asStr, okOr_some, ok_bind, rejectIf_ok, bind_eq_ok,
    exists_unit, validateAuditPayloadAuthorizationPrincipal, carried, checkSome_ok,
    Bool.false_eq_true, ne_eq, not_true, not_false_eq_true, true_and, Option.some.injEq,
    forall_eq', scope, and_true]

theorem tableRenameEvents_ok (source : TableIdent) (table : TableRecord) (principal : Principal)
    (receipt : Option Json) (now : Timestamp) (audit : CatalogAuditEvent) (outbox : OutboxEvent) :
    tableRenameEvents source table principal receipt now = .ok (audit, outbox) ↔
      (∀ document, receipt = some document →
        validateReceiptPrincipal principal document = .ok ()) ∧
        audit = renameAuditEvent source table principal receipt now ∧
        outbox = renameOutboxEvent audit now := by
  have event (event : CatalogAuditEvent) (named : event.eventType = "table.renamed") :
      outboxEventFromPayload (auditOutboxPayload (auditEventId event) event) now =
        .ok (renameOutboxEvent event now) :=
    outboxEventFromPayload_object _ now _ (by
      cases event.table <;> simp [Json.presentField, List.lookup, named])
  have unfolded : tableRenameEvents source table principal receipt now = (do
      (renameAuditEvent source table principal receipt now).validateRecordable
      return (renameAuditEvent source table principal receipt now,
        renameOutboxEvent (renameAuditEvent source table principal receipt now) now)) := by
    simp only [tableRenameEvents]
    rw [event _ rfl]
    rfl
  rw [unfolded, bind_unit_eq_ok, renameAuditEvent_recordable, pure_eq, return_eq_ok]
  refine and_congr_right fun _ => ?_
  constructor <;> rintro ⟨rfl, rfl⟩ <;> exact ⟨rfl, rfl⟩

end

theorem validateScope_ok (checked : LakeCatResult Unit) (misplaced : Prop) [Decidable misplaced]
    (kind identity : String) (done : Unit) :
    validateScope checked misplaced kind identity = .ok done ↔ checked = .ok () ∧ ¬misplaced := by
  simp only [validateScope, bind_unit_eq_ok, rejectIf_ok]

theorem validateTableRecordIdentity_ok (record : TableRecord) (ident : TableIdent) (done : Unit) :
    validateTableRecordIdentity record ident = .ok done ↔ record.Valid ∧ record.ident = ident := by
  simp only [validateTableRecordIdentity, validateScope_ok, TableRecord.validate_ok, ne_eq, not_not]

theorem validateTableRecordMapScope_ok (record : TableRecord) (key : String) (done : Unit) :
    validateTableRecordMapScope record key = .ok done ↔
      record.Valid ∧ tableKey record.ident = key := by
  simp only [validateTableRecordMapScope, validateScope_ok, TableRecord.validate_ok, ne_eq, not_not]

theorem validateSoftDeleteRecordMapScope_ok (record : SoftDeleteRecord) (key : String)
    (done : Unit) :
    validateSoftDeleteRecordMapScope record key = .ok done ↔ tableKey record.table = key := by
  simp only [validateSoftDeleteRecordMapScope, validateScope_ok, true_and, ne_eq, not_not]

theorem validateIdempotencyRecordTableKey_ok (key : String) (ident : TableIdent) (done : Unit) :
    validateIdempotencyRecordTableKey key ident = .ok done ↔ key = tableKey ident := by
  simp only [validateIdempotencyRecordTableKey, validateScope_ok, true_and, ne_eq, not_not]

theorem validateIdempotencyRecordRequestHash_ok (digest : String) (done : Unit) :
    validateIdempotencyRecordRequestHash digest = .ok done ↔ isSha256Evidence digest = true := by
  simp [validateIdempotencyRecordRequestHash]

end LakeCat
