import LakeCat.TursoPublications
import LakeCat.Lockstep

/-!
The calls on namespaces, tables, policy bindings and audit events as each of the
two stores answers them, and the calls that the stores are known to answer in two
ways. The transactions of the Turso store are run one after the other.
-/

namespace LakeCat

open Fallible SnapshotIsolation

inductive StoreCall where
  | createNamespace (warehouse : WarehouseName) (ns : Namespace) (properties : NamespaceProperties)
  | updateNamespaceProperties (warehouse : WarehouseName) (ns : Namespace)
      (update : NamespacePropertyUpdate)
  | dropNamespace (warehouse : WarehouseName) (ns : Namespace)
  | createTable (table : TableRecord)
  | renameTable (source destination : TableIdent) (principal : Principal)
      (authorizationReceipt : Option Json) (now : Timestamp)
  /-- `commit_table`, or `commit_table_with_snapshot` with the version of the snapshot. -/
  | commitTable (ident : TableIdent) (commit : TableCommit) (snapshotVersion : Option UInt64)
      (now : Timestamp)
  | softDeleteTable (ident : TableIdent) (principal : Principal)
      (authorizationReceipt : Option Json) (now : Timestamp)
  | restoreTable (ident : TableIdent) (principal : Principal) (authorizationReceipt : Option Json)
      (now : Timestamp)
  | upsertPolicyBinding (binding : PolicyBinding)
  | recordAuditEvent (event : CatalogAuditEvent)
  | loadNamespace (warehouse : WarehouseName) (ns : Namespace)
  | loadNamespaceProperties (warehouse : WarehouseName) (ns : Namespace)
  | loadTable (ident : TableIdent)
  | replayTableCommit (ident : TableIdent) (idempotencyKey idempotencyRequestHash : String)
  | tableCommitRecords (ident : TableIdent) (startVersion : UInt64) (endVersion : Option UInt64)

inductive StoreAnswer where
  | done
  | ns (ns : Namespace)
  | properties (properties : NamespaceProperties)
  | updated (result : NamespacePropertyUpdateResult)
  | table (table : TableRecord)
  | replay (response : Option TableRecord)
  | commits (records : List TableCommitRecord)
  | binding (binding : PolicyBinding)

/-- What a caller is given; a call that is refused gives nothing. -/
def given (result : LakeCatResult α) (shown : α → StoreAnswer) : Option StoreAnswer :=
  match result with
  | .ok value => some (shown value)
  | .error _ => none

namespace MemoryState
variable [External]

def replied (state : MemoryState) (result : LakeCatResult (α × MemoryState))
    (shown : α → StoreAnswer) : Option StoreAnswer × MemoryState :=
  ((given result fun pair => shown pair.1), (atomic state result).2)

def serve (state : MemoryState) : StoreCall → Option StoreAnswer × MemoryState
  | .createNamespace warehouse ns properties =>
      state.replied (state.createNamespaceWithProperties warehouse ns properties) fun _ => .done
  | .updateNamespaceProperties warehouse ns update =>
      state.replied (state.updateNamespaceProperties warehouse ns update) .updated
  | .dropNamespace warehouse ns => state.replied (state.dropNamespace warehouse ns) .ns
  | .createTable table => state.replied (state.createTable table) .table
  | .renameTable source destination principal receipt now =>
      state.replied (state.renameTable source destination principal receipt now) .table
  | .commitTable ident commit _ now => state.replied (state.commitTable ident commit now) .table
  | .softDeleteTable ident principal receipt now =>
      state.replied (state.softDeleteTable ident principal receipt now) .table
  | .restoreTable ident principal receipt now =>
      state.replied (state.restoreTable ident principal receipt now) .table
  | .upsertPolicyBinding binding => state.replied (state.upsertPolicyBinding binding) .binding
  | .recordAuditEvent event => state.replied (state.recordAuditEvent event) fun _ => .done
  | .loadNamespace warehouse ns => (given (state.loadNamespace warehouse ns) .ns, state)
  | .loadNamespaceProperties warehouse ns =>
      (given (state.loadNamespaceProperties warehouse ns) .properties, state)
  | .loadTable ident => (given (state.loadTable ident) .table, state)
  | .replayTableCommit ident idempotencyKey idempotencyRequestHash =>
      (given (state.replayTableCommit ident idempotencyKey idempotencyRequestHash) .replay, state)
  | .tableCommitRecords ident startVersion endVersion =>
      (given (state.tableCommitRecords ident startVersion endVersion) .commits, state)

end MemoryState

namespace TursoState

def loadNamespaceProperties (state : TursoState) (warehouse : WarehouseName) (ns : Namespace) :
    LakeCatResult NamespaceProperties := do
  let _ ← state.loadNamespace warehouse ns
  match state.namespaceProperties[(warehouse.value, ns.storageKey)]? with
  | some row => NamespaceProperties.new row.properties
  | none => return .default

def updateNamespaceProperties (state : TursoState) (warehouse : WarehouseName) (ns : Namespace)
    (update : NamespacePropertyUpdate) :
    LakeCatResult (NamespacePropertyUpdateResult × TursoWrites) := do
  let properties ← state.loadNamespaceProperties warehouse ns
  let (properties, result) := properties.apply update
  return (result,
    [TursoRow.put (.namespaceProperties warehouse.value ns.storageKey) properties])

/-- `drop_namespace`: the namespace is loaded before the transaction begins. -/
def dropLoadedNamespace (state : TursoState) (warehouse : WarehouseName) (ns : Namespace) :
    LakeCatResult (Namespace × TursoWrites) := do
  let ns ← state.loadNamespace warehouse ns
  state.dropNamespace warehouse ns

def loadTable (state : TursoState) (ident : TableIdent) : LakeCatResult TableRecord := do
  let row ← okOr (state.activeTable (tableKey ident)) (tableNotFound ident)
  validateTableRecordScope row.record ident (tableKey ident) row
  return row.record

def replayTableCommit (state : TursoState) (ident : TableIdent)
    (idempotencyKey idempotencyRequestHash : String) : LakeCatResult (Option TableRecord) := do
  validateIdempotencyKeyShape idempotencyKey
  validateIdempotencyRequestHashShape idempotencyRequestHash
  match state.idempotency[idempotencyRecordKey ident idempotencyKey]? with
  | none => return none
  | some replay => do
      let response ← MemoryState.answerReplay ident replay idempotencyRequestHash
      return some response

variable [External]

/-- Without an end the records are listed up to the largest number of the column. -/
def tableCommitRecords (state : TursoState) (ident : TableIdent) (startVersion : UInt64)
    (endVersion : Option UInt64) : LakeCatResult (List TableCommitRecord) := do
  let first ← checkedI64 startVersion "start version"
  let last ← checkedI64 (endVersion.getD 9223372036854775807) "end version"
  collect (fun entry => do
      entry.2.record.validateForTable ident
      validateTursoCommitRecordRow entry.2.record ident (tableKey ident) entry.1 entry.2
      return entry.2.record)
    ((state.pointerLogOf (tableKey ident)).filter fun entry => first ≤ entry.1 ∧ entry.1 ≤ last)

/-- The row of an audit event, which names the table of the event. -/
def tableAuditRow (event : CatalogAuditEvent) : AuditEventRow :=
  { auditRow event with tableKey := event.table.map LakeCat.tableKey }

def recordAuditEvent (state : TursoState) (event : CatalogAuditEvent) :
    LakeCatResult (Unit × TursoWrites) := do
  event.validateRecordable
  let outbox ← outboxEventFromPayload (auditOutboxPayload (auditEventId event) event)
    event.createdAt
  let writes ← state.insertEvents (auditEventId event) (tableAuditRow event) outbox
  return ((), writes)

def replied (state : TursoState) (result : LakeCatResult (α × TursoWrites))
    (shown : α → StoreAnswer) : Option StoreAnswer × TursoState :=
  ((given result fun pair => shown pair.1),
    match result with
    | .ok (_, writes) => applyWrites state writes
    | .error _ => state)

def serve (state : TursoState) : StoreCall → Option StoreAnswer × TursoState
  | .createNamespace warehouse ns properties =>
      state.replied (state.createNamespaceWithProperties warehouse ns properties) fun _ => .done
  | .updateNamespaceProperties warehouse ns update =>
      state.replied (state.updateNamespaceProperties warehouse ns update) .updated
  | .dropNamespace warehouse ns => state.replied (state.dropLoadedNamespace warehouse ns) .ns
  | .createTable table => state.replied (state.createTable table) .table
  | .renameTable source destination principal receipt now =>
      state.replied (state.renameTable source destination principal receipt now) .table
  | .commitTable ident commit snapshotVersion now =>
      state.replied (state.commitTableExpecting ident commit snapshotVersion now) .table
  | .softDeleteTable ident principal receipt now =>
      state.replied (state.softDeleteTable ident principal receipt now) .table
  | .restoreTable ident principal receipt now =>
      state.replied (state.restoreTable ident principal receipt now) .table
  | .upsertPolicyBinding binding => state.replied (state.upsertPolicyBinding binding) .binding
  | .recordAuditEvent event => state.replied (state.recordAuditEvent event) fun _ => .done
  | .loadNamespace warehouse ns => (given (state.loadNamespace warehouse ns) .ns, state)
  | .loadNamespaceProperties warehouse ns =>
      (given (state.loadNamespaceProperties warehouse ns) .properties, state)
  | .loadTable ident => (given (state.loadTable ident) .table, state)
  | .replayTableCommit ident idempotencyKey idempotencyRequestHash =>
      (given (state.replayTableCommit ident idempotencyKey idempotencyRequestHash) .replay, state)
  | .tableCommitRecords ident startVersion endVersion =>
      (given (state.tableCommitRecords ident startVersion endVersion) .commits, state)

/-- The ids of the two events that a call records when it is accepted. -/
def recordedIds (state : TursoState) : StoreCall → Option (String × String)
  | .commitTable ident commit _ now => do
      let row ← state.tables[tableKey ident]?
      let record := MemoryState.commitRecord ident row.record commit now
      return (contentHashJson
          (MemoryState.commitAuditPayload ident record commit.authorizationReceipt),
        contentHashJson
          (MemoryState.commitOutboxPayload ident record commit.authorizationReceipt))
  | .softDeleteTable ident principal receipt now => do
      let row ← state.tables[tableKey ident]?
      let record := MemoryState.softDeleteRecord ident row.record principal receipt now
      return (contentHashJson (MemoryState.softDeleteAuditPayload ident record),
        contentHashJson (MemoryState.softDeleteOutboxPayload ident record))
  | .restoreTable ident _ receipt _ => do
      let row ← state.tables[tableKey ident]?
      return (contentHashJson (MemoryState.restoreAuditPayload ident row.record receipt),
        contentHashJson (MemoryState.restoreOutboxPayload ident row.record receipt))
  | .renameTable source destination principal receipt now => do
      let row ← state.tables[tableKey source]?
      let audit := renameAuditEvent source
        (MemoryState.renamedTable destination now row.record) principal receipt now
      return (auditEventId audit, (renameOutboxEvent audit now).eventId)
  | .recordAuditEvent event => some (auditEventId event, (MemoryState.auditOutbox event).eventId)
  | _ => none

/-- The calls that the stores may answer in two ways: a version that does not fit the column, a
snapshot of another version with the same pointer, a replay for a table that is soft-deleted,
an event that was recorded before, and a listing out of the range of the column. -/
inductive Parts (state : TursoState) : StoreCall → Prop
  | largeVersion (table : TableRecord) (large : 2 ^ 63 ≤ table.version.toNat) :
      Parts state (.createTable table)
  | fullVersion (ident : TableIdent) (commit : TableCommit) (snapshotVersion : Option UInt64)
      (now : Timestamp) (row : TableRow) (stored : state.tables[tableKey ident]? = some row)
      (full : 2 ^ 63 ≤ row.record.version.toNat + 1) :
      Parts state (.commitTable ident commit snapshotVersion now)
  | staleVersion (ident : TableIdent) (commit : TableCommit) (version : UInt64) (now : Timestamp)
      (row : TableRow) (stored : state.tables[tableKey ident]? = some row)
      (pointer : row.record.metadataLocation = commit.expectedPreviousMetadataLocation)
      (stale : row.record.version ≠ version) :
      Parts state (.commitTable ident commit (some version) now)
  | replayOfDeleted (ident : TableIdent) (commit : TableCommit) (snapshotVersion : Option UInt64)
      (now : Timestamp) (deleted : state.softDeletes.contains (tableKey ident) = true)
      (stored : (state.storedReplay ident commit.idempotencyKey).isSome = true) :
      Parts state (.commitTable ident commit snapshotVersion now)
  | recordedBefore (call : StoreCall) (auditId outboxId : String)
      (records : state.recordedIds call = some (auditId, outboxId))
      (taken : state.auditEvents.contains auditId = true ∨
        state.outboxEvents.contains outboxId = true) : Parts state call
  | outOfRange (ident : TableIdent) (startVersion : UInt64) (endVersion : Option UInt64)
      (far : 2 ^ 63 ≤ startVersion.toNat ∨
        ∃ last, endVersion = some last ∧ 2 ^ 63 ≤ last.toNat) :
      Parts state (.tableCommitRecords ident startVersion endVersion)

end TursoState

/-- Property maps as their constructors make them. -/
def NamespaceProperties.Made (properties : NamespaceProperties) : Prop :=
  validateNamespacePropertyKeys properties.properties.keys = .ok ()

/-- A call whose arguments were made by their constructors. -/
def StoreCall.Made : StoreCall → Prop
  | .createNamespace _ _ properties => properties.Made
  | .updateNamespaceProperties _ _ update =>
      validateNamespacePropertyKeys update.updates.keys = .ok ()
  | .upsertPolicyBinding binding => binding.warehouse.Made
  | _ => True

end LakeCat
