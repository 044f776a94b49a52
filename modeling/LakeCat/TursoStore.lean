import LakeCat.TursoRows

/-!
The bodies of the Turso store's transactions on namespaces and tables. A body
reads one snapshot and returns its answer with the rows it writes; a statement
that inserts a row whose primary key is taken ends the body.
-/

namespace LakeCat

open Fallible

/-- `checked_i64`. -/
def checkedI64 (value : UInt64) (name : String) : LakeCatResult Int := do
  rejectIf (2 ^ 63 ≤ value.toNat) (.invalidArgument (name ++ " exceeds i64 range"))
  return value.toNat

def rowScopeMismatch (kind identity : String) : LakeCatError :=
  .internal s!"{kind} row scope does not match {identity}"

def validateTableRecordScope (record : TableRecord) (ident : TableIdent) (key : String)
    (row : TableRow) : LakeCatResult Unit := do
  validateTableRecordIdentity record ident
  rejectIf (key ≠ tableKey ident ∨ row.warehouse ≠ ident.warehouse.value ∨
      row.namespacePath ≠ ident.ns.storageKey ∨ row.tableName ≠ ident.name.value)
    (rowScopeMismatch "table record" "requested table")

def validateNamespaceScope (ns : Namespace) (path : String) : LakeCatResult Unit :=
  rejectIf (ns.storageKey ≠ path) (rowScopeMismatch "namespace" "namespace identity")

def validateTursoSoftDeleteRow (record : SoftDeleteRecord) (ident : TableIdent) (key : String)
    (row : SoftDeleteRow) : LakeCatResult Unit := do
  rejectIf (key ≠ tableKey ident ∨ row.warehouse ≠ record.table.warehouse.value ∨
      row.namespacePath ≠ record.table.ns.storageKey ∨ row.tableName ≠ record.table.name.value)
    (rowScopeMismatch "soft-delete" "record identity")
  rejectIf (record.metadataLocation ≠ row.metadataLocation)
    (.internal "soft-delete metadata location does not match row")
  rejectIf (row.version < 0) (.internal "soft-delete row version must be non-negative")
  rejectIf (Int.ofNat record.version.toNat ≠ row.version)
    (.internal "soft-delete version does not match row")
  rejectIf (record.deletedAt ≠ row.deletedAt)
    (.internal "soft-delete timestamp does not match row")

def validateTursoCommitRecordRow (record : TableCommitRecord) (ident : TableIdent)
    (key : String) (sequence : Int) (row : PointerLogRow) : LakeCatResult Unit := do
  rejectIf (key ≠ tableKey ident)
    (.internal "table commit record row scope does not match requested table")
  rejectIf (sequence < 0)
    (.internal "Turso metadata pointer log sequence number must be positive")
  rejectIf (Int.ofNat record.sequenceNumber.toNat ≠ sequence)
    (.internal "table commit record sequence number does not match pointer log row")
  rejectIf (record.previousMetadataLocation ≠ row.previousMetadataLocation)
    (.internal "table commit record previous metadata location does not match pointer log row")
  rejectIf (record.newMetadataLocation ≠ row.newMetadataLocation)
    (.internal "table commit record new metadata location does not match pointer log row")
  rejectIf (record.requestHash ≠ row.requestHash)
    (.internal "table commit record request hash does not match pointer log row")
  rejectIf (record.principal ≠ row.principal)
    (.internal "table commit record principal does not match pointer log row")
  rejectIf (record.committedAt ≠ row.committedAt)
    (.internal "table commit record timestamp does not match pointer log row")

def validatePolicyBindingScope [External] (binding : PolicyBinding) (warehouse : WarehouseName)
    (row : PolicyBindingRow) : LakeCatResult Unit := do
  binding.validate
  rejectIf (binding.warehouse ≠ warehouse ∨ binding.policyId ≠ row.policyId ∨
      binding.ns.map Namespace.storageKey ≠ row.namespacePath ∨
      binding.table.map TableName.asStr ≠ row.tableName ∨ binding.enforced ≠ row.enforced)
    (rowScopeMismatch "policy binding" "binding identity")

namespace TursoState

/-- The registration under a key, unless it is soft-deleted. -/
def activeTable (state : TursoState) (key : String) : Option TableRow :=
  if state.softDeletes.contains key then none else state.tables[key]?

def namespaceStored (state : TursoState) (warehouse : WarehouseName) (ns : Namespace) : Bool :=
  state.namespaces.contains (warehouse.value, ns.storageKey)

/-- The row of a table record. -/
def tableRow (table : TableRecord) (version : Int) : TableRow where
  warehouse := table.ident.warehouse.value
  namespacePath := table.ident.ns.storageKey
  tableName := table.ident.name.value
  metadataLocation := table.metadataLocation
  version := version
  record := table

/-- Whether a row lies in a namespace, by its columns. -/
def tableInNamespace (row : TableRow) (warehouse : WarehouseName) (path : String) : Bool :=
  row.warehouse = warehouse.value && row.namespacePath = path

section
variable [External]

def constraintError (table : String) : LakeCatError :=
  .internal ("Turso catalog store error: " ++ External.constraintText table)

omit [External] in
def insertRow (state : TursoState) (row : TursoRow) (cell : row.Cell) (violated : LakeCatError) :
    LakeCatResult (SnapshotIsolation.Write tursoRows) := do
  rejectIf (state.lookup row).isSome violated
  return row.put cell

/-- The audit event and the outbox event that end a transaction on a table. -/
def insertEvents (state : TursoState) (auditId : String) (audit : AuditEventRow)
    (outbox : OutboxEvent) : LakeCatResult TursoWrites := do
  let auditWrite ← state.insertRow (.auditEvent auditId) audit (constraintError "audit_events")
  let outboxWrite ← state.insertRow (.outboxEvent outbox.eventId)
    ⟨outbox.sink, outbox.eventType, outbox.payload, outbox.createdAt, outbox.deliveredAt⟩
    (constraintError "outbox_events")
  return [auditWrite, outboxWrite]

/-- An event whose id is the hash of its payload. -/
def payloadAudit (eventType key : String) (principal : Principal) (payload : Json)
    (now : Timestamp) : AuditEventRow :=
  ⟨eventType, some key, principal, some (contentHashJson payload), payload, now⟩

def createNamespaceWithProperties (state : TursoState) (warehouse : WarehouseName)
    (ns : Namespace) (properties : NamespaceProperties) : LakeCatResult (Unit × TursoWrites) := do
  let nsWrite ← state.insertRow (.ns warehouse.value ns.storageKey) ⟨ns⟩
    (.alreadyExists "namespace" ns.path)
  let propertiesWrite ← state.insertRow (.namespaceProperties warehouse.value ns.storageKey)
    properties (constraintError "namespace_properties")
  return ((), [nsWrite, propertiesWrite])

omit [External] in
def loadNamespace (state : TursoState) (warehouse : WarehouseName) (ns : Namespace) :
    LakeCatResult Namespace := do
  let row ← okOr state.namespaces[(warehouse.value, ns.storageKey)]? (namespaceNotFound ns)
  validateNamespaceScope row.ns ns.storageKey
  return row.ns

omit [External] in
def createTable (state : TursoState) (table : TableRecord) :
    LakeCatResult (TableRecord × TursoWrites) := do
  table.validate
  rejectIf (¬state.namespaceStored table.ident.warehouse table.ident.ns)
    (namespaceNotFound table.ident.ns)
  let version ← checkedI64 table.version "table version"
  let write ← state.insertRow (.table (tableKey table.ident)) (tableRow table version)
    (tableAlreadyExists table.ident)
  return (table, [write])

def insertReplay (state : TursoState) (ident : TableIdent) (idempotencyKey : Option String)
    (replay : IdempotencyReplay) : LakeCatResult TursoWrites :=
  match idempotencyKey with
  | none => .ok []
  | some idempotencyKey => do
      let write ← state.insertRow (.idempotency (idempotencyRecordKey ident idempotencyKey)) replay
        (constraintError "idempotency_records")
      return [write]

/-- What `commit_table_expecting` does once no stored replay answers the call. -/
def commitFresh (state : TursoState) (ident : TableIdent) (commit : TableCommit)
    (expectedVersion : Option UInt64) (now : Timestamp) :
    LakeCatResult (TableRecord × TursoWrites) := do
  let key := tableKey ident
  let row ← okOr (state.activeTable key) (tableNotFound ident)
  validateTableRecordScope row.record ident key row
  let current := row.record
  rejectIf (current.metadataLocation ≠ commit.expectedPreviousMetadataLocation)
    (metadataPointerConflict ident commit.expectedPreviousMetadataLocation
      current.metadataLocation)
  checkSome (fun version => rejectIf (current.version ≠ version)
    (.conflict ("table version changed for " ++ ident.stableId ++
      s!"; expected-version={version}; actual-version={current.version}"))) expectedVersion
  let table := MemoryState.committedTable current commit now
  let record := MemoryState.commitRecord ident current commit now
  record.validateForTable ident
  let version ← checkedI64 table.version "table version"
  rejectIf (row.metadataLocation ≠ commit.expectedPreviousMetadataLocation)
    (metadataPointerConflict ident commit.expectedPreviousMetadataLocation
      record.previousMetadataLocation)
  let sequence ← checkedI64 record.sequenceNumber "sequence number"
  let logWrite ← state.insertRow (.pointerLog key sequence)
    ⟨record.previousMetadataLocation, record.newMetadataLocation, record.principal,
      record.requestHash, record.committedAt, record⟩ (constraintError "metadata_pointer_log")
  let auditPayload := MemoryState.commitAuditPayload ident record commit.authorizationReceipt
  let events ← state.insertEvents (contentHashJson auditPayload)
    (payloadAudit "table.commit" key commit.principal auditPayload now)
    (outboxEvent "table.commit"
      (MemoryState.commitOutboxPayload ident record commit.authorizationReceipt) now)
  let replay ← state.insertReplay ident commit.idempotencyKey
    ⟨key, commit.idempotencyRequestHash.getD record.requestHash, table⟩
  let updated : TableRow := {
    row with
    metadataLocation := table.metadataLocation
    version := version
    record := table
  }
  return (table, [TursoRow.put (.table key) updated, logWrite] ++ events ++ replay)

def storedReplay (state : TursoState) (ident : TableIdent) (idempotencyKey : Option String) :
    Option IdempotencyReplay := do
  state.idempotency[idempotencyRecordKey ident (← idempotencyKey)]?

def commitTableExpecting (state : TursoState) (ident : TableIdent) (commit : TableCommit)
    (expectedVersion : Option UInt64) (now : Timestamp) :
    LakeCatResult (TableRecord × TursoWrites) := do
  commit.validate
  match state.storedReplay ident commit.idempotencyKey with
  | some replay => do
      let response ← MemoryState.answerReplay ident replay
        (commit.idempotencyRequestHash.getD (MemoryState.commitRequestHash commit))
      return (response, [])
  | none => state.commitFresh ident commit expectedVersion now

def softDeleteRow (record : SoftDeleteRecord) (version : Int) : SoftDeleteRow where
  warehouse := record.table.warehouse.value
  namespacePath := record.table.ns.storageKey
  tableName := record.table.name.value
  metadataLocation := record.metadataLocation
  version := version
  deletedAt := record.deletedAt
  record := record

def softDeleteTable (state : TursoState) (ident : TableIdent) (principal : Principal)
    (authorizationReceipt : Option Json) (now : Timestamp) :
    LakeCatResult (TableRecord × TursoWrites) := do
  rejectIf (¬state.namespaceStored ident.warehouse ident.ns) (namespaceNotFound ident.ns)
  let key := tableKey ident
  let row ← okOr (state.activeTable key) (tableNotFound ident)
  validateTableRecordScope row.record ident key row
  let record := MemoryState.softDeleteRecord ident row.record principal authorizationReceipt now
  record.validateForTable ident row.record
  let version ← checkedI64 row.record.version "table version"
  let deleteWrite ← state.insertRow (.softDelete key) (softDeleteRow record version)
    (constraintError "soft_deletes")
  let auditPayload := MemoryState.softDeleteAuditPayload ident record
  let events ← state.insertEvents (contentHashJson auditPayload)
    (payloadAudit "table.deleted" key principal auditPayload now)
    (outboxEvent "table.deleted" (MemoryState.softDeleteOutboxPayload ident record) now)
  return (row.record, deleteWrite :: events)

def restoreTable (state : TursoState) (ident : TableIdent) (principal : Principal)
    (authorizationReceipt : Option Json) (now : Timestamp) :
    LakeCatResult (TableRecord × TursoWrites) := do
  rejectIf (¬state.namespaceStored ident.warehouse ident.ns) (namespaceNotFound ident.ns)
  let key := tableKey ident
  let missing : LakeCatError := .notFound "soft-deleted table" ident.stableId
  let row ← okOr state.tables[key]? missing
  let deletion ← okOr state.softDeletes[key]? missing
  validateTableRecordScope row.record ident key row
  deletion.record.validateForTable ident row.record
  validateTursoSoftDeleteRow deletion.record ident key deletion
  let auditPayload := MemoryState.restoreAuditPayload ident row.record authorizationReceipt
  let events ← state.insertEvents (contentHashJson auditPayload)
    (payloadAudit "table.restored" key principal auditPayload now)
    (outboxEvent "table.restored"
      (MemoryState.restoreOutboxPayload ident row.record authorizationReceipt) now)
  return (row.record, TursoRow.delete (.softDelete key) :: events)

/-- The pointer log of a table, in the order of its sequence numbers. -/
def pointerLogOf (state : TursoState) (key : String) : List (Int × PointerLogRow) :=
  (state.pointerLog.toList.filter fun entry => entry.1.1 = key).map fun entry =>
    (entry.1.2, entry.2)

/-- The commit records of the source, each under the new name. -/
def renamedCommits (source destination : TableIdent) :
    List (Int × PointerLogRow) → LakeCatResult (List (Int × PointerLogRow))
  | [] => .ok []
  | (sequence, row) :: rest => do
      row.record.validateForTable source
      validateTursoCommitRecordRow row.record source (tableKey source) sequence row
      let record := { row.record with table := destination }
      record.validateForTable destination
      let others ← renamedCommits source destination rest
      return (sequence, { row with record := record }) :: others

omit [External] in
/-- A row that the rename of a table retires, or must not find. -/
def isIdempotencyOf (ident : TableIdent) (key : String) (replay : IdempotencyReplay) : Bool :=
  replay.tableKey = tableKey ident || startsWith key (idempotencyPrefix ident)

omit [External] in
def validateRetiredReplay (source : TableIdent) (key : String) (replay : IdempotencyReplay) :
    LakeCatResult Unit := do
  rejectIf (¬startsWith key (idempotencyPrefix source) ∨ replay.tableKey ≠ tableKey source)
    (.internal "table rename found inconsistent source idempotency scope")
  validateIdempotencyRecordTableKey replay.tableKey source
  validateIdempotencyRecordRequestHash replay.requestHash
  validateTableRecordIdentity replay.response source

omit [External] in
def bindingsOfTable (state : TursoState) (ident : TableIdent) : List (String × PolicyBindingRow) :=
  state.policyBindings.toList.filter fun entry => entry.2.warehouse = ident.warehouse.value &&
    entry.2.namespacePath = some ident.ns.storageKey && entry.2.tableName = some ident.name.value

def renamedBindings (source destination : TableIdent) (renamedAt : Timestamp) :
    List (String × PolicyBindingRow) → LakeCatResult (List (String × PolicyBindingRow))
  | [] => .ok []
  | (key, row) :: rest => do
      validatePolicyBindingScope row.binding source.warehouse row
      rejectIf (key ≠ policyBindingKey row.binding.warehouse row.binding.policyId)
        (rowScopeMismatch "policy binding" "binding identity")
      let binding := {
        row.binding with
        ns := some destination.ns
        table := some destination.name
        updatedAt := renamedAt
      }
      let others ← renamedBindings source destination renamedAt rest
      return (key, {
        row with
        namespacePath := some destination.ns.storageKey
        tableName := some destination.name.value
        binding := binding
      }) :: others

/-- The bindings are all read before the first of them is validated under its new scope. -/
def renameTable (state : TursoState) (source destination : TableIdent) (principal : Principal)
    (authorizationReceipt : Option Json) (now : Timestamp) :
    LakeCatResult (TableRecord × TursoWrites) := do
  rejectIf (source.warehouse ≠ destination.warehouse)
    (.invalidArgument "table rename cannot cross warehouses")
  let sourceKey := tableKey source
  let destinationKey := tableKey destination
  rejectIf (¬state.namespaceStored destination.warehouse destination.ns)
    (namespaceNotFound destination.ns)
  let row ← okOr (state.activeTable sourceKey) (tableNotFound source)
  validateTableRecordScope row.record source sourceKey row
  rejectIf (state.tables.contains destinationKey ∨ state.softDeletes.contains destinationKey)
    (tableAlreadyExists destination)
  rejectIf (state.pointerLogOf destinationKey ≠ [])
    (.internal "table rename destination has orphaned commit history")
  let commits ← renamedCommits source destination (state.pointerLogOf sourceKey)
  rejectIf (state.idempotency.toList.any fun entry => isIdempotencyOf destination entry.1 entry.2)
    (.internal "table rename destination has orphaned idempotency state")
  let retired := state.idempotency.toList.filter fun entry =>
    isIdempotencyOf source entry.1 entry.2
  checkEach (fun entry => validateRetiredReplay source entry.1 entry.2) retired
  let bindings ← renamedBindings source destination now (state.bindingsOfTable source)
  let table := { row.record with ident := destination, updatedAt := now }
  table.validate
  checkEach (fun entry => entry.2.binding.validate) bindings
  let (audit, outbox) ← tableRenameEvents source table principal authorizationReceipt now
  let events ← state.insertEvents (auditEventId audit)
    ⟨audit.eventType, some destinationKey, audit.principal, audit.requestHash, audit.payload, now⟩
    outbox
  return (table,
    [TursoRow.delete (.table sourceKey), TursoRow.put (.table destinationKey) {
      row with
      warehouse := destination.warehouse.value
      namespacePath := destination.ns.storageKey
      tableName := destination.name.value
      record := table
    }] ++
    commits.flatMap (fun entry => [TursoRow.delete (.pointerLog sourceKey entry.1),
      TursoRow.put (.pointerLog destinationKey entry.1) entry.2]) ++
    retired.map (fun entry => TursoRow.delete (.idempotency entry.1)) ++
    bindings.map (fun entry => TursoRow.put (.policyBinding entry.1) entry.2) ++ events)

end

/-- No row of a child namespace is found. -/
def checkChildless (warehouse : WarehouseName) (ns : Namespace) :
    List ((String × String) × NamespaceRow) → LakeCatResult Unit
  | [] => .ok ()
  | ((rowWarehouse, path), row) :: rest => do
      checkWhen (rowWarehouse = warehouse.value ∧ path ≠ ns.storageKey) (do
        validateNamespaceScope row.ns path
        rejectIf (namespaceIsDescendant row.ns ns) (namespaceNotEmpty ns "child namespaces"))
      checkChildless warehouse ns rest

def tablesInNamespace (state : TursoState) (warehouse : WarehouseName) (path : String) :
    List (String × TableRow) :=
  state.tables.toList.filter fun entry => tableInNamespace entry.2 warehouse path

def ensureNamespaceHasNoActiveTables (state : TursoState) (warehouse : WarehouseName)
    (ns : Namespace) : LakeCatResult Unit := do
  let active := (state.tablesInNamespace warehouse ns.storageKey).filter fun entry =>
    !state.softDeletes.contains entry.1
  checkEach (fun (key, row) => validateTableRecordScope row.record row.record.ident key row) active
  rejectIf (active ≠ []) (namespaceNotEmpty ns "tables")

def softDeletedTableKeysInNamespace (state : TursoState) (warehouse : WarehouseName)
    (path : String) : LakeCatResult (List String) := do
  rejectIf (state.softDeletes.toList.any fun (key, row) =>
      row.warehouse = warehouse.value && row.namespacePath = path && !state.tables.contains key)
    (.internal "soft-delete row has no matching table registration")
  let joined := (state.tablesInNamespace warehouse path).filter fun entry =>
    state.softDeletes.contains entry.1
  collect (fun (key, row) => do
      validateTableRecordScope row.record row.record.ident key row
      checkSome (fun deletion => do
        deletion.record.validateForTable row.record.ident row.record
        validateTursoSoftDeleteRow deletion.record row.record.ident key deletion)
        state.softDeletes[key]?
      return key) joined

/-- `delete`, of a row that may be missing. -/
def deleteStored (state : TursoState) (row : TursoRow) : TursoWrites :=
  if (state.lookup row).isSome then [row.delete] else []

/-- Everything filed under a table that goes with its namespace. -/
def retireTable (state : TursoState) (key : String) : TursoWrites :=
  (state.idempotency.toList.filter fun entry => entry.2.tableKey = key).map
    (fun entry => TursoRow.delete (.idempotency entry.1)) ++
  (state.pointerLogOf key).map (fun entry => TursoRow.delete (.pointerLog key entry.1)) ++
  state.deleteStored (.softDelete key) ++ state.deleteStored (.table key)

/-- The transaction of `drop_namespace`, which begins once the namespace has been loaded. -/
def dropNamespace (state : TursoState) (warehouse : WarehouseName) (ns : Namespace) :
    LakeCatResult (Namespace × TursoWrites) := do
  let path := ns.storageKey
  checkChildless warehouse ns state.namespaces.toList
  state.ensureNamespaceHasNoActiveTables warehouse ns
  let retired ← state.softDeletedTableKeysInNamespace warehouse path
  rejectIf (state.views.toList.any fun (_, view) =>
      view.warehouse = warehouse.value && view.namespacePath = path)
    (namespaceNotEmpty ns "views")
  rejectIf (state.policyBindings.toList.any fun (_, binding) =>
      binding.warehouse = warehouse.value && binding.namespacePath = some path)
    (namespaceNotEmpty ns "policy bindings")
  return (ns, retired.flatMap state.retireTable ++
    state.deleteStored (.namespaceProperties warehouse.value path) ++
    state.deleteStored (.ns warehouse.value path))

end TursoState

end LakeCat
