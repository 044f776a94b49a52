import LakeCat.TursoStore
import LakeCat.CommitEvidence

/-!
What a transaction of the Turso store has read when it succeeds and which rows
it writes, one lemma for each transaction. Rows on namespaces, tables and soft
deletes are written out; the others are only said to be others.
-/

namespace LakeCat

open Fallible

/-- The rows that say which tables there are. -/
def TursoRow.isCatalog : TursoRow → Bool
  | .ns _ _ | .table _ | .softDelete _ => true
  | _ => false

/-- None of the writes touches a row of the catalog. -/
def Evidential (writes : TursoWrites) : Prop :=
  ∀ change ∈ writes, change.row.isCatalog = false

theorem Evidential.append {first second : TursoWrites} (earlier : Evidential first)
    (later : Evidential second) : Evidential (first ++ second) := by
  intro change member
  rcases List.mem_append.mp member with inFirst | inSecond
  · exact earlier change inFirst
  · exact later change inSecond

theorem lookup_catalog (state : TursoState) (first others : TursoWrites)
    (evidential : Evidential others) (row : TursoRow) (catalog : row.isCatalog = true) :
    TursoState.lookup (SnapshotIsolation.applyWrites state (first ++ others)) row =
      TursoState.lookup (SnapshotIsolation.applyWrites state first) row := by
  rw [SnapshotIsolation.applyWrites_append]
  refine SnapshotIsolation.lookup_unwritten (SnapshotIsolation.applyWrites state first) others row ?_
  intro change member same
  exact absurd ((evidential change member).symm.trans (congrArg TursoRow.isCatalog same))
    (by simp [catalog])

/-- A table row in the columns of an identity. -/
structure TableRow.Placed (row : TableRow) (ident : TableIdent) (key : String) : Prop where
  valid : row.record.Valid
  owner : row.record.ident = ident
  keyed : key = tableKey ident
  warehouse : row.warehouse = ident.warehouse.value
  path : row.namespacePath = ident.ns.storageKey
  name : row.tableName = ident.name.value

theorem validateTableRecordScope_ok (row : TableRow) (ident : TableIdent) (key : String)
    (done : Unit) :
    validateTableRecordScope row.record ident key row = .ok done ↔ row.Placed ident key := by
  simp only [validateTableRecordScope, bind_unit_eq_ok, validateTableRecordIdentity_ok,
    rejectIf_ok, not_or, ne_eq, not_not]
  constructor
  · rintro ⟨⟨valid, owner⟩, keyed, warehouse, path, name⟩
    exact ⟨valid, owner, keyed, warehouse, path, name⟩
  · rintro ⟨valid, owner, keyed, warehouse, path, name⟩
    exact ⟨⟨valid, owner⟩, keyed, warehouse, path, name⟩

/-- A soft-delete row in the columns of its own record. -/
structure SoftDeleteRow.Placed (row : SoftDeleteRow) (ident : TableIdent) (key : String) :
    Prop where
  keyed : key = tableKey ident
  warehouse : row.warehouse = row.record.table.warehouse.value
  path : row.namespacePath = row.record.table.ns.storageKey
  name : row.tableName = row.record.table.name.value
  pointer : row.record.metadataLocation = row.metadataLocation
  version : (row.record.version.toNat : Int) = row.version
  deletedAt : row.record.deletedAt = row.deletedAt

theorem validateTursoSoftDeleteRow_ok (row : SoftDeleteRow) (ident : TableIdent) (key : String)
    (done : Unit) :
    validateTursoSoftDeleteRow row.record ident key row = .ok done ↔ row.Placed ident key := by
  simp only [validateTursoSoftDeleteRow, bind_unit_eq_ok, rejectIf_ok, not_or, ne_eq, not_not,
    not_lt, Int.ofNat_eq_natCast]
  constructor
  · rintro ⟨⟨keyed, warehouse, path, name⟩, pointer, _, version, deletedAt⟩
    exact ⟨keyed, warehouse, path, name, pointer, version, deletedAt⟩
  · rintro ⟨keyed, warehouse, path, name, pointer, version, deletedAt⟩
    exact ⟨⟨keyed, warehouse, path, name⟩, pointer, by omega, version, deletedAt⟩

theorem checkedI64_ok (value : UInt64) (name : String) (result : Int) :
    checkedI64 value name = .ok result ↔ value.toNat < 2 ^ 63 ∧ result = value.toNat := by
  simp only [checkedI64, rejectIf_bind, not_le, pure_eq, Except.ok.injEq]
  exact and_congr_right fun _ => eq_comm

namespace TursoState

theorem insertRow_ok (state : TursoState) (row : TursoRow) (cell : row.Cell)
    (violated : LakeCatError) (change : SnapshotIsolation.Write tursoRows) :
    state.insertRow row cell violated = .ok change ↔
      state.lookup row = none ∧ change = row.put cell := by
  simp only [insertRow, rejectIf_bind, Bool.not_eq_true, Option.isSome_eq_false_iff,
    Option.isNone_iff_eq_none, pure_eq, Except.ok.injEq]
  exact and_congr_right fun _ => eq_comm

theorem activeTable_eq_some (state : TursoState) (key : String) (row : TableRow) :
    state.activeTable key = some row ↔
      state.softDeletes[key]? = none ∧ state.tables[key]? = some row := by
  rw [activeTable, ← OrderedMap.contains_eq_false]
  cases state.softDeletes.contains key <;> simp

variable [External]

theorem insertEvents_ok (state : TursoState) (auditId : String) (audit : AuditEventRow)
    (outbox : OutboxEvent) (writes : TursoWrites) :
    state.insertEvents auditId audit outbox = .ok writes ↔
      state.auditEvents[auditId]? = none ∧ state.outboxEvents[outbox.eventId]? = none ∧
        writes = [TursoRow.put (.auditEvent auditId) audit, TursoRow.put (.outboxEvent outbox.eventId)
          ⟨outbox.sink, outbox.eventType, outbox.payload, outbox.createdAt, outbox.deliveredAt⟩] := by
  simp only [insertEvents, bind_eq_ok, insertRow_ok, pure_eq, Except.ok.injEq]
  constructor
  · rintro ⟨_, ⟨auditFresh, rfl⟩, _, ⟨outboxFresh, rfl⟩, rfl⟩
    exact ⟨auditFresh, outboxFresh, rfl⟩
  · rintro ⟨auditFresh, outboxFresh, rfl⟩
    exact ⟨_, ⟨auditFresh, rfl⟩, _, ⟨outboxFresh, rfl⟩, rfl⟩

theorem insertEvents_evidential {state : TursoState} {auditId : String} {audit : AuditEventRow}
    {outbox : OutboxEvent} {writes : TursoWrites}
    (inserted : state.insertEvents auditId audit outbox = .ok writes) : Evidential writes := by
  obtain ⟨_, _, rfl⟩ := (insertEvents_ok _ _ _ _ _).mp inserted
  intro change member
  simp only [List.mem_cons, List.not_mem_nil, or_false] at member
  rcases member with rfl | rfl <;> rfl

theorem insertReplay_evidential {state : TursoState} {ident : TableIdent}
    {idempotencyKey : Option String} {replay : IdempotencyReplay} {writes : TursoWrites}
    (inserted : state.insertReplay ident idempotencyKey replay = .ok writes) :
    Evidential writes := by
  cases idempotencyKey with
  | none =>
      obtain rfl := Except.ok.inj inserted
      exact fun change member => nomatch member
  | some key =>
      simp only [insertReplay, bind_eq_ok, insertRow_ok, pure_eq, Except.ok.injEq] at inserted
      obtain ⟨_, ⟨_, rfl⟩, rfl⟩ := inserted
      intro change member
      obtain rfl := List.mem_singleton.mp member
      rfl

theorem createNamespaceWithProperties_ok (state : TursoState) (warehouse : WarehouseName)
    (ns : Namespace) (properties : NamespaceProperties) (done : Unit) (writes : TursoWrites) :
    state.createNamespaceWithProperties warehouse ns properties = .ok (done, writes) ↔
      state.namespaces[(warehouse.value, ns.storageKey)]? = none ∧
        state.namespaceProperties[(warehouse.value, ns.storageKey)]? = none ∧
        writes = [TursoRow.put (.ns warehouse.value ns.storageKey) ⟨ns⟩,
          TursoRow.put (.namespaceProperties warehouse.value ns.storageKey) properties] := by
  simp only [createNamespaceWithProperties, bind_eq_ok, insertRow_ok, pure_eq, return_eq_ok]
  constructor
  · rintro ⟨_, ⟨vacant, rfl⟩, _, ⟨blank, rfl⟩, _, rfl⟩
    exact ⟨vacant, blank, rfl⟩
  · rintro ⟨vacant, blank, rfl⟩
    exact ⟨_, ⟨vacant, rfl⟩, _, ⟨blank, rfl⟩, trivial, rfl⟩

omit [External] in
theorem createTable_ok (state : TursoState) (table result : TableRecord) (writes : TursoWrites) :
    state.createTable table = .ok (result, writes) ↔
      table.Valid ∧ state.namespaceStored table.ident.warehouse table.ident.ns = true ∧
        table.version.toNat < 2 ^ 63 ∧ state.tables[tableKey table.ident]? = none ∧
        result = table ∧ writes = [TursoRow.put (.table (tableKey table.ident))
          (tableRow table table.version.toNat)] := by
  simp only [createTable, bind_eq_ok, exists_unit, TableRecord.validate_ok, rejectIf_ok,
    checkedI64_ok, insertRow_ok, pure_eq, return_eq_ok, Bool.not_eq_false, Bool.not_eq_true]
  constructor
  · rintro ⟨valid, stored, _, ⟨bounded, rfl⟩, _, ⟨vacant, rfl⟩, rfl, rfl⟩
    exact ⟨valid, stored, bounded, vacant, rfl, rfl⟩
  · rintro ⟨valid, stored, bounded, vacant, rfl, rfl⟩
    exact ⟨valid, stored, _, ⟨bounded, rfl⟩, _, ⟨vacant, rfl⟩, rfl, rfl⟩

/-- The row that an accepted commit leaves. -/
def committedRow (row : TableRow) (commit : TableCommit) (now : Timestamp) : TableRow :=
  let table := MemoryState.committedTable row.record commit now
  {
    row with
    metadataLocation := table.metadataLocation
    version := table.version.toNat
    record := table
  }

def pointerLogRow (record : TableCommitRecord) : PointerLogRow :=
  ⟨record.previousMetadataLocation, record.newMetadataLocation, record.principal,
    record.requestHash, record.committedAt, record⟩

def commitEvents (state : TursoState) (ident : TableIdent) (commit : TableCommit)
    (record : TableCommitRecord) (now : Timestamp) : LakeCatResult TursoWrites :=
  let auditPayload := MemoryState.commitAuditPayload ident record commit.authorizationReceipt
  state.insertEvents (contentHashJson auditPayload)
    (payloadAudit "table.commit" (tableKey ident) commit.principal auditPayload now)
    (outboxEvent "table.commit"
      (MemoryState.commitOutboxPayload ident record commit.authorizationReceipt) now)

/-- What a commit that no stored replay answers has read. -/
structure Committable (state : TursoState) (ident : TableIdent) (commit : TableCommit)
    (expectedVersion : Option UInt64) (now : Timestamp) (row : TableRow)
    (events replay : TursoWrites) : Prop where
  active : state.activeTable (tableKey ident) = some row
  placed : row.Placed ident (tableKey ident)
  pointer : row.record.metadataLocation = commit.expectedPreviousMetadataLocation
  version : ∀ version, expectedVersion = some version → row.record.version = version
  record : (MemoryState.commitRecord ident row.record commit now).ValidFor ident
  bounded : (row.record.version + 1).toNat < 2 ^ 63
  column : row.metadataLocation = commit.expectedPreviousMetadataLocation
  unlogged : state.lookup (.pointerLog (tableKey ident) (row.record.version + 1).toNat) = none
  events : state.commitEvents ident commit
    (MemoryState.commitRecord ident row.record commit now) now = .ok events
  replay : state.insertReplay ident commit.idempotencyKey ⟨tableKey ident,
    commit.idempotencyRequestHash.getD (MemoryState.commitRequestHash commit),
    MemoryState.committedTable row.record commit now⟩ = .ok replay

/-- The writes of a commit: the row of the table, and its evidence. -/
def commitWrites (ident : TableIdent) (commit : TableCommit) (now : Timestamp) (row : TableRow)
    (events replay : TursoWrites) : TursoWrites :=
  TursoRow.put (.table (tableKey ident)) (committedRow row commit now) ::
    TursoRow.put (.pointerLog (tableKey ident) (row.record.version + 1).toNat)
      (pointerLogRow (MemoryState.commitRecord ident row.record commit now)) :: (events ++ replay)

theorem commitFresh_ok (state : TursoState) (ident : TableIdent) (commit : TableCommit)
    (expectedVersion : Option UInt64) (now : Timestamp) (result : TableRecord)
    (writes : TursoWrites) :
    state.commitFresh ident commit expectedVersion now = .ok (result, writes) ↔
      ∃ row events replay, state.Committable ident commit expectedVersion now row events replay ∧
        result = MemoryState.committedTable row.record commit now ∧
        writes = commitWrites ident commit now row events replay := by
  simp only [commitFresh, bind_eq_ok, exists_unit, okOr_ok, validateTableRecordScope_ok,
    rejectIf_ok, checkSome_ok, TableCommitRecord.validateForTable_ok, checkedI64_ok, insertRow_ok,
    pure_eq, return_eq_ok, ne_eq, not_not]
  constructor
  · rintro ⟨row, active, placed, pointer, version, record, _, ⟨bounded, rfl⟩, column, _, ⟨_, rfl⟩,
      _, ⟨unlogged, rfl⟩, events, inserted, replay, recorded, rfl, rfl⟩
    exact ⟨row, events, replay, ⟨active, placed, pointer, version, record, bounded, column,
      unlogged, inserted, recorded⟩, rfl, rfl⟩
  · rintro ⟨row, events, replay, ⟨active, placed, pointer, version, record, bounded, column,
      unlogged, inserted, recorded⟩, rfl, rfl⟩
    exact ⟨row, active, placed, pointer, version, record, _, ⟨bounded, rfl⟩, column, _,
      ⟨bounded, rfl⟩, _, ⟨unlogged, rfl⟩, events, inserted, replay, recorded, rfl, rfl⟩

theorem commitWrites_evidence {state : TursoState} {ident : TableIdent} {commit : TableCommit}
    {expectedVersion : Option UInt64} {now : Timestamp} {row : TableRow}
    {events replay : TursoWrites}
    (committable : state.Committable ident commit expectedVersion now row events replay) :
    Evidential (TursoRow.put (.pointerLog (tableKey ident) (row.record.version + 1).toNat)
      (pointerLogRow (MemoryState.commitRecord ident row.record commit now)) ::
        (events ++ replay)) := by
  have rest : Evidential (events ++ replay) :=
    (insertEvents_evidential committable.events).append
      (insertReplay_evidential committable.replay)
  intro change member
  rcases List.mem_cons.mp member with rfl | later
  · rfl
  · exact rest change later

/-- A commit answered from a stored replay writes nothing. -/
theorem commitTableExpecting_ok (state : TursoState) (ident : TableIdent) (commit : TableCommit)
    (expectedVersion : Option UInt64) (now : Timestamp) (result : TableRecord)
    (writes : TursoWrites) (accepted : state.commitTableExpecting ident commit expectedVersion now =
      .ok (result, writes)) :
    (state.storedReplay ident commit.idempotencyKey).isSome = true ∧ writes = [] ∨
      state.storedReplay ident commit.idempotencyKey = none ∧ commit.Valid ∧
        ∃ row events replay,
          state.Committable ident commit expectedVersion now row events replay ∧
            writes = commitWrites ident commit now row events replay := by
  simp only [commitTableExpecting, bind_eq_ok, exists_unit, TableCommit.validate_ok] at accepted
  obtain ⟨valid, accepted⟩ := accepted
  split at accepted
  next replay stored =>
    simp only [bind_eq_ok, pure_eq, return_eq_ok] at accepted
    obtain ⟨_, _, _, rfl⟩ := accepted
    exact .inl ⟨congrArg Option.isSome stored, rfl⟩
  next fresh =>
    obtain ⟨row, events, replay, committable, _, rfl⟩ :=
      (commitFresh_ok _ _ _ _ _ _ _).mp accepted
    exact .inr ⟨fresh, valid, row, events, replay, committable, rfl⟩

theorem commitTableExpecting_fresh {state : TursoState} {ident : TableIdent}
    {commit : TableCommit} {expectedVersion : Option UInt64} {now : Timestamp} {row : TableRow}
    {events replay : TursoWrites} (valid : commit.Valid)
    (fresh : state.storedReplay ident commit.idempotencyKey = none)
    (committable : state.Committable ident commit expectedVersion now row events replay) :
    state.commitTableExpecting ident commit expectedVersion now =
      .ok (MemoryState.committedTable row.record commit now,
        commitWrites ident commit now row events replay) := by
  rw [commitTableExpecting, (TableCommit.validate_ok _ ()).mpr valid, ok_bind, fresh]
  exact (commitFresh_ok _ _ _ _ _ _ _).mpr ⟨row, events, replay, committable, rfl, rfl⟩

def softDeleteEvents (state : TursoState) (ident : TableIdent) (principal : Principal)
    (record : SoftDeleteRecord) (now : Timestamp) : LakeCatResult TursoWrites :=
  let auditPayload := MemoryState.softDeleteAuditPayload ident record
  state.insertEvents (contentHashJson auditPayload)
    (payloadAudit "table.deleted" (tableKey ident) principal auditPayload now)
    (outboxEvent "table.deleted" (MemoryState.softDeleteOutboxPayload ident record) now)

/-- What a soft delete has read. -/
structure Deletable (state : TursoState) (ident : TableIdent) (principal : Principal)
    (receipt : Option Json) (now : Timestamp) (row : TableRow) (events : TursoWrites) : Prop where
  ns : state.namespaceStored ident.warehouse ident.ns = true
  active : state.activeTable (tableKey ident) = some row
  placed : row.Placed ident (tableKey ident)
  shape : ∀ document, receipt = some document → document.isObject = true
  bounded : row.record.version.toNat < 2 ^ 63
  events : state.softDeleteEvents ident principal
    (MemoryState.softDeleteRecord ident row.record principal receipt now) now = .ok events

theorem softDeleteTable_ok (state : TursoState) (ident : TableIdent) (principal : Principal)
    (receipt : Option Json) (now : Timestamp) (result : TableRecord) (writes : TursoWrites) :
    state.softDeleteTable ident principal receipt now = .ok (result, writes) ↔
      ∃ row events, state.Deletable ident principal receipt now row events ∧
        result = row.record ∧ writes = TursoRow.put (.softDelete (tableKey ident))
          (softDeleteRow (MemoryState.softDeleteRecord ident row.record principal receipt now)
            row.record.version.toNat) :: events := by
  simp only [softDeleteTable, bind_eq_ok, exists_unit, okOr_ok, validateTableRecordScope_ok,
    rejectIf_ok, SoftDeleteRecord.validateForTable_ok, checkedI64_ok, insertRow_ok, pure_eq,
    return_eq_ok, Bool.not_eq_false, Bool.not_eq_true]
  constructor
  · rintro ⟨ns, row, active, placed, matching, _, ⟨bounded, rfl⟩, _, ⟨_, rfl⟩, events, inserted,
      rfl, rfl⟩
    exact ⟨row, events, ⟨ns, active, placed, matching.receipt, bounded, inserted⟩, rfl, rfl⟩
  · rintro ⟨row, events, ⟨ns, active, placed, shape, bounded, inserted⟩, rfl, rfl⟩
    have matching := (MemoryState.softDeleteRecord_valid ident row.record principal receipt now
      placed.valid placed.owner).mpr shape
    have vacant := ((activeTable_eq_some _ _ _).mp active).1
    exact ⟨ns, row, active, placed, matching, _, ⟨bounded, rfl⟩, _, ⟨vacant, rfl⟩, events, inserted,
      rfl, rfl⟩

def restoreEvents (state : TursoState) (ident : TableIdent) (table : TableRecord)
    (principal : Principal) (receipt : Option Json) (now : Timestamp) :
    LakeCatResult TursoWrites :=
  let auditPayload := MemoryState.restoreAuditPayload ident table receipt
  state.insertEvents (contentHashJson auditPayload)
    (payloadAudit "table.restored" (tableKey ident) principal auditPayload now)
    (outboxEvent "table.restored" (MemoryState.restoreOutboxPayload ident table receipt) now)

/-- What a restore has read. -/
structure Restorable (state : TursoState) (ident : TableIdent) (row : TableRow)
    (deletion : SoftDeleteRow) : Prop where
  ns : state.namespaceStored ident.warehouse ident.ns = true
  stored : state.tables[tableKey ident]? = some row
  deleted : state.softDeletes[tableKey ident]? = some deletion
  placed : row.Placed ident (tableKey ident)
  matching : deletion.record.ValidFor ident row.record
  filed : deletion.Placed ident (tableKey ident)

theorem restoreTable_ok (state : TursoState) (ident : TableIdent) (principal : Principal)
    (receipt : Option Json) (now : Timestamp) (result : TableRecord) (writes : TursoWrites) :
    state.restoreTable ident principal receipt now = .ok (result, writes) ↔
      ∃ row deletion events, state.Restorable ident row deletion ∧
        state.restoreEvents ident row.record principal receipt now = .ok events ∧
        result = row.record ∧ writes = TursoRow.delete (.softDelete (tableKey ident)) :: events := by
  simp only [restoreTable, bind_eq_ok, exists_unit, okOr_ok, validateTableRecordScope_ok,
    rejectIf_ok, SoftDeleteRecord.validateForTable_ok, validateTursoSoftDeleteRow_ok, pure_eq,
    return_eq_ok, Bool.not_eq_false, Bool.not_eq_true]
  constructor
  · rintro ⟨ns, row, stored, deletion, deleted, placed, matching, filed, events, inserted, rfl, rfl⟩
    exact ⟨row, deletion, events, ⟨ns, stored, deleted, placed, matching, filed⟩, inserted, rfl,
      rfl⟩
  · rintro ⟨row, deletion, events, ⟨ns, stored, deleted, placed, matching, filed⟩, inserted, rfl,
      rfl⟩
    exact ⟨ns, row, stored, deletion, deleted, placed, matching, filed, events, inserted, rfl, rfl⟩

/-- The row that a rename leaves under the new key. -/
def renamedRow (row : TableRow) (destination : TableIdent) (now : Timestamp) : TableRow where
  warehouse := destination.warehouse.value
  namespacePath := destination.ns.storageKey
  tableName := destination.name.value
  metadataLocation := row.metadataLocation
  version := row.version
  record := { row.record with ident := destination, updatedAt := now }

/-- What a rename has read of the catalog. -/
structure Renamable (state : TursoState) (source destination : TableIdent) (now : Timestamp)
    (row : TableRow) : Prop where
  warehouse : source.warehouse = destination.warehouse
  ns : state.namespaceStored destination.warehouse destination.ns = true
  active : state.activeTable (tableKey source) = some row
  placed : row.Placed source (tableKey source)
  vacant : state.tables[tableKey destination]? = none
  undeleted : state.softDeletes[tableKey destination]? = none
  valid : (renamedRow row destination now).record.Valid

theorem renameTable_ok (state : TursoState) (source destination : TableIdent)
    (principal : Principal) (receipt : Option Json) (now : Timestamp) (result : TableRecord)
    (writes : TursoWrites)
    (renamed : state.renameTable source destination principal receipt now = .ok (result, writes)) :
    ∃ row others, state.Renamable source destination now row ∧ Evidential others ∧
      writes = TursoRow.delete (.table (tableKey source)) ::
        TursoRow.put (.table (tableKey destination)) (renamedRow row destination now) ::
          others := by
  simp only [renameTable, bind_eq_ok, exists_unit, rejectIf_ok, okOr_ok, TableRecord.validate_ok,
    validateTableRecordScope_ok, pure_eq, return_eq_ok, Prod.exists, Bool.not_eq_false,
    Bool.not_eq_true, not_or, ne_eq, not_not, OrderedMap.contains_eq_false] at renamed
  obtain ⟨warehouse, ns, row, active, placed, ⟨vacant, undeleted⟩, _, commits, _, _, _, bindings, _,
    valid, _, audit, outbox, _, events, inserted, _, rfl⟩ := renamed
  have moved : Evidential (commits.flatMap fun entry =>
      [TursoRow.delete (.pointerLog (tableKey source) entry.1),
        TursoRow.put (.pointerLog (tableKey destination) entry.1) entry.2]) := by
    intro change member
    obtain ⟨entry, _, inside⟩ := List.mem_flatMap.mp member
    simp only [List.mem_cons, List.not_mem_nil, or_false] at inside
    rcases inside with rfl | rfl <;> rfl
  have retired (replays : List (String × IdempotencyReplay)) : Evidential
      (replays.map fun entry => TursoRow.delete (.idempotency entry.1)) := by
    intro change member
    obtain ⟨entry, _, rfl⟩ := List.mem_map.mp member
    rfl
  have rebound : Evidential
      (bindings.map fun entry => TursoRow.put (.policyBinding entry.1) entry.2) := by
    intro change member
    obtain ⟨entry, _, rfl⟩ := List.mem_map.mp member
    rfl
  exact ⟨row, _, ⟨warehouse, ns, active, placed, vacant, undeleted, valid⟩,
    ((moved.append (retired _)).append rebound).append (insertEvents_evidential inserted), rfl⟩

omit [External]

/-- A namespace with no stored descendant. -/
def Childless (state : TursoState) (warehouse : WarehouseName) (ns : Namespace) : Prop :=
  ∀ (path : String) (row : NamespaceRow), state.namespaces[(warehouse.value, path)]? = some row →
    path ≠ ns.storageKey → namespaceIsDescendant row.ns ns = false

theorem checkChildless_ok (warehouse : WarehouseName) (ns : Namespace)
    (rows : List ((String × String) × NamespaceRow)) (done : Unit)
    (checked : checkChildless warehouse ns rows = .ok done) (path : String) (row : NamespaceRow)
    (member : ((warehouse.value, path), row) ∈ rows) (other : path ≠ ns.storageKey) :
    namespaceIsDescendant row.ns ns = false := by
  induction rows with
  | nil => cases member
  | cons entry rest ih =>
      obtain ⟨⟨rowWarehouse, rowPath⟩, stored⟩ := entry
      simp only [checkChildless, bind_eq_ok, exists_unit, checkWhen_ok, rejectIf_ok,
        Bool.not_eq_true] at checked
      obtain ⟨here, later⟩ := checked
      rcases List.mem_cons.mp member with same | inRest
      · cases same
        exact (here ⟨rfl, other⟩).2
      · exact ih later inRest

theorem tablesInNamespace_mem (state : TursoState) (warehouse : WarehouseName) (path key : String)
    (row : TableRow) : (key, row) ∈ state.tablesInNamespace warehouse path ↔
      state.tables[key]? = some row ∧ tableInNamespace row warehouse path = true := by
  rw [tablesInNamespace, List.mem_filter, OrderedMap.mem_toList]

theorem ensureNamespaceHasNoActiveTables_ok (state : TursoState) (warehouse : WarehouseName)
    (ns : Namespace) (done : Unit)
    (checked : state.ensureNamespaceHasNoActiveTables warehouse ns = .ok done) (key : String)
    (row : TableRow) (stored : state.tables[key]? = some row)
    (inside : tableInNamespace row warehouse ns.storageKey = true) :
    state.softDeletes.contains key = true := by
  simp only [ensureNamespaceHasNoActiveTables, bind_eq_ok, exists_unit, rejectIf_ok, ne_eq,
    not_not, List.filter_eq_nil_iff, Bool.not_eq_true, Bool.not_eq_false'] at checked
  exact checked.2 (key, row) ((tablesInNamespace_mem _ _ _ _ _).mpr ⟨stored, inside⟩)

/-- A soft-deleted table row that goes with its namespace. -/
structure Retirable (state : TursoState) (key : String) (row : TableRow) : Prop where
  placed : row.Placed row.record.ident key
  matching : ∀ deletion : SoftDeleteRow, state.softDeletes[key]? = some deletion →
    deletion.record.ValidFor row.record.ident row.record ∧ deletion.Placed row.record.ident key

theorem softDeletedTableKeysInNamespace_ok (state : TursoState) (warehouse : WarehouseName)
    (path : String) (keys : List String)
    (found : state.softDeletedTableKeysInNamespace warehouse path = .ok keys) :
    keys = ((state.tablesInNamespace warehouse path).filter fun entry =>
      state.softDeletes.contains entry.1).map Prod.fst := by
  simp only [softDeletedTableKeysInNamespace, bind_eq_ok, exists_unit] at found
  refine ((collect_checked _ (fun entry => state.Retirable entry.1 entry.2) Prod.fst ?_ _ _).mp
    found.2).2
  intro entry result
  simp only [bind_eq_ok, exists_unit, validateTableRecordScope_ok, checkSome_ok,
    SoftDeleteRecord.validateForTable_ok, validateTursoSoftDeleteRow_ok, pure_eq, Except.ok.injEq]
  constructor
  · rintro ⟨placed, matching, same⟩
    exact ⟨⟨placed, matching⟩, same.symm⟩
  · rintro ⟨⟨placed, matching⟩, rfl⟩
    exact ⟨placed, matching, rfl⟩

theorem mem_deleteStored (state : TursoState) (row : TursoRow)
    (change : SnapshotIsolation.Write tursoRows) :
    change ∈ state.deleteStored row ↔ (state.lookup row).isSome ∧ change = row.delete := by
  rw [deleteStored]
  cases (state.lookup row).isSome <;> simp

theorem mem_retireTable {state : TursoState} {key : String}
    {change : SnapshotIsolation.Write tursoRows} (member : change ∈ state.retireTable key) :
    change.value = none ∧ (∀ warehouse path, change.row ≠ .ns warehouse path) ∧
      ∀ other, change.row = .table other → other = key := by
  simp only [retireTable, List.mem_append, List.mem_map, mem_deleteStored] at member
  rcases member with ((⟨_, _, rfl⟩ | ⟨_, _, rfl⟩) | ⟨_, rfl⟩) | ⟨_, rfl⟩
  · exact ⟨rfl, fun _ _ => nofun, fun _ => nofun⟩
  · exact ⟨rfl, fun _ _ => nofun, fun _ => nofun⟩
  · exact ⟨rfl, fun _ _ => nofun, fun _ => nofun⟩
  · exact ⟨rfl, fun _ _ => nofun, fun _ same => (TursoRow.table.inj same).symm⟩

/-- What a drop has read of the catalog and what it deletes. -/
structure Dropped (state : TursoState) (warehouse : WarehouseName) (ns : Namespace)
    (writes : TursoWrites) : Prop where
  childless : state.Childless warehouse ns
  retired : ∀ (key : String) (row : TableRow), state.tables[key]? = some row →
    tableInNamespace row warehouse ns.storageKey = true → TursoRow.delete (.table key) ∈ writes
  deletions : ∀ change ∈ writes, change.value = none
  tables : ∀ change ∈ writes, ∀ key, change.row = .table key → ∃ row : TableRow,
    state.tables[key]? = some row ∧ tableInNamespace row warehouse ns.storageKey = true
  own : ∀ change ∈ writes, ∀ rowWarehouse path, change.row = .ns rowWarehouse path →
    rowWarehouse = warehouse.value ∧ path = ns.storageKey ∧
      state.namespaceStored warehouse ns = true
  deleted : state.namespaceStored warehouse ns = true →
    TursoRow.delete (.ns warehouse.value ns.storageKey) ∈ writes

theorem dropNamespace_ok (state : TursoState) (warehouse : WarehouseName) (ns result : Namespace)
    (writes : TursoWrites) (dropped : state.dropNamespace warehouse ns = .ok (result, writes)) :
    state.Dropped warehouse ns writes := by
  simp only [dropNamespace, bind_eq_ok, exists_unit, rejectIf_ok, pure_eq, return_eq_ok] at dropped
  obtain ⟨childless, inactive, keys, found, _, _, _, rfl⟩ := dropped
  have retiredKeys := softDeletedTableKeysInNamespace_ok state warehouse _ keys found
  have registered (key : String) (retired : key ∈ keys) : ∃ row : TableRow,
      state.tables[key]? = some row ∧ tableInNamespace row warehouse ns.storageKey = true := by
    rw [retiredKeys] at retired
    obtain ⟨⟨_, row⟩, member, rfl⟩ := List.mem_map.mp retired
    exact ⟨row, (tablesInNamespace_mem _ _ _ _ _).mp (List.mem_filter.mp member).1⟩
  refine ⟨?_, ?_, ?_, ?_, ?_, ?_⟩
  · intro path row stored other
    exact checkChildless_ok warehouse ns _ _ childless path row
      ((OrderedMap.mem_toList _ _ _).mpr stored) other
  · intro key row stored inside
    have deleted := ensureNamespaceHasNoActiveTables_ok state warehouse ns _ inactive key row
      stored inside
    have retired : key ∈ keys := by
      rw [retiredKeys]
      exact List.mem_map.mpr ⟨(key, row), List.mem_filter.mpr
        ⟨(tablesInNamespace_mem _ _ _ _ _).mpr ⟨stored, inside⟩, deleted⟩, rfl⟩
    have own : TursoRow.delete (.table key) ∈ state.retireTable key := by
      refine List.mem_append_right _ ((mem_deleteStored _ _ _).mpr ⟨?_, rfl⟩)
      exact congrArg Option.isSome stored
    simp only [List.mem_append, List.mem_flatMap]
    exact .inl (.inl ⟨key, retired, own⟩)
  · intro change member
    simp only [List.mem_append, List.mem_flatMap, mem_deleteStored] at member
    rcases member with (⟨key, _, inside⟩ | ⟨_, rfl⟩) | ⟨_, rfl⟩
    · exact (mem_retireTable inside).1
    · rfl
    · rfl
  · intro change member key named
    simp only [List.mem_append, List.mem_flatMap, mem_deleteStored] at member
    rcases member with (⟨other, retired, inside⟩ | ⟨_, rfl⟩) | ⟨_, rfl⟩
    · obtain rfl := (mem_retireTable inside).2.2 key named
      exact registered key retired
    · cases named
    · cases named
  · intro change member rowWarehouse path named
    simp only [List.mem_append, List.mem_flatMap, mem_deleteStored] at member
    rcases member with (⟨key, _, inside⟩ | ⟨_, rfl⟩) | ⟨stored, rfl⟩
    · exact absurd named ((mem_retireTable inside).2.1 _ _)
    · cases named
    · cases named
      refine ⟨rfl, rfl, ?_⟩
      rw [namespaceStored, Std.ExtTreeMap.contains_eq_isSome_getElem?]
      exact stored
  · intro stored
    rw [namespaceStored, Std.ExtTreeMap.contains_eq_isSome_getElem?] at stored
    exact List.mem_append_right _ ((mem_deleteStored _ _ _).mpr ⟨stored, rfl⟩)

end TursoState

end LakeCat
