import LakeCat.StoreCommits

/-!
Renames of tables in both stores. What the Turso store reads of a table through its
columns is what the memory store finds in the records, and what it writes row by
row is what becomes of the records there.
-/

namespace LakeCat

open Fallible SnapshotIsolation

theorem retirable_iff (source destination : TableIdent) (key : String)
    (replay : IdempotencyReplay) :
    MemoryState.RetirableReplay source destination key replay ↔
      TursoState.isIdempotencyOf destination key replay = false ∧
        (TursoState.isIdempotencyOf source key replay = true →
          TursoState.validateRetiredReplay source key replay = .ok ()) := by
  simp only [TursoState.isIdempotencyOf, TursoState.validateRetiredReplay, bind_unit_eq_ok,
    rejectIf_ok, validateIdempotencyRecordTableKey_ok, validateIdempotencyRecordRequestHash_ok,
    validateTableRecordIdentity_ok, Bool.or_eq_false_iff, Bool.or_eq_true, decide_eq_true_eq,
    decide_eq_false_iff_not, not_or, not_not, ne_eq]
  constructor
  · rintro ⟨scope, evidence, response, unkeyed, elsewhere⟩
    refine ⟨⟨elsewhere, unkeyed⟩, fun own => ?_⟩
    have owned : replay.tableKey = tableKey source := own.elim id scope.mp
    exact ⟨⟨scope.mpr owned, owned⟩, owned, evidence owned, response owned⟩
  · rintro ⟨⟨elsewhere, unkeyed⟩, checked⟩
    exact ⟨⟨fun keyed => (checked (.inr keyed)).1.2, fun owned => (checked (.inl owned)).1.1⟩,
      fun owned => (checked (.inl owned)).2.2.1, fun owned => (checked (.inl owned)).2.2.2, unkeyed,
      elsewhere⟩

/-- A retirable replay is found by its key when it is found by its table. -/
theorem MemoryState.RetirableReplay.found {source destination : TableIdent} {key : String}
    {replay : IdempotencyReplay}
    (retirable : MemoryState.RetirableReplay source destination key replay) :
    TursoState.isIdempotencyOf source key replay = startsWith key (idempotencyPrefix source) := by
  rw [Bool.eq_iff_iff, TursoState.isIdempotencyOf, Bool.or_eq_true, decide_eq_true_eq]
  exact ⟨fun own => own.elim retirable.scope.mpr id, .inr⟩

namespace TursoState

theorem mem_pointerLogOf (state : TursoState) (key : String) (sequence : Int)
    (row : PointerLogRow) :
    (sequence, row) ∈ state.pointerLogOf key ↔ state.pointerLog[(key, sequence)]? = some row := by
  simp only [pointerLogOf, List.mem_map, List.mem_filter, decide_eq_true_eq, Prod.exists,
    OrderedMap.mem_toList, Prod.mk.injEq]
  constructor
  · rintro ⟨_, _, _, ⟨stored, rfl⟩, rfl, rfl⟩
    exact stored
  · intro stored
    exact ⟨key, sequence, row, ⟨stored, rfl⟩, rfl, rfl⟩

theorem validateTursoCommitRecordRow_ok (ident : TableIdent) (key : String) (sequence : Int)
    (row : PointerLogRow) (done : Unit) :
    validateTursoCommitRecordRow row.record ident key sequence row = .ok done ↔
      key = tableKey ident ∧ (row.record.sequenceNumber.toNat : Int) = sequence ∧
        row = pointerLogRow row.record := by
  simp only [validateTursoCommitRecordRow, bind_unit_eq_ok, rejectIf_ok, ne_eq, not_not, not_lt,
    Int.ofNat_eq_natCast]
  constructor
  · rintro ⟨keyed, -, numbered, previous, new, request, principal, time⟩
    refine ⟨keyed, numbered, ?_⟩
    rw [pointerLogRow, previous, new, request, principal, time]
  · rintro ⟨keyed, numbered, same⟩
    rw [same]
    exact ⟨keyed, by omega, numbered, rfl, rfl, rfl, rfl, rfl⟩

variable [External]

/-- A commit of the source, under the new name. -/
def movedRow (destination : TableIdent) (row : PointerLogRow) : PointerLogRow :=
  { row with record := { row.record with table := destination } }

theorem renamedCommits_ok (source destination : TableIdent) (rows result : List (Int × PointerLogRow)) :
    renamedCommits source destination rows = .ok result ↔
      (∀ entry ∈ rows, entry.2.record.ValidFor source ∧
        (entry.2.record.sequenceNumber.toNat : Int) = entry.1 ∧
        entry.2 = pointerLogRow entry.2.record) ∧
        result = rows.map fun entry => (entry.1, movedRow destination entry.2) := by
  induction rows generalizing result with
  | nil => simp [renamedCommits, eq_comm]
  | cons entry rest ih =>
      obtain ⟨sequence, row⟩ := entry
      simp only [renamedCommits, bind_eq_ok, exists_unit, TableCommitRecord.validateForTable_ok,
        validateTursoCommitRecordRow_ok, pure_eq, Except.ok.injEq, ih, List.forall_mem_cons,
        List.map_cons, true_and]
      constructor
      · rintro ⟨valid, placed, -, _, ⟨all, rfl⟩, rfl⟩
        exact ⟨⟨⟨valid, placed⟩, all⟩, rfl⟩
      · rintro ⟨⟨⟨valid, placed⟩, all⟩, rfl⟩
        exact ⟨valid, placed, valid.retable destination, _, ⟨all, rfl⟩, rfl⟩

/-- A binding of the source, in the columns of the destination. -/
def reboundRow (destination : TableIdent) (now : Timestamp) (row : PolicyBindingRow) :
    PolicyBindingRow :=
  {
    row with
    namespacePath := some destination.ns.storageKey
    tableName := some destination.name.value
    binding := {
      row.binding with
      ns := some destination.ns
      table := some destination.name
      updatedAt := now
    }
  }

theorem renamedBindings_ok (source destination : TableIdent) (now : Timestamp)
    (rows result : List (String × PolicyBindingRow)) :
    renamedBindings source destination now rows = .ok result ↔
      (∀ entry ∈ rows,
        validatePolicyBindingScope entry.2.binding source.warehouse entry.2 = .ok () ∧
          entry.1 = policyBindingKey entry.2.binding.warehouse entry.2.binding.policyId) ∧
        result = rows.map fun entry => (entry.1, reboundRow destination now entry.2) := by
  induction rows generalizing result with
  | nil => simp [renamedBindings, eq_comm]
  | cons entry rest ih =>
      obtain ⟨key, row⟩ := entry
      simp only [renamedBindings, bind_eq_ok, exists_unit, rejectIf_ok, ne_eq, not_not, pure_eq,
        Except.ok.injEq, ih, List.forall_mem_cons, List.map_cons]
      constructor
      · rintro ⟨valid, keyed, _, ⟨all, rfl⟩, rfl⟩
        exact ⟨⟨⟨valid, keyed⟩, all⟩, rfl⟩
      · rintro ⟨⟨⟨valid, keyed⟩, all⟩, rfl⟩
        exact ⟨valid, keyed, _, ⟨all, rfl⟩, rfl⟩

def renameEvents (state : TursoState) (source destination : TableIdent) (principal : Principal)
    (receipt : Option Json) (now : Timestamp) (row : TableRow) : LakeCatResult TursoWrites :=
  let audit := renameAuditEvent source (MemoryState.renamedTable destination now row.record)
    principal receipt now
  state.insertEvents (auditEventId audit)
    ⟨audit.eventType, some (tableKey destination), audit.principal, audit.requestHash,
      audit.payload, now⟩ (renameOutboxEvent audit now)

/-- All that a rename has read. -/
structure Movable (state : TursoState) (source destination : TableIdent) (principal : Principal)
    (receipt : Option Json) (now : Timestamp) (row : TableRow) : Prop
    extends Renamable state source destination now row where
  unlogged : state.pointerLogOf (tableKey destination) = []
  commits : ∀ entry ∈ state.pointerLogOf (tableKey source), entry.2.record.ValidFor source ∧
    (entry.2.record.sequenceNumber.toNat : Int) = entry.1 ∧ entry.2 = pointerLogRow entry.2.record
  replays : ∀ (key : String) replay, state.idempotency[key]? = some replay →
    MemoryState.RetirableReplay source destination key replay
  bindings : ∀ entry ∈ state.bindingsOfTable source,
    validatePolicyBindingScope entry.2.binding source.warehouse entry.2 = .ok () ∧
      entry.1 = policyBindingKey entry.2.binding.warehouse entry.2.binding.policyId
  receipt : ∀ document, receipt = some document →
    validateReceiptPrincipal principal document = .ok ()

omit [External] in
/-- The writes of a rename: the table, its log, its replays, its bindings and the events. -/
def moveWrites (state : TursoState) (source destination : TableIdent) (now : Timestamp)
    (row : TableRow) (events : TursoWrites) : TursoWrites :=
  [TursoRow.delete (.table (tableKey source)),
    TursoRow.put (.table (tableKey destination)) (renamedRow row destination now)] ++
  (state.pointerLogOf (tableKey source)).flatMap (fun entry =>
    [TursoRow.delete (.pointerLog (tableKey source) entry.1),
      TursoRow.put (.pointerLog (tableKey destination) entry.1) (movedRow destination entry.2)]) ++
  (state.idempotency.toList.filter fun entry => isIdempotencyOf source entry.1 entry.2).map
    (fun entry => TursoRow.delete (.idempotency entry.1)) ++
  (state.bindingsOfTable source).map
    (fun entry => TursoRow.put (.policyBinding entry.1) (reboundRow destination now entry.2)) ++
  events

omit [External] in
/-- The writes of a rename, one by one. -/
inductive MoveWrite (state : TursoState) (source destination : TableIdent) (now : Timestamp)
    (row : TableRow) (events : TursoWrites) : Write tursoRows → Prop
  | unregistered : MoveWrite state source destination now row events
      (TursoRow.delete (.table (tableKey source)))
  | registered : MoveWrite state source destination now row events
      (TursoRow.put (.table (tableKey destination)) (renamedRow row destination now))
  | unlogged (sequence : Int) (logged : PointerLogRow)
      (member : (sequence, logged) ∈ state.pointerLogOf (tableKey source)) :
      MoveWrite state source destination now row events
        (TursoRow.delete (.pointerLog (tableKey source) sequence))
  | relogged (sequence : Int) (logged : PointerLogRow)
      (member : (sequence, logged) ∈ state.pointerLogOf (tableKey source)) :
      MoveWrite state source destination now row events
        (TursoRow.put (.pointerLog (tableKey destination) sequence) (movedRow destination logged))
  | retired (key : String) (replay : IdempotencyReplay)
      (stored : state.idempotency[key]? = some replay)
      (own : isIdempotencyOf source key replay = true) :
      MoveWrite state source destination now row events (TursoRow.delete (.idempotency key))
  | rebound (key : String) (bound : PolicyBindingRow)
      (member : (key, bound) ∈ state.bindingsOfTable source) :
      MoveWrite state source destination now row events
        (TursoRow.put (.policyBinding key) (reboundRow destination now bound))
  | recorded (change : Write tursoRows) (member : change ∈ events) :
      MoveWrite state source destination now row events change

omit [External] in
theorem mem_moveWrites (state : TursoState) (source destination : TableIdent) (now : Timestamp)
    (row : TableRow) (events : TursoWrites) (change : Write tursoRows) :
    change ∈ state.moveWrites source destination now row events ↔
      state.MoveWrite source destination now row events change := by
  simp only [moveWrites, List.mem_append, List.mem_cons, List.not_mem_nil, or_false,
    List.mem_flatMap, List.mem_map, List.mem_filter]
  constructor
  · rintro (((((rfl | rfl) | ⟨⟨sequence, logged⟩, member, rfl | rfl⟩) |
      ⟨⟨key, replay⟩, ⟨stored, own⟩, rfl⟩) | ⟨⟨key, bound⟩, member, rfl⟩) | member)
    · exact .unregistered
    · exact .registered
    · exact .unlogged sequence logged member
    · exact .relogged sequence logged member
    · exact .retired key replay ((OrderedMap.mem_toList _ _ _).mp stored) own
    · exact .rebound key bound member
    · exact .recorded change member
  · intro written
    cases written with
    | unregistered => exact .inl (.inl (.inl (.inl (.inl rfl))))
    | registered => exact .inl (.inl (.inl (.inl (.inr rfl))))
    | unlogged sequence logged member =>
        exact .inl (.inl (.inl (.inr ⟨(sequence, logged), member, .inl rfl⟩)))
    | relogged sequence logged member =>
        exact .inl (.inl (.inl (.inr ⟨(sequence, logged), member, .inr rfl⟩)))
    | retired key replay stored own =>
        exact .inl (.inl (.inr ⟨(key, replay), ⟨(OrderedMap.mem_toList _ _ _).mpr stored, own⟩, rfl⟩))
    | rebound key bound member => exact .inl (.inr ⟨(key, bound), member, rfl⟩)
    | recorded _ member => exact .inr member

theorem renameTable_iff (state : TursoState) (source destination : TableIdent)
    (principal : Principal) (receipt : Option Json) (now : Timestamp) (result : TableRecord)
    (writes : TursoWrites) :
    state.renameTable source destination principal receipt now = .ok (result, writes) ↔
      ∃ row events, state.Movable source destination principal receipt now row ∧
        state.renameEvents source destination principal receipt now row = .ok events ∧
        result = MemoryState.renamedTable destination now row.record ∧
        writes = state.moveWrites source destination now row events := by
  have moved (row : TableRow) :
      ({ row.record with ident := destination, updatedAt := now } : TableRecord) =
        MemoryState.renamedTable destination now row.record := rfl
  simp only [renameTable, moved, bind_eq_ok, exists_unit, rejectIf_ok, okOr_ok,
    TableRecord.validate_ok, validateTableRecordScope_ok, pure_eq, return_eq_ok, Prod.exists,
    Bool.not_eq_false, Bool.not_eq_true, not_or, ne_eq, not_not, OrderedMap.contains_eq_false,
    renamedCommits_ok, renamedBindings_ok, checkEach_ok, tableRenameEvents_ok, List.any_eq_false]
  constructor
  · rintro ⟨warehouse, ns, row, active, placed, ⟨vacant, undeleted⟩, unlogged, _, ⟨commits, rfl⟩,
      unowned, retired, _, ⟨bindings, rfl⟩, valid, -, _, _, ⟨fits, rfl, rfl⟩, events, inserted, rfl,
      rfl⟩
    refine ⟨row, events, ⟨⟨warehouse, ns, active, placed, vacant, undeleted, valid⟩, unlogged,
      commits, ?_, bindings, fits⟩, inserted, rfl, ?_⟩
    · intro key replay stored
      have listed := (OrderedMap.mem_toList _ _ _).mpr stored
      refine (retirable_iff _ _ _ _).mpr ⟨unowned (key, replay) listed, fun own => ?_⟩
      exact retired (key, replay) (List.mem_filter.mpr ⟨listed, own⟩)
    · simp only [List.flatMap_map, List.map_map]
      rfl
  · rintro ⟨row, events, ⟨⟨warehouse, ns, active, placed, vacant, undeleted, valid⟩, unlogged,
      commits, replays, bindings, fits⟩, inserted, rfl, rfl⟩
    refine ⟨warehouse, ns, row, active, placed, ⟨vacant, undeleted⟩, unlogged, _, ⟨commits, rfl⟩,
      ?_, ?_, _, ⟨bindings, rfl⟩, valid, ?_, _, _, ⟨fits, rfl, rfl⟩, events, inserted, rfl, ?_⟩
    · intro entry member
      exact ((retirable_iff _ _ _ _).mp
        (replays _ _ ((OrderedMap.mem_toList _ _ _).mp member))).1
    · intro entry member
      obtain ⟨listed, own⟩ := List.mem_filter.mp member
      exact ((retirable_iff _ _ _ _).mp
        (replays _ _ ((OrderedMap.mem_toList _ _ _).mp listed))).2 own
    · intro entry member
      obtain ⟨old, listed, rfl⟩ := List.mem_map.mp member
      have checked := (bindings old listed).1
      simp only [validatePolicyBindingScope, bind_unit_eq_ok,
        MemoryState.validatePolicyBinding_ok] at checked
      exact (MemoryState.validatePolicyBinding_ok _ _).mpr ⟨checked.1.1, fun _ => rfl⟩
    · simp only [List.flatMap_map, List.map_map]
      rfl

end TursoState

namespace MemoryState

theorem mem_historyOf (state : MemoryState) (key : String) (record : TableCommitRecord) :
    record ∈ state.historyOf key ↔
      (⟨key, record⟩ : MemoryCommitRecord) ∈ state.commits := by
  simp only [historyOf, List.mem_map, List.mem_filter, decide_eq_true_eq]
  constructor
  · rintro ⟨⟨_, _⟩, ⟨member, rfl⟩, rfl⟩
    exact member
  · intro member
    exact ⟨_, ⟨member, rfl⟩, rfl⟩

section Renames

variable [External] {state : MemoryState} {source destination : TableIdent}
  {principal : Principal} {receipt : Option Json} {now : Timestamp} {table : TableRecord}

/-- The log of the destination is the log of the source, under the new name. -/
theorem log_moved
    (unrecorded : ∀ commit ∈ state.commits, commit.tableKey ≠ tableKey destination)
    (sequence : Int) (row : PointerLogRow) :
    (state.renamed source destination principal receipt now table).image
        (.pointerLog (tableKey destination) sequence) row ↔
      ∃ old : PointerLogRow, state.image (.pointerLog (tableKey source) sequence) old ∧
        row = TursoState.movedRow destination old := by
  simp only [image, historyOf, renamed, historyOf_moved source destination state.commits unrecorded]
  constructor
  · rintro ⟨_, member, numbered, rfl⟩
    obtain ⟨record, logged, rfl⟩ := List.mem_map.mp member
    exact ⟨_, ⟨record, logged, numbered, rfl⟩, rfl⟩
  · rintro ⟨_, ⟨record, logged, numbered, rfl⟩, rfl⟩
    exact ⟨_, List.mem_map.mpr ⟨record, logged, rfl⟩, numbered, rfl⟩

theorem log_left (other : tableKey source ≠ tableKey destination) (sequence : Int)
    (row : PointerLogRow) :
    ¬(state.renamed source destination principal receipt now table).image
        (.pointerLog (tableKey source) sequence) row := by
  rintro ⟨record, logged, -⟩
  obtain ⟨old, -, moved⟩ := List.mem_map.mp ((mem_historyOf _ _ _).mp logged)
  by_cases own : old.tableKey = tableKey source
  · rw [movedCommit, if_pos own] at moved
    exact other (congrArg MemoryCommitRecord.tableKey moved).symm
  · rw [movedCommit, if_neg own] at moved
    exact own (congrArg MemoryCommitRecord.tableKey moved)

theorem log_unmoved {key : String} (fromSource : tableKey source ≠ key)
    (fromDestination : tableKey destination ≠ key) (sequence : Int) (row : PointerLogRow) :
    (state.renamed source destination principal receipt now table).image
        (.pointerLog key sequence) row ↔ state.image (.pointerLog key sequence) row := by
  simp only [image, historyOf, renamed,
    historyOf_unmoved source destination state.commits key fromSource fromDestination]

end Renames

end MemoryState

namespace Paired

variable [External] {memory : MemoryState} {turso : TursoState}

theorem logRow (paired : Paired memory turso) (key : String) (sequence : Int)
    (row : PointerLogRow) : (sequence, row) ∈ turso.pointerLogOf key ↔
      memory.image (.pointerLog key sequence) row :=
  (turso.mem_pointerLogOf key sequence row).trans
    (paired.shows (.pointerLog key sequence) trivial row)

theorem logEmpty (paired : Paired memory turso) (key : String) :
    turso.pointerLogOf key = [] ↔ ∀ commit ∈ memory.commits, commit.tableKey ≠ key := by
  rw [List.eq_nil_iff_forall_not_mem]
  constructor
  · rintro empty commit member rfl
    exact empty (commit.record.sequenceNumber.toNat, _) ((paired.logRow _ _ _).mpr
      ⟨commit.record, (MemoryState.mem_historyOf _ _ _).mpr member, rfl, rfl⟩)
  · rintro unrecorded ⟨sequence, row⟩ member
    obtain ⟨record, logged, -⟩ := (paired.logRow _ _ _).mp member
    exact unrecorded _ ((MemoryState.mem_historyOf _ _ _).mp logged) rfl

theorem mem_bindingsOfTable (paired : Paired memory turso) (ident : TableIdent) (key : String)
    (row : PolicyBindingRow) : (key, row) ∈ turso.bindingsOfTable ident ↔
      ∃ binding, memory.policyBindings[key]? = some binding ∧ row = bindingRow binding ∧
        binding.warehouse = ident.warehouse ∧ binding.ns = some ident.ns ∧
        binding.table = some ident.name := by
  rw [TursoState.bindingsOfTable, List.mem_filter, OrderedMap.mem_toList, paired.binding]
  simp only [Option.map_eq_some_iff, Bool.and_eq_true, decide_eq_true_eq]
  constructor
  · rintro ⟨⟨binding, stored, rfl⟩, ⟨warehouse, path⟩, name⟩
    obtain ⟨ns, inside, keyed⟩ := Option.map_eq_some_iff.mp path
    obtain ⟨table, named, same⟩ := Option.map_eq_some_iff.mp name
    obtain ⟨value⟩ := table
    cases same
    refine ⟨binding, stored, rfl, ?_, ?_, named⟩
    · exact congrArg WarehouseName.mk warehouse
    · rw [inside, storageKey_inj keyed]
  · rintro ⟨binding, stored, rfl, warehouse, ns, table⟩
    refine ⟨⟨binding, stored, rfl⟩, ⟨?_, ?_⟩, ?_⟩
    · exact congrArg WarehouseName.value warehouse
    · exact congrArg (Option.map Namespace.storageKey) ns
    · exact congrArg (Option.map TableName.asStr) table

/-- The two stores refuse and accept the same renames. -/
theorem movable (paired : Paired memory turso) {source destination : TableIdent}
    {principal : Principal} {receipt : Option Json} {now : Timestamp} {table : TableRecord} :
    turso.Movable source destination principal receipt now (registeredRow table) ↔
      memory.Renamable source destination principal receipt table := by
  constructor
  · rintro ⟨⟨warehouse, ns, active, placed, vacant, undeleted, -⟩, unlogged, commits, replays,
      bindings, fits⟩
    obtain ⟨live, stored⟩ := (TursoState.activeTable_eq_some _ _ _).mp active
    obtain ⟨valid, owner, -⟩ := (registeredRow_placed _ _ _).mp placed
    rw [paired.table] at stored
    obtain ⟨held, found, same⟩ := Option.map_eq_some_iff.mp stored
    obtain rfl : held = table := congrArg TableRow.record same
    rw [← OrderedMap.contains_eq_false, paired.tableStored] at vacant
    rw [← OrderedMap.contains_eq_false, paired.deletionStored] at undeleted live
    refine ⟨warehouse, (paired.nsStored _ _).symm.trans ns, live, found, valid, owner, vacant,
      undeleted, (paired.logEmpty _).mp unlogged, ?_, ?_, paired.formed.bindings, fits⟩
    · rintro ⟨_, record⟩ member rfl
      exact (commits _ ((paired.logRow _ _ (TursoState.pointerLogRow record)).mpr
        ⟨record, (MemoryState.mem_historyOf _ _ _).mpr member, rfl, rfl⟩)).1
    · intro key replay stored
      exact replays key replay ((paired.replay key).trans stored)
  · intro ready
    refine ⟨⟨ready.warehouse, (paired.nsStored _ _).trans ready.ns, ?_, ?_, ?_, ?_, ?_⟩,
      (paired.logEmpty _).mpr ready.unrecorded, ?_, ?_, ?_, ready.receipt⟩
    · refine (TursoState.activeTable_eq_some _ _ _).mpr ⟨?_, ?_⟩
      · rw [← OrderedMap.contains_eq_false, paired.deletionStored]
        exact ready.live
      · rw [paired.table, ready.stored]
        rfl
    · exact (registeredRow_placed _ _ _).mpr ⟨ready.valid, ready.owner, rfl⟩
    · rw [← OrderedMap.contains_eq_false, paired.tableStored]
      exact ready.vacant
    · rw [← OrderedMap.contains_eq_false, paired.deletionStored]
      exact ready.undeleted
    · exact (MemoryState.renamedTable_valid destination now table).mpr ready.valid
    · rintro ⟨sequence, row⟩ member
      obtain ⟨record, logged, numbered, rfl⟩ := (paired.logRow _ _ _).mp member
      exact ⟨ready.commits _ ((MemoryState.mem_historyOf _ _ _).mp logged) rfl, numbered, rfl⟩
    · intro key replay stored
      exact ready.replays key replay ((paired.replay key).symm.trans stored)
    · rintro ⟨key, row⟩ member
      obtain ⟨binding, stored, rfl, warehouse, -, -⟩ :=
        (paired.mem_bindingsOfTable _ _ _).mp member
      obtain ⟨valid, keyed⟩ := (MemoryState.validatePolicyBindingMapScope_ok _ _ _).mp
        (paired.formed.bindings key binding stored)
      refine ⟨?_, keyed.symm⟩
      simp only [validatePolicyBindingScope, bindingRow, valid, warehouse, ne_eq, not_true_eq_false,
        or_self, rejectIf, ok_bind, if_false]

theorem rename_redraws (paired : Paired memory turso) {source destination : TableIdent}
    {principal : Principal} {receipt : Option Json} {now : Timestamp} {table : TableRecord}
    (ready : memory.Renamable source destination principal receipt table) {events : TursoWrites}
    (recorded : turso.renameEvents source destination principal receipt now (registeredRow table) =
      .ok events) :
    Redraws TursoRow.IsObserved
      (turso.moveWrites source destination now (registeredRow table) events) memory.image
      (memory.renamed source destination principal receipt now table).image := by
  have other : tableKey source ≠ tableKey destination := by
    intro same
    have vacant := (OrderedMap.contains_eq_false _ _).mp ready.vacant
    rw [← same, ready.stored] at vacant
    cases vacant
  obtain ⟨-, outboxNew, rfl⟩ := (TursoState.insertEvents_ok _ _ _ _ _).mp recorded
  have free := (paired.outboxFree _).mp outboxNew
  have tablesAfter (key : String) :
      (memory.renamed source destination principal receipt now table).tables[key]? =
        if tableKey destination = key then some (MemoryState.renamedTable destination now table)
        else if tableKey source = key then none else memory.tables[key]? := by
    rw [MemoryState.renamed, OrderedMap.getElem?_insert, OrderedMap.getElem?_erase]
  have bindingAfter (key : String) :
      (memory.renamed source destination principal receipt now table).policyBindings[key]? =
        (memory.policyBindings[key]?).map (MemoryState.movedBinding source destination now) :=
    Std.ExtTreeMap.getElem?_map
  constructor
  · intro change member seen cell
    cases (TursoState.mem_moveWrites _ _ _ _ _ _ _).mp member with
    | unregistered =>
        refine ⟨(fun removed => by cases removed), ?_⟩
        rintro ⟨held, found, -⟩
        rw [tablesAfter, if_neg (Ne.symm other), if_pos rfl] at found
        cases found
    | registered =>
        refine Iff.trans ?_ (shown_insert _ registeredRow _ _ _ cell).symm
        rw [if_pos rfl]
        exact Option.some_inj.trans eq_comm
    | unlogged sequence logged inLog =>
        exact ⟨(fun removed => by cases removed),
          fun shown => absurd shown (MemoryState.log_left other sequence cell)⟩
    | relogged sequence logged inLog =>
        refine Iff.trans ?_ (MemoryState.log_moved ready.unrecorded sequence cell).symm
        have before := (paired.logRow _ _ _).mp inLog
        constructor
        · intro same
          exact ⟨logged, before, (Option.some.inj same).symm⟩
        · rintro ⟨old, found, rfl⟩
          rw [paired.shows.unique (.pointerLog (tableKey source) sequence) trivial before
            found]
          rfl
    | retired key replay stored own =>
        refine ⟨(fun removed => by cases removed), fun shown => ?_⟩
        have kept := (OrderedMap.getElem?_filter _ _ _ _).mp shown
        rw [(ready.replays key replay ((paired.replay key).symm.trans stored)).found] at own
        rw [own] at kept
        cases kept.2
    | rebound key bound listed =>
        obtain ⟨binding, stored, rfl, owned⟩ := (paired.mem_bindingsOfTable _ _ _).mp listed
        refine Iff.trans ?_ (shown_map _ bindingRow cell).symm
        rw [bindingAfter, stored, Option.map_some, Option.map_some, MemoryState.movedBinding,
          if_pos owned]
        exact .rfl
    | recorded _ inEvents =>
        simp only [List.mem_cons, List.not_mem_nil, or_false] at inEvents
        rcases inEvents with rfl | rfl
        · exact seen.elim
        · exact outbox_written free cell
  · intro row seen unwritten cell
    have untouched : ∀ change, turso.MoveWrite source destination now (registeredRow table) _
        change → change.row ≠ row := fun change written =>
      unwritten change ((TursoState.mem_moveWrites _ _ _ _ _ _ _).mpr written)
    cases row with
    | table key =>
        have fromSource : tableKey source ≠ key := fun same =>
          untouched _ .unregistered (congrArg TursoRow.table same)
        have fromDestination : tableKey destination ≠ key := fun same =>
          untouched _ .registered (congrArg TursoRow.table same)
        refine (shown_map _ registeredRow cell).trans (Iff.trans ?_ (shown_map _ _ cell).symm)
        rw [tablesAfter, if_neg fromDestination, if_neg fromSource]
        exact .rfl
    | pointerLog key sequence =>
        by_cases fromSource : tableKey source = key
        · subst fromSource
          refine iff_of_false (MemoryState.log_left other sequence cell) fun logged => ?_
          exact untouched _ (.unlogged sequence cell ((paired.logRow _ _ _).mpr logged)) rfl
        · by_cases fromDestination : tableKey destination = key
          · subst fromDestination
            refine (MemoryState.log_moved ready.unrecorded sequence cell).trans
              (iff_of_false ?_ ?_)
            · rintro ⟨old, logged, -⟩
              exact untouched _ (.relogged sequence old ((paired.logRow _ _ _).mpr logged)) rfl
            · rintro ⟨record, logged, -⟩
              exact ready.unrecorded _ ((MemoryState.mem_historyOf _ _ _).mp logged) rfl
          · exact MemoryState.log_unmoved fromSource fromDestination sequence cell
    | idempotency key =>
        refine (OrderedMap.getElem?_filter _ _ _ _).trans (and_iff_left_of_imp fun found => ?_)
        have retirable := ready.replays key cell found
        by_cases own : startsWith key (idempotencyPrefix source) = true
        · exact (untouched _ (.retired key cell ((paired.replay key).trans found)
            (retirable.found.trans own)) rfl).elim
        · simpa using own
    | policyBinding key =>
        refine (shown_map _ bindingRow cell).trans (Iff.trans ?_ (shown_map _ _ cell).symm)
        rw [bindingAfter]
        cases stored : memory.policyBindings[key]? with
        | none => exact .rfl
        | some binding =>
            rw [Option.map_some, MemoryState.movedBinding, if_neg]
            · exact .rfl
            · intro owned
              exact untouched _ (.rebound key _
                ((paired.mem_bindingsOfTable _ _ _).mpr ⟨binding, stored, rfl, owned⟩)) rfl
    | outboxEvent id =>
        refine outbox_kept ?_ cell
        rintro rfl
        exact untouched _ (.recorded _ (List.mem_cons_of_mem _ List.mem_cons_self)) rfl
    | _ => exact .rfl

theorem renameTable (paired : Paired memory turso) (source destination : TableIdent)
    (principal : Principal) (receipt : Option Json) (now : Timestamp)
    (unparted : ¬turso.Parts (.renameTable source destination principal receipt now)) :
    Alike memory (memory.renameTable source destination principal receipt now)
      (turso.renameTable source destination principal receipt now) where
  accepts := by
    intro result next renamed
    obtain ⟨table, ready, rfl, -⟩ := (MemoryState.renameTable_ok _ _ _ _ _ _ _ _).mp renamed
    obtain ⟨auditNew, outboxNew⟩ := TursoState.events_new unparted (by
      rw [TursoState.recordedIds, paired.table, ready.stored]
      rfl)
    obtain ⟨events, recorded⟩ : ∃ events, turso.renameEvents source destination principal receipt
        now (registeredRow table) = .ok events :=
      ⟨_, (TursoState.insertEvents_ok _ _ _ _ _).mpr ⟨auditNew, outboxNew, rfl⟩⟩
    exact ⟨_, (TursoState.renameTable_iff _ _ _ _ _ _ _ _).mpr
      ⟨_, events, paired.movable.mpr ready, recorded, rfl, rfl⟩⟩
  redraws := by
    intro result writes renamed
    obtain ⟨row, events, movable, recorded, rfl, rfl⟩ :=
      (TursoState.renameTable_iff _ _ _ _ _ _ _ _).mp renamed
    obtain ⟨-, stored⟩ := (TursoState.activeTable_eq_some _ _ _).mp movable.active
    rw [paired.table] at stored
    obtain ⟨table, held, rfl⟩ := Option.map_eq_some_iff.mp stored
    have ready := paired.movable.mp movable
    exact ⟨_, (MemoryState.renameTable_ok _ _ _ _ _ _ _ _).mpr ⟨table, ready, rfl, rfl⟩,
      paired.rename_redraws ready recorded⟩

end Paired

end LakeCat
