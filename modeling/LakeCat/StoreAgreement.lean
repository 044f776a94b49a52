import LakeCat.StoreInvariants

/-!
The two stores give the same answers. Asked the same from the beginning, they agree
up to the first call that may part them, and what the rows show stays what the maps
hold.
-/

namespace LakeCat

open Fallible SnapshotIsolation Lockstep

theorem given_congr {first second : LakeCatResult α} {shown : α → StoreAnswer}
    (same : ∀ value, first = .ok value ↔ second = .ok value) :
    given first shown = given second shown := by
  cases first with
  | ok value => rw [(same value).mp rfl]
  | error refused =>
      cases second with
      | ok value => cases (same value).mpr rfl
      | error _ => rfl

namespace TursoState

/-- The log of a table is read in the order of its numbers. -/
theorem pointerLogOf_ascending (state : TursoState) (key : String) :
    (state.pointerLogOf key).Pairwise fun one other => one.1 < other.1 := by
  rw [pointerLogOf, List.pairwise_map]
  refine ((Std.ExtTreeMap.ordered_keys_toList (t := state.pointerLog)).filter _).imp_of_mem ?_
  intro one other first second before
  have own := of_decide_eq_true (List.mem_filter.mp first).2
  have otherOwn := of_decide_eq_true (List.mem_filter.mp second).2
  rcases Ordering.then_eq_lt.mp before with keys | ⟨-, sequences⟩
  · change compare one.1.1 other.1.1 = .lt at keys
    rw [own, otherOwn] at keys
    exact absurd keys (by simp)
  · exact compare_lt_iff_lt.mp sequences

end TursoState

namespace MemoryState

variable [External]

/-- The records that a listing asks for. -/
def inRange (startVersion : UInt64) (endVersion : Option UInt64) (record : TableCommitRecord) :
    Bool :=
  startVersion ≤ record.sequenceNumber && endVersion.all fun last => record.sequenceNumber ≤ last

theorem tableCommitRecords_listed (state : MemoryState) (ident : TableIdent) (startVersion : UInt64)
    (endVersion : Option UInt64) (records : List TableCommitRecord) :
    state.tableCommitRecords ident startVersion endVersion = .ok records ↔
      records = (state.historyOf (tableKey ident)).filter (inRange startVersion endVersion) ∧
        ∀ record ∈ records, record.ValidFor ident := by
  have spec (commit : MemoryCommitRecord) (record : TableCommitRecord) : (do
      validateTableCommitRecordMemoryScope commit ident
      return commit.record : LakeCatResult TableCommitRecord) = .ok record ↔
        (commit.tableKey = tableKey ident ∧ commit.record.ValidFor ident) ∧
          record = commit.record := by
    simp only [bind_unit_eq_ok, validateTableCommitRecordMemoryScope_ok, pure_eq, Except.ok.injEq]
    exact and_congr_right fun _ => eq_comm
  have listed : (state.commitsInRange (tableKey ident) startVersion endVersion).map
      MemoryCommitRecord.record =
        (state.historyOf (tableKey ident)).filter (inRange startVersion endVersion) := by
    rw [commitsInRange, List.filter_filter, historyOf, List.filter_map]
    refine congrArg _ (List.filter_congr fun commit _ => ?_)
    exact Bool.and_comm _ _
  rw [tableCommitRecords, collect_checked _ _ MemoryCommitRecord.record spec, listed, and_comm]
  refine and_congr_right ?_
  rintro rfl
  rw [← listed, List.forall_mem_map]
  refine forall_congr' fun commit => forall_congr' fun member => and_iff_right ?_
  have inside := (List.mem_filter.mp (List.mem_filter.mp (List.mem_filter.mp member).1).1).2
  exact of_decide_eq_true inside

end MemoryState

namespace Paired

variable [External] {memory : MemoryState} {turso : TursoState}

theorem history_numbered (paired : Paired memory turso) (key : String) :
    ((memory.historyOf key).Pairwise fun one other =>
      one.sequenceNumber.toNat < other.sequenceNumber.toNat) ∧
    ∀ record ∈ memory.historyOf key, record.sequenceNumber.toNat < 2 ^ 63 := by
  cases stored : memory.tables[key]? with
  | none =>
      rw [MemoryState.historyOf_vacant paired.formed ((OrderedMap.contains_eq_false _ _).mpr stored)]
      exact ⟨.nil, fun record member => nomatch member⟩
  | some table =>
      obtain ⟨bounded, ascending, latest⟩ := paired.numbered key table stored
      exact ⟨ascending, fun record member => lt_of_le_of_lt (latest record member) bounded⟩

theorem pointerLog (paired : Paired memory turso) (key : String) :
    turso.pointerLogOf key = (memory.historyOf key).map fun record =>
      ((record.sequenceNumber.toNat : Int), TursoState.pointerLogRow record) := by
  have irreflexive : Std.Irrefl fun one other : Int × PointerLogRow => one.1 < other.1 :=
    ⟨fun entry => lt_irrefl entry.1⟩
  have asymmetric : Std.Asymm fun one other : Int × PointerLogRow => one.1 < other.1 :=
    ⟨fun one other before => not_lt_of_gt before⟩
  refine (turso.pointerLogOf_ascending key).eq_of_mem_iff ?_ ?_
  · rw [List.pairwise_map]
    exact (paired.history_numbered key).1.imp fun before => Int.ofNat_lt.mpr before
  · rintro ⟨sequence, row⟩
    rw [paired.logRow, List.mem_map]
    refine exists_congr fun record => and_congr_right fun _ => ?_
    rw [Prod.mk.injEq]
    exact and_congr_right fun _ => eq_comm

theorem loadTable (paired : Paired memory turso) (ident : TableIdent) (table : TableRecord) :
    memory.loadTable ident = .ok table ↔ turso.loadTable ident = .ok table := by
  simp only [MemoryState.loadTable, TursoState.loadTable, paired.activeTable, bind_eq_ok,
    exists_unit, okOr_ok, validateTableRecordMapScope_ok, validateTableRecordIdentity_ok,
    validateTableRecordScope_ok, pure_eq, Except.ok.injEq, Option.map_eq_some_iff]
  constructor
  · rintro ⟨_, live, ⟨valid, keyed⟩, ⟨-, owner⟩, rfl⟩
    exact ⟨_, ⟨_, live, rfl⟩, (registeredRow_placed _ _ _).mpr ⟨valid, owner, rfl⟩, rfl⟩
  · rintro ⟨_, ⟨held, live, rfl⟩, placed, rfl⟩
    obtain ⟨valid, owner, -⟩ := (registeredRow_placed _ _ _).mp placed
    exact ⟨held, live, ⟨valid, congrArg tableKey owner⟩, ⟨valid, owner⟩, rfl⟩

theorem replayTableCommit (paired : Paired memory turso) (ident : TableIdent)
    (idempotencyKey idempotencyRequestHash : String) :
    memory.replayTableCommit ident idempotencyKey idempotencyRequestHash =
      turso.replayTableCommit ident idempotencyKey idempotencyRequestHash := by
  rw [TursoState.replayTableCommit, paired.replay]
  rfl

theorem tableCommitRecords (paired : Paired memory turso) (ident : TableIdent)
    (startVersion : UInt64) (endVersion : Option UInt64)
    (unparted : ¬turso.Parts (.tableCommitRecords ident startVersion endVersion))
    (records : List TableCommitRecord) :
    memory.tableCommitRecords ident startVersion endVersion = .ok records ↔
      turso.tableCommitRecords ident startVersion endVersion = .ok records := by
  have near : startVersion.toNat < 2 ^ 63 := by
    by_contra far
    exact unparted (.outOfRange _ _ _ (.inl (by omega)))
  have nearEnd : (endVersion.getD 9223372036854775807).toNat < 2 ^ 63 := by
    cases endVersion with
    | none => decide
    | some last =>
        by_contra far
        exact unparted (.outOfRange _ _ _ (.inr ⟨last, rfl, by simpa using far⟩))
  have spec (entry : Int × PointerLogRow) (record : TableCommitRecord) : (do
      entry.2.record.validateForTable ident
      validateTursoCommitRecordRow entry.2.record ident (tableKey ident) entry.1 entry.2
      return entry.2.record : LakeCatResult TableCommitRecord) = .ok record ↔
        (entry.2.record.ValidFor ident ∧ (entry.2.record.sequenceNumber.toNat : Int) = entry.1 ∧
          entry.2 = TursoState.pointerLogRow entry.2.record) ∧ record = entry.2.record := by
    simp only [bind_eq_ok, exists_unit, TableCommitRecord.validateForTable_ok,
      TursoState.validateTursoCommitRecordRow_ok, pure_eq, Except.ok.injEq, true_and, and_assoc]
    exact and_congr_right fun _ => and_congr_right fun _ => and_congr_right fun _ => eq_comm
  have inside (record : TableCommitRecord) (member : record ∈ memory.historyOf (tableKey ident)) :
      ((startVersion.toNat : Int) ≤ (record.sequenceNumber.toNat : Int) ∧
        (record.sequenceNumber.toNat : Int) ≤
          ((endVersion.getD 9223372036854775807).toNat : Int)) ↔
        MemoryState.inRange startVersion endVersion record = true := by
    have bounded := (paired.history_numbered (tableKey ident)).2 record member
    rw [MemoryState.inRange, Bool.and_eq_true, decide_eq_true_eq, UInt64.le_iff_toNat_le,
      Int.ofNat_le, Int.ofNat_le]
    refine and_congr_right fun _ => ?_
    cases endVersion with
    | none => exact iff_of_true (Nat.le_pred_of_lt bounded) rfl
    | some last =>
        rw [Option.getD_some, Option.all_some, decide_eq_true_eq, UInt64.le_iff_toNat_le]
  have rows : ((turso.pointerLogOf (tableKey ident)).filter fun entry =>
      (startVersion.toNat : Int) ≤ entry.1 ∧
        entry.1 ≤ ((endVersion.getD 9223372036854775807).toNat : Int)) =
      ((memory.historyOf (tableKey ident)).filter
        (MemoryState.inRange startVersion endVersion)).map fun record =>
          ((record.sequenceNumber.toNat : Int), TursoState.pointerLogRow record) := by
    rw [paired.pointerLog, List.filter_map]
    refine congrArg _ (List.filter_congr fun record member => ?_)
    rw [Bool.eq_iff_iff, ← inside record member]
    exact decide_eq_true_iff
  simp only [MemoryState.tableCommitRecords_listed, TursoState.tableCommitRecords, bind_eq_ok,
    checkedI64_ok]
  constructor
  · rintro ⟨rfl, valid⟩
    refine ⟨_, ⟨near, rfl⟩, _, ⟨nearEnd, rfl⟩, ?_⟩
    rw [rows, collect_checked _ _ _ spec]
    refine ⟨?_, ?_⟩
    · intro entry member
      obtain ⟨record, listed, rfl⟩ := List.mem_map.mp member
      exact ⟨valid record listed, rfl, rfl⟩
    · rw [List.map_map]
      exact (List.map_id _).symm
  · rintro ⟨_, ⟨-, rfl⟩, _, ⟨-, rfl⟩, listed⟩
    rw [rows, collect_checked _ _ _ spec, List.map_map] at listed
    obtain ⟨valid, same⟩ := listed
    obtain rfl := same.trans (List.map_id _)
    refine ⟨rfl, fun record member => ?_⟩
    exact (valid _ (List.mem_map.mpr ⟨record, member, rfl⟩)).1

end Paired

/-- The write of the memory store that a call asks for. -/
def StoreCall.op : StoreCall → Option MemoryOp
  | .createNamespace warehouse ns properties => some (.createNamespace warehouse ns properties)
  | .updateNamespaceProperties warehouse ns update =>
      some (.updateNamespaceProperties warehouse ns update)
  | .dropNamespace warehouse ns => some (.dropNamespace warehouse ns)
  | .createTable table => some (.createTable table)
  | .renameTable source destination principal receipt now =>
      some (.renameTable source destination principal receipt now)
  | .commitTable ident commit _ now => some (.commitTable ident commit now)
  | .softDeleteTable ident principal receipt now =>
      some (.softDeleteTable ident principal receipt now)
  | .restoreTable ident principal receipt now => some (.restoreTable ident principal receipt now)
  | .upsertPolicyBinding binding => some (.upsertPolicyBinding binding)
  | .recordAuditEvent event => some (.recordAuditEvent event)
  | .loadNamespace .. | .loadNamespaceProperties .. | .loadTable .. | .replayTableCommit ..
  | .tableCommitRecords .. => none

theorem StoreCall.partsGiven {call : StoreCall} (made : call.Made) {op : MemoryOp}
    (write : call.op = some op) : MemoryState.PartsGiven op := by
  cases call <;> cases write <;> exact made

section Agreement

variable [External] {memory : MemoryState} {turso : TursoState}

theorem MemoryState.serve_state (state : MemoryState) (call : StoreCall) :
    (state.serve call).2 = (call.op.map state.step).getD state := by
  cases call <;> rfl

namespace Paired

theorem versionsFit (paired : Paired memory turso) {call : StoreCall}
    (unparted : ¬turso.Parts call) {op : MemoryOp} (write : call.op = some op) :
    memory.VersionsFit op := by
  cases call with
  | createTable table =>
      cases write
      by_contra large
      exact unparted (.largeVersion table (not_lt.mp large))
  | commitTable ident commit snapshotVersion now =>
      cases write
      intro current stored
      by_contra full
      refine unparted (.fullVersion ident commit snapshotVersion now (registeredRow current) ?_
        (not_lt.mp full))
      rw [paired.table, stored]
      rfl
  | createNamespace | updateNamespaceProperties | dropNamespace | renameTable | softDeleteTable
  | restoreTable | upsertPolicyBinding | recordAuditEvent =>
      cases write
      trivial
  | loadNamespace | loadNamespaceProperties | loadTable | replayTableCommit
  | tableCommitRecords => cases write

theorem answered (paired : Paired memory turso) (call : StoreCall) (made : call.Made)
    (unparted : ¬turso.Parts call) :
    (memory.serve call).1 = (turso.serve call).1 ∧
      Shows TursoRow.IsObserved (memory.serve call).2.image (turso.serve call).2 := by
  have shows := paired.shows
  cases call with
  | createNamespace warehouse ns properties =>
      exact (paired.createNamespace warehouse ns properties).replied _ shows
  | updateNamespaceProperties warehouse ns update =>
      exact (paired.updateNamespaceProperties warehouse ns update).replied _ shows
  | dropNamespace warehouse ns => exact (paired.dropNamespace warehouse ns).replied _ shows
  | createTable table => exact (paired.createTable table unparted).replied _ shows
  | renameTable source destination principal receipt now =>
      exact (paired.renameTable source destination principal receipt now unparted).replied _ shows
  | commitTable ident commit snapshotVersion now =>
      exact (paired.commitTable ident commit snapshotVersion now unparted).replied _ shows
  | softDeleteTable ident principal receipt now =>
      exact (paired.softDeleteTable ident principal receipt now unparted).replied _ shows
  | restoreTable ident principal receipt now =>
      exact (paired.restoreTable ident principal receipt now unparted).replied _ shows
  | upsertPolicyBinding binding => exact (paired.upsertPolicyBinding binding made).replied _ shows
  | recordAuditEvent event => exact (paired.recordAuditEvent event unparted).replied _ shows
  | loadNamespace warehouse ns =>
      exact ⟨congrArg (given · _) (paired.loadNamespace warehouse ns).symm, shows⟩
  | loadNamespaceProperties warehouse ns =>
      exact ⟨congrArg (given · _) (paired.loadNamespaceProperties warehouse ns).symm, shows⟩
  | loadTable ident => exact ⟨given_congr (paired.loadTable ident), shows⟩
  | replayTableCommit ident idempotencyKey idempotencyRequestHash =>
      exact ⟨congrArg (given · _)
        (paired.replayTableCommit ident idempotencyKey idempotencyRequestHash), shows⟩
  | tableCommitRecords ident startVersion endVersion =>
      exact ⟨given_congr (paired.tableCommitRecords ident startVersion endVersion unparted), shows⟩

theorem served (paired : Paired memory turso) (call : StoreCall) (made : call.Made)
    (unparted : ¬turso.Parts call) :
    (memory.serve call).1 = (turso.serve call).1 ∧
      Paired (memory.serve call).2 (turso.serve call).2 := by
  obtain ⟨same, shows⟩ := paired.answered call made unparted
  refine ⟨same, ?_⟩
  have state := memory.serve_state call
  cases write : call.op with
  | none =>
      rw [write] at state
      rw [state] at shows ⊢
      exact ⟨shows, paired.formed, paired.numbered, paired.made⟩
  | some op =>
      rw [write] at state
      rw [state] at shows ⊢
      exact ⟨shows, MemoryState.wellFormed_step memory op paired.formed,
        MemoryState.numbered_step memory op paired.formed paired.numbered
          (paired.versionsFit unparted write),
        MemoryState.made_step memory op paired.made (StoreCall.partsGiven made write)⟩

theorem empty : Paired MemoryState.empty {} where
  shows := by
    intro row seen cell
    refine iff_of_false ?_ ?_
    · cases row <;> simp [TursoState.lookup, tursoRows]
    · cases row with
      | auditEvent => exact seen.elim
      | _ => simp [MemoryState.image, MemoryState.empty, MemoryState.historyOf,
          MemoryState.namespaceExists, MemoryState.namespacesOf]
  formed := MemoryState.wellFormed_empty
  numbered := by simp [MemoryState.Numbered, MemoryState.empty]
  made := by
    constructor <;> simp [MemoryState.empty, MemoryState.namespacesOf]

end Paired

end Agreement

/-- A table that is created, committed to, dropped and restored, and then dropped once more. -/
def droppedTwice : List StoreCall :=
  [.createNamespace sampleIdent.warehouse sampleIdent.ns .default, .createTable sampleTable,
    .commitTable sampleIdent sampleCommit none 1, .softDeleteTable sampleIdent .anonymous none 2,
    .restoreTable sampleIdent .anonymous none 3, .loadTable sampleIdent,
    .tableCommitRecords sampleIdent 0 none, .softDeleteTable sampleIdent .anonymous none 2]

end LakeCat
