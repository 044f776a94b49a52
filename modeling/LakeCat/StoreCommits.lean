import LakeCat.StoreRedraws

/-!
Commits in both stores. The pointer log of a table has a row for each commit record
of the memory store, under its number, and a commit adds the next one.
-/

namespace LakeCat

open Fallible SnapshotIsolation

namespace TursoState

variable [External]

/-- The row of the replay of a call with a key. -/
def replayWrites (ident : TableIdent) (idempotencyKey : Option String)
    (replay : IdempotencyReplay) : TursoWrites :=
  idempotencyKey.toList.map fun key =>
    TursoRow.put (.idempotency (idempotencyRecordKey ident key)) replay

theorem insertReplay_ok (state : TursoState) (ident : TableIdent) (idempotencyKey : Option String)
    (replay : IdempotencyReplay) (writes : TursoWrites) :
    state.insertReplay ident idempotencyKey replay = .ok writes ↔
      state.storedReplay ident idempotencyKey = none ∧
        writes = replayWrites ident idempotencyKey replay := by
  cases idempotencyKey with
  | none =>
      rw [insertReplay, Except.ok.injEq, eq_comm]
      exact (and_iff_right rfl).symm
  | some key =>
      simp only [insertReplay, bind_eq_ok, insertRow_ok, pure_eq, Except.ok.injEq]
      constructor
      · rintro ⟨_, ⟨vacant, rfl⟩, rfl⟩
        exact ⟨vacant, rfl⟩
      · rintro ⟨vacant, rfl⟩
        exact ⟨_, ⟨vacant, rfl⟩, rfl⟩

theorem commitTableExpecting_iff (state : TursoState) (ident : TableIdent) (commit : TableCommit)
    (expectedVersion : Option UInt64) (now : Timestamp) (result : TableRecord)
    (writes : TursoWrites) :
    state.commitTableExpecting ident commit expectedVersion now = .ok (result, writes) ↔
      commit.Valid ∧
        ((∃ replay, state.storedReplay ident commit.idempotencyKey = some replay ∧
            MemoryState.answerReplay ident replay (commit.idempotencyRequestHash.getD
              (MemoryState.commitRequestHash commit)) = .ok result ∧ writes = []) ∨
          (state.storedReplay ident commit.idempotencyKey = none ∧
            ∃ row events replay,
              state.Committable ident commit expectedVersion now row events replay ∧
                result = MemoryState.committedTable row.record commit now ∧
                writes = commitWrites ident commit now row events replay)) := by
  simp only [commitTableExpecting, bind_unit_eq_ok, TableCommit.validate_ok]
  refine and_congr_right fun _ => ?_
  cases state.storedReplay ident commit.idempotencyKey with
  | none =>
      refine (commitFresh_ok _ _ _ _ _ _ _).trans ?_
      constructor
      · intro committed
        exact .inr ⟨rfl, committed⟩
      · rintro (⟨_, absurdity, -⟩ | ⟨-, committed⟩)
        · cases absurdity
        · exact committed
  | some replay =>
      simp only [bind_eq_ok, pure_eq, return_eq_ok]
      constructor
      · rintro ⟨_, answered, rfl, rfl⟩
        exact .inl ⟨_, rfl, answered, rfl⟩
      · rintro (⟨_, same, answered, rfl⟩ | ⟨absurdity, -⟩)
        · cases same
          exact ⟨_, answered, rfl, rfl⟩
        · cases absurdity

end TursoState

section Images

variable {state : MemoryState} {key : String} {record : TableCommitRecord}

/-- The log of a key after one more record. -/
theorem log_appended {commits : List MemoryCommitRecord} (appended : commits =
      state.commits ++ [(⟨key, record⟩ : MemoryCommitRecord)]) (query : String) (sequence : Int)
    (row : PointerLogRow) :
    ({ state with commits := commits } : MemoryState).image (.pointerLog query sequence) row ↔
      (key = query ∧ (record.sequenceNumber.toNat : Int) = sequence ∧
          row = TursoState.pointerLogRow record) ∨
        state.image (.pointerLog query sequence) row := by
  subst appended
  simp only [MemoryState.image, MemoryState.historyOf, MemoryState.historyOf_append,
    List.mem_append]
  constructor
  · rintro ⟨logged, old | new, shown⟩
    · exact .inr ⟨logged, old, shown⟩
    · by_cases same : key = query
      · rw [if_pos same] at new
        obtain rfl := List.mem_singleton.mp new
        exact .inl ⟨same, shown⟩
      · rw [if_neg same] at new
        cases new
  · rintro (⟨same, shown⟩ | ⟨logged, old, shown⟩)
    · rw [if_pos same]
      exact ⟨record, .inr List.mem_cons_self, shown⟩
    · exact ⟨logged, .inl old, shown⟩

theorem replays_committed [External] (state : MemoryState) (ident : TableIdent)
    (commit : TableCommit) (table : TableRecord) (query : String) :
    (state.commitReplays ident commit table)[query]? =
      if commit.idempotencyKey.map (idempotencyRecordKey ident) = some query then
        some ⟨tableKey ident,
          commit.idempotencyRequestHash.getD (MemoryState.commitRequestHash commit), table⟩
      else state.idempotency[query]? := by
  rw [MemoryState.commitReplays]
  cases commit.idempotencyKey with
  | none => rfl
  | some key =>
      rw [OrderedMap.getElem?_insert, Option.map_some]
      by_cases same : idempotencyRecordKey ident key = query
      · rw [if_pos same, if_pos (congrArg some same)]
      · rw [if_neg same, if_neg fun equal => same (Option.some.inj equal)]

end Images

namespace Paired

variable [External] {memory : MemoryState} {turso : TursoState}

/-- The next number of a table's log is free. -/
theorem logFree (paired : Paired memory turso) {key : String} {table : TableRecord}
    (stored : memory.tables[key]? = some table) (positive : table.version + 1 ≠ 0) :
    turso.lookup (.pointerLog key (table.version + 1).toNat) = none := by
  refine (paired.shows.vacant (.pointerLog key (table.version + 1).toNat) trivial).mpr ?_
  rintro cell ⟨record, logged, sequence, -⟩
  have latest := (paired.numbered key table stored).latest record logged
  have next := MemoryState.toNat_succ table.version positive
  omega

theorem commitTable (paired : Paired memory turso) (ident : TableIdent) (commit : TableCommit)
    (snapshotVersion : Option UInt64) (now : Timestamp)
    (unparted : ¬turso.Parts (.commitTable ident commit snapshotVersion now)) :
    Alike memory (memory.commitTable ident commit now)
      (turso.commitTableExpecting ident commit snapshotVersion now) where
  accepts := by
    intro result next committed
    obtain ⟨valid, live, answer⟩ := (MemoryState.commitTable_ok _ _ _ _ _ _).mp committed
    have known := paired.storedReplay ident commit.idempotencyKey
    cases answer with
    | replayed replay stored placed evidence same replayValid owner =>
        refine ⟨[], (TursoState.commitTableExpecting_iff _ _ _ _ _ _ _).mpr
          ⟨valid, .inl ⟨replay, known.trans stored, ?_, rfl⟩⟩⟩
        exact (MemoryState.answerReplay_ok _ _ _ _).mpr
          ⟨placed, evidence, same, ⟨replayValid, owner⟩, rfl⟩
    | advanced current fresh committable =>
        have stored : turso.tables[tableKey ident]? = some (registeredRow current) := by
          rw [paired.table, committable.stored]
          rfl
        have next := MemoryState.toNat_succ current.version committable.record.positive
        obtain ⟨auditNew, outboxNew⟩ := TursoState.events_new unparted (by
          rw [TursoState.recordedIds, stored]
          rfl)
        obtain ⟨events, recorded⟩ : ∃ events, turso.commitEvents ident commit
            (MemoryState.commitRecord ident current commit now) now = .ok events :=
          ⟨_, (TursoState.insertEvents_ok _ _ _ _ _).mpr ⟨auditNew, outboxNew, rfl⟩⟩
        have ready : turso.Committable ident commit snapshotVersion now (registeredRow current)
            events (TursoState.replayWrites ident commit.idempotencyKey ⟨tableKey ident,
              commit.idempotencyRequestHash.getD (MemoryState.commitRequestHash commit),
              MemoryState.committedTable current commit now⟩) := {
          active := (TursoState.activeTable_eq_some _ _ _).mpr
            ⟨(OrderedMap.contains_eq_false _ _).mp ((paired.deletionStored _).trans live), stored⟩
          placed := (registeredRow_placed _ _ _).mpr ⟨committable.valid, committable.owner, rfl⟩
          pointer := committable.pointer
          version := by
            rintro version rfl
            by_contra stale
            exact unparted (.staleVersion _ _ _ _ _ stored committable.pointer stale)
          record := committable.record
          bounded := by
            by_contra full
            refine unparted (.fullVersion _ _ _ _ _ stored ?_)
            change ¬(current.version + 1).toNat < 2 ^ 63 at full
            change 2 ^ 63 ≤ current.version.toNat + 1
            omega
          column := committable.pointer
          unlogged := paired.logFree committable.stored committable.record.positive
          events := recorded
          replay := (TursoState.insertReplay_ok _ _ _ _ _).mpr ⟨known.trans fresh, rfl⟩
        }
        exact ⟨_, (TursoState.commitTableExpecting_iff _ _ _ _ _ _ _).mpr
          ⟨valid, .inr ⟨known.trans fresh, _, _, _, ready, rfl, rfl⟩⟩⟩
  redraws := by
    intro result writes committed
    have known := paired.storedReplay ident commit.idempotencyKey
    obtain ⟨valid, ⟨replay, stored, answered, rfl⟩ | ⟨fresh, row, events, replay, committable, rfl,
      rfl⟩⟩ := (TursoState.commitTableExpecting_iff _ _ _ _ _ _ _).mp committed
    · have live : memory.softDeletes.contains (tableKey ident) = false := by
        rw [← paired.deletionStored]
        by_contra deleted
        exact unparted (.replayOfDeleted _ _ _ _ (by simpa using deleted)
          (congrArg Option.isSome stored))
      obtain ⟨placed, evidence, same, ⟨replayValid, owner⟩, rfl⟩ :=
        (MemoryState.answerReplay_ok _ _ _ _).mp answered
      refine ⟨memory, (MemoryState.commitTable_ok _ _ _ _ _ _).mpr ⟨valid, live,
        .replayed replay (known.symm.trans stored) placed evidence same replayValid owner⟩, ?_, ?_⟩
      · intro change member
        cases member
      · intro row seen unwritten cell
        exact .rfl
    · obtain ⟨undeleted, stored⟩ := (TursoState.activeTable_eq_some _ _ _).mp committable.active
      rw [paired.table] at stored
      obtain ⟨current, held, rfl⟩ := Option.map_eq_some_iff.mp stored
      rw [← OrderedMap.contains_eq_false, paired.deletionStored] at undeleted
      obtain ⟨tableValid, owner, -⟩ := (registeredRow_placed _ _ _).mp committable.placed
      obtain ⟨-, outboxNew, rfl⟩ := (TursoState.insertEvents_ok _ _ _ _ _).mp committable.events
      obtain ⟨-, rfl⟩ := (TursoState.insertReplay_ok _ _ _ _ _).mp committable.replay
      have free := (paired.outboxFree _).mp outboxNew
      have unlogged := paired.shows.vacant (.pointerLog (tableKey ident) _) trivial |>.mp
        committable.unlogged
      refine ⟨_, (MemoryState.commitTable_ok _ _ _ _ _ _).mpr ⟨valid, undeleted,
        .advanced current (known.symm.trans fresh)
          ⟨held, tableValid, owner, committable.pointer, committable.record⟩⟩, ?_, ?_⟩
      · intro change member seen cell
        simp only [TursoState.commitWrites, TursoState.replayWrites, List.mem_cons, List.mem_append,
          List.mem_map, List.not_mem_nil, or_false] at member
        rcases member with rfl | rfl | (rfl | rfl) | ⟨key, keyed, rfl⟩
        · refine Iff.trans ?_ (shown_insert memory.tables registeredRow _ _ _ cell).symm
          rw [if_pos rfl]
          exact Option.some_inj.trans eq_comm
        · refine Iff.trans ?_ (log_appended rfl _ _ cell).symm
          refine Iff.trans ?_ (or_iff_left (unlogged cell)).symm
          constructor
          · intro same
            exact ⟨rfl, rfl, (Option.some.inj same).symm⟩
          · rintro ⟨-, -, rfl⟩
            rfl
        · exact seen.elim
        · exact outbox_written free cell
        · rw [Option.mem_toList] at keyed
          have held := replays_committed memory ident commit
            (MemoryState.committedTable current commit now) (idempotencyRecordKey ident key)
          rw [keyed, Option.map_some, if_pos rfl] at held
          exact (iff_of_eq (congrArg (· = some cell) held)).symm
      · intro row seen unwritten cell
        cases row with
        | table key =>
            refine (shown_insert memory.tables registeredRow _ key _ cell).trans ?_
            rw [if_neg]
            · exact .rfl
            · rintro rfl
              exact unwritten _ List.mem_cons_self rfl
        | pointerLog key sequence =>
            refine (log_appended rfl key sequence cell).trans (or_iff_right ?_)
            rintro ⟨rfl, rfl, -⟩
            exact unwritten _ (List.mem_cons_of_mem _ List.mem_cons_self) rfl
        | idempotency key =>
            have held := replays_committed memory ident commit
              (MemoryState.committedTable current commit now) key
            rw [if_neg] at held
            · exact iff_of_eq (congrArg (· = some cell) held)
            · intro same
              obtain ⟨own, keyed, rfl⟩ := Option.map_eq_some_iff.mp same
              refine unwritten _ (List.mem_cons_of_mem _ (List.mem_cons_of_mem _
                (List.mem_append_right _ (List.mem_map.mpr ⟨own, ?_, rfl⟩)))) rfl
              exact Option.mem_toList.mpr keyed
        | outboxEvent id =>
            refine outbox_kept ?_ cell
            rintro rfl
            exact unwritten _ (List.mem_cons_of_mem _ (List.mem_cons_of_mem _
              (List.mem_append_left _ (List.mem_cons_of_mem _ List.mem_cons_self)))) rfl
        | _ => exact .rfl

end Paired

end LakeCat
