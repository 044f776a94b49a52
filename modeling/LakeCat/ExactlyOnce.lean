import LakeCat.CommitHistory

/-!
Commits under an idempotency key. The first accepted call stores its response;
while no other call re-keys the table, that response answers every later call
under the key.
-/

namespace LakeCat

open Fallible

namespace MemoryState

section
variable [External]

/-- The hash that a stored replay is compared with. -/
def requestHashOf (commit : TableCommit) : String :=
  commit.idempotencyRequestHash.getD (commitRequestHash commit)

/-- Commits of one table, among renames of other tables, deletions and restorations. -/
def OnTable (ident : TableIdent) : MemoryOp → Prop
  | .commitTable other _ _ => other = ident
  | .renameTable source _ _ _ _ => source ≠ ident
  | .softDeleteTable _ _ _ _ => True
  | .restoreTable _ _ _ _ => True
  | _ => False

/-- How the calls of one table under one key are answered after the first of them. -/
structure Answered (state : MemoryState) (ident : TableIdent) (key hash : String)
    (first : TableRecord) : Prop where
  once : ∀ commit now table next, commit.idempotencyKey = some key →
    state.commitTable ident commit now = .ok (table, next) → next = state
  replayed : ∀ commit now, commit.Valid → state.softDeletes.contains (tableKey ident) = false →
    commit.idempotencyKey = some key → requestHashOf commit = hash →
    state.commitTable ident commit now = .ok (first, state)
  conflict : ∀ commit now, commit.Valid → state.softDeletes.contains (tableKey ident) = false →
    commit.idempotencyKey = some key → requestHashOf commit ≠ hash →
    state.commitTable ident commit now = .error (idempotencyConflict ident)

/-- The two ways to ask for a stored response agree. -/
def Agrees (state : MemoryState) (ident : TableIdent) : Prop :=
  ∀ commit now key table, commit.Valid → state.softDeletes.contains (tableKey ident) = false →
    commit.idempotencyKey = some key →
    (state.replayTableCommit ident key (requestHashOf commit) = .ok (some table) ↔
      (state.storedReplay ident commit.idempotencyKey).isSome = true ∧
        state.commitTable ident commit now = .ok (table, state))

theorem requestHashOf_evidence {commit : TableCommit} (valid : commit.Valid) :
    isSha256Evidence (requestHashOf commit) = true := by
  unfold requestHashOf
  cases given : commit.idempotencyRequestHash with
  | none => exact contentHashJson_evidence _
  | some digest => exact valid.requestHash digest given

/-- A call that passes its own checks and finds a replay is answered by it. -/
theorem commitTable_stored {state : MemoryState} {ident : TableIdent} {commit : TableCommit}
    {replay : IdempotencyReplay} (now : Timestamp) (valid : commit.Valid)
    (live : state.softDeletes.contains (tableKey ident) = false)
    (stored : state.storedReplay ident commit.idempotencyKey = some replay) :
    state.commitTable ident commit now = (do
      let response ← answerReplay ident replay (requestHashOf commit)
      return (response, state)) := by
  rw [commitTable, (TableCommit.validate_ok commit ()).mpr valid, ok_bind, live, stored]
  rfl

theorem commitTable_deleted {state : MemoryState} {ident : TableIdent} {commit : TableCommit}
    (now : Timestamp) (valid : commit.Valid)
    (deleted : state.softDeletes.contains (tableKey ident) = true) :
    state.commitTable ident commit now = .error (tableNotFound ident) := by
  rw [commitTable, (TableCommit.validate_ok commit ()).mpr valid, ok_bind, rejectIf_pos _ deleted]
  rfl

theorem replayTableCommit_stored {state : MemoryState} {ident : TableIdent} {commit : TableCommit}
    {key : String} (valid : commit.Valid) (keyed : commit.idempotencyKey = some key) :
    state.replayTableCommit ident key (requestHashOf commit) =
      match state.storedReplay ident commit.idempotencyKey with
      | none => .ok none
      | some replay => do
          let response ← answerReplay ident replay (requestHashOf commit)
          return some response := by
  have shape := valid.key key keyed
  have digest := (validateIdempotencyRequestHashShape_ok _ ()).mpr (requestHashOf_evidence valid)
  rw [replayTableCommit, shape, ok_bind, digest, ok_bind, storedReplay, keyed]
  rfl

theorem replay_agrees (state : MemoryState) (ident : TableIdent) : state.Agrees ident := by
  intro commit now key table valid live keyed
  rw [replayTableCommit_stored valid keyed]
  cases stored : state.storedReplay ident commit.idempotencyKey with
  | none => simp
  | some replay =>
      rw [commitTable_stored now valid live stored]
      simp only [bind_eq_ok, pure_eq, Except.ok.injEq, Option.some.injEq, Prod.mk.injEq,
        Option.isSome_some, true_and, and_true]

/-- The response of the first accepted call is stored, and nothing of its history is lost. -/
structure Recorded (state : MemoryState) (ident : TableIdent) (key hash : String)
    (first : TableRecord) (history : List TableCommitRecord) : Prop where
  stored : state.idempotency[idempotencyRecordKey ident key]? =
    some ⟨tableKey ident, hash, first⟩
  owner : first.ident = ident
  grown : ∃ later, state.historyOf (tableKey ident) = history ++ later

variable {state next : MemoryState} {ident : TableIdent} {key hash : String} {first : TableRecord}
  {history : List TableCommitRecord}

/-- A recorded table is registered under its own name. -/
theorem Recorded.registered (recorded : state.Recorded ident key hash first history)
    (formed : WellFormed state) :
    ∃ table, state.tables[tableKey ident]? = some table ∧ table.ident = ident := by
  obtain ⟨table, stored, same⟩ := (formed.replays _ _ recorded.stored).table
  exact ⟨table, stored, same.symm.trans recorded.owner⟩

omit [External] in
theorem Recorded.congr (recorded : state.Recorded ident key hash first history)
    (same : next.catalog = state.catalog) : next.Recorded ident key hash first history := by
  obtain ⟨_, _, commits, idempotency, _, _, _⟩ := Catalog.mk.inj same
  refine ⟨idempotency ▸ recorded.stored, recorded.owner, ?_⟩
  rw [historyOf, commits]
  exact recorded.grown

omit [External] in
theorem idempotencyRecordKey_inj {ident : TableIdent} {key other : String}
    (same : idempotencyRecordKey ident key = idempotencyRecordKey ident other) : key = other :=
  String.append_right_inj _ |>.mp same

/-- A fresh commit of the table carries no key or another one. -/
theorem Recorded.commit (recorded : state.Recorded ident key hash first history)
    {commit : TableCommit} {now : Timestamp} (current : TableRecord)
    (fresh : state.storedReplay ident commit.idempotencyKey = none) :
    (state.committed ident commit now current).Recorded ident key hash first history := by
  refine ⟨?_, recorded.owner, ?_⟩
  · rw [committed, commitReplays]
    cases keyed : commit.idempotencyKey with
    | none => exact recorded.stored
    | some other =>
        have different : idempotencyRecordKey ident other ≠ idempotencyRecordKey ident key := by
          intro same
          rw [keyed, idempotencyRecordKey_inj same] at fresh
          exact absurd (fresh.symm.trans recorded.stored) (by simp)
        rw [OrderedMap.getElem?_insert, if_neg different]
        exact recorded.stored
  · obtain ⟨later, grown⟩ := recorded.grown
    refine ⟨later ++ [commitRecord ident current commit now], ?_⟩
    rw [historyOf, committed, historyOf_append, if_pos rfl, ← List.append_assoc, ← grown]
    rfl

/-- The rename of another table re-keys nothing of this one. -/
theorem Recorded.rename (recorded : state.Recorded ident key hash first history)
    (formed : WellFormed state) {source destination : TableIdent} {principal : Principal}
    {receipt : Option Json} (now : Timestamp) {table : TableRecord} (other : source ≠ ident)
    (ready : state.Renamable source destination principal receipt table) :
    (state.renamed source destination principal receipt now table).Recorded ident key hash first
      history := by
  obtain ⟨current, registered, owner⟩ := recorded.registered formed
  have fromSource : tableKey source ≠ tableKey ident := by
    intro same
    have stored := ready.stored
    rw [same] at stored
    obtain rfl := Option.some.inj (stored.symm.trans registered)
    exact other (ready.owner.symm.trans owner)
  have fromDestination := stored_ne_vacant registered ready.vacant
  refine ⟨?_, recorded.owner, ?_⟩
  · rw [renamed, OrderedMap.getElem?_filter]
    refine ⟨recorded.stored, ?_⟩
    have scope := (ready.replays _ _ recorded.stored).scope
    rw [Bool.not_eq_true', ← Bool.not_eq_true, scope]
    exact Ne.symm fromSource
  · rw [historyOf, renamed, historyOf_unmoved source destination _ _ fromSource fromDestination]
    exact recorded.grown

theorem recorded_step (op : MemoryOp) (formed : WellFormed state)
    (recorded : state.Recorded ident key hash first history) (permitted : OnTable ident op) :
    (state.step op).Recorded ident key hash first history := by
  have change := step_change state op
  generalize resulting : (state.step op).catalog = catalog at change
  cases change with
  | unchanged => exact recorded.congr resulting
  | tableCommitted other commit now current _ _ fresh _ =>
      cases (permitted : other = ident)
      exact (recorded.commit current fresh).congr resulting
  | tableRenamed source destination principal receipt now table renamable =>
      exact (recorded.rename formed now permitted renamable).congr resulting
  | tableDeleted other table principal receipt now =>
      have kept : (state.softDeleted other table principal receipt now).Recorded ident key hash
          first history := ⟨recorded.stored, recorded.owner, recorded.grown⟩
      exact kept.congr resulting
  | tableRestored other table principal receipt now =>
      have kept : (state.restored other table principal receipt now).Recorded ident key hash
          first history := ⟨recorded.stored, recorded.owner, recorded.grown⟩
      exact kept.congr resulting
  | namespaceCreated | namespaceUpdated | namespaceDropped | tableCreated | viewStored
  | viewDropped | bindingStored => exact permitted.elim

theorem recorded_run (ops : List MemoryOp) (formed : WellFormed state)
    (recorded : state.Recorded ident key hash first history)
    (permitted : ∀ op ∈ ops, OnTable ident op) :
    WellFormed (state.run ops) ∧ (state.run ops).Recorded ident key hash first history :=
  Transition.run_invariant_along step (fun _ op => OnTable ident op)
    (fun state => WellFormed state ∧ state.Recorded ident key hash first history)
    (fun state op holds permitted =>
      ⟨wellFormed_step state op holds.1, recorded_step op holds.1 holds.2 permitted⟩)
    state ops ⟨formed, recorded⟩ (Transition.along_of_forall _ _ _ permitted)

/-- An accepted call leaves its response stored under its key. -/
theorem recorded_accepted {commit : TableCommit} {now : Timestamp}
    (formed : WellFormed state) (keyed : commit.idempotencyKey = some key)
    (accepted : state.commitTable ident commit now = .ok (first, next)) :
    WellFormed next ∧ next.Recorded ident key (requestHashOf commit) first
      (next.historyOf (tableKey ident)) := by
  have stepped := wellFormed_step state (.commitTable ident commit now) formed
  rw [step_commit accepted] at stepped
  obtain ⟨valid, _, answer⟩ := (commitTable_ok _ _ _ _ _ _).mp accepted
  refine ⟨stepped, ?_⟩
  cases answer with
  | replayed replay stored scope _ same _ owner =>
      rw [storedReplay, keyed] at stored
      refine ⟨?_, owner, [], by simp⟩
      rw [← scope, requestHashOf, ← same]
      exact stored
  | advanced current _ committable =>
      refine ⟨?_, committable.owner, [], by simp⟩
      rw [committed, commitReplays, keyed, OrderedMap.getElem?_insert, if_pos rfl]
      rfl

theorem Recorded.answers (recorded : state.Recorded ident key hash first history)
    (formed : WellFormed state) :
    answerReplay ident ⟨tableKey ident, hash, first⟩ hash = .ok first := by
  have filed := formed.replays _ _ recorded.stored
  exact (answerReplay_ok _ _ _ _).mpr
    ⟨rfl, filed.evidence, rfl, ⟨filed.valid, recorded.owner⟩, rfl⟩

theorem Recorded.answered (recorded : state.Recorded ident key hash first history)
    (formed : WellFormed state) : state.Answered ident key hash first := by
  have filed := formed.replays _ _ recorded.stored
  have found {commit : TableCommit} (keyed : commit.idempotencyKey = some key) :
      state.storedReplay ident commit.idempotencyKey = some ⟨tableKey ident, hash, first⟩ := by
    rw [storedReplay, keyed]
    exact recorded.stored
  refine ⟨?_, ?_, ?_⟩
  · intro commit now table next keyed accepted
    obtain ⟨_, _, answer⟩ := (commitTable_ok _ _ _ _ _ _).mp accepted
    cases answer with
    | replayed => rfl
    | advanced _ fresh _ => exact absurd (fresh.symm.trans (found keyed)) (by simp)
  · intro commit now valid live keyed same
    rw [commitTable_stored now valid live (found keyed), same, recorded.answers formed]
    rfl
  · intro commit now valid live keyed different
    rw [commitTable_stored now valid live (found keyed), answerReplay,
      (validateIdempotencyRecordTableKey_ok _ _ ()).mpr rfl, ok_bind,
      (validateIdempotencyRecordRequestHash_ok _ ()).mpr filed.evidence, ok_bind,
      rejectIf_pos _ (Ne.symm different)]
    rfl

/-- After the first accepted call, every later one under its key repeats its response. -/
theorem commit_exactlyOnce (setup between : List MemoryOp) (ident : TableIdent) (key : String)
    (commit : TableCommit) (now : Timestamp) (first : TableRecord) (next : MemoryState)
    (keyed : commit.idempotencyKey = some key)
    (accepted : (MemoryState.empty.run setup).commitTable ident commit now = .ok (first, next))
    (permitted : ∀ op ∈ between, OnTable ident op) :
    (next.run between).Answered ident key (requestHashOf commit) first ∧
      (∃ later, (next.run between).historyOf (tableKey ident) =
        next.historyOf (tableKey ident) ++ later) ∧
      (next.run between).Agrees ident := by
  obtain ⟨formed, recorded⟩ := recorded_accepted (wellFormed_run setup) keyed accepted
  obtain ⟨ending, kept⟩ := recorded_run between formed recorded permitted
  exact ⟨kept.answered ending, kept.grown, replay_agrees _ _⟩

end

def sampleHash (digit : Char) : String :=
  "sha256:" ++ String.ofList (List.replicate 64 digit)

/-- The sample commit under an idempotency key. -/
def keyedCommit : TableCommit :=
  { sampleCommit with idempotencyKey := some "key-1", idempotencyRequestHash := some (sampleHash 'a') }

theorem sampleHash_evidence (digit : Char) (hex : isAsciiHexdigit digit = true) :
    isSha256Evidence (sampleHash digit) = true := by
  simp [isSha256Evidence, sampleHash, hex]

theorem keyedCommit_valid : keyedCommit.Valid := by
  refine ⟨?_, ?_, ?_, ?_, ?_, ?_, ?_⟩
  · intro key given
    obtain rfl := Option.some.inj given
    rfl
  · intro unkeyed
    cases unkeyed
  · intro digest given
    obtain rfl := Option.some.inj given
    exact sampleHash_evidence 'a' (by decide)
  all_goals exact fun _ given => nomatch given

theorem keyedCommit_accepted [External] :
    (MemoryState.empty.run sampleSetup).commitTable sampleIdent keyedCommit 1 =
      .ok (committedTable sampleTable keyedCommit 1,
        (MemoryState.empty.run sampleSetup).committed sampleIdent keyedCommit 1 sampleTable) := by
  refine commitTable_fresh 1 keyedCommit_valid rfl rfl rfl
    ((TableRecord.validate_ok _ ()).mp rfl) rfl rfl ⟨by decide, ?_, ?_, by decide, ?_⟩
  all_goals exact fun _ given => nomatch given

theorem commit_exactlyOnce_sample : ∃ between : List MemoryOp, ∀ [External],
    let next := (MemoryState.empty.run sampleSetup).committed sampleIdent keyedCommit 1 sampleTable
    (next.run between).Answered sampleIdent "key-1" (requestHashOf keyedCommit)
        (committedTable sampleTable keyedCommit 1) ∧
      (∃ later, (next.run between).historyOf (tableKey sampleIdent) =
        next.historyOf (tableKey sampleIdent) ++ later) ∧
      (next.run between).Agrees sampleIdent := by
  refine ⟨[.commitTable sampleIdent sampleCommit 2], ?_⟩
  intro _
  refine commit_exactlyOnce sampleSetup _ sampleIdent "key-1" keyedCommit 1 _ _ rfl
    keyedCommit_accepted ?_
  intro op member
  rw [List.mem_singleton.mp member]
  rfl

/-- The same call under another request, with a document that no commit may carry. -/
def malformedCommit : TableCommit :=
  { keyedCommit with idempotencyRequestHash := some (sampleHash 'b'), newMetadata := some .null }

/-- A replay is not found through `commit_table` while the table is soft-deleted, and a
malformed call under the same key is refused before the key is looked up. -/
theorem keyedCommit_unanswered : ∃ between : List MemoryOp, ∀ [External],
    let next := (MemoryState.empty.run sampleSetup).committed sampleIdent keyedCommit 1 sampleTable
    (MemoryState.empty.run sampleSetup).commitTable sampleIdent keyedCommit 1 =
        .ok (committedTable sampleTable keyedCommit 1, next) ∧
      (∀ op ∈ between, OnTable sampleIdent op) ∧
      (next.run between).replayTableCommit sampleIdent "key-1" (requestHashOf keyedCommit) =
        .ok (some (committedTable sampleTable keyedCommit 1)) ∧
      (∀ now, (next.run between).commitTable sampleIdent keyedCommit now =
        .error (tableNotFound sampleIdent)) ∧
      (∀ now message, next.commitTable sampleIdent malformedCommit now ≠
        .error (.conflict message)) := by
  refine ⟨[.softDeleteTable sampleIdent .anonymous none 2], ?_⟩
  intro _
  have permitted : ∀ op ∈ [MemoryOp.softDeleteTable sampleIdent .anonymous none 2],
      OnTable sampleIdent op := by simp [OnTable]
  have valid := keyedCommit_valid
  obtain ⟨formed, recorded⟩ := recorded_accepted (wellFormed_run sampleSetup) rfl
    keyedCommit_accepted
  obtain ⟨ending, kept⟩ := recorded_run _ formed recorded permitted
  refine ⟨keyedCommit_accepted, permitted, ?_, ?_, ?_⟩
  · have found := kept.stored
    rw [replayTableCommit_stored valid rfl, storedReplay]
    simp only [keyedCommit, Option.bind_eq_bind, Option.bind_some] at found ⊢
    rw [found]
    have answered := kept.answers ending
    simp only [keyedCommit] at answered
    simp only [answered, ok_bind, pure_eq]
  · intro now
    refine commitTable_deleted now valid ?_
    have stored : ((MemoryState.empty.run sampleSetup).committed sampleIdent keyedCommit 1
        sampleTable).tables[tableKey sampleIdent]? =
          some (committedTable sampleTable keyedCommit 1) := by
      rw [committed, OrderedMap.getElem?_insert, if_pos rfl]
    have accepted := (softDeleteTable_ok _ _ sampleIdent .anonymous none 2 _).mpr
      ⟨⟨rfl, stored, committedTable_valid 1 valid ((TableRecord.validate_ok _ ()).mp rfl), rfl⟩,
        rfl, by simp, rfl⟩
    rw [run, Transition.run_cons, Transition.run_nil, step, accepted]
    exact (OrderedMap.contains_eq_true _ _).mpr
      ⟨_, (OrderedMap.getElem?_insert _ _ _ _).trans (if_pos rfl)⟩
  · intro now message refused
    have failed : malformedCommit.validate =
        .error (.invalidArgument "new table metadata must be a JSON object") := by
      have shape : validateIdempotencyKeyShape "key-1" = .ok () := rfl
      have digest := (validateIdempotencyRequestHashShape_ok _ ()).mpr
        (sampleHash_evidence 'b' (by decide))
      simp [TableCommit.validate, malformedCommit, keyedCommit, sampleCommit, checkSome, shape,
        digest, rejectIf, Json.isObject]
    rw [commitTable, failed] at refused
    cases refused

end MemoryState

end LakeCat
