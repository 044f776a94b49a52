import LakeCat.TableSlices
import LakeCat.ExactlyOnce

/-!
Calls on some tables leave the records of all other tables as they were. They
leave the answers of the other tables as well, except where the dotted path of
a namespace files a replay under the key prefix of another table.
-/

namespace LakeCat

open Fallible

/-- The call of the store that a table call makes, if it may write. -/
def TableCall.op? : TableCall → Option MemoryOp
  | .createTable table => some (.createTable table)
  | .loadTable _ => none
  | .tableCommitRecords _ _ _ => none
  | .commitTable ident commit now => some (.commitTable ident commit now)
  | .replayTableCommit _ _ _ => none
  | .softDeleteTable ident principal receipt now =>
      some (.softDeleteTable ident principal receipt now)
  | .restoreTable ident principal receipt now => some (.restoreTable ident principal receipt now)
  | .renameTable source destination principal receipt now =>
      some (.renameTable source destination principal receipt now)

/-- A call whose names are all of one kind. -/
structure CallOn (names : TableIdent → Prop) where
  call : TableCall
  named : ∀ ident ∈ call.idents, names ident

/-- A name that its constructors make, and that is not one of these. -/
structure Foreign (own : List TableIdent) (ident : TableIdent) : Prop where
  made : ident.Made
  apart : ident ∉ own

/-- What is stored of a table. -/
structure TableFile where
  table : Option TableRecord
  softDelete : Option SoftDeleteRecord
  commits : List MemoryCommitRecord
  replays : BTreeMap IdempotencyReplay
  policyBindings : BTreeMap PolicyBinding

def SharesStableId (own : List TableIdent) (ident : TableIdent) : Prop :=
  ∃ name ∈ own, name.stableId = ident.stableId

theorem Foreign.tableKey_ne {own : List TableIdent} {ident name : TableIdent}
    (foreign : Foreign own ident) (owned : name ∈ own) (made : name.Made) :
    tableKey ident ≠ tableKey name := fun same =>
  foreign.apart (tableKey_injective foreign.made made same ▸ owned)

theorem Foreign.ownKey {own : List TableIdent} {ident : TableIdent} (foreign : Foreign own ident)
    (ownMade : ∀ name ∈ own, name.Made) : LakeCat.ownKey own (tableKey ident) = false := by
  refine Bool.eq_false_iff.mpr fun owned => ?_
  obtain ⟨name, member, same⟩ := List.any_eq_true.mp owned
  exact foreign.tableKey_ne member (ownMade name member) (of_decide_eq_true same).symm

theorem PolicyBinding.scopedTo_unique {binding : PolicyBinding} {one another : TableIdent}
    (first : binding.scopedTo one = true) (second : binding.scopedTo another = true) :
    one = another := by
  obtain ⟨warehouse, ns, name⟩ := of_decide_eq_true first
  obtain ⟨otherWarehouse, otherNs, otherName⟩ := of_decide_eq_true second
  cases one
  cases another
  rw [TableIdent.mk.injEq]
  exact ⟨warehouse.symm.trans otherWarehouse, Option.some.inj (ns.symm.trans otherNs),
    Option.some.inj (name.symm.trans otherName)⟩

theorem Foreign.ownBinding {own : List TableIdent} {ident : TableIdent}
    (foreign : Foreign own ident) {binding : PolicyBinding}
    (inScope : binding.scopedTo ident = true) : LakeCat.ownBinding own binding = false := by
  refine Bool.eq_false_iff.mpr fun owned => ?_
  obtain ⟨name, member, also⟩ := List.any_eq_true.mp owned
  exact foreign.apart (PolicyBinding.scopedTo_unique inScope also ▸ member)

namespace MemoryState

def recordsOf (state : MemoryState) (ident : TableIdent) : TableFile where
  table := state.tables[tableKey ident]?
  softDelete := state.softDeletes[tableKey ident]?
  commits := state.commits.filter fun commit => commit.tableKey = tableKey ident
  replays := state.idempotency.filter fun _ replay => replay.tableKey = tableKey ident
  policyBindings := state.policyBindings.filter fun _ binding => binding.scopedTo ident

section
variable [External] {own : List TableIdent} {state next : MemoryState}

theorem perform_state (state : MemoryState) (call : TableCall) :
    (state.perform call).2 = (call.op?.map state.step).getD state := by
  cases call <;> rfl

theorem wellFormed_perform (formed : WellFormed state) (call : TableCall) :
    WellFormed (state.perform call).2 := by
  rw [perform_state]
  cases call.op? with
  | none => exact formed
  | some op => exact wellFormed_step state op formed

omit [External] in
theorem RunsAlike.answered {one another : LakeCatResult (TableRecord × MemoryState)}
    (runs : RunsAlike own one another) (alike : Alike own state next) :
    (state.answered one).1 = (next.answered another).1 ∧
      Alike own (state.answered one).2 (next.answered another).2 := by
  cases runs with
  | error error => exact ⟨rfl, alike⟩
  | ok same => exact ⟨congrArg (fun table => TableAnswer.table (.ok table)) same.1, same.2⟩

/-- Calls on these names are answered alike by alike stores. -/
theorem Alike.perform (alike : Alike own state next) (formed : WellFormed state)
    (nextFormed : WellFormed next) (call : TableCall) (owned : ∀ ident ∈ call.idents, ident ∈ own) :
    (state.perform call).1 = (next.perform call).1 ∧
      Alike own (state.perform call).2 (next.perform call).2 := by
  cases call with
  | createTable table =>
      exact (alike.createTable table (owned _ (by simp [TableCall.idents]))).answered alike
  | loadTable ident =>
      have same := alike.loadTable (owned ident (by simp [TableCall.idents]))
      exact ⟨congrArg TableAnswer.table same, alike⟩
  | tableCommitRecords ident startVersion endVersion =>
      have same := alike.tableCommitRecords (owned ident (by simp [TableCall.idents]))
        startVersion endVersion
      exact ⟨congrArg TableAnswer.history same, alike⟩
  | commitTable ident commit now =>
      exact (alike.commitTable (owned ident (by simp [TableCall.idents])) commit now).answered alike
  | replayTableCommit ident key requestHash =>
      have same := alike.replayTableCommit (owned ident (by simp [TableCall.idents])) key
        requestHash
      exact ⟨congrArg TableAnswer.replay same, alike⟩
  | softDeleteTable ident principal receipt now =>
      exact (alike.softDeleteTable (owned ident (by simp [TableCall.idents])) principal receipt
        now).answered alike
  | restoreTable ident principal receipt now =>
      exact (alike.restoreTable (owned ident (by simp [TableCall.idents])) principal receipt
        now).answered alike
  | renameTable source destination principal receipt now =>
      exact (alike.renameTable formed nextFormed (owned source (by simp [TableCall.idents]))
        (owned destination (by simp [TableCall.idents])) principal receipt now).answered alike

theorem Alike.answers (alike : Alike own state next) (formed : WellFormed state)
    (nextFormed : WellFormed next) (calls : List (CallOn (· ∈ own))) :
    state.answers (calls.map CallOn.call) = next.answers (calls.map CallOn.call) := by
  induction calls generalizing state next with
  | nil => rfl
  | cons head rest ih =>
      obtain ⟨same, still⟩ := alike.perform formed nextFormed head.call head.named
      rw [List.map_cons, MemoryState.answers, MemoryState.answers, same,
        ih still (wellFormed_perform formed _) (wellFormed_perform nextFormed _)]

/-- The stored records of these names are as they were; replays are told apart by their table. -/
structure Untouched (own : List TableIdent) (state next : MemoryState) : Prop where
  namespaces : next.namespaces = state.namespaces
  tables : (next.tables.filter fun key _ => ownKey own key) =
    state.tables.filter fun key _ => ownKey own key
  softDeletes : (next.softDeletes.filter fun key _ => ownKey own key) =
    state.softDeletes.filter fun key _ => ownKey own key
  commits : (next.commits.filter fun commit => ownKey own commit.tableKey) =
    state.commits.filter fun commit => ownKey own commit.tableKey
  replays : ∀ ident ∈ own,
    (next.idempotency.filter fun _ replay => replay.tableKey = tableKey ident) =
      state.idempotency.filter fun _ replay => replay.tableKey = tableKey ident
  policyBindings : (next.policyBindings.filter fun _ binding => ownBinding own binding) =
    state.policyBindings.filter fun _ binding => ownBinding own binding

omit [External] in
theorem Untouched.refl (own : List TableIdent) (state : MemoryState) : Untouched own state state :=
  ⟨rfl, rfl, rfl, rfl, fun _ _ => rfl, rfl⟩

omit [External] in
theorem Untouched.alike (untouched : Untouched own state next)
    (replays : (next.idempotency.filter fun key _ => ownReplayKey own key) =
      state.idempotency.filter fun key _ => ownReplayKey own key) : Alike own state next := by
  simp only [Alike, within, untouched.namespaces, untouched.tables, untouched.softDeletes,
    untouched.commits, replays, untouched.policyBindings]

omit [External] in
theorem movedBinding_scopedTo {source destination : TableIdent} {now : Timestamp}
    {binding : PolicyBinding} (warehouse : source.warehouse = destination.warehouse)
    (inScope : binding.scopedTo source = true) :
    (movedBinding source destination now binding).scopedTo destination = true := by
  obtain ⟨same, ns, name⟩ := of_decide_eq_true inScope
  simp [PolicyBinding.scopedTo, movedBinding, same, ns, name, warehouse]

omit [External] in
theorem untouched_rename (ownMade : ∀ name ∈ own, name.Made) {source destination : TableIdent}
    (foreign : Foreign own source) (new : Foreign own destination) :
    ∀ commits : List MemoryCommitRecord,
      ((commits.map (movedCommit source destination)).filter fun commit =>
          ownKey own commit.tableKey) =
        commits.filter fun commit => ownKey own commit.tableKey := by
  intro commits
  induction commits with
  | nil => rfl
  | cons commit rest ih =>
      rw [List.map_cons, List.filter_cons, List.filter_cons, ih]
      by_cases moves : commit.tableKey = tableKey source
      · simp [movedCommit, moves, foreign.ownKey ownMade, new.ownKey ownMade]
      · simp [movedCommit, moves]

/-- A call on other names leaves the records of these names. -/
theorem untouched_successor (ownMade : ∀ name ∈ own, name.Made) {call : TableCall} {op : MemoryOp}
    (asked : call.op? = some op) (foreign : ∀ ident ∈ call.idents, Foreign own ident)
    (successor : Successor state op next) : Untouched own state next := by
  cases call with
  | loadTable | tableCommitRecords | replayTableCommit => cases asked
  | createTable table =>
      cases asked
      have dropped := (foreign table.ident (by simp [TableCall.idents])).ownKey ownMade
      cases successor with
      | unchanged => exact .refl own state
      | administered => exact ⟨rfl, rfl, rfl, rfl, fun _ _ => rfl, rfl⟩
      | tableCreated =>
          refine { Untouched.refl own state with tables := ?_ }
          exact OrderedMap.filter_insert_drop _ dropped fun _ _ => dropped
  | commitTable ident commit now =>
      cases asked
      have own := foreign ident (by simp [TableCall.idents])
      have dropped := own.ownKey ownMade
      cases successor with
      | unchanged => exact .refl _ state
      | administered => exact ⟨rfl, rfl, rfl, rfl, fun _ _ => rfl, rfl⟩
      | tableCommitted _ _ _ current _ _ fresh =>
          refine { Untouched.refl _ state with tables := ?_, commits := ?_, replays := ?_ }
          · exact OrderedMap.filter_insert_drop _ dropped fun _ _ => dropped
          · simp [committed, dropped]
          · intro name owned
            simp only [committed, commitReplays]
            split
            next key given =>
              have vacant : state.idempotency[idempotencyRecordKey ident key]? = none := by
                simpa only [storedReplay, given, Option.bind_eq_bind, Option.bind_some] using fresh
              refine OrderedMap.filter_insert_drop _ ?_ fun old stored => ?_
              · exact decide_eq_false (own.tableKey_ne owned (ownMade name owned))
              · exact absurd (vacant.symm.trans stored) (by simp)
            next => rfl
  | softDeleteTable ident principal receipt now =>
      cases asked
      have dropped := (foreign ident (by simp [TableCall.idents])).ownKey ownMade
      cases successor with
      | unchanged => exact .refl own state
      | administered => exact ⟨rfl, rfl, rfl, rfl, fun _ _ => rfl, rfl⟩
      | tableDeleted =>
          refine { Untouched.refl own state with softDeletes := ?_ }
          exact OrderedMap.filter_insert_drop _ dropped fun _ _ => dropped
  | restoreTable ident principal receipt now =>
      cases asked
      have dropped := (foreign ident (by simp [TableCall.idents])).ownKey ownMade
      cases successor with
      | unchanged => exact .refl own state
      | administered => exact ⟨rfl, rfl, rfl, rfl, fun _ _ => rfl, rfl⟩
      | tableRestored =>
          refine { Untouched.refl own state with softDeletes := ?_ }
          exact OrderedMap.filter_erase_drop _ fun _ => dropped
  | renameTable source destination principal receipt now =>
      cases asked
      have old := foreign source (by simp [TableCall.idents])
      have new := foreign destination (by simp [TableCall.idents])
      cases successor with
      | unchanged => exact .refl own state
      | administered => exact ⟨rfl, rfl, rfl, rfl, fun _ _ => rfl, rfl⟩
      | tableRenamed _ _ _ _ _ table renamable =>
          refine ⟨rfl, ?_, rfl, untouched_rename ownMade old new state.commits, ?_, ?_⟩
          · have stored (tables : BTreeMap TableRecord) (moved : TableRecord) :
                ((tables.insert (tableKey destination) moved).filter fun key _ => ownKey own key) =
                  tables.filter fun key _ => ownKey own key :=
              OrderedMap.filter_insert_drop _ (new.ownKey ownMade) fun _ _ => new.ownKey ownMade
            exact (stored _ _).trans (OrderedMap.filter_erase_drop _ fun _ => old.ownKey ownMade)
          · intro name owned
            refine OrderedMap.filter_filter_drop _ fun key replay stored kept => ?_
            have elsewhere : replay.tableKey ≠ tableKey source := fun same =>
              old.tableKey_ne owned (ownMade name owned) (same.symm.trans (of_decide_eq_true kept))
            have retirable := renamable.replays key replay stored
            simpa using fun keyed => elsewhere (retirable.scope.mp keyed)
          · refine OrderedMap.filter_map_drop _ fun key binding => ?_
            by_cases inScope : binding.scopedTo source = true
            · exact .inr ⟨old.ownBinding inScope,
                new.ownBinding (movedBinding_scopedTo renamable.warehouse inScope)⟩
            · refine .inl (if_neg fun moves => inScope ?_)
              exact decide_eq_true moves

theorem untouched_perform (ownMade : ∀ name ∈ own, name.Made) (state : MemoryState)
    (call : CallOn (Foreign own)) : Untouched own state (state.perform call.call).2 := by
  rw [perform_state]
  cases asked : call.call.op? with
  | none => exact .refl own state
  | some op => exact untouched_successor ownMade asked call.named (step_successor state op)

/-- What a call on other names does to the answers of these names: it files a replay under
the key prefix of one of them, or removes one that is filed there. -/
def Interferes (own : List TableIdent) (state : MemoryState) : TableCall → Prop
  | .commitTable ident commit now =>
      SharesStableId own ident ∧ (∃ key, commit.idempotencyKey = some key) ∧ commit.Valid ∧
        state.softDeletes.contains (tableKey ident) = false ∧
        state.storedReplay ident commit.idempotencyKey = none ∧
        ∃ current, state.Committable ident commit now current
  | .renameTable source destination principal receipt _ =>
      SharesStableId own source ∧
        (∃ table, state.Renamable source destination principal receipt table) ∧
        ∃ (key : String) (replay : IdempotencyReplay), state.idempotency[key]? = some replay ∧
          replay.tableKey = tableKey source
  | _ => False

/-- The replays of the store, each under a key that a call may carry. -/
def KeysShaped (state : MemoryState) : Prop :=
  ∀ (key : String) (replay : IdempotencyReplay), state.idempotency[key]? = some replay →
    ∃ idempotencyKey, validateIdempotencyKeyShape idempotencyKey = .ok () ∧
      key = idempotencyRecordKey replay.response.ident idempotencyKey

theorem keysShaped_step (state : MemoryState) (op : MemoryOp) (shaped : KeysShaped state) :
    KeysShaped (state.step op) := by
  have successor := step_successor state op
  generalize state.step op = next at successor
  cases successor with
  | namespaceDropped | tableRenamed =>
      intro key replay stored
      exact shaped key replay ((OrderedMap.getElem?_filter _ _ _ _).mp stored).1
  | tableCommitted ident commit now current valid _ _ committable =>
      intro key replay stored
      simp only [committed, commitReplays] at stored
      split at stored
      next idempotencyKey given =>
        rw [OrderedMap.getElem?_insert] at stored
        split at stored
        next same =>
          obtain rfl := Option.some.inj stored
          refine ⟨idempotencyKey, valid.key idempotencyKey given, same.symm.trans ?_⟩
          exact congrArg (idempotencyRecordKey · idempotencyKey) committable.owner.symm
        next => exact shaped key replay stored
      next => exact shaped key replay stored
  | _ => exact shaped

theorem keysShaped_perform (shaped : KeysShaped state) (call : TableCall) :
    KeysShaped (state.perform call).2 := by
  rw [perform_state]
  cases call.op? with
  | none => exact shaped
  | some op => exact keysShaped_step state op shaped

/-- A replay filed under the key of its table is under these names when they share its stable id. -/
theorem WellFormed.replay_source (formed : WellFormed state) {source : TableIdent}
    {table : TableRecord} (stored : state.tables[tableKey source]? = some table)
    (owner : table.ident = source) {key : String} {replay : IdempotencyReplay}
    (filed : state.idempotency[key]? = some replay) (here : replay.tableKey = tableKey source) :
    replay.response.ident = source := by
  obtain ⟨registered, found, response⟩ := (formed.replays key replay filed).table
  rw [here, stored] at found
  rw [response, ← Option.some.inj found, owner]

theorem alike_of_not_interferes (formed : WellFormed state) (ownMade : ∀ name ∈ own, name.Made)
    (call : CallOn (Foreign own)) (quiet : ¬Interferes own state call.call) :
    Alike own state (state.perform call.call).2 := by
  refine (untouched_perform ownMade state call).alike ?_
  obtain ⟨call, foreign⟩ := call
  rw [perform_state]
  cases asked : call.op? with
  | none => rfl
  | some op =>
      have successor := step_successor state op
      rw [Option.map_some, Option.getD_some]
      generalize state.step op = next at successor
      cases call with
      | loadTable | tableCommitRecords | replayTableCommit => cases asked
      | createTable | softDeleteTable | restoreTable =>
          cases asked
          cases successor <;> rfl
      | commitTable ident commit now =>
          cases asked
          cases successor with
          | unchanged | administered => rfl
          | tableCommitted _ _ _ current valid live fresh committable =>
              simp only [committed, commitReplays]
              split
              next key given =>
                have dropped : ownReplayKey own (idempotencyRecordKey ident key) = false := by
                  refine Bool.eq_false_iff.mpr fun keyed => ?_
                  obtain ⟨name, owned, starts⟩ := List.any_eq_true.mp keyed
                  have made := (foreign ident (by simp [TableCall.idents])).made
                  have same := (idempotencyRecordKey_startsWith made (ownMade name owned) key).mp
                    starts
                  exact quiet ⟨⟨name, owned, same.symm⟩, ⟨key, given⟩, valid, live, fresh, current,
                    committable⟩
                exact OrderedMap.filter_insert_drop _ dropped fun _ _ => dropped
              next => rfl
      | renameTable source destination principal receipt now =>
          cases asked
          cases successor with
          | unchanged | administered => rfl
          | tableRenamed _ _ _ _ _ table renamable =>
              refine OrderedMap.filter_filter_drop _ fun key replay stored keyed => ?_
              cases starts : startsWith key (idempotencyPrefix source) with
              | false => rfl
              | true =>
                  have here := (renamable.replays key replay stored).scope.mp starts
                  obtain ⟨idempotencyKey, made⟩ := (formed.replays key replay stored).keyed
                  rw [formed.replay_source renamable.stored renamable.owner stored here] at made
                  obtain ⟨name, owned, begins⟩ := List.any_eq_true.mp keyed
                  rw [made] at begins
                  have same := (idempotencyRecordKey_startsWith
                    (foreign source (by simp [TableCall.idents])).made (ownMade name owned)
                    idempotencyKey).mp begins
                  exact (quiet ⟨⟨name, owned, same.symm⟩, ⟨table, renamable⟩, key, replay, stored,
                    here⟩).elim

omit [External] in
theorem replayTableCommit_absent {ident : TableIdent} {key requestHash : String}
    (shape : validateIdempotencyKeyShape key = .ok ())
    (digest : validateIdempotencyRequestHashShape requestHash = .ok ())
    (absent : state.idempotency[idempotencyRecordKey ident key]? = none) :
    state.replayTableCommit ident key requestHash = .ok none := by
  rw [replayTableCommit, shape, digest, ok_bind, ok_bind, absent]
  rfl

omit [External] in
/-- A replay of another table is an error, not an answer. -/
theorem replayTableCommit_misfiled {ident : TableIdent} {key requestHash : String}
    {replay : IdempotencyReplay} (shape : validateIdempotencyKeyShape key = .ok ())
    (digest : validateIdempotencyRequestHashShape requestHash = .ok ())
    (stored : state.idempotency[idempotencyRecordKey ident key]? = some replay)
    (misfiled : replay.tableKey ≠ tableKey ident) :
    ∃ error, state.replayTableCommit ident key requestHash = .error error := by
  rw [replayTableCommit, shape, digest, ok_bind, ok_bind, stored]
  dsimp only
  rw [answerReplay, validateIdempotencyRecordTableKey, validateScope, ok_bind,
    rejectIf_pos _ misfiled]
  exact ⟨_, rfl⟩

/-- These names have the same records, and every list of calls on them has the same answers. -/
structure Undisturbed (own : List TableIdent) (state next : MemoryState) : Prop where
  records : ∀ ident ∈ own, next.recordsOf ident = state.recordsOf ident
  answers : ∀ calls : List (CallOn (· ∈ own)),
    next.answers (calls.map CallOn.call) = state.answers (calls.map CallOn.call)

omit [External] in
theorem Untouched.records (untouched : Untouched own state next) (ident : TableIdent)
    (owned : ident ∈ own) : next.recordsOf ident = state.recordsOf ident := by
  have narrowed (bindings : BTreeMap PolicyBinding) :
      (bindings.filter fun _ binding => ownBinding own binding).filter
          (fun _ binding => binding.scopedTo ident) =
        bindings.filter fun _ binding => binding.scopedTo ident :=
    OrderedMap.filter_filter_drop bindings fun _ _ _ kept =>
      List.any_eq_true.mpr ⟨ident, owned, kept⟩
  have table := congrArg (fun tables : BTreeMap TableRecord => tables[tableKey ident]?)
    untouched.tables
  have softDelete := congrArg (fun records : BTreeMap SoftDeleteRecord => records[tableKey ident]?)
    untouched.softDeletes
  simp only [OrderedMap.getElem?_filter_key _ (ownKey_of_mem owned)] at table softDelete
  have commits : (next.commits.filter fun commit => commit.tableKey = tableKey ident) =
      state.commits.filter fun commit => commit.tableKey = tableKey ident := by
    rw [← filter_commits_own next.commits owned, ← filter_commits_own state.commits owned,
      untouched.commits]
  have bindings : (next.policyBindings.filter fun _ binding => binding.scopedTo ident) =
      state.policyBindings.filter fun _ binding => binding.scopedTo ident := by
    rw [← narrowed next.policyBindings, ← narrowed state.policyBindings, untouched.policyBindings]
  simp only [recordsOf, table, softDelete, commits, bindings, untouched.replays ident owned]

/-- A replay call on the other name tells the two stores apart. -/
theorem not_undisturbed (formed : WellFormed state) (shaped : KeysShaped state)
    (ownMade : ∀ name ∈ own, name.Made) (call : CallOn (Foreign own))
    (interferes : Interferes own state call.call) :
    ¬Undisturbed own state (state.perform call.call).2 := by
  have digest := (validateIdempotencyRequestHashShape_ok (contentHashBytes "") ()).mpr
    (contentHashBytes_evidence "")
  have differs {name : TableIdent} (owned : name ∈ own) (key : String) (error : LakeCatError)
      {one another : MemoryState} (undisturbed : Undisturbed own one another)
      (results : (one.replayTableCommit name key (contentHashBytes "") = .ok none ∧
          another.replayTableCommit name key (contentHashBytes "") = .error error) ∨
        (one.replayTableCommit name key (contentHashBytes "") = .error error ∧
          another.replayTableCommit name key (contentHashBytes "") = .ok none)) : False := by
    have same := undisturbed.answers
      [⟨.replayTableCommit name key (contentHashBytes ""), by simpa [TableCall.idents]⟩]
    simp only [List.map_cons, List.map_nil, answers, perform, List.cons.injEq, and_true,
      TableAnswer.replay.injEq] at same
    rcases results with ⟨first, second⟩ | ⟨first, second⟩ <;>
      rw [first, second] at same <;> cases same
  intro undisturbed
  obtain ⟨call, foreign⟩ := call
  cases call with
  | createTable | loadTable | tableCommitRecords | replayTableCommit | softDeleteTable
  | restoreTable => exact interferes
  | commitTable ident commit now =>
      obtain ⟨⟨name, owned, same⟩, ⟨key, given⟩, valid, live, fresh, current, committable⟩ :=
        interferes
      have apart := (foreign ident (by simp [TableCall.idents])).tableKey_ne owned
        (ownMade name owned)
      have shared : idempotencyRecordKey name key = idempotencyRecordKey ident key := by
        rw [idempotencyRecordKey, idempotencyPrefix, same, idempotencyRecordKey, idempotencyPrefix]
      have accepted := (commitTable_ok state _ ident commit now _).mpr
        ⟨valid, live, .advanced current fresh committable⟩
      have after : (state.perform (.commitTable ident commit now)).2 =
          state.committed ident commit now current := by
        rw [perform, answered, accepted]
        rfl
      have absent : state.idempotency[idempotencyRecordKey name key]? = none := by
        rw [shared]
        simpa only [storedReplay, given, Option.bind_eq_bind, Option.bind_some] using fresh
      have filed : (state.committed ident commit now current).idempotency[
          idempotencyRecordKey name key]? = some ⟨tableKey ident,
            commit.idempotencyRequestHash.getD (commitRequestHash commit),
            committedTable current commit now⟩ := by
        simp only [committed, commitReplays, given, shared]
        exact (OrderedMap.getElem?_insert _ _ _ _).trans (if_pos rfl)
      obtain ⟨error, refused⟩ := replayTableCommit_misfiled (valid.key key given) digest filed apart
      rw [after] at undisturbed
      exact differs owned key error undisturbed
        (.inl ⟨replayTableCommit_absent (valid.key key given) digest absent, refused⟩)
  | renameTable source destination principal receipt now =>
      obtain ⟨⟨name, owned, same⟩, ⟨table, renamable⟩, recordKey, replay, stored, here⟩ :=
        interferes
      have apart := (foreign source (by simp [TableCall.idents])).tableKey_ne owned
        (ownMade name owned)
      obtain ⟨key, shape, keyed⟩ := shaped recordKey replay stored
      rw [formed.replay_source renamable.stored renamable.owner stored here] at keyed
      have shared : recordKey = idempotencyRecordKey name key := by
        rw [keyed, idempotencyRecordKey, idempotencyPrefix, idempotencyRecordKey,
          idempotencyPrefix, same]
      rw [shared] at stored
      have accepted := (renameTable_ok state _ source destination principal receipt now _).mpr
        ⟨table, renamable, rfl, rfl⟩
      have after : (state.perform (.renameTable source destination principal receipt now)).2 =
          state.renamed source destination principal receipt now table := by
        rw [perform, answered, accepted]
        rfl
      have absent : (state.renamed source destination principal receipt now table).idempotency[
          idempotencyRecordKey name key]? = none := by
        refine Option.eq_none_iff_forall_not_mem.mpr fun other member => ?_
        have left := ((OrderedMap.getElem?_filter _ _ _ _).mp member).2
        rw [← shared, keyed, idempotencyRecordKey_self] at left
        cases left
      obtain ⟨error, refused⟩ := replayTableCommit_misfiled shape digest stored (here ▸ apart)
      rw [after] at undisturbed
      exact differs owned key error undisturbed
        (.inr ⟨refused, replayTableCommit_absent shape digest absent⟩)

/-- The state after calls on other names. -/
def afterCalls (own : List TableIdent) (state : MemoryState) (calls : List (CallOn (Foreign own))) :
    MemoryState :=
  Transition.run (fun state call => (state.perform call.call).2) state calls

/-- Tables are isolated in a run exactly when no call interferes. -/
theorem tables_isolated_iff (ops : List MemoryOp) (own : List TableIdent)
    (ownMade : ∀ name ∈ own, name.Made) (calls : List (CallOn (Foreign own))) :
    (∀ done rest, calls = done ++ rest →
      Undisturbed own (MemoryState.empty.run ops) ((MemoryState.empty.run ops).afterCalls own done)) ↔
    Transition.Along (fun state call => (state.perform call.call).2)
      (fun state call => ¬Interferes own state call.call) (MemoryState.empty.run ops) calls := by
  have initial : WellFormed (MemoryState.empty.run ops) ∧ KeysShaped (MemoryState.empty.run ops) :=
    ⟨wellFormed_run ops, Transition.run_invariant step KeysShaped keysShaped_step _ ops
      fun _ _ stored => by simp [MemoryState.empty] at stored⟩
  have kept (state : MemoryState) (call : CallOn (Foreign own))
      (both : WellFormed state ∧ KeysShaped state) :
      WellFormed (state.perform call.call).2 ∧ KeysShaped (state.perform call.call).2 :=
    ⟨wellFormed_perform both.1 call.call, keysShaped_perform both.2 call.call⟩
  have quiet (state : MemoryState) (call : CallOn (Foreign own))
      (both : WellFormed state ∧ KeysShaped state) :
      Undisturbed own state (state.perform call.call).2 ↔ ¬Interferes own state call.call := by
    constructor
    · exact fun undisturbed interferes =>
        not_undisturbed both.1 both.2 ownMade call interferes undisturbed
    · intro silent
      have alike := alike_of_not_interferes both.1 ownMade call silent
      exact ⟨(untouched_perform ownMade state call).records, fun later =>
        (alike.answers both.1 (wellFormed_perform both.1 call.call) later).symm⟩
  rw [← Transition.along_congr (fun state call => (state.perform call.call).2) _ _
    (fun state => WellFormed state ∧ KeysShaped state) (fun state call both _ => kept state call both)
    quiet _ calls initial]
  exact (Transition.along_iff_prefixes _ (Undisturbed own) (fun _ => ⟨fun _ _ => rfl, fun _ => rfl⟩)
    (fun _ _ same => ⟨fun ident owned => (same.records ident owned).symm,
      fun later => (same.answers later).symm⟩)
    (fun _ _ _ first second => ⟨fun ident owned =>
      (second.records ident owned).trans (first.records ident owned),
      fun later => (second.answers later).trans (first.answers later)⟩) _ calls).symm

/-- A commit under a key that is filed for another table is an error. -/
theorem commitTable_misfiled {ident : TableIdent} {commit : TableCommit} {now : Timestamp}
    {replay : IdempotencyReplay} (valid : commit.Valid)
    (live : state.softDeletes.contains (tableKey ident) = false)
    (stored : state.storedReplay ident commit.idempotencyKey = some replay)
    (misfiled : replay.tableKey ≠ tableKey ident) :
    ∃ error, state.commitTable ident commit now = .error error := by
  rw [commitTable, (TableCommit.validate_ok _ ()).mpr valid, ok_bind, live,
    rejectIf_neg _ (by simp), ok_bind, stored]
  dsimp only
  rw [answerReplay, validateIdempotencyRecordTableKey, validateScope, ok_bind,
    rejectIf_pos _ misfiled]
  exact ⟨_, rfl⟩

end

/-- The table `orders` of a namespace with these components. -/
def ordersIn (parts : List String) : TableRecord :=
  { sampleTable with ident := ⟨⟨"main"⟩, ⟨parts⟩, ⟨"orders"⟩⟩ }

def createOrders (parts : List String) : List MemoryOp :=
  [.createNamespace ⟨"main"⟩ ⟨parts⟩ .default, .createTable (ordersIn parts)]

theorem tables_isolated_sample : ∃ (ops : List MemoryOp) (own : List TableIdent)
    (calls : List (CallOn (Foreign own))), calls ≠ [] ∧ ∀ [External], ∀ done rest,
      calls = done ++ rest → Undisturbed own (MemoryState.empty.run ops)
        ((MemoryState.empty.run ops).afterCalls own done) := by
  have made : (ordersIn ["returns"]).ident.Made :=
    ⟨⟨"main", rfl⟩, ⟨["returns"], rfl⟩, ⟨"orders", rfl⟩⟩
  refine ⟨sampleSetup ++ createOrders ["returns"], [sampleIdent],
    [⟨.commitTable (ordersIn ["returns"]).ident keyedCommit 1, ?_⟩], by simp, ?_⟩
  · intro ident member
    obtain rfl := List.mem_singleton.mp member
    exact ⟨made, by decide⟩
  · intro _
    refine (tables_isolated_iff _ [sampleIdent] ?_ _).mpr ⟨?_, trivial⟩
    · intro name member
      obtain rfl := List.mem_singleton.mp member
      exact ⟨⟨"main", rfl⟩, ⟨["sales"], rfl⟩, ⟨"orders", rfl⟩⟩
    · rintro ⟨⟨name, member, same⟩, _⟩
      obtain rfl := List.mem_singleton.mp member
      exact absurd same (by decide)

theorem ordersIn_committed [External] (state : MemoryState) (parts : List String) (now : Timestamp)
    (live : state.softDeletes.contains (tableKey (ordersIn parts).ident) = false)
    (fresh : state.storedReplay (ordersIn parts).ident keyedCommit.idempotencyKey = none)
    (stored : state.tables[tableKey (ordersIn parts).ident]? = some (ordersIn parts)) :
    state.commitTable (ordersIn parts).ident keyedCommit now =
      .ok (committedTable (ordersIn parts) keyedCommit now,
        state.committed (ordersIn parts).ident keyedCommit now (ordersIn parts)) := by
  have sampleValid : sampleTable.Valid := (TableRecord.validate_ok _ ()).mp rfl
  have valid : (ordersIn parts).Valid :=
    ⟨sampleValid.location, sampleValid.pointer, sampleValid.object, sampleValid.format⟩
  have recordable : Recordable sampleTable keyedCommit := by
    refine ⟨by decide, ?_, ?_, by decide, ?_⟩
    all_goals exact fun _ given => nomatch given
  exact commitTable_fresh now keyedCommit_valid live fresh stored valid rfl rfl
    ⟨recordable.version, recordable.previous, recordable.pointer, recordable.snapshot,
      recordable.policy⟩

/-- A commit on `["a.b"]` makes a commit on `["a", "b"]` under the same key fail. -/
theorem dotted_namespaces_interfere : ∃ (ops : List MemoryOp) (one another : TableIdent)
    (commit : TableCommit), one.Made ∧ another.Made ∧ one ≠ another ∧ ∀ [External],
      (∃ answer, (MemoryState.empty.run ops).commitTable another commit 2 = .ok answer) ∧
      ∃ table next error,
        (MemoryState.empty.run ops).commitTable one commit 1 = .ok (table, next) ∧
        next.commitTable another commit 2 = .error error := by
  refine ⟨createOrders ["a.b"] ++ createOrders ["a", "b"], (ordersIn ["a.b"]).ident,
    (ordersIn ["a", "b"]).ident, keyedCommit, ⟨⟨"main", rfl⟩, ⟨["a.b"], rfl⟩, ⟨"orders", rfl⟩⟩,
    ⟨⟨"main", rfl⟩, ⟨["a", "b"], rfl⟩, ⟨"orders", rfl⟩⟩, by decide, ?_⟩
  intro _
  have alone := ordersIn_committed
    (MemoryState.empty.run (createOrders ["a.b"] ++ createOrders ["a", "b"])) ["a", "b"] 2
    rfl rfl rfl
  have first := ordersIn_committed
    (MemoryState.empty.run (createOrders ["a.b"] ++ createOrders ["a", "b"])) ["a.b"] 1
    rfl rfl rfl
  have misfiled : tableKey (ordersIn ["a.b"]).ident ≠ tableKey (ordersIn ["a", "b"]).ident := by
    decide
  have refused : ∃ error, ((MemoryState.empty.run
      (createOrders ["a.b"] ++ createOrders ["a", "b"])).committed (ordersIn ["a.b"]).ident
        keyedCommit 1 (ordersIn ["a.b"])).commitTable (ordersIn ["a", "b"]).ident keyedCommit 2 =
          .error error :=
    commitTable_misfiled keyedCommit_valid rfl rfl misfiled
  obtain ⟨error, refused⟩ := refused
  exact ⟨⟨_, alone⟩, _, _, error, first, refused⟩

end MemoryState

end LakeCat
