import LakeCat.Operability
import LakeCat.PoliciesRestrict
import LakeCat.ScanGrants

/-!
What a rename moves, what it leaves under the old name, and what it leaves
alone, from any reachable state.
-/

namespace LakeCat

open Fallible

/-- The binding is scoped to one table. -/
def PolicyBinding.ScopedTo (binding : PolicyBinding) (ident : TableIdent) : Prop :=
  binding.warehouse = ident.warehouse ∧ binding.ns = some ident.ns ∧
    binding.table = some ident.name

namespace MemoryState

/-- Nothing is stored under a table's name. -/
structure Vacant (state : MemoryState) (ident : TableIdent) : Prop where
  table : ∀ key table, state.tables[key]? = some table → key ≠ tableKey ident ∧ table.ident ≠ ident
  softDelete : ∀ key record, state.softDeletes[key]? = some record → key ≠ tableKey ident
  commits : ∀ commit ∈ state.commits,
    commit.tableKey ≠ tableKey ident ∧ commit.record.table ≠ ident
  replays : ∀ (key : String) (replay : IdempotencyReplay), state.idempotency[key]? = some replay →
    startsWith key (idempotencyPrefix ident) = false ∧ replay.tableKey ≠ tableKey ident ∧
      replay.response.ident ≠ ident
  bindings : ∀ (key : String) (binding : PolicyBinding),
    state.policyBindings[key]? = some binding → ¬binding.ScopedTo ident

/-- A table that is created has no history. -/
def StartsEmpty [External] (state : MemoryState) (ident : TableIdent) : Prop :=
  ∀ table created after, table.ident = ident → state.createTable table = .ok (created, after) →
    after.tableCommitRecords ident 0 none = .ok [] ∧
      after.softDeletes.contains (tableKey ident) = false ∧
      ∀ idempotencyKey, after.storedReplay ident idempotencyKey = none

/-- How a binding comes out of a rename: it follows its table or stays as it is, and it begins to
apply to the destination exactly if it was scoped to the source. -/
structure FollowsTable (source destination : TableIdent) (now : Timestamp)
    (binding after : PolicyBinding) : Prop where
  moved : binding.ScopedTo source → after = {
    binding with
    ns := some destination.ns
    table := some destination.name
    updatedAt := now
  }
  kept : ¬binding.ScopedTo source → after = binding
  applies : (after.appliesToTable destination = true ∧
    binding.appliesToTable destination = false) ↔ binding.ScopedTo source

/-- Nothing of another table has changed, and nothing of the rest of the catalog. -/
structure KeepsOthers (state next : MemoryState) (source destination : TableIdent) : Prop where
  tables : ∀ (key : String) (table : TableRecord), table.ident ≠ source →
    table.ident ≠ destination →
    (next.tables[key]? = some table ↔ state.tables[key]? = some table)
  commits : ∀ other, other ≠ source → other ≠ destination →
    next.commits.filter (fun commit => commit.record.table = other) =
      state.commits.filter fun commit => commit.record.table = other
  replays : ∀ (key : String) (replay : IdempotencyReplay), replay.response.ident ≠ source →
    (next.idempotency[key]? = some replay ↔ state.idempotency[key]? = some replay)
  softDeletes : next.softDeletes = state.softDeletes
  namespaces : next.namespaces = state.namespaces
  views : next.views = state.views
  viewVersionReceipts : next.viewVersionReceipts = state.viewVersionReceipts
  storageProfiles : next.storageProfiles = state.storageProfiles
  modelPublications : next.modelPublications = state.modelPublications
  governedScanGrants : next.governedScanGrants = state.governedScanGrants
  management : next.servers = state.servers ∧ next.projects = state.projects ∧
    next.warehouses = state.warehouses

/-- What is asked of a rename that succeeds. -/
structure RenameMoves [External] (state next : MemoryState) (source destination : TableIdent)
    (now : Timestamp) (result : TableRecord) : Prop where
  table : ∃ table, state.loadTable source = .ok table ∧
    result = { table with ident := destination, updatedAt := now }
  loaded : next.loadTable destination = .ok result
  history : ∃ records, state.tableCommitRecords source 0 none = .ok records ∧
    next.tableCommitRecords destination 0 none =
      .ok (records.map fun record => { record with table := destination })
  bindings : ∀ (key : String), Option.Rel (FollowsTable source destination now)
    state.policyBindings[key]? next.policyBindings[key]?
  vacated : next.Vacant source
  startsEmpty : next.StartsEmpty source
  others : state.KeepsOthers next source destination

theorem commitsInRange_all (state : MemoryState) (key : String) :
    state.commitsInRange key 0 none = state.commits.filter fun commit => commit.tableKey = key := by
  simp [commitsInRange]

section Names

variable [External] {state : MemoryState}

/-- In a well-formed state a commit record names the table that its key names. -/
theorem WellFormed.commit_owner (formed : WellFormed state) {commit : MemoryCommitRecord}
    (member : commit ∈ state.commits) : commit.tableKey = tableKey commit.record.table := by
  obtain ⟨table, stored, valid⟩ := formed.commits commit member
  rw [valid.table]
  exact (formed.tables _ table stored).1.symm

theorem WellFormed.replay_owner (formed : WellFormed state) {key : String}
    {replay : IdempotencyReplay} (stored : state.idempotency[key]? = some replay) :
    replay.tableKey = tableKey replay.response.ident := by
  obtain ⟨table, found, owner⟩ := (formed.replays key replay stored).table
  rw [owner]
  exact (formed.tables _ table found).1.symm

/-- Two names of which one is stored under the key of the other are the same. -/
theorem WellFormed.stored_owner (formed : WellFormed state) {ident : TableIdent}
    {table other : TableRecord} {key : String} (stored : state.tables[tableKey ident]? = some table)
    (owner : table.ident = ident) (found : state.tables[key]? = some other) :
    key = tableKey ident ↔ other.ident = ident := by
  constructor
  · rintro rfl
    obtain rfl := Option.some.inj (found.symm.trans stored)
    exact owner
  · intro same
    rw [← same]
    exact (formed.tables key other found).1.symm

theorem WellFormed.commit_of_table (formed : WellFormed state) {ident : TableIdent}
    {table : TableRecord} {commit : MemoryCommitRecord}
    (stored : state.tables[tableKey ident]? = some table) (owner : table.ident = ident)
    (member : commit ∈ state.commits) :
    commit.tableKey = tableKey ident ↔ commit.record.table = ident := by
  obtain ⟨other, found, valid⟩ := formed.commits commit member
  rw [formed.stored_owner stored owner found, valid.table]

theorem WellFormed.replay_of_table (formed : WellFormed state) {ident : TableIdent}
    {table : TableRecord} {key : String} {replay : IdempotencyReplay}
    (stored : state.tables[tableKey ident]? = some table) (owner : table.ident = ident)
    (held : state.idempotency[key]? = some replay) :
    replay.tableKey = tableKey ident ↔ replay.response.ident = ident := by
  obtain ⟨other, found, answers⟩ := (formed.replays key replay held).table
  rw [formed.stored_owner stored owner found, answers]

end Names

section

variable [External] {state : MemoryState} {source destination : TableIdent}
  {principal : Principal} {receipt : Option Json} {now : Timestamp} {table : TableRecord}

theorem Renamable.different (ready : state.Renamable source destination principal receipt table) :
    tableKey destination ≠ tableKey source :=
  stored_ne_vacant ready.stored ready.vacant

theorem Renamable.destination_ne
    (ready : state.Renamable source destination principal receipt table) :
    destination ≠ source :=
  fun same => ready.different (congrArg tableKey same)

theorem renamed_tables (state : MemoryState) (key : String) :
    (state.renamed source destination principal receipt now table).tables[key]? =
      if tableKey destination = key then some (renamedTable destination now table)
      else if tableKey source = key then none else state.tables[key]? := by
  rw [renamed, OrderedMap.getElem?_insert, OrderedMap.getElem?_erase]

theorem renamed_loaded (ready : state.Renamable source destination principal receipt table) :
    (state.renamed source destination principal receipt now table).loadTable destination =
      .ok (renamedTable destination now table) := by
  refine (loadTable_ok _ _ _).mpr ⟨ready.undeleted, ?_, ?_, rfl⟩
  · rw [renamed_tables, if_pos rfl]
  · exact (renamedTable_valid destination now table).mpr ready.valid

omit [External] in
/-- The records under the destination's key are those of the source, retabled, in their order. -/
theorem filter_movedCommit (commits : List MemoryCommitRecord)
    (unrecorded : ∀ commit ∈ commits, commit.tableKey ≠ tableKey destination) :
    (commits.map (movedCommit source destination)).filter
        (fun commit => commit.tableKey = tableKey destination) =
      (commits.filter fun commit => commit.tableKey = tableKey source).map
        (movedCommit source destination) := by
  rw [List.filter_map]
  refine congrArg _ (List.filter_congr fun commit member => ?_)
  rw [Function.comp_apply, decide_eq_decide, movedCommit]
  split
  next owned => exact iff_of_true rfl owned
  next other => exact iff_of_false (unrecorded commit member) other

theorem renamed_history
    (ready : state.Renamable source destination principal receipt table) :
    ∃ records, state.tableCommitRecords source 0 none = .ok records ∧
      (state.renamed source destination principal receipt now table).tableCommitRecords
        destination 0 none =
          .ok (records.map fun record => { record with table := destination }) := by
  have filed : ∀ commit ∈ state.commitsInRange (tableKey source) 0 none,
      commit.tableKey = tableKey source ∧ commit.record.ValidFor source := by
    intro commit member
    rw [commitsInRange_all, List.mem_filter, decide_eq_true_eq] at member
    exact ⟨member.2, ready.commits commit member.1 member.2⟩
  have moved : (state.renamed source destination principal receipt now table).commitsInRange
      (tableKey destination) 0 none =
        (state.commitsInRange (tableKey source) 0 none).map (movedCommit source destination) := by
    rw [commitsInRange_all, commitsInRange_all]
    exact filter_movedCommit state.commits ready.unrecorded
  refine ⟨_, (tableCommitRecords_ok _ _ _ _ _).mpr ⟨filed, rfl⟩,
    (tableCommitRecords_ok _ _ _ _ _).mpr ⟨?_, ?_⟩⟩
  · rw [moved]
    intro commit member
    obtain ⟨old, listed, rfl⟩ := List.mem_map.mp member
    obtain ⟨owned, valid⟩ := filed old listed
    rw [movedCommit, if_pos owned]
    exact ⟨rfl, valid.retable destination⟩
  · rw [moved, List.map_map, List.map_map]
    refine List.map_congr_left fun commit member => ?_
    rw [Function.comp_apply, Function.comp_apply, movedCommit, if_pos (filed commit member).1]

omit [External] in
theorem movedBinding_follows (warehouse : source.warehouse = destination.warehouse)
    (different : destination ≠ source) (binding : PolicyBinding) :
    FollowsTable source destination now binding (movedBinding source destination now binding) := by
  have unlike (scopedTo : binding.ScopedTo source) :
      binding.appliesToTable destination = false := by
    obtain ⟨_, ns, name⟩ := scopedTo
    rw [PolicyBinding.appliesToTable, ns, name]
    by_contra applies
    simp only [Bool.not_eq_false, Bool.and_eq_true, decide_eq_true_eq] at applies
    refine different ?_
    cases source
    cases destination
    simp_all
  by_cases scopedTo : binding.ScopedTo source
  · have moved : movedBinding source destination now binding = {
        binding with
        ns := some destination.ns
        table := some destination.name
        updatedAt := now
      } := if_pos scopedTo
    refine ⟨fun _ => moved, fun other => absurd scopedTo other, iff_of_true ⟨?_, ?_⟩ scopedTo⟩
    · rw [moved, PolicyBinding.appliesToTable]
      simp [scopedTo.1, warehouse]
    · exact unlike scopedTo
  · have kept : movedBinding source destination now binding = binding := if_neg scopedTo
    refine ⟨fun owned => absurd owned scopedTo, fun _ => kept, iff_of_false ?_ scopedTo⟩
    rintro ⟨after, before⟩
    rw [kept, before] at after
    cases after

theorem renamed_bindings (now : Timestamp)
    (ready : state.Renamable source destination principal receipt table)
    (key : String) :
    Option.Rel (FollowsTable source destination now) state.policyBindings[key]?
      (state.renamed source destination principal receipt now table).policyBindings[key]? := by
  rw [renamed, Std.ExtTreeMap.getElem?_map]
  cases state.policyBindings[key]? with
  | none => exact .none
  | some binding =>
      exact .some (movedBinding_follows ready.warehouse ready.destination_ne binding)

theorem renamed_vacated (now : Timestamp) (formed : WellFormed state)
    (ready : state.Renamable source destination principal receipt table) :
    (state.renamed source destination principal receipt now table).Vacant source := by
  constructor
  · intro key other stored
    rw [renamed_tables] at stored
    split at stored
    next same =>
      obtain rfl := Option.some.inj stored
      exact ⟨same ▸ ready.different, ready.destination_ne⟩
    next =>
      split at stored
      next => cases stored
      next elsewhere =>
        refine ⟨Ne.symm elsewhere, fun same => elsewhere ?_⟩
        exact ((formed.stored_owner ready.stored ready.owner stored).mpr same).symm
  · intro key record stored same
    have absent := (OrderedMap.contains_eq_false _ _).mp ready.live
    rw [← same] at absent
    exact absurd (stored.symm.trans absent) (by simp)
  · intro commit member
    obtain ⟨old, stored, rfl⟩ := List.mem_map.mp member
    rw [movedCommit]
    split
    next => exact ⟨ready.different, ready.destination_ne⟩
    next other =>
      exact ⟨other, fun same => other
        ((formed.commit_of_table ready.stored ready.owner stored).mpr same)⟩
  · intro key replay stored
    rw [renamed, OrderedMap.getElem?_filter, Bool.not_eq_true'] at stored
    obtain ⟨held, unkeyed⟩ := stored
    have elsewhere : replay.tableKey ≠ tableKey source := by
      intro same
      rw [(ready.replays key replay held).scope.mpr same] at unkeyed
      cases unkeyed
    exact ⟨unkeyed, elsewhere, fun same => elsewhere
      ((formed.replay_of_table ready.stored ready.owner held).mpr same)⟩
  · intro key binding stored scopedTo
    have related := renamed_bindings now ready key
    rw [stored] at related
    generalize state.policyBindings[key]? = earlier at related
    cases related with
    | @some before _ follows =>
        by_cases owned : before.ScopedTo source
        · rw [follows.moved owned] at scopedTo
          refine ready.destination_ne ?_
          obtain ⟨warehouse, ns, name⟩ := scopedTo
          have sameWarehouse := ready.warehouse
          cases source
          cases destination
          simp_all
        · rw [follows.kept owned] at scopedTo
          exact owned scopedTo

theorem Vacant.startsEmpty {next : MemoryState} {ident : TableIdent} (vacant : next.Vacant ident) :
    next.StartsEmpty ident := by
  rintro table created after rfl accepted
  obtain ⟨_, _, _, _, rfl⟩ := (createTable_ok _ _ _ _).mp accepted
  refine ⟨(tableCommitRecords_ok _ _ _ _ _).mpr ?_, ?_, ?_⟩
  · have unrecorded : next.commitsInRange (tableKey table.ident) 0 none = [] := by
      rw [commitsInRange_all, List.filter_eq_nil_iff]
      intro commit member
      simpa using (vacant.commits commit member).1
    have same : ({ next with tables := next.tables.insert (tableKey table.ident) table } :
        MemoryState).commitsInRange (tableKey table.ident) 0 none = [] := unrecorded
    rw [same]
    exact ⟨by simp, rfl⟩
  · refine (OrderedMap.contains_eq_false _ _).mpr ?_
    cases stored : next.softDeletes[tableKey table.ident]? with
    | none => rfl
    | some record => exact absurd rfl (vacant.softDelete _ record stored)
  · intro idempotencyKey
    cases idempotencyKey with
    | none => rfl
    | some idempotencyKey =>
        cases stored : next.idempotency[idempotencyRecordKey table.ident idempotencyKey]? with
        | none => exact stored
        | some replay =>
            have unkeyed := (vacant.replays _ replay stored).1
            rw [idempotencyRecordKey, startsWith_append] at unkeyed
            cases unkeyed

theorem renamed_others (formed : WellFormed state)
    (ready : state.Renamable source destination principal receipt table) :
    state.KeepsOthers (state.renamed source destination principal receipt now table) source
      destination := by
  refine ⟨?_, ?_, ?_, rfl, rfl, rfl, rfl, rfl, rfl, rfl, rfl, rfl, rfl⟩
  · intro key other notSource notDestination
    rw [renamed_tables]
    constructor
    · intro stored
      split at stored
      next =>
        obtain rfl := Option.some.inj stored
        exact absurd rfl notDestination
      next =>
        split at stored
        next => cases stored
        next => exact stored
    · intro stored
      have fromSource : tableKey source ≠ key := fun same => notSource
        ((formed.stored_owner ready.stored ready.owner stored).mp same.symm)
      rw [if_neg (stored_ne_vacant stored ready.vacant), if_neg fromSource]
      exact stored
  · intro other notSource notDestination
    have lists : (state.renamed source destination principal receipt now table).commits =
        state.commits.map (movedCommit source destination) := rfl
    rw [lists, List.filter_map]
    have kept : ∀ commit ∈ state.commits.filter fun commit => commit.record.table = other,
        movedCommit source destination commit = commit := by
      intro commit member
      rw [List.mem_filter, decide_eq_true_eq] at member
      refine if_neg fun owned => notSource ?_
      rw [← member.2]
      exact (formed.commit_of_table ready.stored ready.owner member.1).mp owned
    have same : (state.commits.filter ((fun commit => decide (commit.record.table = other)) ∘
        movedCommit source destination)) =
          state.commits.filter fun commit => commit.record.table = other := by
      refine List.filter_congr fun commit member => ?_
      rw [Function.comp_apply, decide_eq_decide, movedCommit]
      split
      next owned =>
        have named := (formed.commit_of_table ready.stored ready.owner member).mp owned
        exact iff_of_false (fun same => notDestination same.symm)
          (fun same => notSource (same.symm.trans named))
      next => exact Iff.rfl
    rw [same]
    exact (List.map_congr_left kept).trans (List.map_id _)
  · intro key replay notSource
    rw [renamed, OrderedMap.getElem?_filter]
    refine and_iff_left_of_imp fun stored => ?_
    rw [Bool.not_eq_true', ← Bool.not_eq_true]
    intro keyed
    exact notSource ((formed.replay_of_table ready.stored ready.owner stored).mp
      ((ready.replays key replay stored).scope.mp keyed))

theorem rename_moves (formed : WellFormed state) {next : MemoryState} {result : TableRecord}
    (accepted : state.renameTable source destination principal receipt now = .ok (result, next)) :
    RenameMoves state next source destination now result := by
  obtain ⟨table, ready, rfl, rfl⟩ := (renameTable_ok _ _ _ _ _ _ _ _).mp accepted
  have vacated := renamed_vacated now formed ready
  exact {
    table := ⟨table, (loadTable_ok _ _ _).mpr ⟨ready.live, ready.stored, ready.valid, ready.owner⟩,
      rfl⟩
    loaded := renamed_loaded ready
    history := renamed_history ready
    bindings := renamed_bindings now ready
    vacated := vacated
    startsEmpty := vacated.startsEmpty
    others := renamed_others formed ready
  }

/-- A rename that succeeds moves one table, from any state that calls lead to. -/
theorem renameTable_movesOne (ops : List MemoryOp) (source destination : TableIdent)
    (principal : Principal) (receipt : Option Json) (now : Timestamp) (result : TableRecord)
    (next : MemoryState)
    (accepted : (MemoryState.empty.run ops).renameTable source destination principal receipt now =
      .ok (result, next)) :
    RenameMoves (MemoryState.empty.run ops) next source destination now result :=
  rename_moves (wellFormed_run ops) accepted

end

def archivedIdent : TableIdent := ⟨sampleIdent.warehouse, sampleIdent.ns, ⟨"archive"⟩⟩

section Sample

attribute [local instance] constantExternal

/-- The sample table under another name of its namespace. -/
theorem renameTable_movesOne_sample : ∃ result next,
    (MemoryState.empty.run sampleSetup).renameTable sampleIdent archivedIdent .anonymous none 1 =
        .ok (result, next) ∧
      RenameMoves (MemoryState.empty.run sampleSetup) next sampleIdent archivedIdent 1 result := by
  have valid : sampleTable.Valid := (TableRecord.validate_ok _ ()).mp rfl
  have nothing {Value : Type} (key : String) (value : Value) :
      (∅ : BTreeMap Value)[key]? ≠ some value := by simp
  have ready : (MemoryState.empty.run sampleSetup).Renamable sampleIdent archivedIdent .anonymous
      none sampleTable := by
    refine ⟨rfl, rfl, rfl, rfl, valid, rfl, rfl, rfl, ?_, ?_, ?_, ?_, ?_⟩
    · exact fun _ member => absurd member List.not_mem_nil
    · exact fun _ member => absurd member List.not_mem_nil
    · exact fun key replay stored => absurd stored (nothing key replay)
    · exact fun key binding stored => absurd stored (nothing key binding)
    · exact fun _ given => by cases given
  have accepted := (renameTable_ok _ _ _ _ _ _ 1 _).mpr ⟨sampleTable, ready, rfl, rfl⟩
  exact ⟨_, _, accepted, renameTable_movesOne sampleSetup _ _ _ _ _ _ _ accepted⟩

end Sample

end MemoryState

end LakeCat
