import LakeCat.WellFormed
import LakeCat.LinkedLog

/-!
The commit records filed under a table are its whole history: numbered from
one to its version, each starting at the pointer the one before it left, the
first at the pointer the table was created with.
-/

namespace LakeCat

open LinkedLog

namespace MemoryState

/-- The commit records filed under a key, oldest first. -/
def historyOf (state : MemoryState) (key : String) : List TableCommitRecord :=
  (state.commits.filter fun commit => commit.tableKey = key).map MemoryCommitRecord.record

structure LinearHistory (records : List TableCommitRecord) (origin : Option String)
    (table : TableRecord) : Prop where
  sequence : records.map (fun record => record.sequenceNumber.toNat) =
    List.range' 1 table.version.toNat
  linked : LinkedLog.Linked TableCommitRecord.previousMetadataLocation
    TableCommitRecord.newMetadataLocation origin records table.metadataLocation
  named : ∀ record ∈ records, record.table = table.ident

section
variable [External]

/-- The pointer the table under each key was created with, which a rename takes along. -/
def trackOrigins (state : MemoryState) (origins : String → Option String) (op : MemoryOp) :
    String → Option String :=
  if state.registers op then
    match op with
    | .createTable table => fun key =>
        if tableKey table.ident = key then table.metadataLocation else origins key
    | .renameTable source destination _ _ _ => fun key =>
        if tableKey destination = key then origins (tableKey source) else origins key
    | _ => origins
  else origins

/-- One call, with the creation pointers beside the state. -/
def trackedStep (tracked : MemoryState × (String → Option String)) (op : MemoryOp) :
    MemoryState × (String → Option String) :=
  (tracked.1.step op, tracked.1.trackOrigins tracked.2 op)

/-- The pointer that the table under a key was created with in a run. -/
def originOf (ops : List MemoryOp) : String → Option String :=
  (Transition.run trackedStep (MemoryState.empty, fun _ => none) ops).2

theorem trackedStep_state (state : MemoryState) (origins : String → Option String)
    (ops : List MemoryOp) :
    (Transition.run trackedStep (state, origins) ops).1 = state.run ops := by
  induction ops generalizing state origins with
  | nil => rfl
  | cons op rest ih => exact ih (state.step op) (state.trackOrigins origins op)

/-- The history of every registered table is linear. -/
def Linear (state : MemoryState) (origins : String → Option String) : Prop :=
  ∀ key table, state.tables[key]? = some table →
    LinearHistory (state.historyOf key) (origins key) table

omit [External] in
theorem linear_congr {state next : MemoryState} {origins : String → Option String}
    (linear : state.Linear origins) (tables : next.tables = state.tables)
    (commits : next.commits = state.commits) : next.Linear origins := by
  intro key table stored
  rw [historyOf, commits]
  exact linear key table (tables ▸ stored)

omit [External] in
theorem historyOf_append (commits : List MemoryCommitRecord) (key : String)
    (record : TableCommitRecord) (query : String) :
    ((commits ++ [(⟨key, record⟩ : MemoryCommitRecord)]).filter fun commit => commit.tableKey = query).map
        MemoryCommitRecord.record =
      (commits.filter fun commit => commit.tableKey = query).map MemoryCommitRecord.record ++
        if key = query then [record] else [] := by
  rw [List.filter_append, List.map_append]
  by_cases same : key = query <;> simp [same]

/-- A table key that no registration has, has no history. -/
theorem historyOf_vacant {state : MemoryState} (formed : WellFormed state) {key : String}
    (vacant : state.tables.contains key = false) : state.historyOf key = [] := by
  rw [historyOf, List.map_eq_nil_iff, List.filter_eq_nil_iff]
  intro commit member
  obtain ⟨table, stored, _⟩ := formed.commits commit member
  rw [decide_eq_true_eq]
  exact Ne.symm (stored_ne_vacant stored vacant)

omit [External] in
/-- The records that a rename moves are the source's, under the new name. -/
theorem historyOf_moved (source destination : TableIdent) (commits : List MemoryCommitRecord)
    (unrecorded : ∀ commit ∈ commits, commit.tableKey ≠ tableKey destination) :
    (((commits.map (movedCommit source destination)).filter fun commit =>
        commit.tableKey = tableKey destination).map MemoryCommitRecord.record) =
      ((commits.filter fun commit => commit.tableKey = tableKey source).map
        MemoryCommitRecord.record).map fun record => { record with table := destination } := by
  induction commits with
  | nil => rfl
  | cons commit rest ih =>
      have tail := ih fun other member => unrecorded other (by simp [member])
      have head := unrecorded commit (by simp)
      by_cases owned : commit.tableKey = tableKey source
      · simp [movedCommit, owned] at tail ⊢
        exact tail
      · simp [movedCommit, owned, head] at tail ⊢
        exact tail

omit [External] in
theorem historyOf_unmoved (source destination : TableIdent) (commits : List MemoryCommitRecord)
    (key : String) (fromSource : tableKey source ≠ key) (fromDestination : tableKey destination ≠ key) :
    ((commits.map (movedCommit source destination)).filter fun commit => commit.tableKey = key) =
      commits.filter fun commit => commit.tableKey = key := by
  induction commits with
  | nil => rfl
  | cons commit rest ih =>
      by_cases owned : commit.tableKey = tableKey source
      · simp [movedCommit, owned, fromSource, fromDestination, ih]
      · simp [movedCommit, List.filter_cons, owned, ih]

theorem linear_create {state next : MemoryState} {origins : String → Option String}
    (formed : WellFormed state) (linear : state.Linear origins) {table : TableRecord}
    (vacant : state.tables.contains (tableKey table.ident) = false) (fresh : table.version = 0)
    (tables : next.tables = state.tables.insert (tableKey table.ident) table)
    (commits : next.commits = state.commits) :
    next.Linear fun key =>
      if tableKey table.ident = key then table.metadataLocation else origins key := by
  intro key other stored
  rw [tables, OrderedMap.getElem?_insert] at stored
  rw [historyOf, commits]
  split at stored
  next same =>
    obtain rfl := Option.some.inj stored
    have none : state.historyOf key = [] := historyOf_vacant formed (same ▸ vacant)
    rw [historyOf] at none
    simp only [none, if_pos same]
    exact ⟨by rw [fresh]; rfl, rfl, by simp⟩
  next different =>
    simp only [if_neg different]
    exact linear key other stored

omit [External] in
theorem linear_drop {state : MemoryState} {origins : String → Option String}
    (linear : state.Linear origins) (warehouse : WarehouseName) (ns : Namespace) :
    (state.withoutNamespace warehouse ns).Linear origins := by
  intro key table stored
  rw [withoutNamespace, OrderedMap.getElem?_filter, decide_eq_true_eq] at stored
  have surviving : ((state.withoutNamespace warehouse ns).commits.filter fun commit =>
      commit.tableKey = key) = state.commits.filter fun commit => commit.tableKey = key := by
    rw [withoutNamespace, List.filter_filter]
    refine List.filter_congr fun commit _ => ?_
    by_cases same : commit.tableKey = key
    · simp [same, stored.2]
    · simp [same]
  rw [historyOf, surviving]
  exact linear key table stored.1

theorem linear_rename {state : MemoryState} {origins : String → Option String}
    (linear : state.Linear origins) {source destination : TableIdent} {principal : Principal}
    {receipt : Option Json} (now : Timestamp) {table : TableRecord}
    (ready : state.Renamable source destination principal receipt table) :
    (state.renamed source destination principal receipt now table).Linear fun key =>
      if tableKey destination = key then origins (tableKey source) else origins key := by
  intro key other stored
  rw [renamed, OrderedMap.getElem?_insert, OrderedMap.getElem?_erase] at stored
  split at stored
  next same =>
    obtain rfl := Option.some.inj stored
    subst same
    obtain ⟨sequence, linked, _⟩ := linear _ _ ready.stored
    have moved := historyOf_moved source destination state.commits ready.unrecorded
    simp only [historyOf, renamed, if_pos, moved]
    refine ⟨?_, ?_, ?_⟩
    · rw [List.map_map]
      exact sequence
    · refine (linked_map (fun record : TableCommitRecord => { record with table := destination })
        (fun _ => rfl) (fun _ => rfl) _ _ _).mpr linked
    · intro record member
      obtain ⟨_, _, rfl⟩ := List.mem_map.mp member
      rfl
  next fromDestination =>
    split at stored
    next => cases stored
    next fromSource =>
      simp only [historyOf, renamed, if_neg fromDestination,
        historyOf_unmoved source destination _ _ fromSource fromDestination]
      exact linear key other stored

omit [External] in
/-- A version that is not zero after one more is the next number. -/
theorem toNat_succ (version : UInt64) (positive : version + 1 ≠ 0) :
    (version + 1).toNat = version.toNat + 1 := by
  have bound := version.toNat_lt
  have nonzero : (version + 1).toNat ≠ 0 := fun zero => positive (UInt64.toNat_inj.mp zero)
  rw [UInt64.toNat_add] at nonzero ⊢
  simp only [UInt64.toNat_one] at nonzero ⊢
  omega

theorem linear_commit {state : MemoryState} {origins : String → Option String}
    (linear : state.Linear origins) {ident : TableIdent} {commit : TableCommit} {now : Timestamp}
    {current : TableRecord} (committable : state.Committable ident commit now current) :
    (state.committed ident commit now current).Linear origins := by
  intro key table stored
  rw [committed, OrderedMap.getElem?_insert] at stored
  rw [historyOf, committed, historyOf_append]
  split at stored
  next same =>
    obtain rfl := Option.some.inj stored
    subst same
    obtain ⟨sequence, linked, named⟩ := linear _ _ committable.stored
    have next := toNat_succ current.version committable.record.positive
    rw [if_pos rfl]
    refine ⟨?_, ?_, ?_⟩
    · exact (numbered_snoc _ _ _ _ sequence next).trans (congrArg (List.range' 1) next.symm)
    · exact linked.snoc rfl
    · intro record member
      rcases List.mem_append.mp member with old | new
      · exact named record old
      · obtain rfl := List.mem_singleton.mp new
        exact committable.owner.symm
  next different =>
    rw [if_neg different, List.append_nil]
    exact linear key table stored

theorem linear_step (state : MemoryState) (origins : String → Option String) (op : MemoryOp)
    (formed : WellFormed state) (linear : state.Linear origins)
    (fresh : ∀ table, op = .createTable table → table.version = 0) :
    (state.step op).Linear (state.trackOrigins origins op) := by
  have change := step_change state op
  generalize resulting : (state.step op).catalog = catalog at change
  have tables : (state.step op).tables = catalog.tables := congrArg Catalog.tables resulting
  have commits : (state.step op).commits = catalog.commits := congrArg Catalog.commits resulting
  cases change with
  | unchanged _ idle =>
      have same : state.trackOrigins origins op = origins := by simp [trackOrigins, idle]
      rw [same]
      exact linear_congr linear tables commits
  | tableCreated table valid ns vacant =>
      have accepted : state.registers (.createTable table) = true := by
        rw [registers, (createTable_ok state _ table table).mpr ⟨valid, ns, vacant, rfl, rfl⟩]
        rfl
      rw [trackOrigins, accepted]
      exact linear_create formed linear vacant (fresh table rfl) tables commits
  | tableRenamed source destination principal receipt now table renamable =>
      have accepted : state.registers
          (.renameTable source destination principal receipt now) = true := by
        rw [registers, (renameTable_ok state _ source destination principal receipt now _).mpr
          ⟨table, renamable, rfl, rfl⟩]
        rfl
      rw [trackOrigins, accepted]
      exact linear_congr (linear_rename linear now renamable) tables commits
  | namespaceDropped warehouse ns =>
      exact linear_congr (linear_drop linear warehouse ns) tables commits
  | tableCommitted ident commit now current _ _ _ committable =>
      exact linear_congr (linear_commit linear committable) tables commits
  | namespaceCreated | namespaceUpdated | tableDeleted | tableRestored | viewStored | viewDropped
  | bindingStored => exact linear_congr linear tables commits

/-- The commit history of every table of every reachable state is linear. -/
theorem commitHistory_linear (ops : List MemoryOp)
    (fresh : ∀ table, MemoryOp.createTable table ∈ ops → table.version = 0) (key : String)
    (table : TableRecord) (stored : (MemoryState.empty.run ops).tables[key]? = some table) :
    LinearHistory ((MemoryState.empty.run ops).historyOf key) (originOf ops key) table := by
  have invariant := Transition.run_invariant_along trackedStep
    (fun _ op => ∀ table, op = MemoryOp.createTable table → table.version = 0)
    (fun tracked => WellFormed tracked.1 ∧ tracked.1.Linear tracked.2)
    (fun tracked op holds fresh => ⟨wellFormed_step tracked.1 op holds.1,
      linear_step tracked.1 tracked.2 op holds.1 holds.2 fresh⟩)
    (MemoryState.empty, fun _ => none) ops ⟨wellFormed_empty, ?_⟩ ?_
  · have linear := invariant.2
    rw [trackedStep_state] at linear
    exact linear key table stored
  · intro key table stored
    simp [MemoryState.empty] at stored
  · exact Transition.along_of_forall _ _ _ fun op member table same =>
      fresh table (same ▸ member)

end

theorem commitHistory_linear_sample : ∃ ops : List MemoryOp, ∀ [External],
    LinearHistory ((MemoryState.empty.run ops).historyOf (tableKey sampleIdent))
      (originOf ops (tableKey sampleIdent)) (committedTable sampleTable sampleCommit 1) := by
  refine ⟨sampleSetup ++ [.commitTable sampleIdent sampleCommit 1], ?_⟩
  intro _
  refine commitHistory_linear _ ?_ _ _ ?_
  · intro table member
    simp [sampleSetup] at member
    rw [member]
    rfl
  · rw [run_snoc, step_commit sampleTable_committed, committed, OrderedMap.getElem?_insert,
      if_pos rfl]

end MemoryState

end LakeCat
