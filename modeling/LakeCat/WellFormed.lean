import LakeCat.MemoryCatalog
import LakeCat.CommitEvidence

/-!
What holds of the catalog after every call: each record is filed under the key
of its identity, belongs to a registered table, and passes the checks that
later calls make of it.
-/

namespace LakeCat

open Fallible

namespace MemoryState

/-- A commit record belongs to a registered table and is evidence of it. -/
def CommitFiled [External] (tables : BTreeMap TableRecord) (commit : MemoryCommitRecord) : Prop :=
  ∃ table, tables[commit.tableKey]? = some table ∧ commit.record.ValidFor table.ident

/-- A replay is filed under its table's stable id and answers for that table. -/
structure ReplayFiled (tables : BTreeMap TableRecord) (key : String)
    (replay : IdempotencyReplay) : Prop where
  table : ∃ table, tables[replay.tableKey]? = some table ∧ replay.response.ident = table.ident
  valid : replay.response.Valid
  evidence : isSha256Evidence replay.requestHash = true
  keyed : ∃ idempotencyKey, key = idempotencyRecordKey replay.response.ident idempotencyKey

structure WellFormed [External] (state : MemoryState) : Prop where
  tables : ∀ (key : String) (table : TableRecord), state.tables[key]? = some table →
    tableKey table.ident = key ∧ table.Valid
  namespaces : ∀ (key : String) (table : TableRecord), state.tables[key]? = some table →
    state.namespaceExists table.ident.warehouse table.ident.ns = true
  softDeletes : ∀ (key : String) (record : SoftDeleteRecord), state.softDeletes[key]? = some record →
    ∃ table, state.tables[key]? = some table ∧ record.ValidFor table.ident table
  commits : ∀ commit ∈ state.commits, CommitFiled state.tables commit
  replays : ∀ key replay, state.idempotency[key]? = some replay →
    ReplayFiled state.tables key replay
  bindings : ∀ key binding, state.policyBindings[key]? = some binding →
    validatePolicyBindingMapScope binding key = .ok ()
  views : ∀ key view, state.views[key]? = some view → validateViewRecordMapScope view key = .ok ()

variable [External]

theorem wellFormed_empty : WellFormed MemoryState.empty where
  tables key table stored := by simp [MemoryState.empty] at stored
  namespaces key table stored := by simp [MemoryState.empty] at stored
  softDeletes key record stored := by simp [MemoryState.empty] at stored
  commits commit member := by simp [MemoryState.empty] at member
  replays key replay stored := by simp [MemoryState.empty] at stored
  bindings key binding stored := by simp [MemoryState.empty] at stored
  views key view stored := by simp [MemoryState.empty] at stored

omit [External] in
theorem namespaceExists_congr {state next : MemoryState}
    (same : next.namespaces = state.namespaces) (warehouse : WarehouseName) (ns : Namespace) :
    next.namespaceExists warehouse ns = state.namespaceExists warehouse ns := by
  rw [namespaceExists, namespacesOf, same]
  rfl

theorem WellFormed.congr {state next : MemoryState} (formed : WellFormed state)
    (same : next.catalog = state.catalog) : WellFormed next := by
  obtain ⟨namespaces, tables, commits, idempotency, softDeletes, views, policyBindings⟩ :=
    Catalog.mk.inj same
  constructor
  · rw [tables]; exact formed.tables
  · rw [tables]
    intro key table stored
    rw [namespaceExists_congr namespaces]
    exact formed.namespaces key table stored
  · rw [tables, softDeletes]; exact formed.softDeletes
  · rw [tables, commits]; exact formed.commits
  · rw [tables, idempotency]; exact formed.replays
  · rw [policyBindings]; exact formed.bindings
  · rw [views]; exact formed.views

omit [External] in
/-- Only the entry of the warehouse written changes. -/
theorem namespacesOf_insert (state next : MemoryState) (warehouse other : WarehouseName)
    (namespaces : NamespaceMap)
    (written : next.namespaces = state.namespaces.insert warehouse.value namespaces) :
    next.namespacesOf other = if warehouse = other then namespaces else state.namespacesOf other := by
  have sameName : warehouse.value = other.value ↔ warehouse = other := by
    cases warehouse; cases other; simp
  rw [namespacesOf, written, OrderedMap.getElem?_insert]
  by_cases same : warehouse = other
  · simp [same]
  · simp [same, sameName, namespacesOf]

omit [External] in
theorem namespaceExists_insert (state next : MemoryState) (warehouse other : WarehouseName)
    (ns candidate : Namespace) (properties : NamespaceProperties)
    (written : next.namespaces = state.namespaces.insert warehouse.value
      ((state.namespacesOf warehouse).insert ns properties)) :
    next.namespaceExists other candidate = true ↔
      (warehouse = other ∧ ns = candidate) ∨ state.namespaceExists other candidate = true := by
  rw [namespaceExists, namespacesOf_insert state next warehouse other _ written]
  by_cases same : warehouse = other
  · subst same
    rw [if_pos rfl, OrderedMap.contains_eq_true]
    simp only [OrderedMap.getElem?_insert, namespaceExists, OrderedMap.contains_eq_true, true_and]
    by_cases stored : ns = candidate <;> simp [stored]
  · simp [same, namespaceExists]

omit [External] in
theorem namespaceExists_erase (state next : MemoryState) (warehouse other : WarehouseName)
    (ns candidate : Namespace)
    (written : next.namespaces = state.namespaces.insert warehouse.value
      ((state.namespacesOf warehouse).erase ns)) :
    next.namespaceExists other candidate = true ↔
      ¬(warehouse = other ∧ ns = candidate) ∧ state.namespaceExists other candidate = true := by
  rw [namespaceExists, namespacesOf_insert state next warehouse other _ written]
  by_cases same : warehouse = other
  · subst same
    rw [if_pos rfl, OrderedMap.contains_eq_true]
    simp only [OrderedMap.getElem?_erase, namespaceExists, OrderedMap.contains_eq_true, true_and]
    by_cases stored : ns = candidate <;> simp [stored]
  · simp [same, namespaceExists]

/-- Tables that keep their identity keep every record filed under them. -/
theorem commitFiled_mono {tables next : BTreeMap TableRecord} {commit : MemoryCommitRecord}
    (filed : CommitFiled tables commit)
    (kept : ∀ table, tables[commit.tableKey]? = some table →
      ∃ other, next[commit.tableKey]? = some other ∧ other.ident = table.ident) :
    CommitFiled next commit := by
  obtain ⟨table, stored, valid⟩ := filed
  obtain ⟨other, found, same⟩ := kept table stored
  exact ⟨other, found, same ▸ valid⟩

omit [External] in
theorem replayFiled_mono {tables next : BTreeMap TableRecord} {key : String}
    {replay : IdempotencyReplay} (filed : ReplayFiled tables key replay)
    (kept : ∀ table, tables[replay.tableKey]? = some table →
      ∃ other, next[replay.tableKey]? = some other ∧ other.ident = table.ident) :
    ReplayFiled next key replay := by
  obtain ⟨table, stored, owner⟩ := filed.table
  obtain ⟨other, found, same⟩ := kept table stored
  exact ⟨⟨other, found, owner.trans same.symm⟩, filed.valid, filed.evidence, filed.keyed⟩

omit [External] in
theorem stored_ne_vacant {tables : BTreeMap TableRecord} {key vacant : String} {table : TableRecord}
    (stored : tables[key]? = some table) (absent : tables.contains vacant = false) :
    vacant ≠ key := by
  rintro rfl
  rw [OrderedMap.contains_eq_false] at absent
  exact absurd (stored.symm.trans absent) (by simp)

namespace WellFormed
variable {state : MemoryState}

theorem createTable (formed : WellFormed state) {table : TableRecord} (valid : table.Valid)
    (ns : state.namespaceExists table.ident.warehouse table.ident.ns = true)
    (vacant : state.tables.contains (tableKey table.ident) = false) :
    WellFormed { state with tables := state.tables.insert (tableKey table.ident) table } := by
  have kept (key : String) (other : TableRecord) (stored : state.tables[key]? = some other) :
      (state.tables.insert (tableKey table.ident) table)[key]? = some other := by
    rw [OrderedMap.getElem?_insert, if_neg (stored_ne_vacant stored vacant)]
    exact stored
  have split (key : String) (other : TableRecord)
      (stored : (state.tables.insert (tableKey table.ident) table)[key]? = some other) :
      (tableKey table.ident = key ∧ table = other) ∨ state.tables[key]? = some other := by
    rw [OrderedMap.getElem?_insert] at stored
    split at stored
    next same => exact .inl ⟨same, Option.some.inj stored⟩
    next => exact .inr stored
  refine { formed with
    tables := ?_, namespaces := ?_, softDeletes := ?_, commits := ?_, replays := ?_ }
  · intro key other stored
    rcases split key other stored with ⟨rfl, rfl⟩ | old
    · exact ⟨rfl, valid⟩
    · exact formed.tables key other old
  · intro key other stored
    rcases split key other stored with ⟨rfl, rfl⟩ | old
    · exact ns
    · exact formed.namespaces key other old
  · intro key record stored
    obtain ⟨other, found, matching⟩ := formed.softDeletes key record stored
    exact ⟨other, kept key other found, matching⟩
  · intro commit member
    exact commitFiled_mono (formed.commits commit member)
      fun other stored => ⟨other, kept _ other stored, rfl⟩
  · intro key replay stored
    exact replayFiled_mono (formed.replays key replay stored)
      fun other stored => ⟨other, kept _ other stored, rfl⟩

theorem storeNamespace (formed : WellFormed state) (warehouse : WarehouseName) (ns : Namespace)
    (properties : NamespaceProperties) :
    WellFormed {
      state with
      namespaces := state.namespaces.insert warehouse.value
        ((state.namespacesOf warehouse).insert ns properties)
    } :=
  { formed with
    namespaces := fun key table stored =>
      (namespaceExists_insert state _ warehouse _ ns _ properties rfl).mpr
        (.inr (formed.namespaces key table stored)) }

theorem dropNamespace (formed : WellFormed state) (warehouse : WarehouseName) (ns : Namespace) :
    WellFormed (state.withoutNamespace warehouse ns) := by
  have kept (key : String) (table : TableRecord) :
      (state.withoutNamespace warehouse ns).tables[key]? = some table ↔
        state.tables[key]? = some table ∧ key ∉ state.retiredKeys warehouse ns := by
    rw [withoutNamespace, OrderedMap.getElem?_filter, decide_eq_true_eq]
  refine { formed with
    tables := ?_, namespaces := ?_, softDeletes := ?_, commits := ?_, replays := ?_ }
  · intro key table stored
    exact formed.tables key table ((kept key table).mp stored).1
  · intro key table stored
    obtain ⟨old, outside⟩ := (kept key table).mp stored
    refine (namespaceExists_erase state _ warehouse _ ns _ rfl).mpr
      ⟨fun inside => outside ?_, formed.namespaces key table old⟩
    exact (mem_retiredKeys _ _ _ _).mpr ⟨table, old, inside.1.symm, inside.2.symm⟩
  · intro key record stored
    rw [withoutNamespace, OrderedMap.getElem?_filter, decide_eq_true_eq] at stored
    obtain ⟨table, found, matching⟩ := formed.softDeletes key record stored.1
    exact ⟨table, (kept key table).mpr ⟨found, stored.2⟩, matching⟩
  · intro commit member
    rw [withoutNamespace, List.mem_filter, decide_eq_true_eq] at member
    exact commitFiled_mono (formed.commits commit member.1)
      fun table stored => ⟨table, (kept _ table).mpr ⟨stored, member.2⟩, rfl⟩
  · intro key replay stored
    rw [withoutNamespace, OrderedMap.getElem?_filter, decide_eq_true_eq] at stored
    exact replayFiled_mono (formed.replays key replay stored.1)
      fun table found => ⟨table, (kept _ table).mpr ⟨found, stored.2⟩, rfl⟩

theorem softDelete (formed : WellFormed state) {ident : TableIdent} {table : TableRecord}
    {record : SoftDeleteRecord} (stored : state.tables[tableKey ident]? = some table)
    (matching : record.ValidFor table.ident table) :
    WellFormed { state with softDeletes := state.softDeletes.insert (tableKey ident) record } := by
  refine { formed with softDeletes := ?_ }
  intro key other found
  rw [OrderedMap.getElem?_insert] at found
  split at found
  next same =>
    subst same
    exact ⟨table, stored, Option.some.inj found ▸ matching⟩
  next => exact formed.softDeletes key other found

theorem restore (formed : WellFormed state) (restored : String) :
    WellFormed { state with softDeletes := state.softDeletes.erase restored } := by
  refine { formed with softDeletes := ?_ }
  intro key record found
  rw [OrderedMap.getElem?_erase] at found
  split at found
  next => cases found
  next => exact formed.softDeletes key record found

theorem storeView (formed : WellFormed state) (key : String) {view : ViewRecord}
    (filed : validateViewRecordMapScope view key = .ok ()) :
    WellFormed { state with views := state.views.insert key view } := by
  refine { formed with views := ?_ }
  intro other stored found
  rw [OrderedMap.getElem?_insert] at found
  split at found
  next same => exact same ▸ Option.some.inj found ▸ filed
  next => exact formed.views other stored found

theorem dropView (formed : WellFormed state) (dropped : String) :
    WellFormed { state with views := state.views.erase dropped } := by
  refine { formed with views := ?_ }
  intro key view found
  rw [OrderedMap.getElem?_erase] at found
  split at found
  next => cases found
  next => exact formed.views key view found

theorem storeBinding (formed : WellFormed state) {binding : PolicyBinding}
    (valid : binding.validate = .ok ()) :
    WellFormed {
      state with
      policyBindings := state.policyBindings.insert
        (policyBindingKey binding.warehouse binding.policyId) binding
    } := by
  refine { formed with bindings := ?_ }
  intro key other found
  rw [OrderedMap.getElem?_insert] at found
  split at found
  next same =>
    obtain rfl := Option.some.inj found
    exact (validatePolicyBindingMapScope_ok _ _ _).mpr ⟨valid, same⟩
  next => exact formed.bindings key other found

theorem commit (formed : WellFormed state) {ident : TableIdent} {commit : TableCommit}
    {now : Timestamp} {current : TableRecord} (valid : commit.Valid)
    (live : state.softDeletes.contains (tableKey ident) = false)
    (committable : state.Committable ident commit now current) :
    WellFormed (state.committed ident commit now current) := by
  have written (key : String) : (state.committed ident commit now current).tables[key]? =
      if tableKey ident = key then some (committedTable current commit now)
      else state.tables[key]? := OrderedMap.getElem?_insert _ _ _ _
  have kept (key : String) (table : TableRecord) (stored : state.tables[key]? = some table) :
      ∃ other, (state.committed ident commit now current).tables[key]? = some other ∧
        other.ident = table.ident := by
    rw [written]
    split
    next same =>
      subst same
      obtain rfl := Option.some.inj (stored.symm.trans committable.stored)
      exact ⟨_, rfl, rfl⟩
    next => exact ⟨table, stored, rfl⟩
  have advanced : (state.committed ident commit now current).tables[tableKey ident]? =
      some (committedTable current commit now) := by rw [written, if_pos rfl]
  have owner : (committedTable current commit now).ident = ident := committable.owner
  have tableValid := committedTable_valid now valid committable.valid
  constructor
  · intro key table stored
    rw [written] at stored
    split at stored
    next same =>
      obtain rfl := Option.some.inj stored
      exact ⟨(congrArg tableKey owner).trans same, tableValid⟩
    next => exact formed.tables key table stored
  · intro key table stored
    rw [written] at stored
    split at stored
    next same =>
      obtain rfl := Option.some.inj stored
      exact formed.namespaces _ current committable.stored
    next => exact formed.namespaces key table stored
  · intro key record stored
    obtain ⟨table, found, matching⟩ := formed.softDeletes key record stored
    have different : tableKey ident ≠ key := by
      rintro rfl
      rw [OrderedMap.contains_eq_false] at live
      exact absurd (stored.symm.trans live) (by simp)
    exact ⟨table, by rw [written, if_neg different]; exact found, matching⟩
  · intro record member
    rcases List.mem_append.mp member with old | new
    · exact commitFiled_mono (formed.commits record old) (kept _)
    · obtain rfl := List.mem_singleton.mp new
      exact ⟨_, advanced, owner.symm ▸ committable.record⟩
  · intro key replay stored
    have cases : (∃ idempotencyKey, key = idempotencyRecordKey ident idempotencyKey ∧
        replay = ⟨tableKey ident, commit.idempotencyRequestHash.getD (commitRequestHash commit),
          committedTable current commit now⟩) ∨ state.idempotency[key]? = some replay := by
      change (state.commitReplays ident commit _)[key]? = some replay at stored
      unfold commitReplays at stored
      split at stored
      next idempotencyKey given =>
        rw [OrderedMap.getElem?_insert] at stored
        split at stored
        next same => exact .inl ⟨idempotencyKey, same.symm, (Option.some.inj stored).symm⟩
        next => exact .inr stored
      next => exact .inr stored
    rcases cases with ⟨idempotencyKey, rfl, rfl⟩ | old
    · refine ⟨⟨_, advanced, rfl⟩, tableValid, ?_, idempotencyKey, ?_⟩
      · cases given : commit.idempotencyRequestHash with
        | none => exact contentHashJson_evidence _
        | some digest => exact valid.requestHash digest given
      · exact congrArg (idempotencyRecordKey · idempotencyKey) owner.symm
    · exact replayFiled_mono (formed.replays key replay old) (kept _)
  · exact formed.bindings
  · exact formed.views

theorem rename (formed : WellFormed state) {source destination : TableIdent}
    {principal : Principal} {receipt : Option Json} {now : Timestamp} {table : TableRecord}
    (ready : state.Renamable source destination principal receipt table) :
    WellFormed (state.renamed source destination principal receipt now table) := by
  have written (key : String) :
      (state.renamed source destination principal receipt now table).tables[key]? =
        if tableKey destination = key then some (renamedTable destination now table)
        else if tableKey source = key then none else state.tables[key]? := by
    rw [renamed, OrderedMap.getElem?_insert, OrderedMap.getElem?_erase]
  have untouched (key : String) (fromSource : tableKey source ≠ key)
      (fromDestination : tableKey destination ≠ key) :
      (state.renamed source destination principal receipt now table).tables[key]? =
        state.tables[key]? := by
    rw [written, if_neg fromDestination, if_neg fromSource]
  have moved : (state.renamed source destination principal receipt now table).tables[
      tableKey destination]? = some (renamedTable destination now table) := by
    rw [written, if_pos rfl]
  have sameWarehouse := ready.warehouse
  constructor
  · intro key other stored
    rw [written] at stored
    split at stored
    next same =>
      obtain rfl := Option.some.inj stored
      exact ⟨same, (renamedTable_valid destination now table).mpr ready.valid⟩
    next =>
      split at stored
      next => cases stored
      next => exact formed.tables key other stored
  · intro key other stored
    rw [written] at stored
    split at stored
    next same =>
      obtain rfl := Option.some.inj stored
      exact ready.ns
    next =>
      split at stored
      next => cases stored
      next => exact formed.namespaces key other stored
  · intro key record stored
    have different (name : TableIdent) (undeleted : state.softDeletes.contains (tableKey name) = false) :
        tableKey name ≠ key := by
      rintro rfl
      rw [OrderedMap.contains_eq_false] at undeleted
      exact absurd (stored.symm.trans undeleted) (by simp)
    rw [untouched key (different source ready.live) (different destination ready.undeleted)]
    exact formed.softDeletes key record stored
  · intro commit member
    obtain ⟨old, stored, rfl⟩ := List.mem_map.mp member
    by_cases owned : old.tableKey = tableKey source
    · rw [movedCommit, if_pos owned]
      exact ⟨_, moved, (ready.commits old stored owned).retable destination⟩
    · rw [movedCommit, if_neg owned]
      exact commitFiled_mono (formed.commits old stored) fun other found =>
        ⟨other, by rw [untouched _ (Ne.symm owned) (Ne.symm (ready.unrecorded old stored))]
                   exact found, rfl⟩
  · intro key replay stored
    rw [renamed, OrderedMap.getElem?_filter] at stored
    obtain ⟨old, unkeyed⟩ := stored
    have retirable := ready.replays key replay old
    have elsewhere : replay.tableKey ≠ tableKey source := by
      intro same
      rw [retirable.scope.mpr same] at unkeyed
      cases unkeyed
    exact replayFiled_mono (formed.replays key replay old) fun other found =>
      ⟨other, by rw [untouched _ (Ne.symm elsewhere) (Ne.symm retirable.elsewhere)]
                 exact found, rfl⟩
  · intro key binding stored
    rw [renamed, Std.ExtTreeMap.getElem?_map] at stored
    obtain ⟨old, found, rfl⟩ := Option.map_eq_some_iff.mp stored
    have filed := formed.bindings key old found
    unfold movedBinding
    split
    next owned =>
      rw [validatePolicyBindingMapScope_ok, validatePolicyBinding_ok] at filed ⊢
      exact ⟨⟨filed.1.1, by simp⟩, filed.2⟩
    next => exact filed
  · exact formed.views

end WellFormed

theorem wellFormed_step (state : MemoryState) (op : MemoryOp) (formed : WellFormed state) :
    WellFormed (state.step op) := by
  have change := step_change state op
  generalize resulting : (state.step op).catalog = catalog at change
  cases change with
  | unchanged => exact formed.congr resulting
  | namespaceCreated warehouse ns properties =>
      exact (formed.storeNamespace warehouse ns properties).congr resulting
  | namespaceUpdated warehouse ns update properties =>
      exact (formed.storeNamespace warehouse ns properties).congr resulting
  | namespaceDropped warehouse ns => exact (formed.dropNamespace warehouse ns).congr resulting
  | tableCreated table valid ns vacant =>
      exact (formed.createTable valid ns vacant).congr resulting
  | tableRenamed source destination principal receipt now table renamable =>
      exact (formed.rename renamable).congr resulting
  | tableCommitted ident commit now current valid live _ committable =>
      exact (formed.commit valid live committable).congr resulting
  | tableDeleted ident table principal receipt now registered _ shape =>
      have matching := (softDeleteRecord_valid ident table principal receipt now
        registered.valid registered.owner).mpr shape
      exact (formed.softDelete registered.stored
        (registered.owner.symm ▸ matching)).congr resulting
  | tableRestored ident => exact (formed.restore (tableKey ident)).congr resulting
  | viewStored view next expected now _ _ warehouse ns name valid =>
      refine (formed.storeView (viewKey view) ?_).congr resulting
      rw [validateViewRecordMapScope, validateScope_ok, viewKey, viewKey, warehouse, ns, name]
      exact ⟨valid, not_not.mpr rfl⟩
  | viewDropped warehouse ns view =>
      exact (formed.dropView (viewKeyParts warehouse ns view)).congr resulting
  | bindingStored binding valid => exact (formed.storeBinding valid).congr resulting

/-- Every state a run reaches is well formed. -/
theorem wellFormed_run (ops : List MemoryOp) : WellFormed (MemoryState.empty.run ops) :=
  Transition.run_invariant step WellFormed wellFormed_step _ ops wellFormed_empty

end MemoryState

end LakeCat
