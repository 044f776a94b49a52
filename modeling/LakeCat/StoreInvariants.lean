import LakeCat.StoreDrops

/-!
What stays true of the memory store beside its being well formed: the commits of each
table are numbered upwards, within the range of the column, and what is stored was
made by its constructors.
-/

namespace LakeCat

open Fallible

namespace MemoryState

variable [External]

/-- A call that leaves every version in the range of the column. -/
def VersionsFit (state : MemoryState) : MemoryOp → Prop
  | .createTable table => table.version.toNat < 2 ^ 63
  | .commitTable ident _ _ => ∀ current, state.tables[tableKey ident]? = some current →
      current.version.toNat + 1 < 2 ^ 63
  | _ => True

section Numbering

variable {state : MemoryState}

omit [External] in
theorem numbered_congr {next : MemoryState} (numbered : state.Numbered)
    (tables : next.tables = state.tables) (commits : next.commits = state.commits) :
    next.Numbered := by
  intro key table stored
  obtain ⟨bounded, ascending, latest⟩ := numbered key table (tables ▸ stored)
  have same : next.historyOf key = state.historyOf key := by rw [historyOf, historyOf, commits]
  exact ⟨bounded, same ▸ ascending, same ▸ latest⟩

theorem numbered_create {next : MemoryState} (formed : WellFormed state)
    (numbered : state.Numbered) {table : TableRecord}
    (vacant : state.tables.contains (tableKey table.ident) = false)
    (bounded : table.version.toNat < 2 ^ 63)
    (tables : next.tables = state.tables.insert (tableKey table.ident) table)
    (commits : next.commits = state.commits) : next.Numbered := by
  intro key other stored
  have same : next.historyOf key = state.historyOf key := by rw [historyOf, historyOf, commits]
  rw [tables, OrderedMap.getElem?_insert] at stored
  by_cases created : tableKey table.ident = key
  · rw [if_pos created] at stored
    obtain rfl := Option.some.inj stored
    have empty : next.historyOf key = [] := same.trans (historyOf_vacant formed (created ▸ vacant))
    refine ⟨bounded, ?_, ?_⟩
    · rw [empty]
      exact .nil
    · rw [empty]
      exact fun record member => absurd member List.not_mem_nil
  · rw [if_neg created] at stored
    obtain ⟨fits, ascending, latest⟩ := numbered key other stored
    exact ⟨fits, same ▸ ascending, same ▸ latest⟩

omit [External] in
theorem numbered_drop (numbered : state.Numbered) (warehouse : WarehouseName) (ns : Namespace) :
    (state.withoutNamespace warehouse ns).Numbered := by
  intro key table stored
  obtain ⟨held, kept⟩ := (OrderedMap.getElem?_filter _ _ _ _).mp stored
  rw [decide_eq_true_eq] at kept
  have surviving : (state.withoutNamespace warehouse ns).historyOf key = state.historyOf key := by
    rw [historyOf, historyOf, withoutNamespace, List.filter_filter]
    refine congrArg _ (List.filter_congr fun commit _ => ?_)
    by_cases same : commit.tableKey = key
    · simp [same, kept]
    · simp [same]
  obtain ⟨bounded, ascending, latest⟩ := numbered key table held
  exact ⟨bounded, surviving ▸ ascending, surviving ▸ latest⟩

theorem numbered_rename (numbered : state.Numbered) {source destination : TableIdent}
    {principal : Principal} {receipt : Option Json} (now : Timestamp) {table : TableRecord}
    (ready : state.Renamable source destination principal receipt table) :
    (state.renamed source destination principal receipt now table).Numbered := by
  intro key other stored
  rw [renamed, OrderedMap.getElem?_insert, OrderedMap.getElem?_erase] at stored
  by_cases toDestination : tableKey destination = key
  · rw [if_pos toDestination] at stored
    obtain rfl := Option.some.inj stored
    subst toDestination
    obtain ⟨bounded, ascending, latest⟩ := numbered _ _ ready.stored
    have moved : (state.renamed source destination principal receipt now table).historyOf
        (tableKey destination) = (state.historyOf (tableKey source)).map fun record =>
          { record with table := destination } :=
      historyOf_moved source destination state.commits ready.unrecorded
    refine ⟨bounded, ?_, ?_⟩
    · rw [moved, List.pairwise_map]
      exact ascending
    · rw [moved]
      intro record member
      obtain ⟨old, logged, rfl⟩ := List.mem_map.mp member
      exact latest old logged
  · rw [if_neg toDestination] at stored
    by_cases fromSource : tableKey source = key
    · rw [if_pos fromSource] at stored
      cases stored
    · rw [if_neg fromSource] at stored
      have unmoved : (state.renamed source destination principal receipt now table).historyOf key =
          state.historyOf key :=
        congrArg _ (historyOf_unmoved source destination state.commits key fromSource toDestination)
      obtain ⟨bounded, ascending, latest⟩ := numbered key other stored
      exact ⟨bounded, unmoved ▸ ascending, unmoved ▸ latest⟩

theorem numbered_commit (numbered : state.Numbered) {ident : TableIdent} {commit : TableCommit}
    {now : Timestamp} {current : TableRecord}
    (committable : state.Committable ident commit now current)
    (bounded : current.version.toNat + 1 < 2 ^ 63) :
    (state.committed ident commit now current).Numbered := by
  intro key table stored
  have appended : (state.committed ident commit now current).historyOf key =
      state.historyOf key ++ if tableKey ident = key then [commitRecord ident current commit now]
        else [] := historyOf_append state.commits (tableKey ident) _ key
  rw [committed, OrderedMap.getElem?_insert] at stored
  by_cases same : tableKey ident = key
  · rw [if_pos same] at stored appended
    obtain rfl := Option.some.inj stored
    subst same
    obtain ⟨-, ascending, latest⟩ := numbered _ _ committable.stored
    have next := toNat_succ current.version committable.record.positive
    have version : (committedTable current commit now).version.toNat = current.version.toNat + 1 :=
      next
    have number : (commitRecord ident current commit now).sequenceNumber.toNat =
        current.version.toNat + 1 := next
    refine ⟨by omega, ?_, ?_⟩
    · rw [appended, List.pairwise_append]
      refine ⟨ascending, List.pairwise_singleton _ _, ?_⟩
      intro old member last isLast
      obtain rfl := List.mem_singleton.mp isLast
      have before := latest old member
      omega
    · rw [appended]
      intro record member
      rcases List.mem_append.mp member with old | isLast
      · have before := latest record old
        omega
      · obtain rfl := List.mem_singleton.mp isLast
        omega
  · rw [if_neg same] at stored appended
    rw [List.append_nil] at appended
    obtain ⟨fits, ascending, latest⟩ := numbered key table stored
    exact ⟨fits, appended ▸ ascending, appended ▸ latest⟩

end Numbering

theorem numbered_step (state : MemoryState) (op : MemoryOp) (formed : WellFormed state)
    (numbered : state.Numbered) (fits : state.VersionsFit op) : (state.step op).Numbered := by
  have change := step_change state op
  generalize resulting : (state.step op).catalog = catalog at change
  have tables : (state.step op).tables = catalog.tables := congrArg Catalog.tables resulting
  have commits : (state.step op).commits = catalog.commits := congrArg Catalog.commits resulting
  cases change with
  | tableCreated table valid ns vacant =>
      exact numbered_create formed numbered vacant fits tables commits
  | tableRenamed source destination principal receipt now table renamable =>
      exact numbered_congr (numbered_rename numbered now renamable) tables commits
  | namespaceDropped warehouse ns =>
      exact numbered_congr (numbered_drop numbered warehouse ns) tables commits
  | tableCommitted ident commit now current _ _ _ committable =>
      exact numbered_congr (numbered_commit numbered committable
        (fits current committable.stored)) tables commits
  | unchanged | namespaceCreated | namespaceUpdated | tableDeleted | tableRestored | viewStored
  | viewDropped | bindingStored => exact numbered_congr numbered tables commits

omit [External] in
theorem propertyKeys_ok (properties : BTreeMap String) (done : Unit) :
    validateNamespacePropertyKeys properties.keys = .ok done ↔ properties[""]? = none := by
  rw [validateNamespacePropertyKeys, rejectIf_ok, Bool.not_eq_true, List.any_eq_false,
    ← OrderedMap.contains_eq_false]
  simp only [decide_eq_true_eq, Std.ExtTreeMap.mem_keys, ← Std.ExtTreeMap.contains_iff_mem]
  constructor
  · intro named
    by_contra empty
    exact named "" (by simpa using empty) rfl
  · rintro absent key present blank
    obtain rfl := String.toList_eq_nil_iff.mp blank
    cases present.symm.trans absent

omit [External] in
theorem made_apply {properties : NamespaceProperties} {update : NamespacePropertyUpdate}
    (made : properties.Made) (given : validateNamespacePropertyKeys update.updates.keys = .ok ()) :
    (properties.apply update).1.Made := by
  refine (propertyKeys_ok _ ()).mpr ?_
  have absent := (propertyKeys_ok _ ()).mp made
  have unwritten := (propertyKeys_ok _ ()).mp given
  rw [NamespaceProperties.apply, OrderedMap.getElem?_foldl_insert _ fun key => update.updates[key]?]
  · rw [OrderedMap.getElem?_foldl_erase, absent, ite_self, unwritten, ite_self]
  · intro entry member
    exact (OrderedMap.mem_toList _ _ _).mp member

/-- A call whose names and property maps were made by their constructors. -/
def PartsGiven : MemoryOp → Prop
  | .createNamespace _ _ properties => properties.Made
  | .updateNamespaceProperties _ _ update =>
      validateNamespacePropertyKeys update.updates.keys = .ok ()
  | .upsertPolicyBinding binding => binding.warehouse.Made
  | _ => True

section Parts

variable {state next : MemoryState}

omit [External] in
theorem made_congr (made : state.PartsMade) (namespaces : next.namespaces = state.namespaces)
    (bindings : next.policyBindings = state.policyBindings) : next.PartsMade where
  bindings key binding stored := made.bindings key binding (bindings ▸ stored)
  properties warehouse ns properties stored := by
    rw [namespacesOf, namespaces] at stored
    exact made.properties warehouse ns properties stored

omit [External] in
theorem made_store (made : state.PartsMade) {warehouse : WarehouseName} {ns : Namespace}
    {properties : NamespaceProperties} (given : properties.Made)
    (namespaces : next.namespaces = state.namespaces.insert warehouse.value
      ((state.namespacesOf warehouse).insert ns properties))
    (bindings : next.policyBindings = state.policyBindings) : next.PartsMade where
  bindings key binding stored := made.bindings key binding (bindings ▸ stored)
  properties other candidate found stored := by
    rw [namespacesOf_insert state next warehouse other _ namespaces] at stored
    by_cases own : warehouse = other
    · rw [if_pos own, OrderedMap.getElem?_insert] at stored
      by_cases same : ns = candidate
      · rw [if_pos same] at stored
        exact Option.some.inj stored ▸ given
      · rw [if_neg same] at stored
        exact made.properties warehouse candidate found stored
    · rw [if_neg own] at stored
      exact made.properties other candidate found stored

omit [External] in
theorem made_drop (made : state.PartsMade) (warehouse : WarehouseName) (ns : Namespace) :
    (state.withoutNamespace warehouse ns).PartsMade where
  bindings := made.bindings
  properties other candidate found stored := by
    rw [namespacesOf_insert state _ warehouse other _ rfl] at stored
    by_cases own : warehouse = other
    · rw [if_pos own, OrderedMap.getElem?_erase] at stored
      by_cases same : ns = candidate
      · rw [if_pos same] at stored
        cases stored
      · rw [if_neg same] at stored
        exact made.properties warehouse candidate found stored
    · rw [if_neg own] at stored
      exact made.properties other candidate found stored

theorem made_rename (made : state.PartsMade) (source destination : TableIdent)
    (principal : Principal) (receipt : Option Json) (now : Timestamp) (table : TableRecord) :
    (state.renamed source destination principal receipt now table).PartsMade where
  bindings key binding stored := by
    rw [renamed, Std.ExtTreeMap.getElem?_map] at stored
    obtain ⟨old, held, rfl⟩ := Option.map_eq_some_iff.mp stored
    have old := made.bindings key old held
    unfold movedBinding
    split <;> exact old
  properties := made.properties

omit [External] in
theorem made_bind (made : state.PartsMade) {binding : PolicyBinding}
    (given : binding.warehouse.Made) (namespaces : next.namespaces = state.namespaces)
    (bindings : next.policyBindings = state.policyBindings.insert
      (policyBindingKey binding.warehouse binding.policyId) binding) : next.PartsMade where
  bindings key other stored := by
    rw [bindings, OrderedMap.getElem?_insert] at stored
    by_cases same : policyBindingKey binding.warehouse binding.policyId = key
    · rw [if_pos same] at stored
      exact Option.some.inj stored ▸ given
    · rw [if_neg same] at stored
      exact made.bindings key other stored
  properties warehouse ns properties stored := by
    rw [namespacesOf, namespaces] at stored
    exact made.properties warehouse ns properties stored

theorem made_update (made : state.PartsMade) (warehouse : WarehouseName) (ns : Namespace)
    {update : NamespacePropertyUpdate}
    (given : validateNamespacePropertyKeys update.updates.keys = .ok ()) :
    (state.step (.updateNamespaceProperties warehouse ns update)).PartsMade := by
  rw [step, updateNamespaceProperties]
  cases held : (state.namespacesOf warehouse)[ns]? with
  | none => exact made
  | some properties =>
      exact made_store made (made_apply (made.properties warehouse ns properties held) given) rfl rfl

end Parts

theorem made_step (state : MemoryState) (op : MemoryOp) (made : state.PartsMade)
    (given : PartsGiven op) : (state.step op).PartsMade := by
  have change := step_change state op
  generalize resulting : (state.step op).catalog = catalog at change
  have namespaces : (state.step op).namespaces = catalog.namespaces :=
    congrArg Catalog.namespaces resulting
  have bindings : (state.step op).policyBindings = catalog.policyBindings :=
    congrArg Catalog.policyBindings resulting
  cases change with
  | namespaceCreated warehouse ns properties => exact made_store made given namespaces bindings
  | namespaceUpdated warehouse ns update => exact made_update made warehouse ns given
  | namespaceDropped warehouse ns =>
      exact made_congr (made_drop made warehouse ns) namespaces bindings
  | tableRenamed source destination principal receipt now table =>
      exact made_congr (made_rename made source destination principal receipt now table) namespaces
        bindings
  | bindingStored binding => exact made_bind made given namespaces bindings
  | unchanged | tableCreated | tableCommitted | tableDeleted | tableRestored | viewStored
  | viewDropped => exact made_congr made namespaces bindings

end MemoryState

end LakeCat
