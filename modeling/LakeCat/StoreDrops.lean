import LakeCat.StoreRenames

/-!
Drops of namespaces in both stores. Both require that nothing in the namespace is in
use, and take away what is filed under its soft-deleted tables.
-/

namespace LakeCat

open Fallible SnapshotIsolation

namespace TursoState

/-- The keys of the soft-deleted tables of a namespace, by the columns of their rows. -/
def retiredKeys (state : TursoState) (warehouse : WarehouseName) (ns : Namespace) : List String :=
  ((state.tablesInNamespace warehouse ns.storageKey).filter fun entry =>
    state.softDeletes.contains entry.1).map Prod.fst

theorem mem_retiredKeys (state : TursoState) (warehouse : WarehouseName) (ns : Namespace)
    (key : String) : key ∈ state.retiredKeys warehouse ns ↔ ∃ row : TableRow,
      state.tables[key]? = some row ∧ tableInNamespace row warehouse ns.storageKey = true ∧
        state.softDeletes.contains key = true := by
  simp only [retiredKeys, List.mem_map, List.mem_filter, Prod.exists, tablesInNamespace_mem]
  constructor
  · rintro ⟨_, row, ⟨⟨stored, inside⟩, deleted⟩, rfl⟩
    exact ⟨row, stored, inside, deleted⟩
  · rintro ⟨row, stored, inside, deleted⟩
    exact ⟨key, row, ⟨⟨stored, inside⟩, deleted⟩, rfl⟩

/-- What a drop has read of the namespace. -/
structure Clear (state : TursoState) (warehouse : WarehouseName) (ns : Namespace) : Prop where
  childless : ∀ (path : String) (row : NamespaceRow),
    state.namespaces[(warehouse.value, path)]? = some row → path ≠ ns.storageKey →
      row.ns.storageKey = path ∧ namespaceIsDescendant row.ns ns = false
  inactive : ∀ (key : String) (row : TableRow), state.tables[key]? = some row →
    tableInNamespace row warehouse ns.storageKey = true → state.softDeletes.contains key = true
  registered : ∀ (key : String) (row : SoftDeleteRow), state.softDeletes[key]? = some row →
    row.warehouse = warehouse.value → row.namespacePath = ns.storageKey →
      state.tables.contains key = true
  retirable : ∀ (key : String) (row : TableRow), state.tables[key]? = some row →
    tableInNamespace row warehouse ns.storageKey = true → state.softDeletes.contains key = true →
      state.Retirable key row
  unviewed : ∀ (key : String) (row : ViewRow), state.views[key]? = some row →
    ¬(row.warehouse = warehouse.value ∧ row.namespacePath = ns.storageKey)
  unbound : ∀ (key : String) (row : PolicyBindingRow), state.policyBindings[key]? = some row →
    ¬(row.warehouse = warehouse.value ∧ row.namespacePath = some ns.storageKey)

def dropWrites (state : TursoState) (warehouse : WarehouseName) (ns : Namespace) : TursoWrites :=
  (state.retiredKeys warehouse ns).flatMap state.retireTable ++
    state.deleteStored (.namespaceProperties warehouse.value ns.storageKey) ++
    state.deleteStored (.ns warehouse.value ns.storageKey)

theorem checkChildless_iff (warehouse : WarehouseName) (ns : Namespace)
    (rows : List ((String × String) × NamespaceRow)) (done : Unit) :
    checkChildless warehouse ns rows = .ok done ↔ ∀ entry ∈ rows, entry.1.1 = warehouse.value →
      entry.1.2 ≠ ns.storageKey →
        entry.2.ns.storageKey = entry.1.2 ∧ namespaceIsDescendant entry.2.ns ns = false := by
  induction rows with
  | nil => simp [checkChildless]
  | cons entry rest ih =>
      obtain ⟨⟨rowWarehouse, path⟩, row⟩ := entry
      simp only [checkChildless, bind_unit_eq_ok, checkWhen_ok, rejectIf_ok, validateNamespaceScope,
        Bool.not_eq_true, ne_eq, not_not, ih, List.forall_mem_cons, and_imp]

theorem ensureNamespaceHasNoActiveTables_iff (state : TursoState) (warehouse : WarehouseName)
    (ns : Namespace) (done : Unit) :
    state.ensureNamespaceHasNoActiveTables warehouse ns = .ok done ↔
      ∀ (key : String) (row : TableRow), state.tables[key]? = some row →
        tableInNamespace row warehouse ns.storageKey = true →
          state.softDeletes.contains key = true := by
  constructor
  · exact state.ensureNamespaceHasNoActiveTables_ok warehouse ns done
  · intro inactive
    have none : ((state.tablesInNamespace warehouse ns.storageKey).filter fun entry =>
        !state.softDeletes.contains entry.1) = [] := by
      rw [List.filter_eq_nil_iff]
      rintro ⟨key, row⟩ member
      obtain ⟨stored, inside⟩ := (tablesInNamespace_mem _ _ _ _ _).mp member
      simp [inactive key row stored inside]
    rw [ensureNamespaceHasNoActiveTables, none]
    rfl

theorem softDeletedTableKeysInNamespace_iff (state : TursoState) (warehouse : WarehouseName)
    (ns : Namespace) (keys : List String) :
    state.softDeletedTableKeysInNamespace warehouse ns.storageKey = .ok keys ↔
      (∀ (key : String) (row : SoftDeleteRow), state.softDeletes[key]? = some row →
        row.warehouse = warehouse.value → row.namespacePath = ns.storageKey →
          state.tables.contains key = true) ∧
      (∀ (key : String) (row : TableRow), state.tables[key]? = some row →
        tableInNamespace row warehouse ns.storageKey = true →
          state.softDeletes.contains key = true → state.Retirable key row) ∧
      keys = state.retiredKeys warehouse ns := by
  have spec (entry : String × TableRow) (result : String) : (do
      validateTableRecordScope entry.2.record entry.2.record.ident entry.1 entry.2
      checkSome (fun deletion => do
        deletion.record.validateForTable entry.2.record.ident entry.2.record
        validateTursoSoftDeleteRow deletion.record entry.2.record.ident entry.1 deletion)
        state.softDeletes[entry.1]?
      return entry.1 : LakeCatResult String) = .ok result ↔
        state.Retirable entry.1 entry.2 ∧ result = entry.1 := by
    simp only [bind_eq_ok, exists_unit, validateTableRecordScope_ok, checkSome_ok,
      SoftDeleteRecord.validateForTable_ok, validateTursoSoftDeleteRow_ok, pure_eq, Except.ok.injEq]
    constructor
    · rintro ⟨placed, matching, rfl⟩
      exact ⟨⟨placed, matching⟩, rfl⟩
    · rintro ⟨⟨placed, matching⟩, rfl⟩
      exact ⟨placed, matching, rfl⟩
  rw [softDeletedTableKeysInNamespace, bind_unit_eq_ok, rejectIf_ok,
    collect_checked _ (fun entry => state.Retirable entry.1 entry.2) Prod.fst spec]
  refine and_congr ?_ (and_congr ?_ .rfl)
  · simp only [Bool.not_eq_true, List.any_eq_false, Bool.and_eq_true, decide_eq_true_eq,
      Bool.not_eq_true', Prod.forall, OrderedMap.mem_toList, not_and, Bool.not_eq_false, and_imp]
  · simp only [List.mem_filter, Prod.forall, tablesInNamespace_mem, and_imp]

theorem dropLoadedNamespace_ok (state : TursoState) (warehouse : WarehouseName)
    (ns result : Namespace) (writes : TursoWrites) :
    state.dropLoadedNamespace warehouse ns = .ok (result, writes) ↔
      state.loadNamespace warehouse ns = .ok ns ∧ state.Clear warehouse ns ∧ result = ns ∧
        writes = state.dropWrites warehouse ns := by
  have loads (found : Namespace) (loaded : state.loadNamespace warehouse ns = .ok found) :
      found = ns := by
    simp only [loadNamespace, bind_eq_ok, exists_unit, okOr_ok, validateNamespaceScope,
      rejectIf_ok, ne_eq, not_not, pure_eq, Except.ok.injEq] at loaded
    obtain ⟨row, -, keyed, rfl⟩ := loaded
    exact storageKey_inj keyed
  have reads (writes : TursoWrites) : state.dropNamespace warehouse ns = .ok (result, writes) ↔
      state.Clear warehouse ns ∧ result = ns ∧ writes = state.dropWrites warehouse ns := by
    simp only [dropNamespace, bind_eq_ok, exists_unit, rejectIf_ok, checkChildless_iff,
      ensureNamespaceHasNoActiveTables_iff, softDeletedTableKeysInNamespace_iff, pure_eq,
      return_eq_ok, Bool.not_eq_true, List.any_eq_false, Bool.and_eq_true, decide_eq_true_eq,
      Prod.forall, OrderedMap.mem_toList]
    constructor
    · rintro ⟨childless, inactive, _, ⟨registered, retirable, rfl⟩, unviewed, unbound, rfl, rfl⟩
      exact ⟨⟨fun path row stored => childless _ path row stored rfl, inactive, registered,
        retirable, unviewed, unbound⟩, rfl, rfl⟩
    · rintro ⟨⟨childless, inactive, registered, retirable, unviewed, unbound⟩, rfl, rfl⟩
      refine ⟨?_, inactive, _, ⟨registered, retirable, rfl⟩, unviewed, unbound, rfl, rfl⟩
      rintro rowWarehouse path row stored rfl
      exact childless path row stored
  simp only [dropLoadedNamespace, bind_eq_ok]
  constructor
  · rintro ⟨found, loaded, dropped⟩
    obtain rfl := loads found loaded
    exact ⟨loaded, (reads writes).mp dropped⟩
  · rintro ⟨loaded, dropped⟩
    exact ⟨ns, loaded, (reads writes).mpr dropped⟩

/-- The writes of a drop, one by one. -/
inductive DropWrite (state : TursoState) (warehouse : WarehouseName) (ns : Namespace) :
    Write tursoRows → Prop
  | unanswered (key : String) (replay : IdempotencyReplay)
      (stored : state.idempotency[key]? = some replay)
      (retired : replay.tableKey ∈ state.retiredKeys warehouse ns) :
      DropWrite state warehouse ns (TursoRow.delete (.idempotency key))
  | unlogged (key : String) (retired : key ∈ state.retiredKeys warehouse ns) (sequence : Int)
      (logged : PointerLogRow) (member : (sequence, logged) ∈ state.pointerLogOf key) :
      DropWrite state warehouse ns (TursoRow.delete (.pointerLog key sequence))
  | restored (key : String) (retired : key ∈ state.retiredKeys warehouse ns)
      (stored : (state.lookup (.softDelete key)).isSome) :
      DropWrite state warehouse ns (TursoRow.delete (.softDelete key))
  | unregistered (key : String) (retired : key ∈ state.retiredKeys warehouse ns)
      (stored : (state.lookup (.table key)).isSome) :
      DropWrite state warehouse ns (TursoRow.delete (.table key))
  | unset (stored : (state.lookup
      (.namespaceProperties warehouse.value ns.storageKey)).isSome) :
      DropWrite state warehouse ns
        (TursoRow.delete (.namespaceProperties warehouse.value ns.storageKey))
  | removed (stored : (state.lookup (.ns warehouse.value ns.storageKey)).isSome) :
      DropWrite state warehouse ns (TursoRow.delete (.ns warehouse.value ns.storageKey))

theorem mem_dropWrites (state : TursoState) (warehouse : WarehouseName) (ns : Namespace)
    (change : Write tursoRows) :
    change ∈ state.dropWrites warehouse ns ↔ state.DropWrite warehouse ns change := by
  simp only [dropWrites, List.mem_append, List.mem_flatMap, mem_deleteStored, retireTable,
    List.mem_map, List.mem_filter, decide_eq_true_eq]
  constructor
  · rintro ((⟨key, retired, ((⟨⟨own, replay⟩, ⟨stored, rfl⟩, rfl⟩ | ⟨⟨sequence, logged⟩, member,
      rfl⟩) | ⟨stored, rfl⟩) | ⟨stored, rfl⟩⟩ | ⟨stored, rfl⟩) | ⟨stored, rfl⟩)
    · exact .unanswered own replay ((OrderedMap.mem_toList _ _ _).mp stored) retired
    · exact .unlogged key retired sequence logged member
    · exact .restored key retired stored
    · exact .unregistered key retired stored
    · exact .unset stored
    · exact .removed stored
  · intro written
    cases written with
    | unanswered key replay stored retired =>
        exact .inl (.inl ⟨_, retired, .inl (.inl (.inl ⟨(key, replay),
          ⟨(OrderedMap.mem_toList _ _ _).mpr stored, rfl⟩, rfl⟩))⟩)
    | unlogged key retired sequence logged member =>
        exact .inl (.inl ⟨key, retired, .inl (.inl (.inr ⟨(sequence, logged), member, rfl⟩))⟩)
    | restored key retired stored =>
        exact .inl (.inl ⟨key, retired, .inl (.inr ⟨stored, rfl⟩)⟩)
    | unregistered key retired stored => exact .inl (.inl ⟨key, retired, .inr ⟨stored, rfl⟩⟩)
    | unset stored => exact .inl (.inr ⟨stored, rfl⟩)
    | removed stored => exact .inr ⟨stored, rfl⟩

end TursoState

section Images

variable {state : MemoryState} {warehouse : WarehouseName} {ns : Namespace}

theorem ns_left (rowWarehouse path : String) (row : NamespaceRow) :
    (state.withoutNamespace warehouse ns).image (.ns rowWarehouse path) row ↔
      ¬(warehouse.value = rowWarehouse ∧ ns.storageKey = path) ∧
        state.image (.ns rowWarehouse path) row := by
  obtain ⟨stored⟩ := row
  obtain ⟨own⟩ := warehouse
  simp only [MemoryState.image, MemoryState.namespaceExists_erase state
    (state.withoutNamespace ⟨own⟩ ns) ⟨own⟩ ⟨rowWarehouse⟩ ns stored rfl, WarehouseName.mk.injEq]
  constructor
  · rintro ⟨rfl, other, held⟩
    exact ⟨fun both => other ⟨both.1, storageKey_inj both.2⟩, rfl, held⟩
  · rintro ⟨other, rfl, held⟩
    exact ⟨rfl, fun both => other ⟨both.1, congrArg Namespace.storageKey both.2⟩, held⟩

theorem properties_left (rowWarehouse path : String) (row : NamespaceProperties) :
    (state.withoutNamespace warehouse ns).image (.namespaceProperties rowWarehouse path) row ↔
      ¬(warehouse.value = rowWarehouse ∧ ns.storageKey = path) ∧
        state.image (.namespaceProperties rowWarehouse path) row := by
  obtain ⟨own⟩ := warehouse
  simp only [MemoryState.image, MemoryState.namespacesOf_insert state
    (state.withoutNamespace ⟨own⟩ ns) ⟨own⟩ ⟨rowWarehouse⟩ _ rfl, WarehouseName.mk.injEq]
  by_cases same : own = rowWarehouse
  · subst same
    simp only [if_true, true_and, OrderedMap.getElem?_erase]
    constructor
    · rintro ⟨other, rfl, held⟩
      by_cases dropped : ns = other
      · rw [if_pos dropped] at held
        cases held
      · rw [if_neg dropped] at held
        exact ⟨fun keyed => dropped (storageKey_inj keyed), other, rfl, held⟩
    · rintro ⟨different, other, rfl, held⟩
      refine ⟨other, rfl, ?_⟩
      rw [if_neg fun dropped => different (congrArg Namespace.storageKey dropped)]
      exact held
  · rw [if_neg same, and_iff_right fun both => same both.1]

theorem log_dropped (key : String) (sequence : Int) (row : PointerLogRow) :
    (state.withoutNamespace warehouse ns).image (.pointerLog key sequence) row ↔
      key ∉ state.retiredKeys warehouse ns ∧ state.image (.pointerLog key sequence) row := by
  simp only [MemoryState.image, MemoryState.mem_historyOf, MemoryState.withoutNamespace,
    List.mem_filter, decide_eq_true_eq]
  constructor
  · rintro ⟨record, ⟨logged, unretired⟩, shown⟩
    exact ⟨unretired, record, logged, shown⟩
  · rintro ⟨unretired, record, logged, shown⟩
    exact ⟨record, ⟨logged, unretired⟩, shown⟩

theorem shown_filter {α β : Type} (map : BTreeMap α) (row : α → β) (keep : String → Bool)
    (query : String) (cell : β) :
    (∃ stored, (map.filter fun key _ => keep key)[query]? = some stored ∧ cell = row stored) ↔
      keep query = true ∧ ∃ stored, map[query]? = some stored ∧ cell = row stored := by
  simp only [OrderedMap.getElem?_filter]
  constructor
  · rintro ⟨stored, ⟨held, kept⟩, shown⟩
    exact ⟨kept, stored, held, shown⟩
  · rintro ⟨kept, stored, held, shown⟩
    exact ⟨stored, ⟨held, kept⟩, shown⟩

end Images

namespace Paired

variable [External] {memory : MemoryState} {turso : TursoState}

omit [External] in
theorem registeredRow_inside (table : TableRecord) (warehouse : WarehouseName) (ns : Namespace) :
    TursoState.tableInNamespace (registeredRow table) warehouse ns.storageKey = true ↔
      table.ident.warehouse = warehouse ∧ table.ident.ns = ns := by
  rw [TursoState.tableInNamespace, Bool.and_eq_true, decide_eq_true_eq, decide_eq_true_eq]
  constructor
  · rintro ⟨named, keyed⟩
    exact ⟨congrArg WarehouseName.mk named, storageKey_inj keyed⟩
  · rintro ⟨rfl, rfl⟩
    exact ⟨rfl, rfl⟩

theorem clear (paired : Paired memory turso) (warehouse : WarehouseName) (ns : Namespace) :
    (turso.loadNamespace warehouse ns = .ok ns ∧ turso.Clear warehouse ns) ↔
      memory.Droppable warehouse ns := by
  have present : turso.loadNamespace warehouse ns = .ok ns ↔
      memory.namespaceExists warehouse ns = true := by
    rw [paired.loadNamespace, MemoryState.loadNamespace, bind_unit_eq_ok, rejectIf_ok]
    simp
  rw [present]
  constructor
  · rintro ⟨known, childless, inactive, registered, retirable, unviewed, unbound⟩
    have inside (table : TableRecord) (warehouseSame : table.ident.warehouse = warehouse)
        (nsSame : table.ident.ns = ns) :=
      (registeredRow_inside table warehouse ns).mpr ⟨warehouseSame, nsSame⟩
    have row {key : String} {table : TableRecord} (held : memory.tables[key]? = some table) :
        turso.tables[key]? = some (registeredRow table) := by
      rw [paired.table, held]
      rfl
    refine ⟨known, ?_, ?_, ?_, ?_, ?_⟩
    · intro candidate stored
      by_cases same : candidate = ns
      · simp [same, namespaceIsDescendant]
      · exact (childless candidate.storageKey ⟨candidate⟩
          ((paired.nsRow _ _ _).mpr ⟨rfl, stored⟩) fun keyed => same (storageKey_inj keyed)).2
    · intro key table held
      obtain ⟨keyed, valid⟩ := paired.formed.tables key table held
      refine ⟨valid, keyed, fun warehouseSame nsSame => ?_⟩
      have within := inside table warehouseSame nsSame
      have deleted := inactive key _ (row held) within
      obtain ⟨deletion, found⟩ := (OrderedMap.contains_eq_true _ _).mp deleted
      have matching := ((retirable key _ (row held) within deleted).matching deletion found).1
      rw [paired.deletion] at found
      obtain ⟨record, stored, rfl⟩ := Option.map_eq_some_iff.mp found
      exact ⟨record, stored, (congrArg tableKey matching.recorded).trans keyed, matching⟩
    · intro key record stored
      obtain ⟨table, held, matching⟩ := paired.formed.softDeletes key record stored
      have keyed := (congrArg tableKey matching.recorded).trans (paired.formed.tables key table held).1
      refine ⟨keyed, fun warehouseSame nsSame => (memory.mem_retiredKeys _ _ _).mpr
        ⟨table, held, ?_, ?_⟩⟩
      · rw [← matching.recorded]
        exact warehouseSame
      · rw [← matching.recorded]
        exact nsSame
    · intro key view stored
      refine ⟨paired.formed.views key view stored, ?_⟩
      rintro ⟨rfl, rfl⟩
      refine unviewed key (viewRow view) ?_ ⟨rfl, rfl⟩
      rw [paired.view, stored]
      rfl
    · intro key binding stored
      refine ⟨paired.formed.bindings key binding stored, ?_⟩
      rintro ⟨rfl, own⟩
      refine unbound key (bindingRow binding) ?_ ⟨rfl, congrArg (Option.map Namespace.storageKey) own⟩
      rw [paired.binding, stored]
      rfl
  · rintro ⟨known, childless, tables, softDeletes, views, bindings⟩
    refine ⟨known, ?_, ?_, ?_, ?_, ?_, ?_⟩
    · intro path row stored other
      obtain ⟨keyed, held⟩ := (paired.nsRow _ _ _).mp stored
      exact ⟨keyed, childless row.ns held⟩
    · intro key row stored inside
      rw [paired.table] at stored
      obtain ⟨table, held, rfl⟩ := Option.map_eq_some_iff.mp stored
      obtain ⟨warehouseSame, nsSame⟩ := (registeredRow_inside _ _ _).mp inside
      obtain ⟨record, deleted, -⟩ := (tables key table held).2.2 warehouseSame nsSame
      rw [paired.deletionStored]
      exact (OrderedMap.contains_eq_true _ _).mpr ⟨record, deleted⟩
    · intro key row stored warehouseSame nsSame
      rw [paired.deletion] at stored
      obtain ⟨record, deleted, rfl⟩ := Option.map_eq_some_iff.mp stored
      obtain ⟨table, held, -⟩ := paired.formed.softDeletes key record deleted
      rw [paired.tableStored]
      exact (OrderedMap.contains_eq_true _ _).mpr ⟨table, held⟩
    · intro key row stored inside deleted
      rw [paired.table] at stored
      obtain ⟨table, held, rfl⟩ := Option.map_eq_some_iff.mp stored
      obtain ⟨valid, keyed, -⟩ := tables key table held
      refine ⟨(registeredRow_placed _ _ _).mpr ⟨valid, rfl, keyed.symm⟩, ?_⟩
      intro deletion found
      rw [paired.deletion] at found
      obtain ⟨record, recorded, rfl⟩ := Option.map_eq_some_iff.mp found
      obtain ⟨other, again, matching⟩ := paired.formed.softDeletes key record recorded
      obtain rfl := Option.some.inj (held.symm.trans again)
      exact ⟨matching, (deletionRow_placed _ _ _).mpr keyed.symm⟩
    · rintro key row stored ⟨warehouseSame, nsSame⟩
      rw [paired.view] at stored
      obtain ⟨view, held, rfl⟩ := Option.map_eq_some_iff.mp stored
      exact (views key view held).2 ⟨congrArg WarehouseName.mk warehouseSame, storageKey_inj nsSame⟩
    · rintro key row stored ⟨warehouseSame, nsSame⟩
      rw [paired.binding] at stored
      obtain ⟨binding, held, rfl⟩ := Option.map_eq_some_iff.mp stored
      obtain ⟨own, scope, keyed⟩ := Option.map_eq_some_iff.mp nsSame
      refine (bindings key binding held).2 ⟨congrArg WarehouseName.mk warehouseSame, ?_⟩
      rw [scope, storageKey_inj keyed]

theorem mem_retiredKeys (paired : Paired memory turso) {warehouse : WarehouseName}
    {ns : Namespace} (droppable : memory.Droppable warehouse ns) (key : String) :
    key ∈ turso.retiredKeys warehouse ns ↔ key ∈ memory.retiredKeys warehouse ns := by
  rw [TursoState.mem_retiredKeys, MemoryState.mem_retiredKeys, paired.deletionStored]
  constructor
  · rintro ⟨row, stored, inside, -⟩
    rw [paired.table] at stored
    obtain ⟨table, held, rfl⟩ := Option.map_eq_some_iff.mp stored
    exact ⟨table, held, (registeredRow_inside _ _ _).mp inside⟩
  · rintro ⟨table, held, inside⟩
    refine ⟨registeredRow table, ?_, (registeredRow_inside _ _ _).mpr inside, ?_⟩
    · rw [paired.table, held]
      rfl
    · obtain ⟨record, deleted, -⟩ := (droppable.tables key table held).2.2 inside.1 inside.2
      exact (OrderedMap.contains_eq_true _ _).mpr ⟨record, deleted⟩

theorem drop_redraws (paired : Paired memory turso) {warehouse : WarehouseName}
    {ns : Namespace} (droppable : memory.Droppable warehouse ns) :
    Redraws TursoRow.IsObserved (turso.dropWrites warehouse ns) memory.image
      (memory.withoutNamespace warehouse ns).image := by
  constructor
  · intro change member seen cell
    cases (TursoState.mem_dropWrites _ _ _ _).mp member with
    | unanswered key replay stored retired =>
        refine ⟨nofun, fun shown => ?_⟩
        obtain ⟨held, kept⟩ := (OrderedMap.getElem?_filter _ _ _ _).mp shown
        obtain rfl := Option.some.inj (held.symm.trans ((paired.replay key).symm.trans stored))
        rw [decide_eq_true_eq] at kept
        exact absurd ((paired.mem_retiredKeys droppable _).mp retired) kept
    | unlogged key retired sequence logged inLog =>
        refine ⟨nofun, fun shown => ?_⟩
        exact absurd ((paired.mem_retiredKeys droppable key).mp retired)
          ((log_dropped key sequence cell).mp shown).1
    | restored key retired stored =>
        refine ⟨nofun, fun shown => ?_⟩
        have kept := ((shown_filter _ deletionRow _ key cell).mp shown).1
        rw [decide_eq_true_eq] at kept
        exact absurd ((paired.mem_retiredKeys droppable key).mp retired) kept
    | unregistered key retired stored =>
        refine ⟨nofun, fun shown => ?_⟩
        have kept := ((shown_filter _ registeredRow _ key cell).mp shown).1
        rw [decide_eq_true_eq] at kept
        exact absurd ((paired.mem_retiredKeys droppable key).mp retired) kept
    | unset stored =>
        exact ⟨nofun, fun shown => absurd ⟨rfl, rfl⟩ ((properties_left _ _ cell).mp shown).1⟩
    | removed stored =>
        exact ⟨nofun, fun shown => absurd ⟨rfl, rfl⟩ ((ns_left _ _ cell).mp shown).1⟩
  · intro row seen unwritten cell
    have untouched : ∀ change, turso.DropWrite warehouse ns change → change.row ≠ row :=
      fun change written => unwritten change ((TursoState.mem_dropWrites _ _ _ _).mpr written)
    have stored : memory.image row cell → (turso.lookup row).isSome := fun shown =>
      Option.isSome_of_eq_some ((paired.shows row seen cell).mpr shown)
    have retired := fun key => (paired.mem_retiredKeys droppable key).mpr
    cases row with
    | ns rowWarehouse path =>
        refine (ns_left rowWarehouse path cell).trans (and_iff_right_of_imp ?_)
        rintro shown ⟨rfl, rfl⟩
        exact untouched _ (.removed (stored shown)) rfl
    | namespaceProperties rowWarehouse path =>
        refine (properties_left rowWarehouse path cell).trans (and_iff_right_of_imp ?_)
        rintro shown ⟨rfl, rfl⟩
        exact untouched _ (.unset (stored shown)) rfl
    | table key =>
        refine (shown_filter _ registeredRow _ key cell).trans (and_iff_right_of_imp fun shown => ?_)
        rw [decide_eq_true_eq]
        exact fun gone => untouched _ (.unregistered key (retired key gone) (stored shown)) rfl
    | softDelete key =>
        refine (shown_filter _ deletionRow _ key cell).trans (and_iff_right_of_imp fun shown => ?_)
        rw [decide_eq_true_eq]
        exact fun gone => untouched _ (.restored key (retired key gone) (stored shown)) rfl
    | pointerLog key sequence =>
        refine (log_dropped key sequence cell).trans (and_iff_right_of_imp fun shown gone => ?_)
        exact untouched _ (.unlogged key (retired key gone) sequence cell
          ((paired.logRow _ _ _).mpr shown)) rfl
    | idempotency key =>
        refine (OrderedMap.getElem?_filter _ _ _ _).trans (and_iff_left_of_imp fun held => ?_)
        rw [decide_eq_true_eq]
        exact fun gone => untouched _ (.unanswered key cell ((paired.replay key).trans held)
          (retired _ gone)) rfl
    | _ => exact .rfl

theorem dropNamespace (paired : Paired memory turso) (warehouse : WarehouseName)
    (ns : Namespace) :
    Alike memory (memory.dropNamespace warehouse ns) (turso.dropLoadedNamespace warehouse ns) where
  accepts := by
    intro result next dropped
    obtain ⟨droppable, rfl, -⟩ := (MemoryState.dropNamespace_ok _ _ _ _ _).mp dropped
    obtain ⟨loaded, clear⟩ := (paired.clear warehouse result).mpr droppable
    exact ⟨_, (TursoState.dropLoadedNamespace_ok _ _ _ _ _).mpr ⟨loaded, clear, rfl, rfl⟩⟩
  redraws := by
    intro result writes dropped
    obtain ⟨loaded, clear, rfl, rfl⟩ := (TursoState.dropLoadedNamespace_ok _ _ _ _ _).mp dropped
    have droppable := (paired.clear warehouse result).mp ⟨loaded, clear⟩
    exact ⟨_, (MemoryState.dropNamespace_ok _ _ _ _ _).mpr ⟨droppable, rfl, rfl⟩,
      paired.drop_redraws droppable⟩

end Paired

end LakeCat
