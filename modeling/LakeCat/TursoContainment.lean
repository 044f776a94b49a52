import LakeCat.TursoStoreChecks

/-!
Namespaces and tables of the Turso store under concurrent transactions. A drop
only reads the rows that the other transactions insert, and they only read the
row that it deletes, so no two of them conflict.
-/

namespace LakeCat

open SnapshotIsolation

/-- The writes of a transaction body that succeeds. -/
def writesOf {α : Type} : LakeCatResult (α × TursoWrites) → Option TursoWrites
  | .ok (_, writes) => some writes
  | .error _ => none

theorem writesOf_eq_some {α : Type} (result : LakeCatResult (α × TursoWrites))
    (writes : TursoWrites) :
    writesOf result = some writes ↔ ∃ value, result = .ok (value, writes) := by
  cases result with
  | error error => simp [writesOf]
  | ok pair =>
      obtain ⟨value, rows⟩ := pair
      simp [writesOf]

abbrev TursoDatabase := Database TursoState TursoRow

namespace TursoState

/-- The namespace of every table row is stored. -/
def TablesContained (state : TursoState) : Prop :=
  ∀ (key : String) (row : TableRow), state.tables[key]? = some row →
    state.namespaces.contains (row.warehouse, row.namespacePath) = true

/-- Writes that insert tables into stored namespaces and delete no namespace of a table. -/
theorem contained_applyWrites (state : TursoState) (writes : TursoWrites)
    (contained : state.TablesContained)
    (inserted : ∀ (key : String) (row : TableRow), TursoRow.put (.table key) row ∈ writes →
      state.namespaces.contains (row.warehouse, row.namespacePath) = true)
    (spared : ∀ (key : String) (row : TableRow),
      (applyWrites state writes : TursoState).tables[key]? = some row →
        TursoRow.delete (.ns row.warehouse row.namespacePath) ∉ writes) :
    (applyWrites state writes : TursoState).TablesContained := by
  intro key row stored
  have present : state.namespaces.contains (row.warehouse, row.namespacePath) = true := by
    rcases lookup_applyWrites_cases state writes (.table key) with ⟨kept, _⟩ | written
    · exact contained key row (kept.symm.trans stored)
    · obtain ⟨value, member, found⟩ := written
      obtain rfl : value = some row := found.symm.trans stored
      exact inserted key row member
  rw [Std.ExtTreeMap.contains_eq_isSome_getElem?] at present ⊢
  rcases lookup_applyWrites_cases state writes (.ns row.warehouse row.namespacePath) with
    ⟨kept, _⟩ | ⟨value, member, found⟩
  · exact (congrArg Option.isSome kept).trans present
  · cases value with
    | none => exact absurd member (spared key row stored)
    | some cell => exact congrArg Option.isSome found

theorem stored_of_contained {state : TursoState} {writes : TursoWrites} (key : String)
    (row : TableRow) (contained : (applyWrites state writes : TursoState).TablesContained)
    (stored : (applyWrites state writes : TursoState).tables[key]? = some row)
    (unwritten : ∀ change ∈ writes, ∀ warehouse path, change.row ≠ .ns warehouse path) :
    state.namespaces.contains (row.warehouse, row.namespacePath) = true := by
  have present := contained key row stored
  rw [Std.ExtTreeMap.contains_eq_isSome_getElem?] at present ⊢
  have kept := lookup_unwritten state writes (.ns row.warehouse row.namespacePath)
    fun change member => unwritten change member _ _
  exact (congrArg Option.isSome kept).symm.trans present

end TursoState

/-- The transactions on namespaces and on where tables are. -/
inductive NamespaceJob where
  | createNamespace (warehouse : WarehouseName) (ns : Namespace) (properties : NamespaceProperties)
  | createTable (table : TableRecord)
  | renameTable (source destination : TableIdent) (principal : Principal) (receipt : Option Json)
      (now : Timestamp)
  | dropNamespace (warehouse : WarehouseName) (ns : Namespace)

namespace NamespaceJob

open TursoState

def body [External] : NamespaceJob → TursoState → Option TursoWrites
  | .createNamespace warehouse ns properties, state =>
      writesOf (state.createNamespaceWithProperties warehouse ns properties)
  | .createTable table, state => writesOf (state.createTable table)
  | .renameTable source destination principal receipt now, state =>
      writesOf (state.renameTable source destination principal receipt now)
  | .dropNamespace warehouse ns, state => writesOf (state.dropNamespace warehouse ns)

/-- A namespace that the transaction found stored is stored when it commits. -/
def NamespaceKept (warehouse : WarehouseName) (ns : Namespace) (snapshot database : TursoState) :
    Prop :=
  snapshot.namespaceStored warehouse ns = true → database.namespaceStored warehouse ns = true

/-- Nothing has come under a namespace since the snapshot. -/
structure NothingAdded (warehouse : WarehouseName) (ns : Namespace)
    (snapshot database : TursoState) : Prop where
  tables : snapshot.namespaceStored warehouse ns = true →
    ∀ (key : String) (row : TableRow), database.tables[key]? = some row →
      tableInNamespace row warehouse ns.storageKey = true →
        ∃ earlier, snapshot.tables[key]? = some earlier ∧
          tableInNamespace earlier warehouse ns.storageKey = true
  namespaces : ∀ (path : String) (row : NamespaceRow),
    database.namespaces[(warehouse.value, path)]? = some row → path ≠ ns.storageKey →
      namespaceIsDescendant row.ns ns = true →
        snapshot.namespaces[(warehouse.value, path)]? = some row

def permitted : NamespaceJob → TursoDatabase → TursoDatabase → Prop
  | .createNamespace _ _ _, _, _ => True
  | .createTable table, snapshot, database =>
      NamespaceKept table.ident.warehouse table.ident.ns snapshot.store database.store
  | .renameTable _ destination _ _ _, snapshot, database =>
      NamespaceKept destination.warehouse destination.ns snapshot.store database.store
  | .dropNamespace warehouse ns, snapshot, database =>
      NothingAdded warehouse ns snapshot.store database.store

/-- A drop that commits leaves no descendant of its namespace. -/
def ended : NamespaceJob → TursoState → Prop
  | .dropNamespace warehouse ns, store => store.Childless warehouse ns
  | _, _ => True

section
variable [External]

theorem createNamespace_contained {snapshot database : TursoState} {warehouse : WarehouseName}
    {ns : Namespace} {properties : NamespaceProperties} {writes : TursoWrites}
    (contained : database.TablesContained)
    (created : snapshot.createNamespaceWithProperties warehouse ns properties = .ok ((), writes)) :
    (applyWrites database writes : TursoState).TablesContained := by
  obtain ⟨_, _, rfl⟩ := (createNamespaceWithProperties_ok _ _ _ _ _ _).mp created
  refine contained_applyWrites database _ contained ?_ ?_
  · intro key row member
    simp [TursoRow.put] at member
  · intro key row _ member
    simp [TursoRow.delete_ne_put] at member

omit [External] in
theorem createTable_contained {snapshot database : TursoState} {table result : TableRecord}
    {writes : TursoWrites} (contained : database.TablesContained)
    (created : snapshot.createTable table = .ok (result, writes)) :
    (applyWrites database writes : TursoState).TablesContained ↔
      NamespaceKept table.ident.warehouse table.ident.ns snapshot database := by
  obtain ⟨_, found, _, _, _, rfl⟩ := (createTable_ok _ _ _ _).mp created
  constructor
  · intro next _
    refine stored_of_contained (tableKey table.ident) (tableRow table table.version.toNat) next
      ?_ ?_
    · exact lookup_applyWrites database [] []
        (TursoRow.put (.table (tableKey table.ident)) (tableRow table table.version.toNat)) (by simp)
    · simp [TursoRow.put]
  · intro kept
    refine contained_applyWrites database _ contained ?_ ?_
    · intro key row member
      cases List.mem_singleton.mp member
      exact kept found
    · intro key row _ member
      simp [TursoRow.delete_ne_put] at member

theorem renameTable_contained {snapshot database : TursoState} {source destination : TableIdent}
    {principal : Principal} {receipt : Option Json} {now : Timestamp} {result : TableRecord}
    {writes : TursoWrites} (contained : database.TablesContained)
    (renamed : snapshot.renameTable source destination principal receipt now =
      .ok (result, writes)) :
    (applyWrites database writes : TursoState).TablesContained ↔
      NamespaceKept destination.warehouse destination.ns snapshot database := by
  obtain ⟨moved, others, renamable, evidential, rfl⟩ := renameTable_ok _ _ _ _ _ _ _ _ renamed
  have unlisted (row : TursoRow) (cell : Option row.Cell) (catalog : row.isCatalog = true) :
      ⟨row, cell⟩ ∉ others := fun member =>
    absurd ((evidential _ member).symm.trans catalog) (by simp)
  constructor
  · intro next _
    refine stored_of_contained (tableKey destination) (renamedRow moved destination now) next ?_ ?_
    · refine lookup_applyWrites database [TursoRow.delete (.table (tableKey source))] others
        (TursoRow.put (.table (tableKey destination)) _) ?_
      intro change member same
      exact absurd ((evidential change member).symm.trans (congrArg TursoRow.isCatalog same))
        (by simp [TursoRow.put, TursoRow.isCatalog])
    · intro change member warehouse path named
      rcases List.mem_cons.mp member with rfl | later
      · cases named
      · rcases List.mem_cons.mp later with rfl | other
        · cases named
        · exact absurd ((evidential change other).symm.trans (congrArg TursoRow.isCatalog named))
            (by simp [TursoRow.isCatalog])
  · intro kept
    refine contained_applyWrites database _ contained ?_ ?_
    · intro key row member
      rcases List.mem_cons.mp member with same | later
      · exact absurd same.symm (TursoRow.delete_ne_put _ _ _)
      · rcases List.mem_cons.mp later with same | other
        · cases same
          exact kept renamable.ns
        · exact absurd other (unlisted _ _ rfl)
    · intro key row _ member
      rcases List.mem_cons.mp member with same | later
      · cases congrArg Write.row same
      · rcases List.mem_cons.mp later with same | other
        · exact absurd same (TursoRow.delete_ne_put _ _ _)
        · exact absurd other (unlisted _ _ rfl)

omit [External] in
theorem dropNamespace_contained {snapshot database : TursoState} {warehouse : WarehouseName}
    {ns : Namespace} {writes : TursoWrites} (contained : database.TablesContained)
    (spec : snapshot.Dropped warehouse ns writes)
    (nothing : NothingAdded warehouse ns snapshot database) :
    (applyWrites database writes : TursoState).TablesContained := by
  refine contained_applyWrites database writes contained ?_ ?_
  · intro key row member
    cases spec.deletions _ member
  · intro key row stored member
    obtain ⟨owner, path, found⟩ := spec.own _ member _ _ rfl
    rcases lookup_applyWrites_cases database writes (.table key) with ⟨kept, unwritten⟩ | written
    · have inside : tableInNamespace row warehouse ns.storageKey = true := by
        simp [tableInNamespace, owner, path]
      obtain ⟨earlier, seen, within⟩ :=
        nothing.tables found key row (kept.symm.trans stored) inside
      exact unwritten _ (spec.retired key earlier seen within) rfl
    · obtain ⟨value, written, found⟩ := written
      obtain rfl : value = none := spec.deletions _ written
      cases found.symm.trans stored

omit [External] in
theorem dropNamespace_namespaces {snapshot database : TursoState} {warehouse : WarehouseName}
    {ns : Namespace} {writes : TursoWrites} (spec : snapshot.Dropped warehouse ns writes)
    (path : String) (other : path ≠ ns.storageKey) :
    (applyWrites database writes : TursoState).namespaces[(warehouse.value, path)]? =
      database.namespaces[(warehouse.value, path)]? := by
  rcases lookup_applyWrites_cases database writes (.ns warehouse.value path) with
    ⟨kept, _⟩ | ⟨value, written, _⟩
  · exact kept
  · exact absurd (spec.own _ written _ _ rfl).2.1 other

omit [External] in
theorem dropNamespace_childless {snapshot database : TursoState} {warehouse : WarehouseName}
    {ns : Namespace} {writes : TursoWrites} (spec : snapshot.Dropped warehouse ns writes)
    (nothing : NothingAdded warehouse ns snapshot database) :
    (applyWrites database writes : TursoState).Childless warehouse ns := by
  intro path row stored other
  rw [dropNamespace_namespaces spec path other] at stored
  cases descends : namespaceIsDescendant row.ns ns with
  | false => rfl
  | true =>
      have seen := nothing.namespaces path row stored other descends
      exact descends.symm.trans (spec.childless path row seen other)

omit [External] in
/-- A drop that leaves no table and no child behind had nothing come under its namespace. -/
theorem dropNamespace_nothing {snapshot database : TursoState} {warehouse : WarehouseName}
    {ns : Namespace} {writes : TursoWrites} (spec : snapshot.Dropped warehouse ns writes)
    (next : (applyWrites database writes : TursoState).TablesContained)
    (childless : (applyWrites database writes : TursoState).Childless warehouse ns) :
    NothingAdded warehouse ns snapshot database := by
  refine ⟨?_, ?_⟩
  · intro found key row stored inside
    rcases lookup_applyWrites_cases database writes (.table key) with ⟨kept, _⟩ | written
    · have present := next key row (kept.trans stored)
      simp only [tableInNamespace, Bool.and_eq_true, decide_eq_true_eq] at inside
      rw [inside.1, inside.2, Std.ExtTreeMap.contains_eq_isSome_getElem?] at present
      rcases lookup_applyWrites_cases database writes (.ns warehouse.value ns.storageKey) with
        ⟨_, unwritten⟩ | ⟨value, written, left⟩
      · exact absurd rfl (unwritten _ (spec.deleted found))
      · obtain rfl : value = none := spec.deletions _ written
        cases (congrArg Option.isSome left).symm.trans present
    · obtain ⟨value, written, _⟩ := written
      exact spec.tables _ written key rfl
  · intro path row stored other descends
    have absent := childless path row
      ((dropNamespace_namespaces spec path other).trans stored) other
    cases absent.symm.trans descends

/-- Whether a commit keeps tables in namespaces depends on what came in since its snapshot. -/
theorem containment_exact : Exact body (fun _ => True) TablesContained ended permitted := by
  rintro job snapshot database writes - ⟨-, contained⟩ - computed -
  refine ⟨trivial, ?_⟩
  cases job with
  | createNamespace warehouse ns properties =>
      obtain ⟨_, created⟩ := (writesOf_eq_some _ _).mp computed
      exact iff_of_true ⟨createNamespace_contained contained created, trivial⟩ trivial
  | createTable table =>
      obtain ⟨_, created⟩ := (writesOf_eq_some _ _).mp computed
      exact (and_iff_left trivial).trans (createTable_contained contained created)
  | renameTable source destination principal receipt now =>
      obtain ⟨_, renamed⟩ := (writesOf_eq_some _ _).mp computed
      exact (and_iff_left trivial).trans (renameTable_contained contained renamed)
  | dropNamespace warehouse ns =>
      obtain ⟨_, dropped⟩ := (writesOf_eq_some _ _).mp computed
      have spec := dropNamespace_ok _ _ _ _ _ dropped
      constructor
      · rintro ⟨next, childless⟩
        exact dropNamespace_nothing spec next childless
      · intro nothing
        exact ⟨dropNamespace_contained contained spec nothing, dropNamespace_childless spec nothing⟩

/-- A run keeps every table in a namespace exactly when no transaction brings anything into a
namespace beside the one that drops it. -/
theorem namespaces_outlastTables (start : TursoDatabase)
    (contained : start.store.TablesContained) (events : List (Event NamespaceJob)) :
    Transition.Along (step body) (Keeps body TablesContained ended) (System.idle start) events ↔
      Transition.Along (step body) (Permits body permitted) (System.idle start) events :=
  run_keeps_iff containment_exact start trivial contained events

omit [External] in
theorem permitted_still (job : NamespaceJob) (database : TursoDatabase) :
    job.permitted database database := by
  cases job with
  | createNamespace => trivial
  | createTable | renameTable => exact id
  | dropNamespace warehouse ns =>
      exact ⟨fun _ _ row stored inside => ⟨row, stored, inside⟩, fun _ _ stored _ _ => stored⟩

end

/-- A table created in the sample namespace, one transaction after the other. -/
theorem namespaces_outlastTables_sample : ∃ events : List (Event NamespaceJob), ∀ [External],
    Transition.Along (step body) (Keeps body TablesContained ended)
      (System.idle ⟨{}, fun _ => 0⟩) events := by
  refine ⟨serial [.createNamespace sampleIdent.warehouse sampleIdent.ns .default,
    .createTable sampleTable], ?_⟩
  intro _
  refine (namespaces_outlastTables ⟨{}, fun _ => 0⟩ ?_ _).mpr
    (serial_permitted (fun job database _ _ => permitted_still job database) _ _)
  intro key row stored
  cases stored

/-- A table is created in a namespace while the namespace is dropped. -/
theorem droppedNamespace_keepsTable : ∃ events : List (Event NamespaceJob), ∀ [External],
    ¬(Transition.run (step body) (System.idle ⟨{}, fun _ => 0⟩) events).database.store.TablesContained := by
  refine ⟨serial [.createNamespace sampleIdent.warehouse sampleIdent.ns .default] ++
    [.begin 0 (.createTable sampleTable),
      .begin 1 (.dropNamespace sampleIdent.warehouse sampleIdent.ns), .commit 1, .commit 0], ?_⟩
  intro _ contained
  have present := contained (tableKey sampleIdent) (tableRow sampleTable 0) rfl
  cases present

end NamespaceJob

end LakeCat
