import LakeCat.WellFormed

/-!
Everything that is filed under a namespace, and whether the namespace is
stored. Tables and soft deletions never lose theirs; a view or a policy
binding has one as long as each upsert named a stored namespace.
-/

namespace LakeCat

open Fallible

namespace MemoryState

section
variable [External]

/-- The namespace of every table, view, soft deletion and scoped binding is stored. -/
structure Contained (state : MemoryState) : Prop where
  tables : ∀ (key : String) (table : TableRecord), state.tables[key]? = some table →
    state.namespaceExists table.ident.warehouse table.ident.ns = true
  softDeletes : ∀ (key : String) (record : SoftDeleteRecord), state.softDeletes[key]? = some record →
    state.namespaceExists record.table.warehouse record.table.ns = true
  views : ∀ (key : String) (view : ViewRecord), state.views[key]? = some view →
    state.namespaceExists view.warehouse view.ns = true
  bindings : ∀ (key : String) (binding : PolicyBinding),
    state.policyBindings[key]? = some binding → ∀ ns, binding.ns = some ns →
      state.namespaceExists binding.warehouse ns = true

/-- An upsert that passes its own checks names a stored namespace. -/
def NamesStoredNamespace (state : MemoryState) : MemoryOp → Prop
  | .upsertView view expected _ =>
      view.validate = .ok () →
        checkSome (requireExpectedViewVersion state.views[viewKey view]?) expected = .ok () →
        state.namespaceExists view.warehouse view.ns = true
  | .upsertPolicyBinding binding =>
      binding.validate = .ok () → ∀ ns, binding.ns = some ns →
        state.namespaceExists binding.warehouse ns = true
  | _ => True

/-- The part of containment that no check of the store keeps up. -/
structure ScopesStored (state : MemoryState) : Prop where
  views : ∀ (key : String) (view : ViewRecord), state.views[key]? = some view →
    state.namespaceExists view.warehouse view.ns = true
  bindings : ∀ (key : String) (binding : PolicyBinding),
    state.policyBindings[key]? = some binding → ∀ ns, binding.ns = some ns →
      state.namespaceExists binding.warehouse ns = true

theorem contained_of_scopesStored {state : MemoryState} (formed : WellFormed state)
    (scopes : state.ScopesStored) : state.Contained := by
  refine ⟨formed.namespaces, ?_, scopes.views, scopes.bindings⟩
  intro key record stored
  obtain ⟨table, found, matching⟩ := formed.softDeletes key record stored
  rw [matching.recorded]
  exact formed.namespaces key table found

namespace ScopesStored
variable {state next : MemoryState}

omit [External] in
/-- A call that keeps the namespaces and writes neither views nor bindings. -/
theorem mono (scopes : state.ScopesStored) (views : next.views = state.views)
    (bindings : next.policyBindings = state.policyBindings)
    (kept : ∀ warehouse ns, state.namespaceExists warehouse ns = true →
      next.namespaceExists warehouse ns = true) : next.ScopesStored := by
  refine ⟨?_, ?_⟩
  · intro key view stored
    rw [views] at stored
    exact kept _ _ (scopes.views key view stored)
  · intro key binding stored ns covered
    rw [bindings] at stored
    exact kept _ _ (scopes.bindings key binding stored ns covered)

omit [External] in
theorem congr (scopes : state.ScopesStored) (same : next.catalog = state.catalog) :
    next.ScopesStored := by
  obtain ⟨namespaces, _, _, _, _, views, bindings⟩ := Catalog.mk.inj same
  refine scopes.mono views bindings fun warehouse ns stored => ?_
  rw [namespaceExists_congr namespaces]
  exact stored

/-- A namespace is dropped only when no view and no binding is scoped to it. -/
theorem drop (scopes : state.ScopesStored) {warehouse : WarehouseName} {ns : Namespace}
    (droppable : state.Droppable warehouse ns) : (state.withoutNamespace warehouse ns).ScopesStored := by
  have kept (other : WarehouseName) (candidate : Namespace)
      (elsewhere : ¬(warehouse = other ∧ ns = candidate))
      (stored : state.namespaceExists other candidate = true) :
      (state.withoutNamespace warehouse ns).namespaceExists other candidate = true :=
    (namespaceExists_erase state _ warehouse other ns candidate rfl).mpr ⟨elsewhere, stored⟩
  refine ⟨?_, ?_⟩
  · intro key view stored
    have outside := (droppable.views key view stored).2
    exact kept _ _ (fun inside => outside ⟨inside.1.symm, inside.2.symm⟩)
      (scopes.views key view stored)
  · intro key binding stored candidate covered
    have outside := (droppable.bindings key binding stored).2
    refine kept _ _ (fun inside => outside ⟨inside.1.symm, ?_⟩)
      (scopes.bindings key binding stored candidate covered)
    rw [covered, inside.2]

omit [External] in
theorem storeView (scopes : state.ScopesStored) (key : String) {view : ViewRecord}
    (named : state.namespaceExists view.warehouse view.ns = true) :
    ScopesStored { state with views := state.views.insert key view } := by
  refine ⟨?_, scopes.bindings⟩
  intro other stored found
  rw [OrderedMap.getElem?_insert] at found
  split at found
  next => exact Option.some.inj found ▸ named
  next => exact scopes.views other stored found

omit [External] in
theorem dropView (scopes : state.ScopesStored) (key : String) :
    ScopesStored { state with views := state.views.erase key } := by
  refine ⟨?_, scopes.bindings⟩
  intro other view found
  rw [OrderedMap.getElem?_erase] at found
  split at found
  next => cases found
  next => exact scopes.views other view found

omit [External] in
theorem storeBinding (scopes : state.ScopesStored) (key : String) {binding : PolicyBinding}
    (named : ∀ ns, binding.ns = some ns → state.namespaceExists binding.warehouse ns = true) :
    ScopesStored { state with policyBindings := state.policyBindings.insert key binding } := by
  refine ⟨scopes.views, ?_⟩
  intro other stored found
  rw [OrderedMap.getElem?_insert] at found
  split at found
  next => exact Option.some.inj found ▸ named
  next => exact scopes.bindings other stored found

/-- The bindings that follow a table are scoped to the namespace it moves to. -/
theorem rename (scopes : state.ScopesStored) {source destination : TableIdent}
    {principal : Principal} {receipt : Option Json} (now : Timestamp) {table : TableRecord}
    (ready : state.Renamable source destination principal receipt table) :
    (state.renamed source destination principal receipt now table).ScopesStored := by
  refine ⟨scopes.views, ?_⟩
  intro key binding stored ns covered
  rw [renamed, Std.ExtTreeMap.getElem?_map] at stored
  obtain ⟨old, found, rfl⟩ := Option.map_eq_some_iff.mp stored
  unfold movedBinding at covered ⊢
  split at covered
  next owned =>
    obtain rfl := Option.some.inj covered
    rw [if_pos owned]
    have same : old.warehouse = destination.warehouse := owned.1.trans ready.warehouse
    exact same ▸ ready.ns
  next elsewhere =>
    rw [if_neg elsewhere]
    exact scopes.bindings key old found ns covered

end ScopesStored

theorem scopesStored_step (state : MemoryState) (op : MemoryOp) (scopes : state.ScopesStored)
    (named : state.NamesStoredNamespace op) : (state.step op).ScopesStored := by
  have change := step_change state op
  generalize resulting : (state.step op).catalog = catalog at change
  cases change with
  | unchanged | tableCreated | tableCommitted | tableDeleted | tableRestored =>
      obtain ⟨namespaces, _, _, _, _, views, bindings⟩ := Catalog.mk.inj resulting
      refine scopes.mono views bindings fun warehouse ns stored => ?_
      rw [namespaceExists_congr namespaces]
      exact stored
  | namespaceCreated warehouse ns properties | namespaceUpdated warehouse ns _ properties =>
      obtain ⟨namespaces, _, _, _, _, views, bindings⟩ := Catalog.mk.inj resulting
      refine scopes.mono views bindings fun other candidate stored => ?_
      exact (namespaceExists_insert state _ warehouse other ns candidate properties
        namespaces).mpr (.inr stored)
  | namespaceDropped warehouse ns droppable => exact (scopes.drop droppable).congr resulting
  | tableRenamed _ _ _ _ now _ renamable => exact (scopes.rename now renamable).congr resulting
  | viewStored view next expected now asked matching warehouse ns =>
      refine (scopes.storeView (viewKey view) ?_).congr resulting
      rw [warehouse, ns]
      exact named asked matching
  | viewDropped warehouse ns view =>
      exact (scopes.dropView (viewKeyParts warehouse ns view)).congr resulting
  | bindingStored binding valid => exact (scopes.storeBinding _ (named valid)).congr resulting

/-- Containment holds along every run whose upserts name stored namespaces. -/
theorem contained_run (ops : List MemoryOp)
    (named : Transition.Along step NamesStoredNamespace MemoryState.empty ops) :
    (MemoryState.empty.run ops).Contained := by
  refine contained_of_scopesStored (wellFormed_run ops) ?_
  refine Transition.run_invariant_along step NamesStoredNamespace ScopesStored
    scopesStored_step MemoryState.empty ops ⟨?_, ?_⟩ named
  · intro key view stored
    simp [MemoryState.empty] at stored
  · intro key binding stored
    simp [MemoryState.empty] at stored

end

/-- A view in the namespace of the sample table. -/
def sampleView : ViewRecord where
  warehouse := sampleIdent.warehouse
  ns := sampleIdent.ns
  name := ⟨"recent"⟩
  viewVersion := 1
  sql := "select 1"
  dialect := "ansi"
  schemaVersion := none
  columns := []
  properties := ∅
  created := ⟨.anonymous, 0⟩
  updatedAt := 0

/-- A valid first version is accepted under a key that has neither a view nor a receipt. -/
theorem upsertViewIfVersion_first [External] (state : MemoryState) (view : ViewRecord)
    (valid : view.validate = .ok ()) (first : view.viewVersion = 1)
    (vacant : (state.views : BTreeMap ViewRecord)[viewKey view]? = none)
    (unrecorded : state.receiptsUnder (viewKey view) = []) (now : Timestamp) :
    ∃ next, state.upsertViewIfVersion view none now = .ok (view, next) := by
  have receipts : state.receiptsOfView view.warehouse view.ns view.name = .ok [] := by
    have rows := List.map_eq_nil_iff.mp unrecorded
    rw [viewKey] at rows
    rw [receiptsOfView, rows]
    rfl
  have next : view.withNextVersionAfterHistory none none = .ok view := by
    obtain ⟨warehouse, ns, name, version⟩ := view
    subst first
    exact (bind_eq_ok _ _ _).mpr ⟨1, rfl, (bind_unit_eq_ok _ _ _).mpr ⟨valid, rfl⟩⟩
  simp only [upsertViewIfVersion, valid, vacant, receipts, checkSome, ok_bind,
    latestViewReceiptEvidence_nil, Option.map_none, next]
  exact ⟨_, rfl⟩

theorem sampleView_accepted [External] (state : MemoryState) (vacant : state.views = ∅)
    (unrecorded : state.viewVersionReceipts = []) (now : Timestamp) :
    ∃ next, state.upsertViewIfVersion sampleView none now = .ok (sampleView, next) := by
  refine upsertViewIfVersion_first state sampleView rfl rfl ?_ ?_ now
  · rw [vacant]
    rfl
  · rw [receiptsUnder, unrecorded]
    rfl

theorem sampleView_stored [External] (state : MemoryState) (vacant : state.views = ∅)
    (unrecorded : state.viewVersionReceipts = []) :
    (state.step (.upsertView sampleView none 1)).catalog =
      { state.catalog with views := state.views.insert (viewKey sampleView) sampleView } := by
  obtain ⟨next, stored⟩ := sampleView_accepted state vacant unrecorded 1
  rw [step, stored]
  exact (upsertViewIfVersion_catalog _ _ _ _ _ _ stored).1

theorem contained_run_sample : ∃ ops : List MemoryOp, ∀ [External],
    (MemoryState.empty.run ops).Contained := by
  refine ⟨sampleSetup ++ [.upsertView sampleView none 1], ?_⟩
  intro _
  refine contained_run _ ⟨trivial, trivial, ?_, trivial⟩
  intro _ _
  rfl

/-- A view is accepted into a namespace that was never created. -/
theorem upsertView_uncontained : ∃ ops : List MemoryOp, ∀ [External],
    ¬(MemoryState.empty.run ops).Contained := by
  refine ⟨[.upsertView sampleView none 1], ?_⟩
  intro _ contained
  have catalog := sampleView_stored MemoryState.empty rfl rfl
  obtain ⟨namespaces, _, _, _, _, views, _⟩ := Catalog.mk.inj catalog
  have stored : (MemoryState.empty.step (.upsertView sampleView none 1)).views[
      viewKey sampleView]? = some sampleView := by
    rw [views, OrderedMap.getElem?_insert, if_pos rfl]
  have present := contained.views _ _ stored
  have absent : MemoryState.empty.namespaceExists sampleView.warehouse sampleView.ns = false := rfl
  exact absurd (((namespaceExists_congr namespaces _ _).symm.trans present).symm.trans absent)
    (by simp)

end MemoryState

end LakeCat
