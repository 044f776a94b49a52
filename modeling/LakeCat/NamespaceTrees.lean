import LakeCat.ForestWalks
import LakeCat.NamespacePages
import LakeCat.NamespaceSpelling
import LakeCat.WellFormed

/-!
The stored namespaces of a warehouse as a forest: whether each one has the one
above it, along a run, and what a request for the namespaces below a parent can
show of them.
-/

namespace LakeCat

open Fallible ForestWalk

/-- The namespace above, for one with several components. -/
def Namespace.parent (ns : Namespace) : Namespace :=
  ⟨ns.parts.dropLast⟩

/-- Where a namespace is listed: at the top, or under its parent. -/
def Namespace.place (ns : Namespace) : Option Namespace :=
  if ns.parts.length = 1 then none else some ns.parent

/-- The namespaces that a call names were built by `Namespace::new`. -/
def MemoryOp.NamesMade : MemoryOp → Prop
  | .createNamespace _ ns _ => ns.Made
  | _ => True

theorem isImmediateChild_iff {ns : Namespace} {parent : Option Namespace}
    (filled : ns.parts ≠ []) (parents : ∀ other, parent = some other → other.parts ≠ []) :
    isImmediateChild ns parent = true ↔ ns.place = parent := by
  have positive : 0 < ns.parts.length := List.length_pos_iff.mpr filled
  cases parent with
  | none =>
      rw [isImmediateChild, Namespace.place, decide_eq_true_eq]
      by_cases single : ns.parts.length = 1 <;> simp [single]
  | some other =>
      have more : 0 < other.parts.length := List.length_pos_iff.mpr (parents other rfl)
      rw [isImmediateChild, Namespace.place, Bool.and_eq_true, decide_eq_true_eq,
        List.isPrefixOf_iff_prefix]
      constructor
      · rintro ⟨longer, starts⟩
        have front : other.parts = ns.parts.dropLast := by
          rw [List.prefix_iff_eq_take.mp starts, List.dropLast_eq_take, longer,
            Nat.add_sub_cancel]
        rw [if_neg (by omega), Namespace.parent, ← front]
      · intro same
        split at same
        next => cases same
        next several =>
          obtain rfl := Option.some.inj same
          refine ⟨?_, List.dropLast_prefix _⟩
          rw [Namespace.parent, List.length_dropLast]
          omega

theorem Namespace.parent_descends {ns : Namespace} (filled : ns.parts ≠ []) :
    namespaceIsDescendant ns ns.parent = true := by
  have positive : 0 < ns.parts.length := List.length_pos_iff.mpr filled
  rw [namespaceIsDescendant, Bool.and_eq_true, decide_eq_true_eq, List.isPrefixOf_iff_prefix,
    Namespace.parent, List.length_dropLast]
  exact ⟨by omega, List.dropLast_prefix _⟩

namespace MemoryState

/-- Each stored namespace of several components has the one above it. -/
def ParentsStored (state : MemoryState) : Prop :=
  ∀ warehouse ns, state.namespaceExists warehouse ns = true → 1 < ns.parts.length →
    state.namespaceExists warehouse ns.parent = true

/-- Each stored namespace was built by `Namespace::new`. -/
def NamespacesMade (state : MemoryState) : Prop :=
  ∀ warehouse ns, state.namespaceExists warehouse ns = true → ns.Made

/-- A namespace of several components that is created is put under a stored one. -/
def AddsUnderParent (state : MemoryState) : MemoryOp → Prop
  | .createNamespace warehouse ns _ =>
      state.namespaceExists warehouse ns = false → 1 < ns.parts.length →
        state.namespaceExists warehouse ns.parent = true
  | _ => True

section Runs

variable [External] (state : MemoryState)

theorem step_namespaces (op : MemoryOp) :
    (∀ warehouse ns, (state.step op).namespaceExists warehouse ns =
        state.namespaceExists warehouse ns) ∨
      (∃ owner added properties, op = .createNamespace owner added properties ∧
        state.namespaceExists owner added = false ∧
        ∀ warehouse ns, (state.step op).namespaceExists warehouse ns = true ↔
          (owner = warehouse ∧ added = ns) ∨ state.namespaceExists warehouse ns = true) ∨
      ∃ owner dropped, op = .dropNamespace owner dropped ∧ state.Droppable owner dropped ∧
        ∀ warehouse ns, (state.step op).namespaceExists warehouse ns = true ↔
          ¬(owner = warehouse ∧ dropped = ns) ∧ state.namespaceExists warehouse ns = true := by
  have change := step_change state op
  generalize resulting : (state.step op).catalog = catalog at change
  cases change with
  | namespaceCreated owner added properties absent =>
      refine .inr (.inl ⟨owner, added, properties, rfl, absent, fun warehouse ns => ?_⟩)
      exact namespaceExists_insert state _ owner warehouse added ns properties
        (Catalog.mk.inj resulting).1
  | namespaceUpdated owner updated _ properties present =>
      refine .inl fun warehouse ns => ?_
      rw [Bool.eq_iff_iff, namespaceExists_insert state _ owner warehouse updated ns properties
        (Catalog.mk.inj resulting).1, or_iff_right_iff_imp]
      rintro ⟨rfl, rfl⟩
      exact present
  | namespaceDropped owner dropped droppable =>
      refine .inr (.inr ⟨owner, dropped, rfl, droppable, fun warehouse ns => ?_⟩)
      exact namespaceExists_erase state _ owner warehouse dropped ns (Catalog.mk.inj resulting).1
  | _ => exact .inl (namespaceExists_congr (Catalog.mk.inj resulting).1)

theorem createNamespace_stored (warehouse : WarehouseName) (ns : Namespace)
    (properties : NamespaceProperties) (absent : state.namespaceExists warehouse ns = false) :
    (state.step (.createNamespace warehouse ns properties)).namespaceExists warehouse ns =
      true := by
  rcases atomic_cases state (state.createNamespaceWithProperties warehouse ns properties) with
    ⟨done, created⟩ | ⟨error, failed, -⟩
  · obtain ⟨-, next⟩ := (createNamespace_ok _ _ _ _ _ _).mp created
    have written := congrArg MemoryState.namespaces next
    exact (namespaceExists_insert state _ warehouse warehouse ns ns properties written).mpr
      (.inl ⟨rfl, rfl⟩)
  · cases failed.symm.trans ((createNamespace_ok _ _ _ _ _ ()).mpr ⟨absent, rfl⟩)

theorem namespacesMade_step (op : MemoryOp) (stored : state.NamespacesMade) (made : op.NamesMade) :
    (state.step op).NamespacesMade := by
  intro warehouse ns found
  rcases state.step_namespaces op with same | ⟨owner, added, properties, rfl, -, after⟩ |
    ⟨owner, dropped, rfl, -, after⟩
  · rw [same] at found
    exact stored warehouse ns found
  · rcases (after warehouse ns).mp found with ⟨-, rfl⟩ | before
    · exact made
    · exact stored warehouse ns before
  · exact stored warehouse ns ((after warehouse ns).mp found).2

/-- A step keeps every namespace under a stored one exactly when it adds none elsewhere. -/
theorem parentsStored_step (op : MemoryOp) (stored : state.ParentsStored) :
    (state.step op).ParentsStored ↔ state.AddsUnderParent op := by
  rcases state.step_namespaces op with same | ⟨owner, added, properties, rfl, absent, after⟩ |
    ⟨owner, dropped, rfl, droppable, after⟩
  · have kept : (state.step op).ParentsStored := by
      intro warehouse ns found
      rw [same] at found ⊢
      exact stored warehouse ns found
    refine ⟨fun _ => ?_, fun _ => kept⟩
    cases op with
    | createNamespace owner added properties =>
        intro absent
        have created := state.createNamespace_stored owner added properties absent
        rw [same, absent] at created
        cases created
    | _ => trivial
  · constructor
    · intro kept fresh several
      have inside := (after owner added).mpr (.inl ⟨rfl, rfl⟩)
      rcases (after owner added.parent).mp (kept owner added inside several) with
        ⟨-, same⟩ | before
      · have shorter := congrArg (fun ns => ns.parts.length) same
        simp only [Namespace.parent, List.length_dropLast] at shorter
        omega
      · exact before
    · intro under warehouse ns found several
      rcases (after warehouse ns).mp found with ⟨rfl, rfl⟩ | before
      · exact (after _ _).mpr (.inr (under absent several))
      · exact (after _ _).mpr (.inr (stored warehouse ns before several))
  · refine ⟨fun _ => trivial, fun _ warehouse ns found several => ?_⟩
    obtain ⟨other, before⟩ := (after warehouse ns).mp found
    refine (after _ _).mpr ⟨?_, stored warehouse ns before several⟩
    rintro ⟨rfl, rfl⟩
    have filled : ns.parts ≠ [] := List.ne_nil_of_length_pos (by omega)
    have childless := droppable.childless ns before
    rw [Namespace.parent_descends filled] at childless
    cases childless

/-- Along a run, every namespace has the one above it exactly when each that is created is put
under a stored one. -/
theorem parentsStored_run (ops : List MemoryOp) :
    Transition.Along step AddsUnderParent empty ops ↔
      ∀ done rest, ops = done ++ rest → (empty.run done).ParentsStored := by
  refine Transition.along_iff_invariant step AddsUnderParent ParentsStored (fun _ => True)
    (fun state op stored _ => state.parentsStored_step op stored) empty ops ?_ fun _ _ => trivial
  intro warehouse ns found
  simp [namespaceExists, namespacesOf, empty] at found

theorem namespacesMade_run (ops : List MemoryOp) (made : ∀ op ∈ ops, op.NamesMade) :
    (empty.run ops).NamespacesMade := by
  refine Transition.run_invariant_along step (fun _ op => op.NamesMade) NamespacesMade
    (fun state op stored made => state.namespacesMade_step op stored made) empty ops ?_
    (Transition.along_of_forall _ _ _ made)
  intro warehouse ns found
  simp [namespaceExists, namespacesOf, empty] at found

end Runs

section Listing

variable (state : MemoryState) (warehouse : WarehouseName)

def storedNamespaces : List Namespace :=
  (state.namespacesOf warehouse).keys

/-- The namespaces below a parent, or at the top; a parent that is not stored shows none. -/
def shownUnder : Option Namespace → List Namespace
  | none => namespacesUnder (state.storedNamespaces warehouse) none
  | some parent =>
      if state.namespaceExists warehouse parent then
        namespacesUnder (state.storedNamespaces warehouse) (some parent)
      else []

variable {state warehouse}

theorem mem_storedNamespaces {ns : Namespace} :
    ns ∈ state.storedNamespaces warehouse ↔ state.namespaceExists warehouse ns = true := by
  rw [storedNamespaces, Std.ExtTreeMap.mem_keys, namespaceExists, Std.ExtTreeMap.contains_iff_mem]

theorem storedNamespaces_nodup : (state.storedNamespaces warehouse).Nodup :=
  Std.ExtTreeMap.nodup_keys

theorem shownUnder_nodup (place : Option Namespace) :
    (state.shownUnder warehouse place).Nodup := by
  cases place with
  | none => exact namespacesUnder_nodup storedNamespaces_nodup none
  | some parent =>
      rw [shownUnder]
      split
      · exact namespacesUnder_nodup storedNamespaces_nodup (some parent)
      · exact List.nodup_nil

theorem mem_shownUnder (made : state.NamespacesMade) {place : Option Namespace} {ns : Namespace} :
    ns ∈ state.shownUnder warehouse place ↔
      state.namespaceExists warehouse ns = true ∧ ns.place = place ∧
        ∀ parent, place = some parent → state.namespaceExists warehouse parent = true := by
  have inside (parents : ∀ parent, place = some parent →
      state.namespaceExists warehouse parent = true) :
      ns ∈ namespacesUnder (state.storedNamespaces warehouse) place ↔
        state.namespaceExists warehouse ns = true ∧ ns.place = place := by
    rw [mem_namespacesUnder, mem_storedNamespaces]
    refine and_congr_right fun stored => ?_
    exact isImmediateChild_iff (made _ _ stored).filled.1 fun parent same =>
      (made _ _ (parents parent same)).filled.1
  cases place with
  | none =>
      rw [shownUnder, inside (by simp)]
      simp
  | some parent =>
      rw [shownUnder]
      by_cases stored : state.namespaceExists warehouse parent = true
      · rw [if_pos stored, inside (by simp [stored])]
        simp [stored]
      · rw [if_neg stored]
        simp [stored]

theorem shownUnder_forest (made : state.NamespacesMade) : Forest (state.shownUnder warehouse) where
  distinct := shownUnder_nodup
  owned := by
    intro place other ns first second
    rw [← ((mem_shownUnder made).mp first).2.1, ((mem_shownUnder made).mp second).2.1]

theorem stored_of_rooted (made : state.NamespacesMade) {ns : Namespace}
    (rooted : Rooted (state.shownUnder warehouse) ns) :
    state.namespaceExists warehouse ns = true := by
  cases rooted with
  | root shown => exact ((mem_shownUnder made).mp shown).1
  | child _ shown => exact ((mem_shownUnder made).mp shown).1

/-- Where every namespace has the one above it, the roots lead to all of them. -/
theorem rooted_of_stored (made : state.NamespacesMade) (parents : state.ParentsStored)
    {ns : Namespace} (stored : state.namespaceExists warehouse ns = true) :
    Rooted (state.shownUnder warehouse) ns := by
  generalize size : ns.parts.length = count
  induction count using Nat.strong_induction_on generalizing ns with
  | _ count ih =>
      have filled := List.length_pos_iff.mpr (made _ _ stored).filled.1
      by_cases single : ns.parts.length = 1
      · have top : ns.place = none := by rw [Namespace.place, if_pos single]
        exact .root ((mem_shownUnder made).mpr ⟨stored, top, by simp⟩)
      · have above := parents warehouse ns stored (by omega)
        have below : ns.place = some ns.parent := by rw [Namespace.place, if_neg single]
        have shorter : ns.parent.parts.length < count := by
          rw [Namespace.parent, List.length_dropLast]
          omega
        refine .child (ih _ shorter above rfl) ((mem_shownUnder made).mpr ⟨stored, below, ?_⟩)
        rintro parent same
        rwa [← Option.some.inj same]

/-- A namespace without the one above it is listed nowhere. -/
theorem not_shown (made : state.NamespacesMade) {ns : Namespace} (several : 1 < ns.parts.length)
    (missing : state.namespaceExists warehouse ns.parent = false) (place : Option Namespace) :
    ns ∉ state.shownUnder warehouse place := by
  intro shown
  have below : ns.place = some ns.parent := by rw [Namespace.place, if_neg (by omega)]
  obtain ⟨-, same, parents⟩ := (mem_shownUnder made).mp shown
  have present := parents ns.parent (same.symm.trans below)
  rw [missing] at present
  cases present

end Listing

end MemoryState

end LakeCat
