import Mathlib

/-!
Optional bounds that are combined one after another. A missing bound allows
everything; two bounds are replaced by one that allows what both do. How the
bounds are represented and when one allows a point are arbitrary.
-/

namespace OptionalMeet

variable {α : Type} {β : Type*}

/-- What all of the bounds come to, the first one on the left. -/
def combine (meet : α → α → α) (start : Option α) (bounds : List (Option α)) : Option α :=
  bounds.foldl (Option.merge meet) start

/-- A missing bound allows every point. -/
def Allows (allows : α → β → Prop) : Option α → β → Prop
  | some bound, point => allows bound point
  | none, _ => True

variable {meet : α → α → α} {allows : α → β → Prop}

@[simp] theorem combine_nil (start : Option α) : combine meet start [] = start := rfl

@[simp] theorem combine_cons (start bound : Option α) (rest : List (Option α)) :
    combine meet start (bound :: rest) = combine meet (start.merge meet bound) rest := rfl

theorem combine_isSome (start : Option α) (bounds : List (Option α)) :
    (combine meet start bounds).isSome ↔ start.isSome ∨ ∃ bound ∈ bounds, bound.isSome := by
  induction bounds generalizing start with
  | nil => simp
  | cons bound rest ih =>
      rw [combine_cons, ih]
      cases start <;> cases bound <;> simp

theorem combine_eq_none (start : Option α) (bounds : List (Option α)) :
    combine meet start bounds = none ↔ start = none ∧ ∀ bound ∈ bounds, bound = none := by
  have present := @combine_isSome _ meet start bounds
  rw [← not_iff_not] at present
  simpa [Option.not_isSome_iff_eq_none] using present

theorem rel_imp {γ : Type} {first second : α → γ → Prop} {left : Option α} {right : Option γ}
    (related : Option.Rel first left right)
    (implies : ∀ one, left = some one → ∀ other, right = some other →
      first one other → second one other) : Option.Rel second left right := by
  cases related with
  | none => exact .none
  | some holds => exact .some (implies _ rfl _ rfl holds)

theorem rel_eq {left right : Option α} (related : Option.Rel Eq left right) : left = right := by
  cases related with
  | none => rfl
  | some same => rw [same]

section Meet

variable (law : ∀ left right point,
  allows (meet left right) point ↔ allows left point ∧ allows right point)

include law

theorem allows_merge (left right : Option α) (point : β) :
    Allows allows (left.merge meet right) point ↔
      Allows allows left point ∧ Allows allows right point := by
  cases left <;> cases right <;> simp [Allows, law]

/-- The combination allows what every bound allows. -/
theorem allows_combine (start : Option α) (bounds : List (Option α)) (point : β) :
    Allows allows (combine meet start bounds) point ↔
      Allows allows start point ∧ ∀ bound ∈ bounds, Allows allows bound point := by
  induction bounds generalizing start with
  | nil => simp
  | cons bound rest ih =>
      rw [combine_cons, ih, allows_merge law]
      simp only [List.mem_cons, forall_eq_or_imp, and_assoc]

theorem allows_combine_map {γ : Type} (items : List γ) (read : γ → Option α) (point : β) :
    Allows allows (combine meet none (items.map read)) point ↔
      ∀ item ∈ items, Allows allows (read item) point := by
  rw [allows_combine law]
  simp only [Allows, true_and, List.mem_map, forall_exists_index, and_imp,
    forall_apply_eq_imp_iff₂]

theorem allows_values (values : List α) (point : β) :
    Allows allows (combine meet none (values.map some)) point ↔
      ∀ value ∈ values, allows value point :=
  allows_combine_map law values some point

/-- More bounds allow less. -/
theorem combine_narrows {bounds more : List (Option α)} (within : bounds ⊆ more) {bound : α}
    (held : combine meet none bounds = some bound) :
    ∃ narrower, combine meet none more = some narrower ∧
      ∀ point, allows narrower point → allows bound point := by
  have present := (@combine_isSome _ meet none bounds).mp (by rw [held]; rfl)
  have some : (combine meet none more).isSome := by
    refine (combine_isSome none more).mpr (.inr ?_)
    obtain ⟨first, member, isSome⟩ := present.resolve_left (by simp)
    exact ⟨first, within member, isSome⟩
  obtain ⟨narrower, found⟩ := Option.isSome_iff_exists.mp some
  refine ⟨narrower, found, ?_⟩
  intro point allowed
  have every := (allows_combine law none more point).mp (by rw [found]; exact allowed)
  have fewer := (allows_combine law none bounds point).mpr
    ⟨trivial, fun other member => every.2 other (within member)⟩
  rw [held] at fewer
  exact fewer

/-- The order of the bounds does not matter. -/
theorem combine_perm {bounds other : List (Option α)} (perm : bounds.Perm other) :
    Option.Rel (fun left right => ∀ point, allows left point ↔ allows right point)
      (combine meet none bounds) (combine meet none other) := by
  cases left : combine meet none bounds with
  | none =>
      obtain ⟨-, absent⟩ := (combine_eq_none none bounds).mp left
      have missing := (@combine_eq_none _ meet none other).mpr
        ⟨rfl, fun bound member => absent bound (perm.mem_iff.mpr member)⟩
      rw [missing]
      exact .none
  | some bound =>
      obtain ⟨second, found, forward⟩ := combine_narrows law perm.subset left
      obtain ⟨first, again, backward⟩ := combine_narrows law perm.symm.subset found
      cases again.symm.trans left
      rw [found]
      exact .some fun point => ⟨backward point, forward point⟩

end Meet

/-- A property of bounds that the meet of two keeps. -/
theorem combine_keeps (property : α → Prop)
    (kept : ∀ left right, property left → property right → property (meet left right))
    (start : Option α) (bounds : List (Option α)) (initial : ∀ bound ∈ start, property bound)
    (each : ∀ bound ∈ bounds, ∀ value ∈ bound, property value) :
    ∀ value ∈ combine meet start bounds, property value := by
  induction bounds generalizing start with
  | nil => exact initial
  | cons bound rest ih =>
      rw [combine_cons]
      refine ih _ ?_ (fun other member => each other (List.mem_cons_of_mem _ member))
      have own := each bound List.mem_cons_self
      cases start <;> cases bound <;> simp_all

/-- Where the meet is one of the two, the combination is one of the bounds. -/
theorem combine_attained
    (selects : ∀ left right, meet left right = left ∨ meet left right = right)
    {bounds : List (Option α)} {value : α} (held : combine meet none bounds = some value) :
    some value ∈ bounds := by
  refine combine_keeps (fun value => some value ∈ bounds) ?_ none bounds (by simp) ?_ value held
  · intro left right one other
    rcases selects left right with first | second
    · rw [first]
      exact one
    · rw [second]
      exact other
  · intro bound member value present
    rw [← Option.mem_def.mp present]
    exact member

section Agree

/-- The one value that all who have a value have. -/
structure Agreed (values : List (Option α)) (common : Option α) : Prop where
  each : ∀ value, some value ∈ values → common = some value
  present : ∀ value, common = some value → some value ∈ values

theorem Agreed.unique {values : List (Option α)} {first second : Option α}
    (one : Agreed values first) (other : Agreed values second) : first = second := by
  cases first with
  | some value => exact (other.each value (one.present value rfl)).symm
  | none =>
      cases second with
      | none => rfl
      | some value => exact one.each value (other.present value rfl)

theorem Agreed.congr {values others : List (Option α)} {common : Option α}
    (same : ∀ value, some value ∈ values ↔ some value ∈ others) :
    Agreed values common ↔ Agreed others common :=
  ⟨fun agreed => ⟨fun value member => agreed.each value ((same value).mpr member),
      fun value held => (same value).mp (agreed.present value held)⟩,
    fun agreed => ⟨fun value member => agreed.each value ((same value).mp member),
      fun value held => (same value).mpr (agreed.present value held)⟩⟩

theorem Agreed.head {existing next common : Option α} {rest : List (Option α)}
    (agreed : Agreed (existing :: next :: rest) common) :
    Agreed [existing, next] (existing.or next) := by
  have each := agreed.each
  simp only [List.mem_cons] at each
  constructor
  · intro value member
    simp only [List.mem_cons, List.not_mem_nil, or_false] at member
    rcases member with own | other
    · rw [← own, Option.some_or]
    · cases existing with
      | none => rw [← other, Option.none_or]
      | some held =>
          have first := each held (.inl rfl)
          have second := each value (.inr (.inl other))
          rw [Option.some_or, ← first, second]
  · intro value held
    cases existing with
    | none => simpa using held.symm
    | some own => exact List.mem_cons.mpr (.inl held.symm)

variable {ε : Type} [DecidableEq α] (conflict : α → α → ε)

/-- Two values where only one is wanted have to be the same. -/
def agree : Option α → Option α → Except ε (Option α)
  | some existing, some next =>
      if existing = next then .ok (some existing) else .error (conflict existing next)
  | existing, none => .ok existing
  | none, next => .ok next

theorem agree_ok (existing next common : Option α) :
    agree conflict existing next = .ok common ↔ Agreed [existing, next] common := by
  constructor
  · intro agreed
    cases existing <;> cases next <;> simp only [agree] at agreed
    all_goals try split at agreed
    all_goals cases agreed
    all_goals exact ⟨by simp_all, by simp_all⟩
  · intro ⟨each, present⟩
    simp only [List.mem_cons, List.not_mem_nil, or_false] at each present
    cases existing <;> cases next <;> cases common <;> grind [agree]

omit [DecidableEq α] in
theorem Agreed.cons_cons {existing next joined common : Option α} {rest : List (Option α)}
    (first : Agreed [existing, next] joined) :
    Agreed (joined :: rest) common ↔ Agreed (existing :: next :: rest) common := by
  have joins : ∀ value, some value = joined ↔ some value ∈ [existing, next] := fun value =>
    ⟨fun held => first.present value held.symm, fun member => (first.each value member).symm⟩
  refine Agreed.congr ?_
  intro value
  rw [List.mem_cons, joins value]
  simp only [List.mem_cons, List.not_mem_nil, or_false, or_assoc]

end Agree

end OptionalMeet
