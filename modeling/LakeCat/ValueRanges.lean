import Mathlib

/-!
What a recorded range says of a value. A bound may be missing, and then it says
nothing; two equal bounds leave one value. For sequences in lexicographic order
the second half finds a bound above everything with a given head.
-/

namespace ValueRanges

section Bounds

variable {α : Type} [LinearOrder α]

/-- The value lies between the bounds that are there. -/
structure Within (lower upper : Option α) (value : α) : Prop where
  above : ∀ low, lower = some low → low ≤ value
  below : ∀ high, upper = some high → value ≤ high

/-- The value that both bounds name. -/
def singleValue (lower upper : Option α) : Option α := do
  let low ← lower
  let high ← upper
  if low = high then some low else none

theorem singleValue_eq_some (lower upper : Option α) (value : α) :
    singleValue lower upper = some value ↔ lower = some value ∧ upper = some value := by
  cases lower <;> cases upper <;> simp [singleValue]
  grind

theorem Within.eq_of_single {lower upper : Option α} {value single : α}
    (held : Within lower upper value) (named : singleValue lower upper = some single) :
    value = single := by
  obtain ⟨low, high⟩ := (singleValue_eq_some lower upper single).mp named
  exact le_antisymm (held.below single high) (held.above single low)

/-- A bound is on the side of the mark that the value is on. -/
structure Unseparated (lower upper : Option α) (value mark : α) : Prop where
  lowAtMost : ∀ low, lower = some low → value ≤ mark → low ≤ mark
  lowBelow : ∀ low, lower = some low → value < mark → low < mark
  highAtLeast : ∀ high, upper = some high → mark ≤ value → mark ≤ high
  highAbove : ∀ high, upper = some high → mark < value → mark < high

theorem Within.unseparated {lower upper : Option α} {value : α}
    (held : Within lower upper value) (mark : α) : Unseparated lower upper value mark where
  lowAtMost low bound order := (held.above low bound).trans order
  lowBelow low bound order := (held.above low bound).trans_lt order
  highAtLeast high bound order := order.trans (held.below high bound)
  highAbove high bound order := order.trans_le (held.below high bound)

/-- A single recorded value is met by no other mark. -/
theorem Unseparated.eq_of_single {lower upper : Option α} {value mark : α}
    (together : Unseparated lower upper value mark)
    (named : singleValue lower upper = some mark) : value = mark := by
  obtain ⟨low, high⟩ := (singleValue_eq_some lower upper mark).mp named
  rcases lt_trichotomy value mark with less | same | more
  · exact absurd (together.lowBelow mark low less) (lt_irrefl mark)
  · exact same
  · exact absurd (together.highAbove mark high more) (lt_irrefl mark)

end Bounds

section Heads

variable {α : Type} [LT α]

/-- The last item that can be raised is, and what follows it is cut off. -/
def raiseLast (isTop : α → Bool) (next : α → α) : List α → Option (List α)
  | [] => none
  | item :: rest =>
      match raiseLast isTop next rest with
      | some raised => some (item :: raised)
      | none => if isTop item then none else some [next item]

theorem lt_raiseLast (isTop : α → Bool) (next : α → α)
    (rises : ∀ item, isTop item = false → item < next item) (items raised value : List α)
    (found : raiseLast isTop next items = some raised) (headed : items <+: value) :
    value < raised := by
  induction items generalizing raised value with
  | nil => cases found
  | cons item rest ih =>
      obtain ⟨tail, rfl⟩ := headed
      rw [raiseLast] at found
      split at found
      next deeper inner =>
        obtain rfl := Option.some.inj found
        exact List.cons_lt_cons_iff.mpr
          (.inr ⟨rfl, ih deeper (rest ++ tail) inner (List.prefix_append rest tail)⟩)
      next =>
        split at found
        next => cases found
        next below =>
          obtain rfl := Option.some.inj found
          exact List.cons_lt_cons_iff.mpr
            (.inl (rises item (Bool.not_eq_true _ ▸ below)))

end Heads

end ValueRanges
