import Mathlib

/-!
Work that makes further work. Items are taken from a list in any order; each
yields results and leaves its children in its place, until no item is left.
-/

namespace Worklist

universe u v

variable {Item : Type u} {Result : Type v}

/-- The work has been taken to its end, with these results. A step says what an item leaves
and what it yields. -/
inductive Drains (step : Item → List Item → List Result → Prop) :
    List Item → List Result → Prop
  | done : Drains step [] []
  | take {before after children : List Item} {item : Item} {own later : List Result}
      (stepped : step item children own)
      (rest : Drains step (before ++ children ++ after) later) :
      Drains step (before ++ item :: after) (own ++ later)

variable {step : Item → List Item → List Result → Prop}

theorem Drains.next {item : Item} {children after : List Item} {own later : List Result}
    (stepped : step item children own) (rest : Drains step (children ++ after) later) :
    Drains step (item :: after) (own ++ later) :=
  @Drains.take Item Result step [] after children item own later stepped rest

/-- Whatever the order, the results are those of the two parts of the work. -/
theorem Drains.split {work : List Item} {results : List Result} (drained : Drains step work results)
    (left right : List Item) (parts : work = left ++ right) :
    ∃ first second, Drains step left first ∧ Drains step right second ∧
      results.Perm (first ++ second) := by
  induction drained generalizing left right with
  | done =>
      obtain ⟨rfl, rfl⟩ := List.append_eq_nil_iff.mp parts.symm
      exact ⟨[], [], .done, .done, .refl _⟩
  | @take before after children item own later stepped rest ih =>
      have inRight (between : List Item) (start : before = left ++ between)
          (finish : right = between ++ item :: after) :
          ∃ first second, Drains step left first ∧ Drains step right second ∧
            (own ++ later).Perm (first ++ second) := by
        obtain ⟨first, second, drainedLeft, drainedRight, same⟩ :=
          ih left (between ++ children ++ after) (by simp [start])
        refine ⟨first, own ++ second, drainedLeft, finish ▸ .take stepped drainedRight, ?_⟩
        calc (own ++ later).Perm (own ++ (first ++ second)) := same.append_left own
          _ = own ++ first ++ second := (List.append_assoc ..).symm
          (own ++ first ++ second).Perm (first ++ own ++ second) :=
            List.perm_append_comm.append_right second
          _ = first ++ (own ++ second) := List.append_assoc ..
      rcases List.append_eq_append_iff.mp parts with ⟨between, whole, tail⟩ | ⟨between, whole, tail⟩
      · cases between with
        | nil => exact inRight [] (by simpa using whole.symm) (by simpa using tail.symm)
        | cons head between =>
            obtain ⟨rfl, rfl⟩ := List.cons.inj tail
            obtain ⟨first, second, drainedLeft, drainedRight, same⟩ :=
              ih (before ++ children ++ between) right (by simp)
            refine ⟨own ++ first, second, whole ▸ .take stepped drainedLeft, drainedRight, ?_⟩
            rw [List.append_assoc]
            exact same.append_left own
      · exact inRight between whole tail

theorem taken_alone {item taken : Item} {before after : List Item}
    (only : [item] = before ++ taken :: after) : before = [] ∧ taken = item ∧ after = [] := by
  have whole : before.length + (after.length + 1) = 1 := by
    simpa using (congrArg List.length only).symm
  obtain rfl := List.eq_nil_of_length_eq_zero (show before.length = 0 by omega)
  obtain rfl := List.eq_nil_of_length_eq_zero (show after.length = 0 by omega)
  exact ⟨rfl, (List.singleton_inj.mp only).symm, rfl⟩

/-- The only item is taken first. -/
theorem Drains.single {item : Item} {results : List Result} (drained : Drains step [item] results) :
    ∃ children own later, step item children own ∧ Drains step children later ∧
      results = own ++ later := by
  generalize only : [item] = work at drained
  cases drained with
  | done => cases only
  | @take before after children taken own later stepped rest =>
      obtain ⟨rfl, rfl, rfl⟩ := taken_alone only
      exact ⟨children, own, later, stepped, by simpa using rest, rfl⟩

/-- An item that only ever leaves itself is never done. -/
theorem Drains.not_of_echo {item : Item} {results : List Result}
    (echo : ∀ children own, step item children own → children = [item]) :
    ¬Drains step [item] results := by
  intro drained
  generalize only : [item] = work at drained
  induction drained with
  | done => cases only
  | @take before after children taken own later stepped rest ih =>
      obtain ⟨rfl, rfl, rfl⟩ := taken_alone only
      exact ih (by simp [echo children own stepped])

theorem Drains.nil {results : List Result} (drained : Drains step [] results) : results = [] := by
  generalize none : [] = work at drained
  cases drained with
  | done => rfl
  | take => simp at none

end Worklist
