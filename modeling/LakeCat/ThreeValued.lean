import Mathlib

/-!
Three-valued logic: a predicate over a missing value is neither true nor false.
The connectives are the tables of Kleene's strong logic, which SQL uses.
-/

namespace ThreeValued

inductive Truth where
  | no
  | unknown
  | yes
  deriving DecidableEq

namespace Truth

def ofBool (holds : Bool) : Truth :=
  if holds then .yes else .no

protected def not : Truth → Truth
  | .no => .yes
  | .unknown => .unknown
  | .yes => .no

protected def and : Truth → Truth → Truth
  | .no, _ => .no
  | .yes, other => other
  | .unknown, .no => .no
  | .unknown, _ => .unknown

protected def or : Truth → Truth → Truth
  | .yes, _ => .yes
  | .no, other => other
  | .unknown, .yes => .yes
  | .unknown, _ => .unknown

/-- The disjunction of a list, false when it is empty. -/
def any : List Truth → Truth
  | [] => .no
  | truth :: rest => truth.or (any rest)

@[simp] theorem ofBool_eq_yes (holds : Bool) : ofBool holds = .yes ↔ holds = true := by
  cases holds <;> simp [ofBool]

@[simp] theorem ofBool_eq_no (holds : Bool) : ofBool holds = .no ↔ holds = false := by
  cases holds <;> simp [ofBool]

@[simp] theorem not_eq_yes (truth : Truth) : truth.not = .yes ↔ truth = .no := by
  cases truth <;> simp [Truth.not]

@[simp] theorem and_eq_yes (left right : Truth) :
    left.and right = .yes ↔ left = .yes ∧ right = .yes := by
  cases left <;> cases right <;> simp [Truth.and]

@[simp] theorem or_eq_yes (left right : Truth) :
    left.or right = .yes ↔ left = .yes ∨ right = .yes := by
  cases left <;> cases right <;> simp [Truth.or]

@[simp] theorem or_eq_no (left right : Truth) :
    left.or right = .no ↔ left = .no ∧ right = .no := by
  cases left <;> cases right <;> simp [Truth.or]

theorem any_eq_yes (truths : List Truth) : any truths = .yes ↔ .yes ∈ truths := by
  induction truths with
  | nil => simp [any]
  | cons truth rest ih =>
      rw [any, or_eq_yes, ih, List.mem_cons]
      exact or_congr_left eq_comm

theorem any_eq_no (truths : List Truth) : any truths = .no ↔ ∀ truth ∈ truths, truth = .no := by
  induction truths with
  | nil => simp [any]
  | cons truth rest ih => rw [any, or_eq_no, ih, List.forall_mem_cons]

end Truth

end ThreeValued
