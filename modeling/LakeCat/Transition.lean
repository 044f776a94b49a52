import Mathlib

/-!
Runs of a deterministic machine. A condition on the steps of a run is a
predicate of the state before the step and the action taken there; an
invariant that every such step preserves holds after the whole run.
-/

namespace Transition

universe u v

variable {State : Type u} {Action : Type v}

/-- The state after a list of actions. -/
def run (step : State → Action → State) (start : State) (actions : List Action) : State :=
  actions.foldl step start

/-- Each action is allowed in the state in which it is taken. -/
def Along (step : State → Action → State) (allowed : State → Action → Prop) :
    State → List Action → Prop
  | _, [] => True
  | state, action :: rest => allowed state action ∧ Along step allowed (step state action) rest

variable {step : State → Action → State} {allowed : State → Action → Prop}

instance [∀ state action, Decidable (allowed state action)] :
    ∀ state actions, Decidable (Along step allowed state actions)
  | _, [] => isTrue trivial
  | state, action :: rest =>
      have : Decidable (Along step allowed (step state action) rest) := instDecidableAlong _ rest
      inferInstanceAs (Decidable (_ ∧ _))

@[simp] theorem run_nil (start : State) : run step start [] = start := rfl

@[simp] theorem run_cons (start : State) (action : Action) (rest : List Action) :
    run step start (action :: rest) = run step (step start action) rest := rfl

theorem run_append (start : State) (first second : List Action) :
    run step start (first ++ second) = run step (run step start first) second :=
  List.foldl_append

theorem along_append (start : State) (first second : List Action) :
    Along step allowed start (first ++ second) ↔
      Along step allowed start first ∧ Along step allowed (run step start first) second := by
  induction first generalizing start with
  | nil => simp [Along]
  | cons action rest ih => simp only [List.cons_append, Along, ih, run_cons, and_assoc]

/-- A condition on the action alone is met along a run when each action meets it. -/
theorem along_of_forall (permitted : Action → Prop) (start : State) (actions : List Action)
    (each : ∀ action ∈ actions, permitted action) :
    Along step (fun _ action => permitted action) start actions := by
  induction actions generalizing start with
  | nil => trivial
  | cons action rest ih =>
      exact ⟨each action (by simp), ih _ fun other member => each other (by simp [member])⟩

theorem Along.imp {weaker : State → Action → Prop}
    (implied : ∀ state action, allowed state action → weaker state action)
    (start : State) (actions : List Action) (along : Along step allowed start actions) :
    Along step weaker start actions := by
  induction actions generalizing start with
  | nil => trivial
  | cons action rest ih => exact ⟨implied _ _ along.1, ih _ along.2⟩

section
variable (step allowed)

/-- The induction over a run, done once. -/
theorem run_invariant_along (invariant : State → Prop)
    (preserved : ∀ state action, invariant state → allowed state action →
      invariant (step state action))
    (start : State) (actions : List Action) (initial : invariant start)
    (along : Along step allowed start actions) : invariant (run step start actions) := by
  induction actions generalizing start with
  | nil => exact initial
  | cons action rest ih => exact ih _ (preserved start action initial along.1) along.2

/-- What an invariant says of each allowed step holds of every step of the run. -/
theorem along_of_invariant (invariant : State → Prop) (conclusion : State → Action → Prop)
    (preserved : ∀ state action, invariant state → allowed state action →
      invariant (step state action))
    (implied : ∀ state action, invariant state → allowed state action → conclusion state action)
    (start : State) (actions : List Action) (initial : invariant start)
    (along : Along step allowed start actions) : Along step conclusion start actions := by
  induction actions generalizing start with
  | nil => trivial
  | cons action rest ih =>
      have next := preserved start action initial along.1
      exact ⟨implied start action initial along.1, ih _ next along.2⟩

/-- Two conditions that an invariant makes the same at each step are the same along a run. -/
theorem along_congr (other : State → Action → Prop) (invariant : State → Prop)
    (preserved : ∀ state action, invariant state → allowed state action →
      invariant (step state action))
    (same : ∀ state action, invariant state → (allowed state action ↔ other state action))
    (start : State) (actions : List Action) (initial : invariant start) :
    Along step allowed start actions ↔ Along step other start actions := by
  induction actions generalizing start with
  | nil => exact Iff.rfl
  | cons action rest ih =>
      rw [Along, Along, same start action initial]
      refine and_congr_right fun taken => ?_
      exact ih _ (preserved start action initial ((same start action initial).mpr taken))

omit allowed in
/-- An equivalence that every step keeps relates the start to every state of the run. -/
theorem along_iff_prefixes (related : State → State → Prop)
    (refl : ∀ state, related state state)
    (symm : ∀ one other, related one other → related other one)
    (trans : ∀ one other third, related one other → related other third → related one third)
    (start : State) (actions : List Action) :
    Along step (fun state action => related state (step state action)) start actions ↔
      ∀ done rest, actions = done ++ rest → related start (run step start done) := by
  induction actions generalizing start with
  | nil =>
      refine ⟨fun _ done rest split => ?_, fun _ => trivial⟩
      rw [(List.append_eq_nil_iff.mp split.symm).1]
      exact refl start
  | cons action later ih =>
      rw [Along, ih]
      constructor
      · rintro ⟨first, others⟩ done rest split
        cases done with
        | nil => exact refl start
        | cons head tail =>
            obtain ⟨rfl, same⟩ := List.cons.inj split
            exact trans _ _ _ first (others tail rest same)
      · intro each
        have first := each [action] later rfl
        refine ⟨first, fun done rest split => ?_⟩
        exact trans _ _ _ (symm _ _ first) (each (action :: done) rest (by rw [split]; rfl))

theorem run_invariant (invariant : State → Prop)
    (preserved : ∀ state action, invariant state → invariant (step state action))
    (start : State) (actions : List Action) (initial : invariant start) :
    invariant (run step start actions) :=
  run_invariant_along step (fun _ _ => True) invariant
    (fun state action holds _ => preserved state action holds) start actions initial
    (along_of_forall (fun _ => True) start actions fun _ _ => trivial)

/-- Where a step keeps an invariant exactly when it is allowed, the states of a run all have the
invariant exactly when each of its steps is allowed. -/
theorem along_iff_invariant (step : State → Action → State) (allowed : State → Action → Prop)
    (invariant : State → Prop) (permitted : Action → Prop)
    (kept : ∀ state action, invariant state → permitted action →
      (invariant (step state action) ↔ allowed state action))
    (start : State) (actions : List Action) (initial : invariant start)
    (each : ∀ action ∈ actions, permitted action) :
    Along step allowed start actions ↔
      ∀ done rest, actions = done ++ rest → invariant (run step start done) := by
  induction actions generalizing start with
  | nil =>
      refine ⟨fun _ done rest split => ?_, fun _ => trivial⟩
      rw [(List.append_eq_nil_iff.mp split.symm).1]
      exact initial
  | cons action later ih =>
      have same := kept start action initial (each action List.mem_cons_self)
      have others : ∀ other ∈ later, permitted other := fun other member =>
        each other (List.mem_cons_of_mem _ member)
      constructor
      · rintro ⟨first, along⟩ done rest split
        have next := same.mpr first
        cases done with
        | nil => exact initial
        | cons head tail =>
            obtain ⟨rfl, parts⟩ := List.cons.inj split
            exact (ih _ next others).mp along tail rest parts
      · intro holds
        have next := holds [action] later rfl
        refine ⟨same.mp next, (ih _ next others).mpr ?_⟩
        intro done rest split
        exact holds (action :: done) rest (by rw [split]; rfl)

end

end Transition
