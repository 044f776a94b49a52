import LakeCat.Transition

/-!
Two machines that are asked the same, one call after the other. They answer alike
until a call parts them: a call that is known to be answered in two ways where one
of the machines is.
-/

namespace Lockstep

universe u v w x

variable {State : Type u} {Left : Type u} {Right : Type v} {Call : Type w} {Answer : Type x}

/-- The answers to a list of calls. -/
def answers (serve : State → Call → Answer × State) : State → List Call → List Answer
  | _, [] => []
  | state, call :: rest => (serve state call).1 :: answers serve (serve state call).2 rest

/-- The state that a list of calls leaves. -/
def after (serve : State → Call → Answer × State) (state : State) (calls : List Call) : State :=
  Transition.run (fun state call => (serve state call).2) state calls

/-- Machines in related states answer a call that does not part them alike. -/
def InStep (left : Left → Call → Answer × Left) (right : Right → Call → Answer × Right)
    (allowed : Call → Prop) (parts : Right → Call → Prop) (related : Left → Right → Prop) : Prop :=
  ∀ one other call, related one other → allowed call → ¬parts other call →
    (left one call).1 = (right other call).1 ∧ related (left one call).2 (right other call).2

variable {left : Left → Call → Answer × Left} {right : Right → Call → Answer × Right}
  {allowed : Call → Prop} {parts : Right → Call → Prop} {related : Left → Right → Prop}

theorem answers_append (serve : State → Call → Answer × State) (state : State)
    (first second : List Call) :
    answers serve state (first ++ second) =
      answers serve state first ++ answers serve (after serve state first) second := by
  induction first generalizing state with
  | nil => rfl
  | cons call rest ih => exact congrArg _ (ih _)

/-- Nothing in a run parts the machines. -/
theorem InStep.run (inStep : InStep left right allowed parts related) {one : Left} {other : Right}
    (start : related one other) {calls : List Call} (all : ∀ call ∈ calls, allowed call)
    (together : Transition.Along (fun state call => (right state call).2)
      (fun state call => ¬parts state call) other calls) :
    answers left one calls = answers right other calls ∧
      related (after left one calls) (after right other calls) := by
  induction calls generalizing one other with
  | nil => exact ⟨rfl, start⟩
  | cons call rest ih =>
      obtain ⟨same, next⟩ := inStep one other call start (all call List.mem_cons_self) together.1
      obtain ⟨later, ends⟩ := ih next (fun other member => all other (List.mem_cons_of_mem _ member))
        together.2
      exact ⟨congrArg₂ List.cons same later, ends⟩

/-- The machines answer alike up to the first call that parts them, if there is one. -/
theorem InStep.until_parted (inStep : InStep left right allowed parts related) {one : Left}
    {other : Right} (start : related one other) (calls : List Call)
    (all : ∀ call ∈ calls, allowed call) :
    ∃ earlier later, calls = earlier ++ later ∧
      answers left one earlier = answers right other earlier ∧
      related (after left one earlier) (after right other earlier) ∧
      (later = [] ∨ ∃ call rest, later = call :: rest ∧ parts (after right other earlier) call) := by
  induction calls generalizing one other with
  | nil => exact ⟨[], [], rfl, rfl, start, .inl rfl⟩
  | cons call rest ih =>
      by_cases parted : parts other call
      · exact ⟨[], call :: rest, rfl, rfl, start, .inr ⟨call, rest, rfl, parted⟩⟩
      · obtain ⟨same, next⟩ := inStep one other call start (all call List.mem_cons_self) parted
        obtain ⟨earlier, later, split, alike, ends, stopped⟩ :=
          ih next fun other member => all other (List.mem_cons_of_mem _ member)
        exact ⟨call :: earlier, later, congrArg _ split, congrArg₂ List.cons same alike, ends,
          stopped⟩

end Lockstep
