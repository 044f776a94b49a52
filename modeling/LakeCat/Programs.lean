import Mathlib

/-!
Programs that ask their surroundings and go on with what they answer. A rule on
what may be asked after which exchanges is proved over the program, for every
answer, and then holds of each of its runs, alone or among other programs.
-/

namespace Asking

variable {Request : Type} {Answer : Request → Type} {α β : Type}

inductive Program (Request : Type) (Answer : Request → Type) (α : Type) where
  | done (value : α)
  | ask (request : Request) (next : Answer request → Program Request Answer α)

/-- A request with the answer that it got. -/
abbrev Exchange (Request : Type) (Answer : Request → Type) :=
  (request : Request) × Answer request

namespace Program

def bind : Program Request Answer α → (α → Program Request Answer β) → Program Request Answer β
  | .done value, after => after value
  | .ask request next, after => .ask request fun answer => bind (next answer) after

instance : Monad (Program Request Answer) where
  pure := .done
  bind := bind

/-- The program comes to `rest` with these exchanges. -/
inductive Reaches (program : Program Request Answer α) :
    List (Exchange Request Answer) → Program Request Answer α → Prop
  | start : Reaches program [] program
  | step {history : List (Exchange Request Answer)} {request : Request}
      {next : Answer request → Program Request Answer α} (answer : Answer request)
      (before : Reaches program history (.ask request next)) :
      Reaches program (history ++ [⟨request, answer⟩]) (next answer)

/-- The program ends with a value after these exchanges. -/
def Runs (program : Program Request Answer α) (history : List (Exchange Request Answer))
    (value : α) : Prop :=
  program.Reaches history (.done value)

/-- Whatever is answered, each request is permitted after the exchanges before it, and the
program ends as it should after all of them. -/
def Obeys (permitted : List (Exchange Request Answer) → Request → Prop)
    (ends : List (Exchange Request Answer) → α → Prop) :
    Program Request Answer α → List (Exchange Request Answer) → Prop
  | .done value, history => ends history value
  | .ask request next, history => permitted history request ∧
      ∀ answer, Obeys permitted ends (next answer) (history ++ [⟨request, answer⟩])

/-- Whatever is answered, the program makes permitted requests only. -/
def Asks (permitted : Request → Prop) : Program Request Answer α → Prop
  | .done _ => True
  | .ask request next => permitted request ∧ ∀ answer, Asks permitted (next answer)

section Rules

variable {permitted : List (Exchange Request Answer) → Request → Prop}
  {ends : List (Exchange Request Answer) → α → Prop}

theorem Obeys.imp {weaker : List (Exchange Request Answer) → α → Prop}
    {program : Program Request Answer α} {history : List (Exchange Request Answer)}
    (obeys : program.Obeys permitted ends history)
    (implied : ∀ history value, ends history value → weaker history value) :
    program.Obeys permitted weaker history := by
  induction program generalizing history with
  | done value => exact implied history value obeys
  | ask request next ih => exact ⟨obeys.1, fun answer => ih answer (obeys.2 answer)⟩

theorem obeys_bind {ends : List (Exchange Request Answer) → β → Prop}
    {program : Program Request Answer α} {after : α → Program Request Answer β}
    {history : List (Exchange Request Answer)}
    (first : program.Obeys permitted
      (fun history value => (after value).Obeys permitted ends history) history) :
    (program.bind after).Obeys permitted ends history := by
  induction program generalizing history with
  | done value => exact first
  | ask request next ih => exact ⟨first.1, fun answer => ih answer (first.2 answer)⟩

/-- A program that asks for nothing else keeps every rule that permits those requests from
here on. -/
theorem Asks.obeys {asked : Request → Prop} {program : Program Request Answer α}
    {history : List (Exchange Request Answer)} (asks : program.Asks asked)
    (allows : ∀ later request, asked request → permitted (history ++ later) request)
    (final : ∀ later value, ends (history ++ later) value) :
    program.Obeys permitted ends history := by
  induction program generalizing history with
  | done value =>
      have now := final [] value
      rw [List.append_nil] at now
      exact now
  | ask request next ih =>
      refine ⟨by simpa using allows [] request asks.1, fun answer => ?_⟩
      apply ih answer (asks.2 answer)
      · intro later request asked
        rw [List.append_assoc]
        exact allows _ request asked
      · intro later value
        rw [List.append_assoc]
        exact final _ value

/-- The rule still holds of what is left of a program that keeps it. -/
theorem Obeys.reaches {program rest : Program Request Answer α}
    {history : List (Exchange Request Answer)} (obeys : program.Obeys permitted ends [])
    (reached : program.Reaches history rest) : rest.Obeys permitted ends history := by
  induction reached with
  | start => exact obeys
  | step answer _ ih => exact ih.2 answer

theorem Obeys.runs {program : Program Request Answer α}
    {history : List (Exchange Request Answer)} {value : α}
    (obeys : program.Obeys permitted ends []) (ran : program.Runs history value) :
    ends history value :=
  obeys.reaches ran

/-- Every request of the history was permitted after the exchanges before it. -/
def Permitted (permitted : List (Exchange Request Answer) → Request → Prop)
    (history : List (Exchange Request Answer)) : Prop :=
  ∀ before exchange after, history = before ++ exchange :: after → permitted before exchange.1

theorem Obeys.history {program rest : Program Request Answer α}
    {history : List (Exchange Request Answer)} (obeys : program.Obeys permitted ends [])
    (reached : program.Reaches history rest) : Permitted permitted history := by
  induction reached with
  | start =>
      intro before exchange after split
      simp at split
  | @step history request next answer earlier ih =>
      intro before exchange after split
      rcases List.eq_nil_or_concat after with rfl | ⟨others, last, rfl⟩
      · have parts := List.append_inj' split rfl
        obtain ⟨rfl, same⟩ := parts
        cases same
        exact (obeys.reaches earlier).1
      · apply ih before exchange others
        rw [List.concat_eq_append, ← List.cons_append, ← List.append_assoc] at split
        exact (List.append_inj' split rfl).1

end Rules

end Program

/-- Steps of a method that may fail: a request, or the result of a pure computation. -/
abbrev Method (Request : Type) (Answer : Request → Type) (ε α : Type) :=
  ExceptT ε (Program Request Answer) α

namespace Method

variable {ε : Type}

def request (request : Request) : Method Request Answer ε (Answer request) :=
  ExceptT.lift (.ask request .done)

def ofExcept (result : Except ε α) : Method Request Answer ε α :=
  ExceptT.mk (.done result)

def fail (error : ε) : Method Request Answer ε α :=
  ofExcept (.error error)

section Rules

variable {permitted : List (Exchange Request Answer) → Request → Prop}
  {ends : List (Exchange Request Answer) → Except ε α → Prop}
  {history : List (Exchange Request Answer)}

theorem obeys_pure {value : α} (final : ends history (.ok value)) :
    Program.Obeys permitted ends (pure value : Method Request Answer ε α).run history :=
  final

theorem obeys_ofExcept {result : Except ε α} (final : ends history result) :
    Program.Obeys permitted ends (ofExcept result : Method Request Answer ε α).run history :=
  final

theorem obeys_fail {error : ε} (final : ends history (.error error)) :
    Program.Obeys permitted ends (fail error : Method Request Answer ε α).run history :=
  final

theorem obeys_bind {first : Method Request Answer ε β} {next : β → Method Request Answer ε α}
    (obeys : Program.Obeys permitted (fun history result =>
      match result with
      | .ok value => Program.Obeys permitted ends (next value).run history
      | .error error => ends history (.error error)) first.run history) :
    Program.Obeys permitted ends (first >>= next).run history := by
  apply Program.obeys_bind
  apply obeys.imp
  intro history result final
  cases result with
  | ok value => exact final
  | error error => exact final

theorem obeys_request_bind {request : Request}
    {next : Answer request → Method Request Answer ε α} (allowed : permitted history request)
    (later : ∀ answer, Program.Obeys permitted ends (next answer).run
      (history ++ [⟨request, answer⟩])) :
    Program.Obeys permitted ends ((Method.request request) >>= next).run history :=
  obeys_bind ⟨allowed, later⟩

theorem obeys_ofExcept_bind {result : Except ε β} {next : β → Method Request Answer ε α}
    (succeeds : ∀ value, result = .ok value →
      Program.Obeys permitted ends (next value).run history)
    (fails : ∀ error, result = .error error → ends history (.error error)) :
    Program.Obeys permitted ends (ofExcept result >>= next).run history := by
  apply obeys_bind
  apply obeys_ofExcept
  cases result with
  | ok value => exact succeeds value rfl
  | error error => exact fails error rfl

end Rules

section Asks

variable {asked : Request → Prop}

theorem asks_pure (value : α) :
    Program.Asks asked (pure value : Method Request Answer ε α).run := trivial

theorem asks_ofExcept (result : Except ε α) :
    Program.Asks asked (ofExcept result : Method Request Answer ε α).run := trivial

theorem asks_request {request : Request} (permitted : asked request) :
    Program.Asks asked (Method.request request : Method Request Answer ε (Answer request)).run :=
  ⟨permitted, fun _ => trivial⟩

theorem asks_bind {first : Method Request Answer ε β} {next : β → Method Request Answer ε α}
    (one : Program.Asks asked first.run) (others : ∀ value, Program.Asks asked (next value).run) :
    Program.Asks asked (first >>= next).run := by
  change Program.Asks asked (Program.bind first.run (ExceptT.bindCont next))
  generalize first.run = program at one
  induction program with
  | done result =>
      cases result with
      | ok value => exact others value
      | error error => trivial
  | ask request rest ih => exact ⟨one.1, fun answer => ih answer (one.2 answer)⟩

end Asks

end Method

/-- An exchange of one of several callers, and the shared state that it found. -/
structure Entry (State Request : Type) (Answer : Request → Type) where
  caller : Nat
  before : State
  exchange : Exchange Request Answer

/-- Callers in the middle of their programs over one state. The newest exchange comes first. -/
structure Pool (State Request : Type) (Answer : Request → Type) (α : Type) where
  state : State
  programs : Nat → Program Request Answer α
  log : List (Entry State Request Answer)

namespace Pool

variable {State Choice : Type}

/-- The exchanges of one caller, the oldest first. -/
def history (caller : Nat) (log : List (Entry State Request Answer)) :
    List (Exchange Request Answer) :=
  ((log.filter fun entry => entry.caller = caller).map Entry.exchange).reverse

def start (state : State) (programs : Nat → Program Request Answer α) :
    Pool State Request Answer α where
  state := state
  programs := programs
  log := []

/-- One caller makes its next request, which the state answers in one step. -/
def step (serve : Nat → Choice → State → (request : Request) → Answer request × State)
    (pool : Pool State Request Answer α) (turn : Nat × Choice) : Pool State Request Answer α :=
  match pool.programs turn.1 with
  | .done _ => pool
  | .ask request next =>
      let answered := serve turn.1 turn.2 pool.state request
      { state := answered.2
        programs := Function.update pool.programs turn.1 (next answered.1)
        log := ⟨turn.1, pool.state, ⟨request, answered.1⟩⟩ :: pool.log }

variable {serve : Nat → Choice → State → (request : Request) → Answer request × State}

/-- What a step can do: nothing, or one exchange of the caller whose turn it is. -/
theorem step_cases (pool : Pool State Request Answer α) (turn : Nat × Choice) :
    pool.step serve turn = pool ∨
      ∃ request next, pool.programs turn.1 = .ask request next ∧
        pool.step serve turn = {
          state := (serve turn.1 turn.2 pool.state request).2
          programs := Function.update pool.programs turn.1
            (next (serve turn.1 turn.2 pool.state request).1)
          log := ⟨turn.1, pool.state, ⟨request, (serve turn.1 turn.2 pool.state request).1⟩⟩ ::
            pool.log } := by
  cases held : pool.programs turn.1 with
  | done value =>
      left
      rw [step, held]
  | ask request next =>
      right
      refine ⟨request, next, rfl, ?_⟩
      rw [step, held]

theorem history_cons_self (caller : Nat) (before : State) (exchange : Exchange Request Answer)
    (log : List (Entry State Request Answer)) :
    history caller (⟨caller, before, exchange⟩ :: log) = history caller log ++ [exchange] := by
  simp [history]

theorem history_cons_other {caller : Nat} {entry : Entry State Request Answer}
    (other : entry.caller ≠ caller) (log : List (Entry State Request Answer)) :
    history caller (entry :: log) = history caller log := by
  simp [history, other]

/-- Every caller has come through its own program by its own exchanges. -/
def Follows (initial : Nat → Program Request Answer α) (pool : Pool State Request Answer α) :
    Prop :=
  ∀ caller, (initial caller).Reaches (history caller pool.log) (pool.programs caller)

theorem start_follows (state : State) (initial : Nat → Program Request Answer α) :
    (start state initial).Follows initial :=
  fun _ => .start

theorem step_follows {initial : Nat → Program Request Answer α}
    {pool : Pool State Request Answer α} (follows : pool.Follows initial) (turn : Nat × Choice) :
    (pool.step serve turn).Follows initial := by
  rcases pool.step_cases turn with same | ⟨request, next, asks, stepped⟩
  · rw [same]
    exact follows
  · intro caller
    rw [stepped]
    by_cases own : caller = turn.1
    · subst own
      simp only [history_cons_self, Function.update_self]
      apply Program.Reaches.step
      rw [← asks]
      exact follows turn.1
    · simp only [Function.update_of_ne own]
      rw [history_cons_other (Ne.symm own)]
      exact follows caller

end Pool

end Asking
