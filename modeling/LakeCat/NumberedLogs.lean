import LakeCat.Transition

/-!
Logs that are only appended to, whose entries are numbered for each key from
one. An entry is accepted under the number that its writer expects to be the
current one, so that of two writers with one expectation one is refused. A
machine that represents such a log has the same of its successful actions.
-/

namespace NumberedLog

universe u v w x

variable {Entry : Type u} {Key : Type v} [DecidableEq Key]

section
variable (keyOf : Entry → Key) (number : Entry → Nat)

def ofKey (log : List Entry) (key : Key) : List Entry :=
  log.filter fun entry => keyOf entry = key

def current (log : List Entry) (key : Key) : Option Nat :=
  (ofKey keyOf log key).getLast?.map number

/-- The numbers of each key are those from one on, in order. -/
def Gapless (log : List Entry) : Prop :=
  ∀ key, (ofKey keyOf log key).map number = List.range' 1 (ofKey keyOf log key).length

/-- The writer knows the current number, and the entry has the next one. -/
structure Accepts (log : List Entry) (entry : Entry) (expected : Option Nat) : Prop where
  expected : current keyOf number log (keyOf entry) = expected
  next : number entry = (current keyOf number log (keyOf entry)).getD 0 + 1

end

variable {keyOf : Entry → Key} {number : Entry → Nat}

theorem ofKey_append (log other : List Entry) (key : Key) :
    ofKey keyOf (log ++ other) key = ofKey keyOf log key ++ ofKey keyOf other key :=
  List.filter_append _ _

theorem ofKey_own (entry : Entry) : ofKey keyOf [entry] (keyOf entry) = [entry] := by
  simp [ofKey]

theorem ofKey_other {entry : Entry} {key : Key} (different : keyOf entry ≠ key) :
    ofKey keyOf [entry] key = [] := by
  simp [ofKey, different]

theorem gapless_nil : Gapless keyOf number [] := by
  intro key
  rfl

theorem Gapless.current_eq {log : List Entry} (gapless : Gapless keyOf number log) (key : Key) :
    current keyOf number log key =
      if (ofKey keyOf log key).length = 0 then none else some (ofKey keyOf log key).length := by
  rw [current, ← List.getLast?_map, gapless key, List.getLast?_range']
  by_cases empty : (ofKey keyOf log key).length = 0
  · rw [if_pos empty, if_pos empty]
  · rw [if_neg empty, if_neg empty]
    congr 1
    omega

theorem Gapless.current_getD {log : List Entry} (gapless : Gapless keyOf number log) (key : Key) :
    (current keyOf number log key).getD 0 = (ofKey keyOf log key).length := by
  rw [gapless.current_eq]
  split
  next empty => exact empty.symm
  next => rfl

/-- No two entries of a key have one number. -/
theorem Gapless.nodup {log : List Entry} (gapless : Gapless keyOf number log) :
    (log.map fun entry => (keyOf entry, number entry)).Nodup := by
  rw [List.nodup_iff_count_le_one]
  rintro ⟨key, place⟩
  have own : ((ofKey keyOf log key).map number).count place ≤ 1 := by
    rw [gapless key]
    exact List.nodup_iff_count_le_one.mp List.nodup_range' place
  rw [List.count, List.countP_map, ofKey, List.countP_filter] at own
  rw [List.count, List.countP_map]
  refine Nat.le_trans (Nat.le_of_eq (List.countP_congr fun entry _ => ?_)) own
  simp [and_comm]

theorem Gapless.append {log : List Entry} {entry : Entry} {expected : Option Nat}
    (gapless : Gapless keyOf number log) (accepted : Accepts keyOf number log entry expected) :
    Gapless keyOf number (log ++ [entry]) := by
  intro key
  rw [ofKey_append]
  by_cases own : keyOf entry = key
  · subst own
    have next := accepted.next
    rw [gapless.current_getD] at next
    rw [ofKey_own, List.map_append, List.length_append, gapless, List.map_singleton, next,
      List.length_singleton, List.range'_concat]
    congr 2
    omega
  · rw [ofKey_other own, List.append_nil]
    exact gapless key

/-- What a later log expects is not what an accepted entry expected. -/
theorem accepted_once {log later : List Entry} {entry other : Entry} {expected : Option Nat}
    (gapless : Gapless keyOf number later) (extended : (log ++ [entry]) <+: later)
    (first : Accepts keyOf number log entry expected) (own : keyOf other = keyOf entry) :
    ¬Accepts keyOf number later other expected := by
  obtain ⟨rest, rfl⟩ := extended
  intro second
  have before : Gapless keyOf number log := by
    intro key
    have whole := gapless key
    rw [ofKey_append, ofKey_append, List.append_assoc, List.map_append, List.length_append,
      List.range'_append.symm] at whole
    exact (List.append_inj whole (by simp)).1
  have expects := second.expected
  rw [own, ← first.expected] at expects
  have counts := congrArg (Option.getD · 0) expects
  simp only [gapless.current_getD, before.current_getD] at counts
  rw [ofKey_append, ofKey_append, ofKey_own, List.length_append, List.length_append,
    List.length_singleton] at counts
  omega

section Machine

variable {State : Type w} {Action : Type x}

/-- Each fair action appends what it attempts, or fails and leaves the log. -/
structure Represented (keyOf : Entry → Key) (number : Entry → Nat)
    (step : State → Action → State) (fair : Action → Prop)
    (attempt : Action → Option (Entry × Option Nat)) (succeeds : State → Action → Bool)
    (represents : State → List Entry → Prop) : Prop where
  gapless : ∀ state log, represents state log → Gapless keyOf number log
  step : ∀ state log action, represents state log → fair action →
    (represents (step state action) log ∧
      ∀ tried, attempt action = some tried → succeeds state action = false) ∨
    ∃ entry expected, attempt action = some (entry, expected) ∧
      Accepts keyOf number log entry expected ∧ represents (step state action) (log ++ [entry])

variable {step : State → Action → State} {fair : Action → Prop}
  {attempt : Action → Option (Entry × Option Nat)} {succeeds : State → Action → Bool}
  {represents : State → List Entry → Prop}

theorem Represented.run
    (represented : Represented keyOf number step fair attempt succeeds represents)
    (actions : List Action) (fairly : ∀ action ∈ actions, fair action) {state : State}
    {log : List Entry} (holds : represents state log) :
    ∃ later, log <+: later ∧ represents (Transition.run step state actions) later := by
  induction actions generalizing state log with
  | nil => exact ⟨log, List.prefix_rfl, holds⟩
  | cons action rest ih =>
      have others : ∀ other ∈ rest, fair other := fun other member =>
        fairly other (List.mem_cons_of_mem _ member)
      rcases represented.step state log action holds (fairly action List.mem_cons_self) with
        ⟨kept, -⟩ | ⟨entry, expected, -, -, added⟩
      · exact ih others kept
      · obtain ⟨later, extended, kept⟩ := ih others added
        exact ⟨later, (List.prefix_append _ _).trans extended, kept⟩

/-- Of two attempts of a run with one expectation for one key, at most one succeeds. -/
def OneSucceeds (keyOf : Entry → Key) (step : State → Action → State)
    (attempt : Action → Option (Entry × Option Nat)) (succeeds : State → Action → Bool)
    (start : State) (actions : List Action) : Prop :=
  ∀ done first middle second rest entry other expected,
    actions = done ++ first :: (middle ++ second :: rest) →
    attempt first = some (entry, expected) → attempt second = some (other, expected) →
    keyOf other = keyOf entry →
      ¬(succeeds (Transition.run step start done) first = true ∧
        succeeds (Transition.run step start (done ++ first :: middle)) second = true)

theorem Represented.oneSucceeds
    (represented : Represented keyOf number step fair attempt succeeds represents)
    {start : State} {log : List Entry} (holds : represents start log) (actions : List Action)
    (fairly : ∀ action ∈ actions, fair action) :
    OneSucceeds keyOf step attempt succeeds start actions := by
  rintro done first middle second rest entry other expected rfl tried triedAgain own
    ⟨succeeded, again⟩
  obtain ⟨before, -, reached⟩ := represented.run done
    (fun action member => fairly action (List.mem_append_left _ member)) holds
  rcases represented.step _ before first reached (fairly first (by simp)) with
    ⟨-, failed⟩ | ⟨entered, expects, same, accepted, added⟩
  · cases (failed _ tried).symm.trans succeeded
  · obtain ⟨rfl, rfl⟩ := Prod.mk.inj (Option.some.inj (same.symm.trans tried))
    obtain ⟨later, extended, after⟩ := represented.run middle
      (fun action member => fairly action (by simp [member])) added
    rw [Transition.run_append, Transition.run_cons] at again
    rcases represented.step _ later second after (fairly second (by simp)) with
      ⟨-, failed⟩ | ⟨entered, expects, same, acceptedAgain, -⟩
    · cases (failed _ triedAgain).symm.trans again
    · obtain ⟨rfl, rfl⟩ := Prod.mk.inj (Option.some.inj (same.symm.trans triedAgain))
      exact accepted_once (represented.gapless _ _ after) extended accepted own acceptedAgain

end Machine

end NumberedLog
