import Mathlib

/-!
Code that returns early. A function that may fail is a chain of checks, each
of which ends the run with its own error; a run that succeeds passed them all.
The error type is arbitrary.
-/

namespace Fallible

variable {ε α β γ : Type}

/-- `if bad { return Err(error) }`. -/
def rejectIf (bad : Prop) [Decidable bad] (error : ε) : Except ε Unit :=
  if bad then .error error else .ok ()

/-- `found.ok_or(error)`. -/
def okOr (found : Option α) (error : ε) : Except ε α :=
  match found with
  | some value => .ok value
  | none => .error error

/-- A loop over the items whose body may return an error. -/
def checkEach (check : α → Except ε Unit) : List α → Except ε Unit
  | [] => .ok ()
  | item :: rest => do
      check item
      checkEach check rest

/-- `items.map(convert).collect::<Result<Vec<_>, _>>()`. -/
def collect (convert : α → Except ε β) : List α → Except ε (List β)
  | [] => .ok []
  | item :: rest => do
      let first ← convert item
      let others ← collect convert rest
      return first :: others

/-- A check made under a condition only. -/
def checkWhen (asked : Prop) [Decidable asked] (check : Except ε Unit) : Except ε Unit :=
  if asked then check else .ok ()

/-- A check that must pass when there is something to check. -/
def checkSome (check : α → Except ε Unit) : Option α → Except ε Unit
  | some value => check value
  | none => .ok ()

@[simp] theorem pure_eq (value : α) : (pure value : Except ε α) = .ok value := rfl

@[simp] theorem throw_eq (error : ε) : (throw error : Except ε α) = .error error := rfl

@[simp] theorem ok_bind (value : α) (next : α → Except ε β) :
    ((Except.ok value : Except ε α) >>= next) = next value := rfl

@[simp] theorem error_bind (error : ε) (next : α → Except ε β) :
    ((Except.error error : Except ε α) >>= next) = .error error := rfl

theorem bind_eq_ok (first : Except ε α) (next : α → Except ε β) (result : β) :
    (first >>= next) = .ok result ↔ ∃ value, first = .ok value ∧ next value = .ok result := by
  cases first <;> simp

/-- A check returns nothing, so its success has one result. -/
theorem exists_unit (statement : Unit → Prop) : (∃ done, statement done) ↔ statement () :=
  ⟨fun ⟨_, holds⟩ => holds, fun holds => ⟨(), holds⟩⟩

/-- The last line of an operation that returns a value and a state. -/
theorem return_eq_ok (value result : α) (state next : β) :
    ((Except.ok (value, state) : Except ε (α × β)) = .ok (result, next)) ↔
      result = value ∧ next = state := by
  simp only [Except.ok.injEq, Prod.mk.injEq, eq_comm]

theorem bind_eq_error (first : Except ε α) (next : α → Except ε β) (error : ε) :
    (first >>= next) = .error error ↔
      first = .error error ∨ ∃ value, first = .ok value ∧ next value = .error error := by
  cases first <;> simp

theorem bind_unit_eq_ok (first : Except ε Unit) (next : Unit → Except ε β) (result : β) :
    (first >>= next) = .ok result ↔ first = .ok () ∧ next () = .ok result := by
  rw [bind_eq_ok]
  constructor
  · rintro ⟨⟨⟩, passed, rest⟩
    exact ⟨passed, rest⟩
  · rintro ⟨passed, rest⟩
    exact ⟨(), passed, rest⟩

theorem map_eq_ok (convert : α → β) (first : Except ε α) (result : β) :
    (convert <$> first) = .ok result ↔ ∃ value, first = .ok value ∧ convert value = result := by
  cases first <;> simp [Functor.map, Except.map]

@[simp] theorem rejectIf_ok (bad : Prop) [Decidable bad] (error : ε) (done : Unit) :
    rejectIf bad error = .ok done ↔ ¬bad := by
  unfold rejectIf
  split <;> simp [*]

@[simp] theorem rejectIf_bind (bad : Prop) [Decidable bad] (error : ε)
    (next : Unit → Except ε β) (result : β) :
    (rejectIf bad error >>= next) = .ok result ↔ ¬bad ∧ next () = .ok result := by
  rw [bind_unit_eq_ok, rejectIf_ok]

theorem rejectIf_error (bad : Prop) [Decidable bad] (error reported : ε) :
    rejectIf bad error = .error reported ↔ bad ∧ error = reported := by
  unfold rejectIf
  split <;> simp [*]

theorem rejectIf_pos {bad : Prop} [Decidable bad] (error : ε) (found : bad) :
    rejectIf bad error = .error error := if_pos found

theorem rejectIf_neg {bad : Prop} [Decidable bad] (error : ε) (absent : ¬bad) :
    rejectIf bad error = .ok () := if_neg absent

@[simp] theorem okOr_ok (found : Option α) (error : ε) (value : α) :
    okOr found error = .ok value ↔ found = some value := by
  cases found <;> simp [okOr]

@[simp] theorem okOr_some (value : α) (error : ε) : okOr (some value) error = .ok value := rfl

@[simp] theorem okOr_none (error : ε) : okOr (none : Option α) error = .error error := rfl

theorem checkEach_ok (check : α → Except ε Unit) (items : List α) (done : Unit) :
    checkEach check items = .ok done ↔ ∀ item ∈ items, check item = .ok () := by
  induction items with
  | nil => simp [checkEach]
  | cons item rest ih =>
      cases done
      rw [checkEach, bind_unit_eq_ok, ih]
      simp

theorem checkEach_error (check : α → Except ε Unit) (items : List α) (error : ε)
    (failed : checkEach check items = .error error) :
    ∃ item ∈ items, check item = .error error := by
  induction items with
  | nil => cases failed
  | cons item rest ih =>
      rw [checkEach, bind_eq_error] at failed
      rcases failed with here | ⟨_, _, later⟩
      · exact ⟨item, by simp, here⟩
      · obtain ⟨other, member, error⟩ := ih later
        exact ⟨other, by simp [member], error⟩

theorem collect_ok (convert : α → Except ε β) (items : List α) (results : List β) :
    collect convert items = .ok results ↔
      List.Forall₂ (fun item result => convert item = .ok result) items results := by
  induction items generalizing results with
  | nil =>
      simp only [collect, Except.ok.injEq, List.forall₂_nil_left_iff]
      exact eq_comm
  | cons item rest ih =>
      simp only [collect, bind_eq_ok, pure_eq, Except.ok.injEq, List.forall₂_cons_left_iff, ih]
      constructor
      · rintro ⟨first, converted, others, tail, rfl⟩
        exact ⟨first, others, converted, tail, rfl⟩
      · rintro ⟨first, others, converted, tail, rfl⟩
        exact ⟨first, converted, others, tail, rfl⟩

theorem mem_collect {convert : α → Except ε β} {items : List α} {results : List β}
    (collected : collect convert items = .ok results) (result : β) :
    result ∈ results ↔ ∃ item ∈ items, convert item = .ok result := by
  induction items generalizing results with
  | nil =>
      cases collected
      simp
  | cons item rest ih =>
      simp only [collect, bind_eq_ok, pure_eq, Except.ok.injEq] at collected
      obtain ⟨first, converted, others, tail, rfl⟩ := collected
      rw [List.mem_cons, ih tail]
      simp only [List.mem_cons, exists_eq_or_imp, converted, Except.ok.injEq, @eq_comm _ result]

theorem collect_each {convert : α → Except ε β} {items : List α} {results : List β}
    (collected : collect convert items = .ok results) {item : α} (member : item ∈ items) :
    ∃ result ∈ results, convert item = .ok result := by
  induction items generalizing results with
  | nil => cases member
  | cons first rest ih =>
      simp only [collect, bind_eq_ok, pure_eq, Except.ok.injEq] at collected
      obtain ⟨result, converted, others, tail, rfl⟩ := collected
      rcases List.mem_cons.mp member with rfl | later
      · exact ⟨result, List.mem_cons_self, converted⟩
      · obtain ⟨other, listed, own⟩ := ih tail later
        exact ⟨other, List.mem_cons_of_mem _ listed, own⟩

/-- A conversion that only checks its item returns the items it was given. -/
theorem collect_checked (convert : α → Except ε β) (checked : α → Prop) (value : α → β)
    (spec : ∀ item result, convert item = .ok result ↔ checked item ∧ result = value item)
    (items : List α) (results : List β) :
    collect convert items = .ok results ↔
      (∀ item ∈ items, checked item) ∧ results = items.map value := by
  induction items generalizing results with
  | nil => simp [collect, eq_comm]
  | cons item rest ih =>
      simp only [collect, bind_eq_ok, pure_eq, Except.ok.injEq, spec, ih, List.forall_mem_cons,
        List.map_cons]
      constructor
      · rintro ⟨first, ⟨passed, rfl⟩, others, ⟨all, rfl⟩, rfl⟩
        exact ⟨⟨passed, all⟩, rfl⟩
      · rintro ⟨⟨passed, all⟩, rfl⟩
        exact ⟨_, ⟨passed, rfl⟩, _, ⟨all, rfl⟩, rfl⟩

@[simp] theorem checkWhen_ok (asked : Prop) [Decidable asked] (check : Except ε Unit)
    (done : Unit) : checkWhen asked check = .ok done ↔ (asked → check = .ok ()) := by
  unfold checkWhen
  split <;> simp [*]

theorem any_eq_false_iff (found : Option α) (test : α → Bool) :
    found.any test = false ↔ ∀ value, found = some value → test value = false := by
  cases found <;> simp

@[simp] theorem checkSome_ok (check : α → Except ε Unit) (found : Option α) (done : Unit) :
    checkSome check found = .ok done ↔ ∀ value, found = some value → check value = .ok () := by
  cases found <;> simp [checkSome]

/-- Every error that the code can end with is one of these. -/
def FailsOnly (permitted : ε → Prop) (code : Except ε α) : Prop :=
  ∀ error, code = .error error → permitted error

variable {permitted : ε → Prop}

theorem failsOnly_ok (value : α) : FailsOnly permitted (.ok value) :=
  fun _ failed => nomatch failed

theorem failsOnly_error {error : ε} (allowed : permitted error) :
    FailsOnly permitted (.error error : Except ε α) := by
  intro reported same
  cases same
  exact allowed

theorem FailsOnly.bind {first : Except ε α} {next : α → Except ε β}
    (one : FailsOnly permitted first)
    (other : ∀ value, first = .ok value → FailsOnly permitted (next value)) :
    FailsOnly permitted (first >>= next) := by
  intro error failed
  rcases (bind_eq_error _ _ _).mp failed with early | ⟨value, passed, late⟩
  · exact one error early
  · exact other value passed error late

theorem failsOnly_rejectIf (bad : Prop) [Decidable bad] {error : ε} (allowed : permitted error) :
    FailsOnly permitted (rejectIf bad error) := by
  intro reported failed
  rw [← ((rejectIf_error _ _ _).mp failed).2]
  exact allowed

theorem failsOnly_okOr (found : Option α) {error : ε} (allowed : permitted error) :
    FailsOnly permitted (okOr found error) := by
  cases found with
  | some value => exact failsOnly_ok value
  | none => exact failsOnly_error allowed

theorem failsOnly_checkEach (check : α → Except ε Unit) (items : List α)
    (each : ∀ item ∈ items, FailsOnly permitted (check item)) :
    FailsOnly permitted (checkEach check items) := by
  intro error failed
  obtain ⟨item, member, refused⟩ := checkEach_error _ _ _ failed
  exact each item member error refused

theorem failsOnly_checkSome (check : α → Except ε Unit) (found : Option α)
    (each : ∀ value, found = some value → FailsOnly permitted (check value)) :
    FailsOnly permitted (checkSome check found) := by
  cases found with
  | some value => exact each value rfl
  | none => exact failsOnly_ok ()

/-- Two runs of one code over related data: the same error, or related results. -/
inductive Related (related : α → β → Prop) : Except ε α → Except ε β → Prop
  | ok {left : α} {right : β} (same : related left right) : Related related (.ok left) (.ok right)
  | error (error : ε) : Related related (.error error) (.error error)

theorem Related.bind {δ : Type} {between : α → β → Prop} {related : γ → δ → Prop}
    {left : Except ε α} {right : Except ε β} {next : α → Except ε γ} {other : β → Except ε δ}
    (heads : Related between left right)
    (each : ∀ one another, left = .ok one → between one another →
      Related related (next one) (other another)) :
    Related related (left >>= next) (right >>= other) := by
  cases heads with
  | ok same => exact each _ _ rfl same
  | error error => exact .error error

theorem Related.bind_same {related : β → γ → Prop} (first : Except ε α) {next : α → Except ε β}
    {other : α → Except ε γ}
    (each : ∀ value, first = .ok value → Related related (next value) (other value)) :
    Related related (first >>= next) (first >>= other) := by
  cases first with
  | ok value => exact each value rfl
  | error error => exact .error error

theorem Related.of_map {left right : Except ε α} {view : α → β}
    (same : left.map view = right.map view) :
    Related (fun one another => view one = view another) left right := by
  cases left with
  | ok one =>
      cases right with
      | ok another => exact .ok (Except.ok.inj same)
      | error error => cases same
  | error error =>
      cases right with
      | ok another => cases same
      | error reported =>
          rw [Except.error.inj same]
          exact .error reported

theorem Related.of_eq {left right : Except ε α} (same : left = right) :
    Related Eq left right := by
  subst same
  cases left with
  | ok value => exact .ok rfl
  | error error => exact .error error

theorem exists_ok_of_any {result : Except ε α} {test : α → Bool}
    (passed : result.toOption.any test = true) : ∃ value, result = .ok value ∧ test value = true := by
  cases result with
  | error error => cases passed
  | ok value => exact ⟨value, rfl, passed⟩

end Fallible
