import Mathlib

/-! The first occurrence of each item of a list, in the order of the list. -/

namespace FirstOccurrences

variable {α : Type} [DecidableEq α]

/-- The items of a list, each once, in the order in which they first occur. -/
structure IsFirsts (whole kept : List α) : Prop where
  distinct : kept.Nodup
  members : ∀ item, item ∈ kept ↔ item ∈ whole
  ordered : kept.Pairwise fun one other => whole.idxOf one < whole.idxOf other

theorem idxOf_filter_lt {whole : List α} {keeps : α → Bool} {one other : α}
    (first : keeps one = true) (second : keeps other = true)
    (before : (whole.filter keeps).idxOf one < (whole.filter keeps).idxOf other) :
    whole.idxOf one < whole.idxOf other := by
  induction whole with
  | nil => simp at before
  | cons head rest ih =>
      by_cases kept : keeps head = true
      · rw [List.filter_cons, if_pos kept] at before
        by_cases same : head = one
        · subst same
          by_cases alike : head = other
          · subst alike
            omega
          · simp [alike]
        · by_cases alike : head = other
          · subst alike
            simp at before
          · simp only [List.idxOf_cons_ne _ same, List.idxOf_cons_ne _ alike] at before ⊢
            have later := ih (by omega)
            omega
      · rw [List.filter_cons, if_neg kept] at before
        have apart : head ≠ one := by
          rintro rfl
          exact kept first
        have different : head ≠ other := by
          rintro rfl
          exact kept second
        have later := ih before
        rw [List.idxOf_cons_ne _ apart, List.idxOf_cons_ne _ different]
        omega

theorem isFirsts_eraseDups (whole : List α) : IsFirsts whole whole.eraseDups := by
  induction length : whole.length using Nat.strong_induction_on generalizing whole with
  | _ size ih =>
      cases whole with
      | nil => exact ⟨List.nodup_nil, fun _ => Iff.rfl, List.Pairwise.nil⟩
      | cons head rest =>
          have shorter : (rest.filter fun other => !other == head).length < size := by
            have within := List.length_filter_le (fun other => !other == head) rest
            rw [List.length_cons] at length
            omega
          obtain ⟨distinct, members, ordered⟩ := ih _ shorter _ rfl
          have others (item : α) (member : item ∈ (rest.filter fun other =>
              !other == head).eraseDups) : item ≠ head := by
            have kept := (List.mem_filter.mp ((members item).mp member)).2
            simpa using kept
          refine ⟨?_, fun item => List.mem_eraseDups, ?_⟩
          · rw [List.eraseDups_cons, List.nodup_cons]
            exact ⟨fun member => others head member rfl, distinct⟩
          · rw [List.eraseDups_cons, List.pairwise_cons]
            constructor
            · intro item member
              rw [List.idxOf_cons_self, List.idxOf_cons_ne _ (others item member).symm]
              omega
            · refine ordered.imp_of_mem ?_
              intro one other first second before
              have notOne := others one first
              have notOther := others other second
              rw [List.idxOf_cons_ne _ notOne.symm, List.idxOf_cons_ne _ notOther.symm]
              have later := idxOf_filter_lt (by simpa using notOne) (by simpa using notOther) before
              omega

theorem eraseDups_filter (whole : List α) (keeps : α → Bool) :
    (whole.filter keeps).eraseDups = whole.eraseDups.filter keeps := by
  induction length : whole.length using Nat.strong_induction_on generalizing whole with
  | _ size ih =>
      cases whole with
      | nil => rfl
      | cons head rest =>
          have shorter : (rest.filter fun other => !other == head).length < size := by
            have within := List.length_filter_le (fun other => !other == head) rest
            rw [List.length_cons] at length
            omega
          have later := ih _ shorter _ rfl
          by_cases kept : keeps head = true
          · rw [List.filter_cons, if_pos kept, List.eraseDups_cons, List.eraseDups_cons,
              List.filter_cons, if_pos kept, ← later, List.filter_filter, List.filter_filter]
            simp only [Bool.and_comm]
          · rw [List.filter_cons, if_neg kept, List.eraseDups_cons, List.filter_cons, if_neg kept,
              ← later, List.filter_filter]
            congr 1
            apply List.filter_congr
            intro item _
            by_cases same : item = head
            · subst same
              simp [kept]
            · simp [same]

theorem eraseDups_of_nodup {whole : List α} (distinct : whole.Nodup) :
    whole.eraseDups = whole := by
  induction whole with
  | nil => rfl
  | cons head rest ih =>
      obtain ⟨apart, others⟩ := List.nodup_cons.mp distinct
      have kept : (rest.filter fun other => !other == head) = rest := by
        apply List.filter_eq_self.mpr
        intro other member
        have different : other ≠ head := fun same => apart (same ▸ member)
        simpa using different
      rw [List.eraseDups_cons, kept, ih others]

theorem removeAll_eraseDups (whole part : List α) :
    (whole.removeAll part).eraseDups = whole.eraseDups.filter fun item => item ∉ part := by
  rw [← eraseDups_filter, List.removeAll]
  congr 1
  apply List.filter_congr
  intro item _
  simp

/-- Leaving out repetitions in the parts first changes nothing. -/
theorem eraseDups_flatten (parts : List (List α)) :
    (parts.map List.eraseDups).flatten.eraseDups = parts.flatten.eraseDups := by
  induction parts with
  | nil => rfl
  | cons part rest ih =>
      have twice : part.eraseDups.eraseDups = part.eraseDups :=
        eraseDups_of_nodup (isFirsts_eraseDups part).distinct
      rw [List.map_cons, List.flatten_cons, List.flatten_cons, List.eraseDups_append,
        List.eraseDups_append, removeAll_eraseDups, removeAll_eraseDups, twice, ih]
      simp only [List.mem_eraseDups]

end FirstOccurrences
