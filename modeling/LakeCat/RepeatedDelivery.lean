import Mathlib

/-!
A store that keeps the first of the items that it is sent under a key. Where
every item is sent at least once, it ends with all of them, each once, exactly
if no two of them have one key.
-/

namespace RepeatedDelivery

variable {α β κ : Type} [DecidableEq κ]

def keepFirst (key : α → κ) : List κ → List α → List α
  | _, [] => []
  | seen, item :: rest =>
      if key item ∈ seen then keepFirst key seen rest
      else item :: keepFirst key (key item :: seen) rest

theorem mem_keepFirst {key : α → κ} {seen : List κ} {items : List α} {item : α}
    (kept : item ∈ keepFirst key seen items) : item ∈ items ∧ key item ∉ seen := by
  induction items generalizing seen with
  | nil => cases kept
  | cons first rest ih =>
      rw [keepFirst] at kept
      split at kept
      next => exact ⟨List.mem_cons_of_mem _ (ih kept).1, (ih kept).2⟩
      next fresh =>
        rcases List.mem_cons.mp kept with rfl | later
        · exact ⟨List.mem_cons_self, fresh⟩
        · obtain ⟨member, unseen⟩ := ih later
          exact ⟨List.mem_cons_of_mem _ member, fun stood => unseen (List.mem_cons_of_mem _ stood)⟩

theorem nodup_keepFirst (key : α → κ) (seen : List κ) (items : List α) :
    ((keepFirst key seen items).map key).Nodup := by
  induction items generalizing seen with
  | nil => exact List.nodup_nil
  | cons first rest ih =>
      rw [keepFirst]
      split
      next => exact ih seen
      next =>
        rw [List.map_cons, List.nodup_cons]
        refine ⟨?_, ih _⟩
        intro repeated
        obtain ⟨other, kept, same⟩ := List.mem_map.mp repeated
        exact (mem_keepFirst kept).2 (same ▸ List.mem_cons_self)

/-- Something is kept under each key that was not there before. -/
theorem exists_keepFirst {key : α → κ} {seen : List κ} {items : List α} {item : α}
    (member : item ∈ items) (fresh : key item ∉ seen) :
    ∃ kept ∈ keepFirst key seen items, key kept = key item := by
  induction items generalizing seen with
  | nil => cases member
  | cons first rest ih =>
      rw [keepFirst]
      rcases List.mem_cons.mp member with rfl | later
      · rw [if_neg fresh]
        exact ⟨item, List.mem_cons_self, rfl⟩
      · split
        next => exact ih later fresh
        next =>
          by_cases same : key item = key first
          · exact ⟨first, List.mem_cons_self, same.symm⟩
          · have unseen : key item ∉ key first :: seen := by
              simp [same, fresh]
            obtain ⟨kept, listed, alike⟩ := ih later unseen
            exact ⟨kept, List.mem_cons_of_mem _ listed, alike⟩

/-- The items arrive in some wrapping, as often as may be, and nothing else arrives. -/
def Arrived (unwrap : α → β) (planned : List β) (arrived : List α) : Prop :=
  ∀ item, item ∈ planned ↔ ∃ wrapped ∈ arrived, unwrap wrapped = item

theorem keepFirst_perm_iff {unwrap : α → β} {key : β → κ} {planned : List β} {arrived : List α}
    (arrives : Arrived unwrap planned arrived) :
    ((keepFirst (key ∘ unwrap) [] arrived).map unwrap).Perm planned ↔
      (planned.map key).Nodup := by
  have keys : (((keepFirst (key ∘ unwrap) [] arrived).map unwrap).map key).Nodup := by
    rw [List.map_map]
    exact nodup_keepFirst _ _ _
  constructor
  · intro same
    exact (same.map key).nodup_iff.mp keys
  · intro distinct
    have alone : ∀ one ∈ planned, ∀ other ∈ planned, key one = key other → one = other :=
      fun one first other second => List.inj_on_of_nodup_map distinct first second
    rw [List.perm_ext_iff_of_nodup keys.of_map distinct.of_map]
    intro item
    rw [arrives, List.mem_map]
    constructor
    · rintro ⟨wrapped, kept, rfl⟩
      exact ⟨wrapped, (mem_keepFirst kept).1, rfl⟩
    · rintro ⟨wrapped, member, rfl⟩
      have unseen : (key ∘ unwrap) wrapped ∉ ([] : List κ) := List.not_mem_nil
      obtain ⟨kept, listed, alike⟩ := exists_keepFirst member unseen
      have first := (arrives _).mpr ⟨kept, (mem_keepFirst listed).1, rfl⟩
      have second := (arrives _).mpr ⟨wrapped, member, rfl⟩
      exact ⟨kept, listed, alone _ first _ second alike⟩

end RepeatedDelivery
