import Mathlib

/-!
Logs of pointer moves. Every entry says which pointer it found and which it
left; a log is linked from one pointer to another when each entry finds what
the entry before it left.
-/

namespace LinkedLog

universe u v

variable {Entry : Type u} {Pointer : Type v} (before after : Entry → Pointer)

/-- The entries lead from `start` to `finish`. -/
def Linked (start : Pointer) : List Entry → Pointer → Prop
  | [], finish => start = finish
  | entry :: rest, finish => before entry = start ∧ Linked (after entry) rest finish

variable {before after}

theorem linked_append (start finish : Pointer) (first second : List Entry) :
    Linked before after start (first ++ second) finish ↔
      ∃ middle, Linked before after start first middle ∧
        Linked before after middle second finish := by
  induction first generalizing start with
  | nil => simp [Linked]
  | cons entry rest ih =>
      simp only [List.cons_append, Linked, ih]
      constructor
      · rintro ⟨found, middle, left, right⟩
        exact ⟨middle, ⟨found, left⟩, right⟩
      · rintro ⟨middle, ⟨found, left⟩, right⟩
        exact ⟨found, middle, left, right⟩

/-- An entry that finds the end of the log extends it. -/
theorem Linked.snoc {start finish : Pointer} {log : List Entry} {entry : Entry}
    (linked : Linked before after start log finish) (found : before entry = finish) :
    Linked before after start (log ++ [entry]) (after entry) := by
  rw [linked_append]
  exact ⟨finish, linked, found, rfl⟩

/-- Rewriting the entries keeps the links when it keeps their pointers. -/
theorem linked_map (rewrite : Entry → Entry) (sameBefore : ∀ entry, before (rewrite entry) = before entry)
    (sameAfter : ∀ entry, after (rewrite entry) = after entry) (start finish : Pointer)
    (log : List Entry) :
    Linked before after start (log.map rewrite) finish ↔ Linked before after start log finish := by
  induction log generalizing start with
  | nil => simp [Linked]
  | cons entry rest ih => simp only [List.map_cons, Linked, sameBefore, sameAfter, ih]

/-- Consecutive numbers from one, and what the next entry's number must be. -/
theorem numbered_snoc (number : Entry → Nat) (log : List Entry) (entry : Entry) (count : Nat)
    (numbered : log.map number = List.range' 1 count) (next : number entry = count + 1) :
    (log ++ [entry]).map number = List.range' 1 (count + 1) := by
  rw [List.map_append, numbered, List.range'_1_concat]
  simp [next, Nat.add_comm]

end LinkedLog
