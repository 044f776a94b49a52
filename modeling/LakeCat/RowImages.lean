import LakeCat.SnapshotIsolation

/-!
Rows that show something else, cell by cell. A store goes on showing it when each
write shows what it has become, and the rows that are not written show what they
did before.
-/

namespace SnapshotIsolation

universe u v w

variable {Store : Type u} {Row : Type v}

/-- What is to be seen in each row. -/
abbrev Image (rows : Rows.{u, v, w} Store Row) := (row : Row) → rows.Cell row → Prop

variable {rows : Rows.{u, v, w} Store Row} {observed : Row → Prop} {before after : Image rows}

/-- An observed row holds a cell exactly when the image has it there. -/
def Shows (observed : Row → Prop) (image : Image rows) (store : Store) : Prop :=
  ∀ row, observed row → ∀ cell, rows.lookup store row = some cell ↔ image row cell

/-- The writes lead from one image to the other. -/
structure Redraws (observed : Row → Prop) (writes : List (Write rows)) (before after : Image rows) :
    Prop where
  written : ∀ change ∈ writes, observed change.row → ∀ cell,
    change.value = some cell ↔ after change.row cell
  kept : ∀ row, observed row → (∀ change ∈ writes, change.row ≠ row) → ∀ cell,
    after row cell ↔ before row cell

theorem Shows.applied {store : Store} {writes : List (Write rows)}
    (shows : Shows observed before store) (redraws : Redraws observed writes before after) :
    Shows observed after (applyWrites store writes) := by
  intro row seen cell
  rcases lookup_applyWrites_cases store writes row with ⟨kept, unwritten⟩ | ⟨value, member, found⟩
  · rw [kept, shows row seen cell]
    exact (redraws.kept row seen unwritten cell).symm
  · rw [found]
    exact redraws.written ⟨row, value⟩ member seen cell

/-- What an image has in an observed row is all that it has there. -/
theorem Shows.unique {store : Store} (shows : Shows observed before store) (row : Row)
    (seen : observed row) {one other : rows.Cell row} (first : before row one)
    (second : before row other) : one = other :=
  Option.some.inj (((shows row seen one).mpr first).symm.trans ((shows row seen other).mpr second))

theorem Shows.vacant {store : Store} (shows : Shows observed before store) (row : Row)
    (seen : observed row) : rows.lookup store row = none ↔ ∀ cell, ¬before row cell := by
  rw [Option.eq_none_iff_forall_ne_some]
  exact forall_congr' fun cell => not_congr (shows row seen cell)

end SnapshotIsolation
