import Mathlib

/-!
Cells that are written while they are empty, each by a client that may still take
the value back. What a client has given up nobody takes back any more.
-/

structure HeldCells (Client Cell Value : Type) where
  contents : Cell → Option Value
  held : Client → Option Cell

namespace HeldCells

variable {Client Cell Value : Type} [DecidableEq Client] [DecidableEq Cell]

/-- Writes an empty cell. -/
def create (cells : HeldCells Client Cell Value) (client : Client) (cell : Cell) (value : Value) :
    HeldCells Client Cell Value where
  contents := Function.update cells.contents cell (some value)
  held := Function.update cells.held client (some cell)

/-- Gives the cell up, with its value. -/
def release (cells : HeldCells Client Cell Value) (client : Client) :
    HeldCells Client Cell Value :=
  { cells with held := Function.update cells.held client none }

/-- Empties the cell that the client holds. -/
def takeBack (cells : HeldCells Client Cell Value) (client : Client) :
    HeldCells Client Cell Value :=
  match cells.held client with
  | none => cells
  | some cell => {
      contents := Function.update cells.contents cell none
      held := Function.update cells.held client none
    }

/-- What clients do, one at a time. -/
inductive Move (cells : HeldCells Client Cell Value) : HeldCells Client Cell Value → Prop where
  | stay : Move cells cells
  | create (client : Client) (cell : Cell) (value : Value) (idle : cells.held client = none)
      (empty : cells.contents cell = none) : Move cells (cells.create client cell value)
  | release (client : Client) : Move cells (cells.release client)
  | takeBack (client : Client) : Move cells (cells.takeBack client)

/-- A cell is held by one client at most, and never empty. -/
structure Sound (cells : HeldCells Client Cell Value) : Prop where
  filled : ∀ client cell, cells.held client = some cell → ∃ value, cells.contents cell = some value
  alone : ∀ client other cell, cells.held client = some cell → cells.held other = some cell →
    client = other

def Holds (cells : HeldCells Client Cell Value) (client : Client) (cell : Cell) (value : Value) :
    Prop :=
  cells.held client = some cell ∧ cells.contents cell = some value

/-- The value stands in a cell that nobody holds. -/
def Settled (cells : HeldCells Client Cell Value) (cell : Cell) (value : Value) : Prop :=
  cells.contents cell = some value ∧ ∀ client, cells.held client ≠ some cell

variable {cells next : HeldCells Client Cell Value}

theorem create_held {client other : Client} {cell : Cell} {value : Value} :
    (cells.create client cell value).held other =
      if other = client then some cell else cells.held other := by
  simp only [create, Function.update_apply]

theorem create_contents {client : Client} {cell query : Cell} {value : Value} :
    (cells.create client cell value).contents query =
      if query = cell then some value else cells.contents query := by
  simp only [create, Function.update_apply]

omit [DecidableEq Cell] in
theorem release_held {client other : Client} :
    (cells.release client).held other = if other = client then none else cells.held other := by
  simp only [release, Function.update_apply]

theorem takeBack_none {client : Client} (idle : cells.held client = none) :
    cells.takeBack client = cells := by
  simp only [takeBack, idle]

theorem takeBack_held {client other : Client} :
    (cells.takeBack client).held other = if other = client then none else cells.held other := by
  cases holding : cells.held client with
  | none =>
      rw [takeBack_none holding]
      split
      next same => rw [same, holding]
      next => rfl
  | some cell => simp only [takeBack, holding, Function.update_apply]

theorem takeBack_contents {client : Client} {cell query : Cell}
    (holding : cells.held client = some cell) :
    (cells.takeBack client).contents query =
      if query = cell then none else cells.contents query := by
  simp only [takeBack, holding, Function.update_apply]

theorem create_sound (sound : cells.Sound) {client : Client} {cell : Cell} (value : Value)
    (empty : cells.contents cell = none) : (cells.create client cell value).Sound where
  filled other held holding := by
    rw [create_held] at holding
    rw [create_contents]
    split at holding
    · obtain rfl := Option.some.inj holding
      exact ⟨value, if_pos rfl⟩
    · obtain ⟨stored, filled⟩ := sound.filled other held holding
      by_cases same : held = cell
      · exact ⟨value, if_pos same⟩
      · exact ⟨stored, by rw [if_neg same, filled]⟩
  alone one other held first second := by
    have taken (client : Client) (holding : cells.held client = some cell) : False := by
      obtain ⟨_, filled⟩ := sound.filled client cell holding
      rw [empty] at filled
      cases filled
    rw [create_held] at first second
    split at first
    next oneOwn =>
      obtain rfl := Option.some.inj first
      split at second
      next otherOwn => rw [oneOwn, otherOwn]
      next => exact absurd second (taken other)
    next =>
      split at second
      next =>
        obtain rfl := Option.some.inj second
        exact absurd first (taken one)
      next => exact sound.alone one other held first second

omit [DecidableEq Cell] in
theorem release_sound (sound : cells.Sound) (client : Client) : (cells.release client).Sound where
  filled other held holding := by
    rw [release_held] at holding
    split at holding
    · cases holding
    · exact sound.filled other held holding
  alone one other held first second := by
    rw [release_held] at first second
    split at first
    · cases first
    · split at second
      · cases second
      · exact sound.alone one other held first second

theorem takeBack_sound (sound : cells.Sound) (client : Client) :
    (cells.takeBack client).Sound := by
  cases holding : cells.held client with
  | none =>
      rw [takeBack_none holding]
      exact sound
  | some cell =>
      constructor
      · intro other held kept
        rw [takeBack_held] at kept
        split at kept
        next => cases kept
        next different =>
          have apart : held ≠ cell := by
            rintro rfl
            exact different (sound.alone other client held kept holding)
          rw [takeBack_contents holding, if_neg apart]
          exact sound.filled other held kept
      · intro one other held first second
        rw [takeBack_held] at first second
        split at first
        · cases first
        · split at second
          · cases second
          · exact sound.alone one other held first second

theorem Move.sound (move : cells.Move next) (sound : cells.Sound) : next.Sound := by
  cases move with
  | stay => exact sound
  | create client cell value _ empty => exact create_sound sound value empty
  | release client => exact release_sound sound client
  | takeBack client => exact takeBack_sound sound client

/-- What is settled stays as it is. -/
theorem Move.settled (move : cells.Move next) {cell : Cell} {value : Value}
    (settled : cells.Settled cell value) : next.Settled cell value := by
  obtain ⟨stands, free⟩ := settled
  cases move with
  | stay => exact ⟨stands, free⟩
  | create client written value _ empty =>
      have apart : cell ≠ written := by
        rintro rfl
        rw [stands] at empty
        cases empty
      refine ⟨by rw [create_contents, if_neg apart, stands], fun other => ?_⟩
      rw [create_held]
      split
      · exact fun same => apart (Option.some.inj same).symm
      · exact free other
  | release client =>
      refine ⟨stands, fun other => ?_⟩
      rw [release_held]
      split
      · exact nofun
      · exact free other
  | takeBack client =>
      cases holding : cells.held client with
      | none =>
          rw [takeBack_none holding]
          exact ⟨stands, free⟩
      | some held =>
          have apart : cell ≠ held := by
            rintro rfl
            exact free client holding
          refine ⟨by rw [takeBack_contents holding, if_neg apart, stands], fun other => ?_⟩
          rw [takeBack_held]
          split
          · exact nofun
          · exact free other

omit [DecidableEq Cell] in
/-- What is given up is settled. -/
theorem release_settled (sound : cells.Sound) {client : Client} {cell : Cell} {value : Value}
    (holds : cells.Holds client cell value) : (cells.release client).Settled cell value := by
  refine ⟨holds.2, fun other => ?_⟩
  rw [release_held]
  split
  next => exact nofun
  next different => exact fun kept => different (sound.alone other client cell kept holds.1)

theorem create_holds (client : Client) (cell : Cell) (value : Value) :
    (cells.create client cell value).Holds client cell value :=
  ⟨by rw [create_held, if_pos rfl], by rw [create_contents, if_pos rfl]⟩

omit [DecidableEq Client] [DecidableEq Cell] in
/-- A value that stands is settled, or somebody holds it. -/
theorem settled_or_held {cell : Cell} {value : Value} (stands : cells.contents cell = some value) :
    cells.Settled cell value ∨ ∃ client, cells.Holds client cell value := by
  by_cases free : ∀ client, cells.held client ≠ some cell
  · exact .inl ⟨stands, free⟩
  · push Not at free
    obtain ⟨client, holding⟩ := free
    exact .inr ⟨client, holding, stands⟩

end HeldCells
