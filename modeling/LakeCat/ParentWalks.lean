import Mathlib

/-!
Walks along a partial map, from a place to the place it names, until a goal is
met. Whether a walk ends, and which places it passes.
-/

namespace ParentWalk

open Relation

universe u

variable {Place : Type u} (next : Place → Option Place) (goal : Place → Prop)

/-- One move. -/
def Moves (place following : Place) : Prop :=
  next place = some following

/-- The places before the first that meets the goal, in the order they are passed. -/
inductive Passes : Place → List Place → Prop
  | done {place : Place} (met : goal place) : Passes place []
  | pass {place following : Place} {places : List Place} (unmet : ¬goal place)
      (moved : Moves next place following) (rest : Passes following places) :
      Passes place (place :: places)

/-- The walk meets the goal, or comes to a place that names none. -/
inductive Ends : Place → Prop
  | met {place : Place} (met : goal place) : Ends place
  | stuck {place : Place} (unmet : ¬goal place) (last : next place = none) : Ends place
  | pass {place following : Place} (unmet : ¬goal place) (moved : Moves next place following)
      (rest : Ends following) : Ends place

/-- The goal is met somewhere on the way. -/
def Meets (place : Place) : Prop :=
  ∃ found, ReflTransGen (Moves next) place found ∧ goal found

/-- Some place on the way comes back to itself. -/
def Circles (place : Place) : Prop :=
  ∃ turn, ReflTransGen (Moves next) place turn ∧ TransGen (Moves next) turn turn

variable {next goal}

theorem moves_functional {place left right : Place} (first : Moves next place left)
    (second : Moves next place right) : left = right :=
  Option.some.inj (first.symm.trans second)

section Paths

variable {place following : Place} {places : List Place}

theorem Passes.functional (first : Passes next goal place places) {others : List Place}
    (second : Passes next goal place others) : places = others := by
  induction first generalizing others with
  | done met =>
      cases second with
      | done => rfl
      | pass unmet => exact absurd met unmet
  | pass unmet moved rest ih =>
      cases second with
      | done met => exact absurd met unmet
      | pass _ other tail =>
          obtain rfl := moves_functional moved other
          rw [ih tail]

/-- What is passed after a place is what a walk from there passes. -/
theorem Passes.from_place (walked : Passes next goal place places) {later : Place}
    (member : later ∈ places) : ∃ before after, places = before ++ after ∧
      Passes next goal later after ∧ ¬goal later := by
  induction walked with
  | done => simp at member
  | @pass place following places unmet moved rest ih =>
      rcases List.mem_cons.mp member with rfl | behind
      · exact ⟨[], _, rfl, .pass unmet moved rest, unmet⟩
      · obtain ⟨before, after, rfl, onward⟩ := ih behind
        exact ⟨place :: before, after, rfl, onward⟩

theorem Passes.unmet (walked : Passes next goal place places) : ∀ later ∈ places, ¬goal later := by
  intro later member
  obtain ⟨_, _, _, _, unmet⟩ := walked.from_place member
  exact unmet

theorem Passes.nodup (walked : Passes next goal place places) : places.Nodup := by
  induction walked with
  | done => exact List.nodup_nil
  | @pass place following places unmet moved rest ih =>
      refine List.nodup_cons.mpr ⟨?_, ih⟩
      intro again
      obtain ⟨before, after, split, onward, _⟩ := rest.from_place again
      have whole := (Passes.pass unmet moved rest).functional onward
      have lengths := congrArg List.length whole
      have parts := congrArg List.length split
      simp only [List.length_cons, List.length_append] at lengths parts
      omega

theorem Passes.chain (walked : Passes next goal place places) :
    places.IsChain (Moves next) := by
  induction walked with
  | done => exact List.IsChain.nil
  | pass unmet moved rest ih =>
      cases rest with
      | done => exact List.IsChain.singleton _
      | pass _ _ _ => exact List.isChain_cons_cons.mpr ⟨moved, ih⟩

/-- A walk that passes anything starts with its own place and ends right before the goal. -/
theorem Passes.last (walked : Passes next goal place places) (passed : places ≠ []) :
    places.head? = some place ∧ ∃ last found, places.getLast? = some last ∧
      Moves next last found ∧ goal found := by
  induction walked with
  | done => exact absurd rfl passed
  | pass unmet moved rest ih =>
      refine ⟨rfl, ?_⟩
      cases rest with
      | done met => exact ⟨_, _, rfl, moved, met⟩
      | pass _ _ _ =>
          obtain ⟨_, last, found, final, step, met⟩ := ih (List.cons_ne_nil _ _)
          exact ⟨last, found, by rw [List.getLast?_cons_cons, final], step, met⟩

theorem meets_iff_passes : Meets next goal place ↔ ∃ places, Passes next goal place places := by
  constructor
  · rintro ⟨found, way, met⟩
    induction way using ReflTransGen.head_induction_on with
    | refl => exact ⟨[], .done met⟩
    | @head place following moved _ ih =>
        obtain ⟨places, walked⟩ := ih
        by_cases here : goal place
        · exact ⟨[], .done here⟩
        · exact ⟨_, .pass here moved walked⟩
  · rintro ⟨places, walked⟩
    induction walked with
    | done met => exact ⟨_, .refl, met⟩
    | pass _ moved _ ih =>
        obtain ⟨found, way, met⟩ := ih
        exact ⟨found, way.head moved, met⟩

end Paths

section Endings

variable {place following : Place}

/-- A place that is come back to names a place, from which it is come back to as well. -/
theorem comesBack_next (back : TransGen (Moves next) place place) :
    ∃ following, Moves next place following ∧ TransGen (Moves next) following following := by
  obtain ⟨following, moved, rest⟩ := TransGen.head'_iff.mp back
  exact ⟨following, moved, TransGen.tail' rest moved⟩

theorem circles_next (around : Circles next place) :
    ∃ following, Moves next place following ∧ Circles next following := by
  obtain ⟨turn, way, back⟩ := around
  rcases way.cases_head with rfl | ⟨following, moved, rest⟩
  · obtain ⟨following, moved, again⟩ := comesBack_next back
    exact ⟨following, moved, following, .refl, again⟩
  · exact ⟨following, moved, turn, rest, back⟩

theorem ends_meets_or_straight (ended : Ends next goal place) :
    Meets next goal place ∨ ¬Circles next place := by
  induction ended with
  | met found => exact .inl ⟨_, .refl, found⟩
  | stuck _ last =>
      refine .inr fun around => ?_
      obtain ⟨_, moved, _⟩ := circles_next around
      rw [Moves, last] at moved
      cases moved
  | pass _ moved _ ih =>
      rcases ih with ⟨found, way, met⟩ | straight
      · exact .inl ⟨found, way.head moved, met⟩
      · refine .inr fun around => straight ?_
        obtain ⟨_, other, onward⟩ := circles_next around
        rwa [moves_functional moved other]

theorem Passes.ends {places : List Place} (walked : Passes next goal place places) :
    Ends next goal place := by
  induction walked with
  | done met => exact .met met
  | pass unmet moved _ ih => exact .pass unmet moved ih

/-- Among finitely many places, a walk that never comes back ends. -/
theorem ends_of_straight (places : List Place)
    (closed : ∀ place following, Moves next place following → following ∈ places)
    (straight : ¬Circles next place) : Ends next goal place := by
  let Reached := {other // other ∈ place :: places ∧ ReflTransGen (Moves next) place other}
  let beyond (left right : Reached) : Prop := TransGen (Moves next) right.1 left.1
  have finite : Finite Reached :=
    Set.Finite.subset (List.finite_toSet (place :: places)) fun _ member => member.1
  have transitive : IsTrans Reached beyond := ⟨fun _ _ _ first second => second.trans first⟩
  have irreflexive : Std.Irrefl beyond :=
    ⟨fun other back => straight ⟨other.1, other.2.2, back⟩⟩
  have founded := Finite.wellFounded_of_trans_of_irrefl beyond
  have every (other : Reached) : Ends next goal other.1 := by
    induction other using founded.induction with
    | _ other ih =>
        by_cases met : goal other.1
        · exact .met met
        · cases moved : next other.1 with
          | none => exact .stuck met moved
          | some following =>
              have member := closed other.1 following moved
              have way := other.2.2.tail moved
              exact .pass met moved
                (ih ⟨following, List.mem_cons_of_mem _ member, way⟩ (.single moved))
  exact every ⟨place, List.mem_cons_self, .refl⟩

/-- Among finitely many places, a walk ends unless it runs in a circle without its goal. -/
theorem ends_iff (places : List Place)
    (closed : ∀ place following, Moves next place following → following ∈ places) :
    Ends next goal place ↔ Meets next goal place ∨ ¬Circles next place := by
  constructor
  · exact ends_meets_or_straight
  · rintro (met | straight)
    · obtain ⟨_, walked⟩ := meets_iff_passes.mp met
      exact walked.ends
    · exact ends_of_straight places closed straight

end Endings

end ParentWalk
