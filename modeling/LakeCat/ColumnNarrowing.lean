import LakeCat.PoliciesRestrict

/-!
What is left of a list of columns under a restriction. Short lists are scanned and long
ones are put into a hash set, with the same result; the columns of a policy are kept in
the order in which it first names them.
-/

namespace LakeCat

open Fallible FirstOccurrences

/-- A request under a list of allowed columns. -/
structure NarrowsColumns (restriction : ReadRestriction) (allowed : List String) : Prop where
  refused : ∀ requested,
    (∃ text, restriction.effectiveProjection requested = .error (.conflict text)) ↔
      allowed = [] ∨ requested ≠ [] ∧ ∀ column ∈ requested, column ∉ allowed
  narrowed : ∀ requested, allowed ≠ [] → (∃ column ∈ requested, column ∈ allowed) →
    restriction.effectiveProjection requested =
      .ok (requested.filter fun column => column ∈ allowed)
  unnamed : allowed ≠ [] → restriction.effectiveProjection [] = .ok allowed
  stats : ∀ requested, restriction.effectiveStatsFields requested =
    requested.filter fun column => column ∈ allowed

/-- The columns that a constraint names, each as often as it does. -/
def constraintNames : Json → LakeCatResult (List String) :=
  constraintValue "allowed columns" ["eq", "isAnyOf", "isAllOf"] fun value =>
    listedStrings value "ODRL allowed columns"

/-- The columns that a policy names, each as often as it does. -/
def ListsColumns (odrl : Json) (listed : List String) : Prop :=
  match spellings columnPaths odrl with
  | value :: _ => listedStrings value "ODRL allowed columns" = .ok listed
  | [] => ∃ lists, collect constraintNames (constraintsOn columnOperands odrl) = .ok lists ∧
      listed = lists.flatten

theorem narrowsColumns {restriction : ReadRestriction} {allowed : List String}
    (held : restriction.allowedColumns = some allowed) : NarrowsColumns restriction allowed := by
  have kept (requested : List String) :
      requested.filter (fun column => column ∈ allowed) = [] ↔
        ∀ column ∈ requested, column ∉ allowed := by
    simp [List.filter_eq_nil_iff]
  refine ⟨fun requested => ?_, fun requested present shared => ?_, fun present => ?_,
    fun requested => ?_⟩
  · rw [ReadRestriction.effectiveProjection, held]
    simp only [retainAllowedColumns_eq]
    by_cases empty : allowed = []
    · rw [rejectIf_pos _ empty]
      exact iff_of_true ⟨_, rfl⟩ (.inl empty)
    · rw [rejectIf_neg _ empty, ok_bind]
      by_cases unnamed : requested = []
      · rw [if_pos unnamed]
        refine iff_of_false ?_ ?_
        · rintro ⟨_, projected⟩
          cases projected
        · rintro (none_left | ⟨named, _⟩)
          · exact empty none_left
          · exact named unnamed
      · rw [if_neg unnamed]
        by_cases outside : requested.filter (fun column => column ∈ allowed) = []
        · rw [rejectIf_pos _ outside]
          exact iff_of_true ⟨_, rfl⟩ (.inr ⟨unnamed, (kept requested).mp outside⟩)
        · rw [rejectIf_neg _ outside]
          refine iff_of_false ?_ ?_
          · rintro ⟨_, projected⟩
            cases projected
          · rintro (none_left | ⟨_, apart⟩)
            · exact empty none_left
            · exact outside ((kept requested).mpr apart)
  · obtain ⟨column, named, within⟩ := shared
    have inside : requested.filter (fun column => column ∈ allowed) ≠ [] := by
      rw [ne_eq, kept]
      intro apart
      exact apart column named within
    rw [ReadRestriction.effectiveProjection, held]
    simp only [retainAllowedColumns_eq]
    rw [rejectIf_neg _ present, ok_bind, if_neg (List.ne_nil_of_mem named),
      rejectIf_neg _ inside]
    rfl
  · rw [ReadRestriction.effectiveProjection, held]
    simp only
    rw [rejectIf_neg _ present]
    rfl
  · rw [ReadRestriction.effectiveStatsFields, held]
    exact retainAllowedColumns_eq requested allowed

theorem stringList_names (label : String) (value : Json) (columns : List String) :
    stringList label value = .ok columns ↔
      ∃ listed, listedStrings value label = .ok listed ∧ listed ≠ [] ∧
        columns = listed.eraseDups := by
  simp only [stringList, bind_eq_ok, exists_unit, rejectIf_ok, pure_eq, Except.ok.injEq,
    dedupColumns_eq, eq_comm (b := columns)]

/-- A constraint is read as its names, each once. -/
theorem columnConstraint_names (constraint : Json) (columns : List String)
    (read : columnConstraint constraint = .ok columns) :
    ∃ listed, constraintNames constraint = .ok listed ∧ columns = listed.eraseDups := by
  simp only [columnConstraint, constraintValue, bind_eq_ok, exists_unit, stringList_names] at read
  obtain ⟨value, right, operator, listed, named, _, same⟩ := read
  refine ⟨listed, ?_, same⟩
  simp only [constraintNames, constraintValue, bind_eq_ok, exists_unit]
  exact ⟨value, right, operator, named⟩

theorem constraints_names (constraints : List Json) (lists : List (List String))
    (read : collect columnConstraint constraints = .ok lists) :
    ∃ names, collect constraintNames constraints = .ok names ∧
      lists = names.map List.eraseDups := by
  rw [collect_ok] at read
  induction read with
  | nil => exact ⟨[], rfl, rfl⟩
  | cons first _ ih =>
      obtain ⟨listed, named, rfl⟩ := columnConstraint_names _ _ first
      obtain ⟨names, others, rfl⟩ := ih
      refine ⟨listed :: names, ?_, rfl⟩
      rw [collect, named, ok_bind, others]
      rfl

theorem allowedColumns_firsts (odrl : Json) (columns : List String)
    (read : allowedColumnsFromOdrl odrl = .ok (some columns)) :
    ∃ listed, ListsColumns odrl listed ∧ IsFirsts listed columns := by
  rw [allowedColumnsFromOdrl] at read
  cases spelled : spellings columnPaths odrl with
  | cons value others =>
      simp only [spelled, bind_eq_ok, pure_eq, Except.ok.injEq, Option.some.injEq,
        stringList_names] at read
      obtain ⟨_, ⟨listed, named, _, rfl⟩, rfl⟩ := read
      refine ⟨listed, ?_, isFirsts_eraseDups listed⟩
      rw [ListsColumns, spelled]
      exact named
  | nil =>
      simp only [spelled, bind_eq_ok] at read
      obtain ⟨lists, found, chosen⟩ := read
      split at chosen
      next => cases chosen
      next named =>
        obtain ⟨names, own, rfl⟩ := constraints_names _ _ found
        simp only [pure_eq, Except.ok.injEq, Option.some.injEq] at chosen
        refine ⟨names.flatten, ?_, ?_⟩
        · rw [ListsColumns, spelled]
          exact ⟨names, own, rfl⟩
        · rw [← chosen, dedupColumns_eq, eraseDups_flatten]
          exact isFirsts_eraseDups names.flatten

/-- The two ways to look columns up agree. -/
structure LookupsAgree : Prop where
  retained : ∀ requested allowed, retainHashed requested allowed = retainScanned requested allowed
  deduplicated : ∀ columns, dedupHashed columns = dedupScanned columns

theorem lookupsAgree : LookupsAgree where
  retained := retainHashed_scanned
  deduplicated columns := by rw [dedupHashed_eq, dedupScanned_eq]

/-- The columns that policies allow, one policy and several together. -/
structure PoliciesListOnce [External] : Prop where
  document : ∀ odrl columns, allowedColumnsFromOdrl odrl = .ok (some columns) →
    ∃ listed, ListsColumns odrl listed ∧ IsFirsts listed columns
  documents : ∀ policies restriction allowed,
    FullReadRestriction.fromOdrlPolicies policies = .ok restriction →
    restriction.allowedColumns = some allowed → allowed.Nodup

/-- A request is narrowed to what is allowed, by either lookup, and what policies allow lists each
column once, in the order in which they first name it. -/
theorem columns_narrowed [External] (restriction : ReadRestriction) (allowed : List String)
    (held : restriction.allowedColumns = some allowed) :
    NarrowsColumns restriction allowed ∧ LookupsAgree ∧ PoliciesListOnce := by
  refine ⟨narrowsColumns held, lookupsAgree, allowedColumns_firsts, ?_⟩
  intro policies restriction allowed read listed
  exact ((policies_composed policies _ _).mp read).columns_nodup listed

theorem columns_narrowed_sample : ∃ _ : External,
    NarrowsColumns ⟨some ["id", "email"], none⟩ ["id", "email"] ∧ LookupsAgree ∧
      PoliciesListOnce := by
  let _ := constantExternal
  exact ⟨constantExternal, columns_narrowed _ _ rfl⟩

end LakeCat
