import LakeCat.FilterMeaning
import LakeCat.OdrlPolicies

/-!
Policies restrict, and only restrict. Every element of a document that the
parser knows is compared with the restriction of the whole list; an element
that stands behind an earlier spelling, a second column constraint and a strict
lifetime are read as weaker than they are written.
-/

namespace LakeCat

open Fallible OptionalMeet

variable {ρ : Type}

/-- A meaning of row predicates in which `and` is a conjunction. -/
structure PredicateReading (ρ : Type) where
  holds : Json → ρ → Prop
  conjunction : ∀ left right row,
    holds (andRowPredicates left right) row ↔ holds left row ∧ holds right row

inductive RestrictingElement where
  | columns (allowed : List String)
  | rowPredicate (predicate : Json)
  | purpose (purpose : String)
  | ttl (seconds : Nat) (strict : Bool)

def isStrict (constraint : Json) : Bool :=
  (constraintOperator constraint).map normalizedOperator = some "lt"

/-- The elements of a document, each at one of the places where it may be written. -/
inductive Recognises (odrl : Json) : RestrictingElement → Prop
  | columnSpelling {value : Json} {allowed : List String}
      (place : value ∈ spellings columnPaths odrl)
      (read : stringList "ODRL allowed columns" value = .ok allowed) :
      Recognises odrl (.columns allowed)
  | columnConstraint {constraint : Json} {allowed : List String}
      (place : constraint ∈ constraintsOn columnOperands odrl)
      (read : columnConstraint constraint = .ok allowed) : Recognises odrl (.columns allowed)
  | predicateSpelling {value predicate : Json} (place : value ∈ spellings predicatePaths odrl)
      (read : rowPredicateValue value = .ok predicate) :
      Recognises odrl (.rowPredicate predicate)
  | predicateConstraint {constraint predicate : Json}
      (place : constraint ∈ constraintsOn predicateOperands odrl)
      (read : predicateConstraint constraint = .ok predicate) :
      Recognises odrl (.rowPredicate predicate)
  | purpose {value : Json} {purpose : String} (place : odrl.get "purpose" = some value)
      (read : nonblankJsonldString "ODRL purpose" value = .ok purpose) :
      Recognises odrl (.purpose purpose)
  | purposeConstraint {constraint : Json} {purpose : String}
      (place : constraint ∈ constraintsOn purposeOperands odrl)
      (read : purposeConstraint constraint = .ok purpose) : Recognises odrl (.purpose purpose)
  | ttlSpelling {value : Json} {seconds : Nat} (place : value ∈ spellings ttlPaths odrl)
      (read : ttlValue value = .ok seconds) : Recognises odrl (.ttl seconds false)
  | ttlConstraint {constraint : Json} {seconds : Nat}
      (place : constraint ∈ constraintsOn ttlOperands odrl)
      (read : ttlConstraint constraint = .ok seconds) :
      Recognises odrl (.ttl seconds (isStrict constraint))

/-- The restriction is no more permissive than the element alone. -/
def NoMorePermissive (reading : PredicateReading ρ) (restriction : FullReadRestriction) :
    RestrictingElement → Prop
  | .columns allowed => ∃ columns, restriction.allowedColumns = some columns ∧
      ∀ column ∈ columns, column ∈ allowed
  | .rowPredicate predicate => ∃ required, restriction.rowPredicate = some required ∧
      ∀ row, reading.holds required row → reading.holds predicate row
  | .purpose purpose => restriction.purpose = some purpose
  | .ttl seconds strict => ∃ ttl, restriction.maxCredentialTtlSeconds = some ttl ∧
      if strict then ttl < seconds else ttl ≤ seconds

/-- Whatever the first restriction lets through, the second one does. -/
structure NoWider (reading : PredicateReading ρ) (restriction other : FullReadRestriction) :
    Prop where
  columns : ∀ allowed, other.allowedColumns = some allowed →
    NoMorePermissive reading restriction (.columns allowed)
  rowPredicate : ∀ predicate, other.rowPredicate = some predicate →
    NoMorePermissive reading restriction (.rowPredicate predicate)
  purpose : ∀ purpose, other.purpose = some purpose →
    NoMorePermissive reading restriction (.purpose purpose)
  ttl : ∀ seconds, other.maxCredentialTtlSeconds = some seconds →
    NoMorePermissive reading restriction (.ttl seconds false)

/-- The restrictions differ in the order of columns, conjuncts and hashes only. -/
structure SameUpToOrder (restriction other : FullReadRestriction) : Prop where
  columns : Option.Rel List.Perm restriction.allowedColumns other.allowedColumns
  rowPredicate : Option.Rel (fun left right => ∀ (ρ : Type) (reading : PredicateReading ρ) row,
    reading.holds left row ↔ reading.holds right row) restriction.rowPredicate other.rowPredicate
  purpose : restriction.purpose = other.purpose
  ttl : restriction.maxCredentialTtlSeconds = other.maxCredentialTtlSeconds
  policyHashes : restriction.policyHashes.Perm other.policyHashes

/-- The first spelling of a column list in the document allows the column, or some column
constraint does when the list is spelled nowhere else. -/
def LeadingColumn (odrl : Json) (column : String) : Prop :=
  match spellings columnPaths odrl with
  | value :: _ => ∀ allowed, stringList "ODRL allowed columns" value = .ok allowed →
      column ∈ allowed
  | [] => constraintsOn columnOperands odrl = [] ∨
      ∃ constraint ∈ constraintsOn columnOperands odrl, ∃ allowed,
        columnConstraint constraint = .ok allowed ∧ column ∈ allowed

/-- The first spelling of a predicate in the document holds of the row, or every predicate
constraint does when the predicate is spelled nowhere else. -/
def LeadingRow (reading : PredicateReading ρ) (odrl : Json) (row : ρ) : Prop :=
  match spellings predicatePaths odrl with
  | value :: _ => reading.holds value row
  | [] => ∀ constraint ∈ constraintsOn predicateOperands odrl, ∀ predicate,
      predicateConstraint constraint = .ok predicate → reading.holds predicate row

/-- What the leading spellings of all documents let through, every element does, and below
every strict lifetime there is another one. -/
structure LeadingDecide (reading : PredicateReading ρ) (policies : List Json) : Prop where
  columns : ∀ odrl ∈ policies, ∀ allowed, Recognises odrl (.columns allowed) →
    ∀ column, (∀ other ∈ policies, LeadingColumn other column) → column ∈ allowed
  rowPredicate : ∀ odrl ∈ policies, ∀ predicate, Recognises odrl (.rowPredicate predicate) →
    ∀ row, (∀ other ∈ policies, LeadingRow reading other row) → reading.holds predicate row
  ttl : ∀ odrl ∈ policies, ∀ seconds, Recognises odrl (.ttl seconds true) →
    ∃ other ∈ policies, ∃ less strict, Recognises other (.ttl less strict) ∧ less < seconds

section Documents

variable {odrl : Json}

/-- A lifetime allows those that are no longer. -/
def NoLonger (ttl seconds : Nat) : Prop := seconds ≤ ttl

theorem ttl_meet (left right seconds : Nat) :
    NoLonger (min left right) seconds ↔ NoLonger left seconds ∧ NoLonger right seconds :=
  Nat.le_min

/-- A row under a reading of the predicates. -/
def HoldsAt (predicate : Json) (point : (ρ : Type) × PredicateReading ρ × ρ) : Prop :=
  point.2.1.holds predicate point.2.2

theorem holdsAt_meet (left right : Json) (point : (ρ : Type) × PredicateReading ρ × ρ) :
    HoldsAt (andRowPredicates left right) point ↔ HoldsAt left point ∧ HoldsAt right point :=
  point.2.1.conjunction left right point.2.2

def columnsOf (odrl : Json) : Option (List String) := (allowedColumnsFromOdrl odrl).toOption.join

def rowPredicateOf (odrl : Json) : Option Json := (rowPredicateFromOdrl odrl).toOption.join

def purposeOf (odrl : Json) : Option String := (purposeFromOdrl odrl).toOption.join

def ttlOf (odrl : Json) : Option Nat := (ttlFromOdrl odrl).toOption.join

/-- No part of the document is rejected. -/
structure Readable (odrl : Json) : Prop where
  columns : allowedColumnsFromOdrl odrl = .ok (columnsOf odrl)
  rowPredicate : rowPredicateFromOdrl odrl = .ok (rowPredicateOf odrl)
  purpose : purposeFromOdrl odrl = .ok (purposeOf odrl)
  ttl : ttlFromOdrl odrl = .ok (ttlOf odrl)

theorem columnConstraint_listed {constraint : Json} {allowed : List String}
    (stated : columnConstraint constraint = .ok allowed) : allowed ≠ [] ∧ allowed.Nodup := by
  simp only [columnConstraint, constraintValue, bind_eq_ok] at stated
  obtain ⟨value, -, -, -, listed⟩ := stated
  exact stringList_listed listed

theorem leadingColumn_iff (readable : Readable odrl) (column : String) :
    Allows (fun allowed column => column ∈ allowed) (columnsOf odrl) column ↔
      LeadingColumn odrl column := by
  have read := readable.columns
  rw [allowedColumnsFromOdrl] at read
  rw [LeadingColumn]
  cases spelled : spellings columnPaths odrl with
  | cons value others =>
      simp only [spelled, bind_eq_ok, pure_eq, Except.ok.injEq] at read
      obtain ⟨allowed, listed, found⟩ := read
      simp only [← found, Allows, listed, Except.ok.injEq, forall_eq']
  | nil =>
      simp only [spelled, bind_eq_ok] at read
      obtain ⟨lists, collected, found⟩ := read
      have mentioned : column ∈ lists.flatten ↔
          ∃ constraint ∈ constraintsOn columnOperands odrl, ∃ allowed,
            columnConstraint constraint = .ok allowed ∧ column ∈ allowed := by
        rw [List.mem_flatten]
        simp only [mem_collect collected]
        constructor
        · rintro ⟨allowed, ⟨constraint, place, stated⟩, member⟩
          exact ⟨constraint, place, allowed, stated, member⟩
        · rintro ⟨constraint, place, allowed, stated, member⟩
          exact ⟨allowed, ⟨constraint, place, stated⟩, member⟩
      by_cases empty : lists.flatten = []
      · simp only [empty, if_true, pure_eq, Except.ok.injEq] at found
        simp only [← found, Allows, true_iff]
        refine .inl (List.eq_nil_iff_forall_not_mem.mpr ?_)
        intro constraint place
        obtain ⟨allowed, listed, stated⟩ := collect_each collected place
        obtain ⟨present, -⟩ := columnConstraint_listed stated
        exact present (List.flatten_eq_nil_iff.mp empty allowed listed)
      · simp only [empty, if_false, pure_eq, Except.ok.injEq] at found
        simp only [← found, Allows, mem_dedupColumns, mentioned]
        refine ⟨.inr, ?_⟩
        rintro (none | stated)
        · rw [none] at collected
          cases collected
          exact absurd rfl empty
        · exact stated

theorem columnsOf_present (readable : Readable odrl) {allowed : List String}
    (element : Recognises odrl (.columns allowed)) : (columnsOf odrl).isSome := by
  have read := readable.columns
  rw [allowedColumnsFromOdrl] at read
  cases spelled : spellings columnPaths odrl with
  | cons value others =>
      simp only [spelled, bind_eq_ok, pure_eq, Except.ok.injEq] at read
      obtain ⟨own, -, found⟩ := read
      rw [← found, Option.isSome_some]
  | nil =>
      simp only [spelled, bind_eq_ok] at read
      obtain ⟨lists, collected, found⟩ := read
      cases element with
      | columnSpelling place => rw [spelled] at place; cases place
      | columnConstraint place stated =>
          obtain ⟨own, listed, again⟩ := collect_each collected place
          have present := (columnConstraint_listed again).1
          have some : lists.flatten ≠ [] := fun empty =>
            present (List.flatten_eq_nil_iff.mp empty own listed)
          simp only [some, if_false, pure_eq, Except.ok.injEq] at found
          rw [← found, Option.isSome_some]

theorem columnsOf_nodup (readable : Readable odrl) :
    ∀ allowed, columnsOf odrl = some allowed → allowed.Nodup := by
  intro allowed held
  have read := readable.columns
  rw [allowedColumnsFromOdrl, held] at read
  cases spelled : spellings columnPaths odrl with
  | cons value others =>
      simp only [spelled, bind_eq_ok, pure_eq, Except.ok.injEq, Option.some.injEq] at read
      obtain ⟨own, listed, rfl⟩ := read
      exact (stringList_listed listed).2
  | nil =>
      simp only [spelled, bind_eq_ok] at read
      obtain ⟨lists, -, found⟩ := read
      split at found
      · cases found
      · simp only [pure_eq, Except.ok.injEq, Option.some.injEq] at found
        exact found ▸ nodup_dedupColumns lists.flatten

theorem leadingRow_iff (reading : PredicateReading ρ) (readable : Readable odrl) (row : ρ) :
    Allows reading.holds (rowPredicateOf odrl) row ↔ LeadingRow reading odrl row := by
  have read := readable.rowPredicate
  rw [rowPredicateFromOdrl] at read
  rw [LeadingRow]
  cases spelled : spellings predicatePaths odrl with
  | cons value others =>
      simp only [spelled, bind_eq_ok, rowPredicateValue, exists_unit, rejectIf_ok, pure_eq,
        Except.ok.injEq] at read
      obtain ⟨predicate, ⟨-, rfl⟩, found⟩ := read
      rw [← found, Allows]
  | nil =>
      simp only [spelled, bind_eq_ok, pure_eq, Except.ok.injEq] at read
      obtain ⟨predicates, collected, found⟩ := read
      rw [← found, allows_values reading.conjunction]
      simp only [mem_collect collected]
      constructor
      · intro every constraint place predicate stated
        exact every predicate ⟨constraint, place, stated⟩
      · rintro every predicate ⟨constraint, place, stated⟩
        exact every constraint place predicate stated

theorem rowPredicateOf_present (readable : Readable odrl) {predicate : Json}
    (element : Recognises odrl (.rowPredicate predicate)) : (rowPredicateOf odrl).isSome := by
  have read := readable.rowPredicate
  rw [rowPredicateFromOdrl] at read
  cases spelled : spellings predicatePaths odrl with
  | cons value others =>
      simp only [spelled, bind_eq_ok, pure_eq, Except.ok.injEq] at read
      obtain ⟨own, -, found⟩ := read
      rw [← found, Option.isSome_some]
  | nil =>
      simp only [spelled, bind_eq_ok, pure_eq, Except.ok.injEq] at read
      obtain ⟨predicates, collected, found⟩ := read
      cases element with
      | predicateSpelling place => rw [spelled] at place; cases place
      | predicateConstraint place stated =>
          obtain ⟨own, listed, -⟩ := collect_each collected place
          rw [← found, combine_isSome]
          exact .inr ⟨some own, List.mem_map_of_mem listed, rfl⟩

theorem agreePurpose_fold {constraints : List Json} {start common : Option String}
    (agreed : constraints.foldlM agreePurpose start = .ok common) :
    (∀ purpose, start = some purpose → common = some purpose) ∧
      ∀ constraint ∈ constraints, ∀ purpose, purposeConstraint constraint = .ok purpose →
        common = some purpose := by
  induction constraints generalizing start with
  | nil =>
      cases agreed
      exact ⟨fun purpose held => held, fun constraint place => by cases place⟩
  | cons constraint rest ih =>
      simp only [List.foldlM_cons, bind_eq_ok, agreePurpose] at agreed
      obtain ⟨joined, ⟨next, stated, merged⟩, later⟩ := agreed
      obtain ⟨carried, others⟩ := ih later
      have both := (agree_ok purposeConflict start (some next) joined).mp merged
      refine ⟨?_, ?_⟩
      · rintro purpose rfl
        exact carried purpose (both.each purpose (by simp))
      · intro other place purpose own
        rcases List.mem_cons.mp place with rfl | later
        · cases stated.symm.trans own
          exact carried next (both.each next (by simp))
        · exact others other later purpose own

theorem purposeOf_each (readable : Readable odrl) {purpose : String}
    (element : Recognises odrl (.purpose purpose)) : purposeOf odrl = some purpose := by
  have read := readable.purpose
  simp only [purposeFromOdrl, bind_eq_ok] at read
  obtain ⟨top, first, rest⟩ := read
  obtain ⟨held, listed⟩ := agreePurpose_fold rest
  cases element with
  | purpose place stated =>
      rw [topPurpose, place] at first
      simp only [stated, ok_bind, pure_eq, Except.ok.injEq] at first
      exact held purpose first.symm
  | purposeConstraint place stated => exact listed _ place purpose stated

theorem ttlOf_iff (readable : Readable odrl) (seconds : Nat) :
    Allows NoLonger (ttlOf odrl) seconds ↔
      ∀ other strict, Recognises odrl (.ttl other strict) → seconds ≤ other := by
  have read := readable.ttl
  simp only [ttlFromOdrl, bind_eq_ok, pure_eq, Except.ok.injEq] at read
  obtain ⟨spelled, first, constrained, second, found⟩ := read
  rw [← found, allows_values ttl_meet]
  simp only [List.mem_append, mem_collect first, mem_collect second]
  constructor
  · intro every other strict element
    cases element with
    | ttlSpelling place stated => exact every other (.inl ⟨_, place, stated⟩)
    | ttlConstraint place stated => exact every other (.inr ⟨_, place, stated⟩)
  · rintro every other (⟨value, place, stated⟩ | ⟨constraint, place, stated⟩)
    · exact every other _ (.ttlSpelling place stated)
    · exact every other _ (.ttlConstraint place stated)

theorem min_selects (left right : Nat) : min left right = left ∨ min left right = right := by
  omega

theorem ttlOf_attained (readable : Readable odrl) (seconds : Nat)
    (held : ttlOf odrl = some seconds) : ∃ strict, Recognises odrl (.ttl seconds strict) := by
  have read := readable.ttl
  simp only [ttlFromOdrl, bind_eq_ok, pure_eq, Except.ok.injEq] at read
  obtain ⟨spelled, first, constrained, second, found⟩ := read
  have listed := combine_attained min_selects (found.trans held)
  simp only [List.mem_map, List.mem_append, mem_collect first, mem_collect second,
    Option.some.injEq, exists_eq_right] at listed
  rcases listed with ⟨source, place, stated⟩ | ⟨source, place, stated⟩
  · exact ⟨_, .ttlSpelling place stated⟩
  · exact ⟨_, .ttlConstraint place stated⟩

theorem ttlOf_present (readable : Readable odrl) {seconds : Nat} {strict : Bool}
    (element : Recognises odrl (.ttl seconds strict)) : (ttlOf odrl).isSome := by
  have bounded := ttlOf_iff readable (seconds + 1)
  cases held : ttlOf odrl with
  | some ttl => rfl
  | none =>
      rw [held] at bounded
      have impossible := bounded.mp trivial seconds strict element
      omega

end Documents

section Documents

variable [External]

/-- What a run over the documents leaves behind. -/
structure Composed (start : FullReadRestriction) (policies : List Json)
    (restriction : FullReadRestriction) : Prop where
  readable : ∀ odrl ∈ policies, Readable odrl
  columns : restriction.allowedColumns =
    combine intersectColumns start.allowedColumns (policies.map columnsOf)
  rowPredicate : restriction.rowPredicate =
    combine andRowPredicates start.rowPredicate (policies.map rowPredicateOf)
  purpose : Agreed (start.purpose :: policies.map purposeOf) restriction.purpose
  ttl : restriction.maxCredentialTtlSeconds =
    combine min start.maxCredentialTtlSeconds (policies.map ttlOf)
  policyHashes : restriction.policyHashes = start.policyHashes ++ policies.map contentHashJson

theorem restrictedBy_ok (start : FullReadRestriction) (odrl : Json) (next : FullReadRestriction) :
    start.restrictedBy odrl = .ok next ↔ Composed start [odrl] next := by
  simp only [FullReadRestriction.restrictedBy, bind_eq_ok, pure_eq, Except.ok.injEq]
  constructor
  · rintro ⟨columns, first, rowPredicate, second, stated, third, purpose, agreed, ttl, fourth, rfl⟩
    have readColumns : columnsOf odrl = columns := by rw [columnsOf, first]; rfl
    have readPredicate : rowPredicateOf odrl = rowPredicate := by rw [rowPredicateOf, second]; rfl
    have readPurpose : purposeOf odrl = stated := by rw [purposeOf, third]; rfl
    have readTtl : ttlOf odrl = ttl := by rw [ttlOf, fourth]; rfl
    subst readColumns readPredicate readPurpose readTtl
    refine ⟨?_, rfl, rfl, (agree_ok _ _ _ _).mp agreed, rfl, rfl⟩
    intro other member
    rw [List.mem_singleton.mp member]
    exact ⟨first, second, third, fourth⟩
  · intro composed
    have readable := composed.readable odrl (List.mem_singleton_self odrl)
    refine ⟨_, readable.columns, _, readable.rowPredicate, _, readable.purpose, _,
      (agree_ok purposeConflict _ _ _).mpr composed.purpose, _, readable.ttl, ?_⟩
    exact FullReadRestriction.ext composed.columns.symm composed.rowPredicate.symm rfl
      composed.ttl.symm composed.policyHashes.symm

theorem Composed.nil_iff (start restriction : FullReadRestriction) :
    Composed start [] restriction ↔ start = restriction := by
  constructor
  · intro composed
    refine FullReadRestriction.ext composed.columns.symm composed.rowPredicate.symm ?_
      composed.ttl.symm ((List.append_nil _).symm.trans composed.policyHashes.symm)
    refine Agreed.unique ?_ composed.purpose
    exact ⟨fun value held => (List.mem_singleton.mp held).symm,
      fun value held => List.mem_singleton.mpr held.symm⟩
  · rintro rfl
    refine ⟨fun odrl member => absurd member List.not_mem_nil, rfl, rfl, ?_, rfl, (List.append_nil _).symm⟩
    exact ⟨fun value held => (List.mem_singleton.mp held).symm,
      fun value held => List.mem_singleton.mpr held.symm⟩

theorem Composed.cons {start next restriction : FullReadRestriction} {odrl : Json}
    {rest : List Json} (first : Composed start [odrl] next) :
    Composed next rest restriction ↔ Composed start (odrl :: rest) restriction := by
  have readable := first.readable odrl (List.mem_singleton_self odrl)
  have agreed := @Agreed.cons_cons _ _ _ _ restriction.purpose (rest.map purposeOf) first.purpose
  have hashes := first.policyHashes
  constructor
  · intro later
    refine ⟨?_, ?_, ?_, agreed.mp later.purpose, ?_, ?_⟩
    · intro other member
      rcases List.mem_cons.mp member with rfl | listed
      · exact readable
      · exact later.readable other listed
    · rw [later.columns, first.columns]
      rfl
    · rw [later.rowPredicate, first.rowPredicate]
      rfl
    · rw [later.ttl, first.ttl]
      rfl
    · rw [later.policyHashes, hashes]
      simp
  · intro whole
    refine ⟨fun other member => whole.readable other (List.mem_cons_of_mem _ member), ?_, ?_,
      agreed.mpr whole.purpose, ?_, ?_⟩
    · rw [whole.columns, first.columns]
      rfl
    · rw [whole.rowPredicate, first.rowPredicate]
      rfl
    · rw [whole.ttl, first.ttl]
      rfl
    · rw [whole.policyHashes, hashes]
      simp

theorem policies_composed (policies : List Json) (start restriction : FullReadRestriction) :
    policies.foldlM FullReadRestriction.restrictedBy start = .ok restriction ↔
      Composed start policies restriction := by
  induction policies generalizing start with
  | nil => rw [List.foldlM_nil, pure_eq, Except.ok.injEq, Composed.nil_iff]
  | cons odrl rest ih =>
      simp only [List.foldlM_cons, bind_eq_ok, restrictedBy_ok, ih]
      constructor
      · rintro ⟨next, first, later⟩
        exact first.cons.mp later
      · intro whole
        let next : FullReadRestriction :=
          { allowedColumns := combine intersectColumns start.allowedColumns [columnsOf odrl]
            rowPredicate := combine andRowPredicates start.rowPredicate [rowPredicateOf odrl]
            purpose := start.purpose.or (purposeOf odrl)
            maxCredentialTtlSeconds := combine min start.maxCredentialTtlSeconds [ttlOf odrl]
            policyHashes := start.policyHashes ++ [contentHashJson odrl] }
        have first : Composed start [odrl] next :=
          ⟨fun other member => whole.readable other
            (List.mem_cons.mpr (.inl (List.mem_singleton.mp member))), rfl, rfl,
            whole.purpose.head, rfl, rfl⟩
        exact ⟨next, first, first.cons.mpr whole⟩

/-- Every element of every document bounds the restriction, more documents leave no more
access, and the order of the documents is the order of what comes out. -/
structure OnlyRestricts (reading : PredicateReading ρ) (policies : List Json)
    (restriction : FullReadRestriction) : Prop where
  elements : ∀ odrl ∈ policies, ∀ element, Recognises odrl element →
    NoMorePermissive reading restriction element
  narrowed : ∀ more stricter, policies ⊆ more →
    FullReadRestriction.fromOdrlPolicies more = .ok stricter → NoWider reading stricter restriction
  permuted : ∀ other, policies.Perm other → ∃ same,
    FullReadRestriction.fromOdrlPolicies other = .ok same ∧ SameUpToOrder restriction same

variable {reading : PredicateReading ρ} {policies : List Json} {restriction : FullReadRestriction}

theorem Composed.column_iff (composed : Composed .unrestricted policies restriction)
    (column : String) :
    Allows (fun allowed column => column ∈ allowed) restriction.allowedColumns column ↔
      ∀ odrl ∈ policies, LeadingColumn odrl column := by
  rw [composed.columns]
  exact (allows_combine_map mem_intersectColumns policies columnsOf column).trans
    (forall₂_congr fun odrl member => leadingColumn_iff (composed.readable odrl member) column)

theorem Composed.row_iff (composed : Composed .unrestricted policies restriction)
    (reading : PredicateReading ρ) (row : ρ) :
    Allows reading.holds restriction.rowPredicate row ↔
      ∀ odrl ∈ policies, LeadingRow reading odrl row := by
  rw [composed.rowPredicate]
  exact (allows_combine_map reading.conjunction policies rowPredicateOf row).trans
    (forall₂_congr fun odrl member => leadingRow_iff reading (composed.readable odrl member) row)

theorem Composed.ttl_iff (composed : Composed .unrestricted policies restriction)
    (seconds : Nat) :
    Allows NoLonger restriction.maxCredentialTtlSeconds seconds ↔
      ∀ odrl ∈ policies, ∀ other strict, Recognises odrl (.ttl other strict) →
        seconds ≤ other := by
  rw [composed.ttl]
  exact (allows_combine_map ttl_meet policies ttlOf seconds).trans
    (forall₂_congr fun odrl member => ttlOf_iff (composed.readable odrl member) seconds)

omit [External] in
/-- Where some document has a bound, the whole list has one. -/
theorem present_of {α : Type} {meet : α → α → α} {read : Json → Option α} {odrl : Json}
    (member : odrl ∈ policies) (present : (read odrl).isSome) :
    ∃ bound, combine meet none (policies.map read) = some bound :=
  Option.isSome_iff_exists.mp ((combine_isSome none _).mpr
    (.inr ⟨read odrl, List.mem_map_of_mem member, present⟩))

theorem Composed.ttl_attained (composed : Composed .unrestricted policies restriction)
    (seconds : Nat) (held : restriction.maxCredentialTtlSeconds = some seconds) :
    ∃ odrl ∈ policies, ∃ strict, Recognises odrl (.ttl seconds strict) := by
  have listed := combine_attained min_selects (composed.ttl.symm.trans held)
  obtain ⟨odrl, member, own⟩ := List.mem_map.mp listed
  exact ⟨odrl, member, ttlOf_attained (composed.readable odrl member) seconds own⟩

theorem elements_of_leading (composed : Composed .unrestricted policies restriction)
    (decide : LeadingDecide reading policies) {odrl : Json} (member : odrl ∈ policies)
    {element : RestrictingElement} (element_ : Recognises odrl element) :
    NoMorePermissive reading restriction element := by
  have readable := composed.readable odrl member
  cases element with
  | columns allowed =>
      obtain ⟨columns, held⟩ := present_of member (columnsOf_present readable element_)
      refine ⟨columns, composed.columns.trans held, ?_⟩
      intro column listed
      refine decide.columns odrl member allowed element_ column ?_
      rw [← composed.column_iff, composed.columns.trans held]
      exact listed
  | rowPredicate predicate =>
      obtain ⟨required, held⟩ := present_of member (rowPredicateOf_present readable element_)
      refine ⟨required, composed.rowPredicate.trans held, ?_⟩
      intro row satisfied
      refine decide.rowPredicate odrl member predicate element_ row ?_
      rw [← composed.row_iff reading, composed.rowPredicate.trans held]
      exact satisfied
  | purpose purpose =>
      refine composed.purpose.each purpose (List.mem_cons_of_mem _ ?_)
      rw [← purposeOf_each readable element_]
      exact List.mem_map_of_mem member
  | ttl seconds strict =>
      obtain ⟨ttl, held⟩ := present_of member (ttlOf_present readable element_)
      have bounded := (composed.ttl_iff ttl).mp (by
        rw [composed.ttl.trans held]
        exact Nat.le_refl ttl)
      refine ⟨ttl, composed.ttl.trans held, ?_⟩
      cases strict with
      | false => exact bounded odrl member seconds false element_
      | true =>
          obtain ⟨other, listed, less, strict, stated, below⟩ :=
            decide.ttl odrl member seconds element_
          have least := bounded other listed less strict stated
          rw [if_pos rfl]
          omega

theorem leading_of_elements (composed : Composed .unrestricted policies restriction)
    (elements : ∀ odrl ∈ policies, ∀ element, Recognises odrl element →
      NoMorePermissive reading restriction element) : LeadingDecide reading policies where
  columns odrl member allowed element column leads := by
    obtain ⟨columns, held, within⟩ := elements odrl member _ element
    rw [← composed.column_iff, held] at leads
    exact within column leads
  rowPredicate odrl member predicate element row leads := by
    obtain ⟨required, held, implies⟩ := elements odrl member _ element
    rw [← composed.row_iff reading, held] at leads
    exact implies row leads
  ttl odrl member seconds element := by
    obtain ⟨ttl, held, below⟩ := elements odrl member _ element
    rw [if_pos rfl] at below
    obtain ⟨other, listed, strict, stated⟩ := composed.ttl_attained ttl held
    exact ⟨other, listed, ttl, strict, stated, below⟩

theorem Composed.noWider {more : List Json} {stricter : FullReadRestriction}
    (composed : Composed .unrestricted policies restriction)
    (wider : Composed .unrestricted more stricter) (within : policies ⊆ more) :
    NoWider reading stricter restriction where
  columns allowed held := by
    obtain ⟨columns, found, narrows⟩ := combine_narrows mem_intersectColumns
      (List.map_subset columnsOf within) (composed.columns.symm.trans held)
    exact ⟨columns, wider.columns.trans found, narrows⟩
  rowPredicate predicate held := by
    obtain ⟨required, found, narrows⟩ := combine_narrows reading.conjunction
      (List.map_subset rowPredicateOf within) (composed.rowPredicate.symm.trans held)
    exact ⟨required, wider.rowPredicate.trans found, narrows⟩
  purpose purpose held := by
    refine wider.purpose.each purpose (List.mem_cons_of_mem _ ?_)
    rcases List.mem_cons.mp (composed.purpose.present purpose held) with start | listed
    · cases start
    · exact List.map_subset purposeOf within listed
  ttl seconds held := by
    obtain ⟨ttl, found, narrows⟩ := combine_narrows ttl_meet
      (List.map_subset ttlOf within) (composed.ttl.symm.trans held)
    exact ⟨ttl, wider.ttl.trans found, narrows ttl (Nat.le_refl ttl)⟩

theorem Composed.columns_nodup (composed : Composed .unrestricted policies restriction)
    {allowed : List String} (held : restriction.allowedColumns = some allowed) :
    allowed.Nodup := by
  refine combine_keeps List.Nodup ?_ none _ (by simp) ?_ allowed (composed.columns.symm.trans held)
  · intro left right distinct _
    rw [intersectColumns, retainAllowedColumns_eq]
    exact distinct.filter _
  · intro bound member value present
    obtain ⟨odrl, listed, rfl⟩ := List.mem_map.mp member
    exact columnsOf_nodup (composed.readable odrl listed) value present

theorem Composed.permuted (composed : Composed .unrestricted policies restriction)
    {other : List Json} (perm : policies.Perm other) :
    ∃ same, Composed .unrestricted other same ∧ SameUpToOrder restriction same := by
  let same : FullReadRestriction :=
    { allowedColumns := combine intersectColumns none (other.map columnsOf)
      rowPredicate := combine andRowPredicates none (other.map rowPredicateOf)
      purpose := restriction.purpose
      maxCredentialTtlSeconds := combine min none (other.map ttlOf)
      policyHashes := other.map contentHashJson }
  have again : Composed .unrestricted other same := by
    refine ⟨fun odrl member => composed.readable odrl (perm.mem_iff.mpr member), rfl, rfl, ?_,
      rfl, rfl⟩
    refine (Agreed.congr ?_).mp composed.purpose
    intro value
    rw [List.mem_cons, List.mem_cons, (perm.map purposeOf).mem_iff]
  refine ⟨same, again, ?_⟩
  constructor
  · have related : Option.Rel _ restriction.allowedColumns same.allowedColumns :=
      composed.columns ▸ combine_perm mem_intersectColumns (perm.map columnsOf)
    refine rel_imp related ?_
    intro columns held others found members
    exact (List.perm_ext_iff_of_nodup (composed.columns_nodup held)
      (again.columns_nodup found)).mpr members
  · have related : Option.Rel _ restriction.rowPredicate same.rowPredicate :=
      composed.rowPredicate ▸ combine_perm holdsAt_meet (perm.map rowPredicateOf)
    refine rel_imp related ?_
    intro left _ right _ agree ρ reading row
    exact agree ⟨ρ, reading, row⟩
  · rfl
  · have related : Option.Rel _ restriction.maxCredentialTtlSeconds same.maxCredentialTtlSeconds :=
      composed.ttl ▸ combine_perm ttl_meet (perm.map ttlOf)
    refine rel_eq (rel_imp related ?_)
    intro left _ right _ agree
    exact Nat.le_antisymm ((agree left).mp (Nat.le_refl left)) ((agree right).mpr (Nat.le_refl right))
  · rw [composed.policyHashes]
    exact perm.map contentHashJson

end Documents

section Filters

open SailSpec (FieldType)

variable [SailSpec]

theorem andRowPredicates_denotes {metadata : TableMetadata FieldType} {left right : Json}
    {expression : FilterExpression}
    (means : Denotes metadata (andRowPredicates left right) expression) :
    ∃ first second, expression = .and first second ∧ Denotes metadata left first ∧
      Denotes metadata right second := by
  have typed : filterType (andRowPredicates left right) = .ok "and" := by
    simp [filterType, andRowPredicates, List.lookup, Json.asStr]
  have leftStored : (andRowPredicates left right).get "left" = some left := by
    simp [andRowPredicates, List.lookup]
  have rightStored : (andRowPredicates left right).get "right" = some right := by
    simp [andRowPredicates]
  have kinds : ∀ kind, filterType (andRowPredicates left right) = .ok kind → kind = "and" :=
    fun kind own => Except.ok.inj (own.symm.trans typed)
  cases means with
  | and _ leftChild rightChild leftMeans rightMeans =>
      cases leftStored.symm.trans leftChild
      cases rightStored.symm.trans rightChild
      exact ⟨_, _, rfl, leftMeans, rightMeans⟩
  | always own named =>
      cases kinds _ own
      simp at named
  | or own | not own => exact absurd (kinds _ own) (by decide)
  | test test own | foreignTest test _ own => cases test <;> exact absurd (kinds _ own) (by decide)
  | compare comparison own | foreignCompare comparison _ own =>
      cases comparison <;> exact absurd (kinds _ own) (by decide)
  | isIn own | notIn own => exact absurd (kinds _ own) (by decide)
  | foreignSet _ own member =>
      cases kinds _ own
      simp at member

theorem satisfies_and (metadata : TableMetadata FieldType) (left right : Json) (row : Row) :
    Satisfies metadata (andRowPredicates left right) row ↔
      Satisfies metadata left row ∧ Satisfies metadata right row := by
  constructor
  · rintro ⟨expression, means, holds⟩
    obtain ⟨first, second, rfl, leftMeans, rightMeans⟩ := andRowPredicates_denotes means
    obtain ⟨leftHolds, rightHolds⟩ := (ThreeValued.Truth.and_eq_yes _ _).mp holds
    exact ⟨⟨first, leftMeans, leftHolds⟩, second, rightMeans, rightHolds⟩
  · rintro ⟨⟨first, leftMeans, leftHolds⟩, second, rightMeans, rightHolds⟩
    refine ⟨.and first second, ?_, (ThreeValued.Truth.and_eq_yes _ _).mpr ⟨leftHolds, rightHolds⟩⟩
    refine .and ?_ ?_ ?_ leftMeans rightMeans <;>
      simp [filterType, andRowPredicates, List.lookup, Json.asStr]

/-- Row predicates read as the filters of a scan. -/
def PredicateReading.ofFilters (metadata : TableMetadata FieldType) : PredicateReading Row where
  holds := Satisfies metadata
  conjunction := satisfies_and metadata

end Filters

section Decision

variable [External] {reading : PredicateReading ρ} {policies : List Json}
  {restriction : FullReadRestriction}

theorem onlyRestricts_iff
    (composed : FullReadRestriction.fromOdrlPolicies policies = .ok restriction) :
    OnlyRestricts reading policies restriction ↔ LeadingDecide reading policies := by
  have whole := (policies_composed policies .unrestricted restriction).mp composed
  constructor
  · intro restricts
    exact leading_of_elements whole restricts.elements
  · intro decides
    refine ⟨fun odrl member element recognised => elements_of_leading whole decides member recognised,
      ?_, ?_⟩
    · intro more stricter within parsed
      exact whole.noWider ((policies_composed more .unrestricted stricter).mp parsed) within
    · intro other perm
      obtain ⟨same, again, ordered⟩ := whole.permuted perm
      exact ⟨same, (policies_composed other .unrestricted same).mpr again, ordered⟩

end Decision

section Samples

@[reducible] def constantExternal : External where
  sha256 _ := ⟨String.ofList (List.replicate 64 '0'), by simp, by simp⟩
  parseUrl _ := none
  toRfc3339 _ := ""
  serializeTimestamp _ := ""
  constraintText text := text

def columnsOfSample (columns : List String) : Json :=
  .obj [("allowed-columns", .arr (columns.map .str))]

/-- Two columns at the top, one of them in the constraint of a permission. -/
def mixedSample : Json :=
  .obj [("allowed-columns", .arr [.str "id", .str "email"]),
    ("permission", .obj [("constraint", .obj [("leftOperand", .str "column"),
      ("operator", .str "eq"), ("rightOperand", .str "id")])])]

def columnsRestriction (columns : List String) (odrl : Json) : FullReadRestriction where
  allowedColumns := some columns
  rowPredicate := none
  purpose := none
  maxCredentialTtlSeconds := none
  policyHashes := [@contentHashJson constantExternal odrl]

theorem onlyRestricts_sample : ∃ (_ : External) (policies : List Json)
    (restriction : FullReadRestriction),
    FullReadRestriction.fromOdrlPolicies policies = .ok restriction ∧
      ∀ reading : PredicateReading Unit, OnlyRestricts reading policies restriction := by
  let _ := constantExternal
  refine ⟨constantExternal, [columnsOfSample ["id"]],
    columnsRestriction ["id"] (columnsOfSample ["id"]), rfl, ?_⟩
  intro reading
  refine (onlyRestricts_iff rfl).mpr ⟨?_, ?_, ?_⟩
  · intro odrl member allowed element column leads
    have leading := leads odrl member
    rw [List.mem_singleton.mp member] at element leading
    cases element with
    | columnSpelling place read =>
        cases List.mem_singleton.mp place
        exact leading allowed read
    | columnConstraint place => exact absurd place List.not_mem_nil
  · intro odrl member predicate element
    rw [List.mem_singleton.mp member] at element
    cases element with
    | predicateSpelling place => exact absurd place List.not_mem_nil
    | predicateConstraint place => exact absurd place List.not_mem_nil
  · intro odrl member seconds element
    rw [List.mem_singleton.mp member] at element
    generalize strict : true = flag at element
    cases element with
    | ttlSpelling => cases strict
    | ttlConstraint place => exact absurd place List.not_mem_nil

theorem mixedColumns_widen : ∃ (_ : External) (policies : List Json)
    (restriction : FullReadRestriction),
    FullReadRestriction.fromOdrlPolicies policies = .ok restriction ∧
      ∀ reading : PredicateReading Unit, ¬OnlyRestricts reading policies restriction := by
  refine ⟨constantExternal, [mixedSample], columnsRestriction ["id", "email"] mixedSample, rfl, ?_⟩
  let _ := constantExternal
  intro reading restricts
  have element : Recognises mixedSample (.columns ["id"]) :=
    .columnConstraint List.mem_cons_self rfl
  obtain ⟨columns, held, within⟩ := restricts.elements mixedSample List.mem_cons_self _ element
  cases held
  exact absurd (within "email" (by decide)) (by decide)

end Samples

end LakeCat
