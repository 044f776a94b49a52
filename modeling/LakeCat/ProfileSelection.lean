import LakeCat.PoliciesRestrict
import LakeCat.StorageProfiles

/-!
Which profile the loop over the storage profiles selects. It keeps the longest prefix so
far and stops at the first tie with it, also where a longer prefix is still to come.
-/

namespace LakeCat

open Fallible

def StorageProfile.reach (profile : StorageProfile) : Nat :=
  profile.locationPrefix.utf8ByteSize

/-- Every other profile has a shorter prefix. -/
def LongestOf (profiles : List StorageProfile) (longest : StorageProfile) : Prop :=
  longest ∈ profiles ∧ ∀ other ∈ profiles, other = longest ∨ other.reach < longest.reach

/-- Two different profiles have the longest prefix. -/
def TiedOf (profiles : List StorageProfile) (first second : StorageProfile) : Prop :=
  first ∈ profiles ∧ second ∈ profiles ∧ first ≠ second ∧ first.reach = second.reach ∧
    ∀ other ∈ profiles, other.reach ≤ first.reach

/-- The profiles of the warehouse of a table whose prefixes contain its location. -/
def containing (profiles : List StorageProfile) (table : TableRecord) : List StorageProfile :=
  profiles.filter fun profile => profile.matchesTable table

theorem mem_containing {profiles : List StorageProfile} {table : TableRecord}
    {profile : StorageProfile} :
    profile ∈ containing profiles table ↔
      profile ∈ profiles ∧ profile.matchesTable table = true :=
  List.mem_filter

/-- Before the one longest prefix comes, two profiles tie for the longest so far. -/
def TiesEarly (table : TableRecord) (order : List StorageProfile) : Prop :=
  ∃ front first middle second later longest,
    containing order table = front ++ first :: middle ++ second :: later ∧
    first.reach = second.reach ∧ (∀ other ∈ front ++ middle, other.reach ≤ first.reach) ∧
    longest ∈ later ∧ LongestOf (containing order table) longest

theorem LongestOf.unique {profiles : List StorageProfile} {one other : StorageProfile}
    (longest : LongestOf profiles one) (another : LongestOf profiles other) : one = other := by
  rcases longest.2 other another.1 with same | below
  · exact same.symm
  · rcases another.2 one longest.1 with same | above
    · exact same
    · omega

theorem LongestOf.not_tied {profiles : List StorageProfile} {longest first second : StorageProfile}
    (unique : LongestOf profiles longest) : ¬TiedOf profiles first second := by
  rintro ⟨firstOwn, secondOwn, different, same, most⟩
  have above := most longest unique.1
  rcases unique.2 first firstOwn with rfl | below
  · rcases unique.2 second secondOwn with rfl | shorter
    · exact different rfl
    · omega
  · omega

/-- Some prefix is the longest, alone or in a tie. -/
theorem longest_or_tied {profiles : List StorageProfile} (occupied : profiles ≠ []) :
    (∃ longest, LongestOf profiles longest) ∨ ∃ first second, TiedOf profiles first second := by
  have nonzero : (profiles : Multiset StorageProfile) ≠ 0 := by simpa using occupied
  obtain ⟨longest, own, most⟩ := Multiset.exists_max_image StorageProfile.reach nonzero
  simp only [Multiset.mem_coe] at own most
  by_cases alone : ∀ other ∈ profiles, other = longest ∨ other.reach < longest.reach
  · exact .inl ⟨longest, own, alone⟩
  · push Not at alone
    obtain ⟨other, member, different, above⟩ := alone
    have within := most other member
    exact .inr ⟨longest, other, own, member, different.symm, by omega, most⟩

section

variable [External]

/-- What the choice among the profiles should be: the one with the longest prefix, none where
no prefix contains the location, and an error where the longest prefix is not of one profile. -/
structure SelectsLongest (profiles : List StorageProfile) (table : TableRecord)
    (result : LakeCatResult (Option StorageProfile)) : Prop where
  found : ∀ profile, result = .ok (some profile) ↔ LongestOf (containing profiles table) profile
  missing : result = .ok none ↔
    ∀ profile ∈ profiles, profile.matchesTable table = false
  ambiguous : (∃ first second, result = .error (ambiguousStorageProfile table first second)) ↔
    ∃ first second, TiedOf (containing profiles table) first second

theorem longestStorageProfile_append (table : TableRecord) (best : Option StorageProfile)
    (front later : List StorageProfile) :
    longestStorageProfile table best (front ++ later) =
      longestStorageProfile table best front >>= fun kept =>
        longestStorageProfile table kept later := by
  induction front generalizing best with
  | nil =>
      cases best <;> rfl
  | cons profile rest ih =>
      cases best with
      | none => exact ih _
      | some current =>
          rw [List.cons_append, longestStorageProfile, longestStorageProfile]
          split
          next => exact ih _
          next =>
            split
            next => rfl
            next => exact ih _

/-- Where the loop comes through, what it keeps has the one longest prefix. -/
theorem longestStorageProfile_longest (table : TableRecord) {current : StorageProfile}
    {profiles : List StorageProfile} {best : Option StorageProfile}
    (found : longestStorageProfile table (some current) profiles = .ok best) :
    ∃ longest, best = some longest ∧ LongestOf (current :: profiles) longest := by
  induction profiles generalizing current with
  | nil =>
      cases found
      exact ⟨current, rfl, List.mem_cons_self, fun other own => .inl (List.mem_singleton.mp own)⟩
  | cons profile rest ih =>
      rw [longestStorageProfile] at found
      split at found
      next longer =>
        obtain ⟨longest, rfl, own, most⟩ := ih found
        refine ⟨longest, rfl, List.mem_cons_of_mem _ own, fun other member => ?_⟩
        rcases List.mem_cons.mp member with rfl | later
        · right
          rcases most profile List.mem_cons_self with rfl | below
          · exact longer
          · exact longer.trans below
        · exact most other later
      next notLonger =>
        split at found
        next => cases found
        next different =>
          obtain ⟨longest, rfl, own, most⟩ := ih found
          have shorter : profile.reach < current.reach := by
            rw [StorageProfile.reach, StorageProfile.reach]
            omega
          refine ⟨longest, rfl, ?_, fun other member => ?_⟩
          · rcases List.mem_cons.mp own with rfl | later
            · exact List.mem_cons_self
            · exact List.mem_cons_of_mem _ (List.mem_cons_of_mem _ later)
          · rcases List.mem_cons.mp member with rfl | member
            · exact most other List.mem_cons_self
            · rcases List.mem_cons.mp member with rfl | later
              · right
                rcases most current List.mem_cons_self with rfl | below
                · exact shorter
                · exact shorter.trans below
              · exact most other (List.mem_cons_of_mem _ later)

/-- The loop stops at a tie with the longest prefix so far, and nowhere else. -/
theorem longestStorageProfile_tie (table : TableRecord) {best : Option StorageProfile}
    {profiles : List StorageProfile} {error : LakeCatError}
    (failed : longestStorageProfile table best profiles = .error error) :
    ∃ front second later current, profiles = front ++ second :: later ∧
      longestStorageProfile table best front = .ok (some current) ∧
      second.reach = current.reach ∧ error = ambiguousStorageProfile table current second := by
  induction profiles generalizing best with
  | nil => cases best <;> cases failed
  | cons profile rest ih =>
      cases best with
      | none =>
          obtain ⟨front, second, later, current, rfl, kept, same, text⟩ := ih failed
          exact ⟨profile :: front, second, later, current, rfl, kept, same, text⟩
      | some current =>
          rw [longestStorageProfile] at failed
          split at failed
          next longer =>
            obtain ⟨front, second, later, kept, rfl, came, same, text⟩ := ih failed
            refine ⟨profile :: front, second, later, kept, rfl, ?_, same, text⟩
            rw [longestStorageProfile, if_pos longer, came]
          next notLonger =>
            split at failed
            next equal =>
              cases failed
              exact ⟨[], profile, rest, current, rfl, rfl, equal, rfl⟩
            next different =>
              obtain ⟨front, second, later, kept, rfl, came, same, text⟩ := ih failed
              refine ⟨profile :: front, second, later, kept, rfl, ?_, same, text⟩
              rw [longestStorageProfile, if_neg notLonger, if_neg different, came]

theorem longestStorageProfile_start (table : TableRecord) {profiles : List StorageProfile}
    {best : Option StorageProfile} (found : longestStorageProfile table none profiles = .ok best) :
    (profiles = [] ∧ best = none) ∨
      ∃ longest, best = some longest ∧ LongestOf profiles longest := by
  cases profiles with
  | nil => exact .inl ⟨rfl, (Except.ok.inj found).symm⟩
  | cons first rest => exact .inr (longestStorageProfile_longest table found)

/-- What the loop does over all profiles that contain the location. -/
theorem storageProfileMatch_cases (order : List StorageProfile) (table : TableRecord) :
    (containing order table = [] ∧ storageProfileMatch order table = .ok none) ∨
    (∃ longest, LongestOf (containing order table) longest ∧
      storageProfileMatch order table = .ok (some longest)) ∨
    ∃ front first middle second later,
      containing order table = front ++ first :: middle ++ second :: later ∧
      first.reach = second.reach ∧ LongestOf (front ++ first :: middle) first ∧
      storageProfileMatch order table = .error (ambiguousStorageProfile table first second) := by
  cases outcome : storageProfileMatch order table with
  | ok best =>
      rcases longestStorageProfile_start table outcome with ⟨empty, rfl⟩ | ⟨chosen, rfl, most⟩
      · exact .inl ⟨empty, rfl⟩
      · exact .inr (.inl ⟨chosen, most, rfl⟩)
  | error error =>
      obtain ⟨passed, second, later, first, split, kept, same, rfl⟩ :=
        longestStorageProfile_tie table outcome
      rcases longestStorageProfile_start table kept with ⟨_, absent⟩ | ⟨chosen, own, most⟩
      · cases absent
      · cases own
        obtain ⟨front, middle, rfl⟩ := List.append_of_mem most.1
        exact .inr (.inr ⟨front, first, middle, second, later, split, same.symm, most, rfl⟩)

/-- What is selected does not depend on the order. -/
theorem SelectsLongest.perm {profiles order : List StorageProfile} {table : TableRecord}
    {result : LakeCatResult (Option StorageProfile)} (same : order.Perm profiles)
    (selects : SelectsLongest order table result) : SelectsLongest profiles table result := by
  have members (profile : StorageProfile) :
      profile ∈ containing profiles table ↔ profile ∈ containing order table :=
    (same.filter _).mem_iff.symm
  obtain ⟨found, missing, ambiguous⟩ := selects
  refine ⟨?_, ?_, ?_⟩
  · simpa only [LongestOf, members] using found
  · simpa only [same.mem_iff] using missing
  · simpa only [TiedOf, members] using ambiguous

omit [External] in
/-- The longest profile is neither before a tie with the longest so far nor part of it. -/
theorem LongestOf.later {front middle later : List StorageProfile}
    {first second longest : StorageProfile}
    (distinct : (front ++ first :: middle ++ second :: later).Nodup)
    (same : first.reach = second.reach)
    (most : ∀ other ∈ front ++ middle, other.reach ≤ first.reach)
    (unique : LongestOf (front ++ first :: middle ++ second :: later) longest) :
    longest ∈ later := by
  have different : first ≠ second := by
    rintro rfl
    simp [List.nodup_append] at distinct
  have notFirst : longest ≠ first := by
    rintro rfl
    rcases unique.2 second (by simp) with equal | below
    · exact different equal.symm
    · omega
  have above : first.reach < longest.reach := by
    rcases unique.2 first (by simp) with equal | below
    · exact absurd equal.symm notFirst
    · exact below
  have own := unique.1
  simp only [List.mem_append, List.mem_cons] at own
  rcases own with (early | rfl | early) | rfl | late
  · have within := most longest (List.mem_append_left _ early)
    omega
  · exact absurd rfl notFirst
  · have within := most longest (List.mem_append_right _ early)
    omega
  · omega
  · exact late

/-- The loop does not come past a tie with the longest so far. -/
theorem storageProfileMatch_stops {order : List StorageProfile} {table : TableRecord}
    {best : Option StorageProfile} {front middle later : List StorageProfile}
    {first second : StorageProfile}
    (split : containing order table = front ++ first :: middle ++ second :: later)
    (distinct : (containing order table).Nodup) (same : first.reach = second.reach)
    (most : ∀ other ∈ front ++ middle, other.reach ≤ first.reach) :
    storageProfileMatch order table ≠ .ok best := by
  intro outcome
  rw [split, List.append_cons] at distinct
  rw [storageProfileMatch, ← containing, split, List.append_cons, longestStorageProfile_append,
    bind_eq_ok] at outcome
  obtain ⟨kept, passed, _⟩ := outcome
  rcases longestStorageProfile_start table passed with ⟨empty, _⟩ | ⟨longest, _, unique⟩
  · simp at empty
  · have prefixDistinct := distinct.sublist (List.sublist_append_left _ later)
    exact List.not_mem_nil (unique.later prefixDistinct same most)

/-- The profile with the longest prefix is selected in an order of the profiles exactly when no
two others tie for the longest so far before it. -/
theorem storageProfileMatch_selectsLongest (profiles order : List StorageProfile)
    (table : TableRecord) (distinct : profiles.Nodup) (same : order.Perm profiles) :
    SelectsLongest profiles table (storageProfileMatch order table) ↔ ¬TiesEarly table order := by
  have contained : (containing order table).Nodup := (same.nodup_iff.mpr distinct).filter _
  constructor
  · rintro selects ⟨front, first, middle, second, later, longest, split, equal, most, late, unique⟩
    have selects := selects.perm same.symm
    exact storageProfileMatch_stops split contained equal most ((selects.found longest).mpr unique)
  · intro early
    apply SelectsLongest.perm same
    rcases storageProfileMatch_cases order table with
      ⟨empty, outcome⟩ | ⟨longest, unique, outcome⟩ |
        ⟨front, first, middle, second, later, split, equal, leads, outcome⟩
    · have none_there : ∀ profile ∈ order, profile.matchesTable table = false := by
        intro profile member
        by_contra matching
        have kept := mem_containing.mpr ⟨member, Bool.not_eq_false _ ▸ matching⟩
        rw [empty] at kept
        cases kept
      rw [outcome]
      refine ⟨fun profile => iff_of_false nofun ?_, iff_of_true rfl none_there,
        iff_of_false nofun ?_⟩
      · intro longest
        have own := longest.1
        rw [empty] at own
        cases own
      · rintro ⟨first, second, own, _⟩
        rw [empty] at own
        cases own
    · rw [outcome]
      refine ⟨fun profile => ⟨?_, ?_⟩, iff_of_false nofun ?_, iff_of_false nofun ?_⟩
      · intro chosen
        cases chosen
        exact unique
      · intro another
        rw [unique.unique another]
      · intro nowhere
        obtain ⟨member, matching⟩ := mem_containing.mp unique.1
        rw [nowhere longest member] at matching
        cases matching
      · rintro ⟨first, second, tied⟩
        exact unique.not_tied tied
    · have most : ∀ other ∈ front ++ middle, other.reach ≤ first.reach := by
        intro other member
        rcases leads.2 other (by simp at member ⊢; tauto) with rfl | below
        · exact le_rfl
        · exact below.le
      have shared : ∀ longest, ¬LongestOf (containing order table) longest := by
        intro longest unique
        have late := unique
        rw [split] at late contained
        exact early ⟨front, first, middle, second, later, longest, split, equal, most,
          late.later contained equal most, unique⟩
      have occupied : containing order table ≠ [] := by
        rw [split]
        simp
      rw [outcome]
      refine ⟨fun profile => iff_of_false nofun (shared profile), iff_of_false nofun ?_,
        iff_of_true ⟨first, second, rfl⟩ ?_⟩
      · intro nowhere
        have member : first ∈ containing order table := by
          rw [split]
          simp
        obtain ⟨own, matching⟩ := mem_containing.mp member
        rw [nowhere first own] at matching
        cases matching
      · rcases longest_or_tied occupied with ⟨longest, unique⟩ | tied
        · exact absurd unique (shared longest)
        · exact tied

end

section Samples

/-- A profile under which reads are governed. -/
def governedProfile (profileId locationPrefix : String) : StorageProfile where
  profileId := profileId
  warehouse := sampleIdent.warehouse
  locationPrefix := locationPrefix
  provider := .s3
  issuanceMode := .governedReadRequired
  secretRef := none
  publicConfig := ∅

theorem storageProfileMatch_selectsLongest_sample :
    ∃ _ : External, SelectsLongest
      [governedProfile "lake" "s3://lake", governedProfile "orders" "s3://lake/orders"] sampleTable
      (storageProfileMatch [governedProfile "orders" "s3://lake/orders",
        governedProfile "lake" "s3://lake"] sampleTable) := by
  let _ := constantExternal
  refine ⟨constantExternal, (storageProfileMatch_selectsLongest _ _ _ ?_ ?_).mpr ?_⟩
  · simp [governedProfile]
  · exact .swap _ _ _
  · rintro ⟨front, first, middle, second, later, longest, split, _, _, late, _⟩
    have size := congrArg List.length split
    have contained : (containing [governedProfile "orders" "s3://lake/orders",
        governedProfile "lake" "s3://lake"] sampleTable).length = 2 := by decide +kernel
    have occupied := List.length_pos_of_mem late
    simp only [contained, List.length_append, List.length_cons] at size
    omega

/-- Two profiles of the whole lake hide the one of the table, which comes after them. -/
theorem tiedProfiles_hideLonger :
    ¬∀ (_ : External) (profiles order : List StorageProfile) (table : TableRecord),
      profiles.Nodup → order.Perm profiles →
      SelectsLongest profiles table (storageProfileMatch order table) := by
  intro always
  let _ := constantExternal
  let first := governedProfile "first" "s3://lake"
  let second := governedProfile "second" "s3://lake"
  let narrow := governedProfile "orders" "s3://lake/orders"
  have selects := always constantExternal [first, second, narrow] _ sampleTable
    (by simp [first, second, narrow, governedProfile]) (.refl _)
  have failed : (storageProfileMatch [first, second, narrow] sampleTable).isOk = false := by
    decide +kernel
  have contained : containing [first, second, narrow] sampleTable = [first, second, narrow] := by
    rw [containing, List.filter_eq_self]
    decide +kernel
  have longest : LongestOf (containing [first, second, narrow] sampleTable) narrow := by
    rw [contained]
    refine ⟨by simp, fun other own => ?_⟩
    simp only [List.mem_cons, List.not_mem_nil, or_false] at own
    rcases own with rfl | rfl | rfl
    · exact .inr (by decide +kernel)
    · exact .inr (by decide +kernel)
    · exact .inl rfl
  rw [(selects.found narrow).mpr longest] at failed
  cases failed

end Samples

end LakeCat
