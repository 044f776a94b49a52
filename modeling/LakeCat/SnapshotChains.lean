import LakeCat.FetchSteps
import LakeCat.ParentWalks

/-!
Incremental scans read the snapshots between two of a table. The loop follows
parent ids that a client wrote, so it is a walk among the listed snapshots, and
it only returns if that walk ends.
-/

namespace LakeCat

open Fallible Relation

section

variable {Field : Type} (metadata : TableMetadata Field)

/-- The listed snapshot that a snapshot names as its parent. -/
def parentSnapshot (snapshot : Snapshot) : Option Snapshot :=
  snapshot.parentSnapshotId.bind fun parent =>
    metadata.snapshots.find? fun other => other.snapshotId = parent

def ParentOf (snapshot parent : Snapshot) : Prop :=
  ParentWalk.Moves (parentSnapshot metadata) snapshot parent

/-- A snapshot of the first id is a parent, or a parent of a parent, of the one the last id
selects. -/
def StrictAncestor (first last : Int) : Prop :=
  ∃ tip ancestor, selectedSnapshot metadata (some last) = .ok tip ∧
    TransGen (ParentOf metadata) tip ancestor ∧ ancestor.snapshotId = first

/-- From the selected snapshot, parents lead back to a snapshot already seen, and never to one of
the first id. -/
def RunsInCircles (first last : Int) : Prop :=
  ∃ tip, selectedSnapshot metadata (some last) = .ok tip ∧
    ParentWalk.Circles (parentSnapshot metadata) tip ∧
    ∀ ancestor, ReflTransGen (ParentOf metadata) tip ancestor → ancestor.snapshotId ≠ first

/-- The snapshots after the first id up to the last, each after its parent. -/
structure ChainBetween (first last : Int) (snapshots : List Snapshot) : Prop where
  parents : snapshots.IsChain fun older newer => ParentOf metadata newer older
  tip : ∃ tip, selectedSnapshot metadata (some last) = .ok tip ∧ snapshots.getLast? = some tip
  base : ∃ oldest base, snapshots.head? = some oldest ∧ ParentOf metadata oldest base ∧
    base.snapshotId = first
  excluded : ∀ snapshot ∈ snapshots, snapshot.snapshotId ≠ first
  once : (snapshots.map Snapshot.snapshotId).Nodup

/-- The loop has come to a result. -/
def Returned (result : LakeCatResult (List Snapshot)) : Prop :=
  result ≠ .error (.unavailable "the snapshot chain is still being walked")

/-- What is asked of `incremental_snapshot_chain`. -/
structure ChainsExactly (startSnapshotId endSnapshotId : Option Int) : Prop where
  returns : ∃ fuel,
    Returned (incrementalSnapshotChain fuel metadata startSnapshotId endSnapshotId)
  succeeds : (∃ fuel snapshots,
      incrementalSnapshotChain fuel metadata startSnapshotId endSnapshotId = .ok snapshots) ↔
    ∃ first last, startSnapshotId = some first ∧ endSnapshotId = some last ∧
      (first = last ∨ StrictAncestor metadata first last)
  between : ∀ fuel snapshots,
    incrementalSnapshotChain fuel metadata startSnapshotId endSnapshotId = .ok snapshots →
    ∃ first last, startSnapshotId = some first ∧ endSnapshotId = some last ∧
      (first = last ∧ snapshots = [] ∨
        first ≠ last ∧ ChainBetween metadata first last snapshots)

variable {metadata}

theorem selectedSnapshot_ok (requested : Int) (snapshot : Snapshot) :
    selectedSnapshot metadata (some requested) = .ok snapshot ↔
      metadata.snapshots.find? (fun other => other.snapshotId = requested) = some snapshot := by
  rw [selectedSnapshot, okOr_ok]

theorem parentOf_iff (snapshot parent : Snapshot) :
    ParentOf metadata snapshot parent ↔ ∃ requested, snapshot.parentSnapshotId = some requested ∧
      selectedSnapshot metadata (some requested) = .ok parent := by
  simp only [ParentOf, ParentWalk.Moves, parentSnapshot, Option.bind_eq_some_iff,
    selectedSnapshot_ok]

theorem parentOf_listed (snapshot parent : Snapshot) (moved : ParentOf metadata snapshot parent) :
    parent ∈ metadata.snapshots := by
  obtain ⟨_, _, selected⟩ := (parentOf_iff _ _).mp moved
  exact List.mem_of_find?_eq_some ((selectedSnapshot_ok _ _).mp selected)

section Loop

variable {first last : Int}

theorem incrementalSnapshots_parent {fuel : Nat} {cursor parent : Snapshot}
    (snapshots : List Snapshot) (unmet : cursor.snapshotId ≠ first)
    (moved : ParentOf metadata cursor parent) :
    incrementalSnapshots metadata first last (fuel + 1) cursor snapshots =
      incrementalSnapshots metadata first last fuel parent (cursor :: snapshots) := by
  obtain ⟨requested, named, selected⟩ := (parentOf_iff _ _).mp moved
  rw [incrementalSnapshots, if_neg unmet, named]
  simp only [selected, ok_bind]

theorem incrementalSnapshots_stuck {fuel : Nat} {cursor : Snapshot} (snapshots : List Snapshot)
    (unmet : cursor.snapshotId ≠ first) (last_one : parentSnapshot metadata cursor = none) :
    ∃ text, incrementalSnapshots metadata first last (fuel + 1) cursor snapshots =
      .error (.invalidArgument text) := by
  rw [incrementalSnapshots, if_neg unmet]
  cases named : cursor.parentSnapshotId with
  | none => exact ⟨_, rfl⟩
  | some requested =>
      rw [parentSnapshot, named, Option.bind_some] at last_one
      simp only [selectedSnapshot, last_one]
      exact ⟨_, rfl⟩

/-- The loop returns when the walk ends. -/
theorem incrementalSnapshots_returned (cursor : Snapshot) (snapshots : List Snapshot) :
    (∃ fuel, Returned (incrementalSnapshots metadata first last fuel cursor snapshots)) ↔
      ParentWalk.Ends (parentSnapshot metadata) (fun other => other.snapshotId = first)
        cursor := by
  constructor
  · rintro ⟨fuel, returned⟩
    induction fuel generalizing cursor snapshots with
    | zero => exact absurd rfl returned
    | succ fuel ih =>
        by_cases met : cursor.snapshotId = first
        · exact .met met
        · cases moved : parentSnapshot metadata cursor with
          | none => exact .stuck met moved
          | some parent =>
              rw [incrementalSnapshots_parent snapshots met moved] at returned
              exact .pass met moved (ih parent _ returned)
  · intro ended
    induction ended generalizing snapshots with
    | met met =>
        refine ⟨1, ?_⟩
        rw [incrementalSnapshots, if_pos met]
        exact fun same => by cases same
    | stuck unmet moved =>
        obtain ⟨text, failed⟩ :=
          @incrementalSnapshots_stuck _ metadata first last 0 _ snapshots unmet moved
        refine ⟨1, ?_⟩
        rw [failed]
        exact fun same => by cases same
    | pass unmet moved _ ih =>
        obtain ⟨fuel, returned⟩ := ih (_ :: snapshots)
        refine ⟨fuel + 1, ?_⟩
        rwa [incrementalSnapshots_parent snapshots unmet moved]

/-- The loop returns what the walk passes, latest first. -/
theorem incrementalSnapshots_ok (cursor : Snapshot) (snapshots result : List Snapshot) :
    (∃ fuel, incrementalSnapshots metadata first last fuel cursor snapshots = .ok result) ↔
      ∃ places, ParentWalk.Passes (parentSnapshot metadata)
        (fun other => other.snapshotId = first) cursor places ∧
          result = places.reverse ++ snapshots := by
  constructor
  · rintro ⟨fuel, walked⟩
    induction fuel generalizing cursor snapshots with
    | zero => cases walked
    | succ fuel ih =>
        by_cases met : cursor.snapshotId = first
        · rw [incrementalSnapshots, if_pos met] at walked
          obtain rfl := Except.ok.inj walked
          exact ⟨[], .done met, rfl⟩
        · cases moved : parentSnapshot metadata cursor with
          | none =>
              obtain ⟨text, failed⟩ :=
                @incrementalSnapshots_stuck _ metadata first last fuel cursor snapshots met moved
              rw [failed] at walked
              cases walked
          | some parent =>
              rw [incrementalSnapshots_parent snapshots met moved] at walked
              obtain ⟨places, passed, rfl⟩ := ih parent _ walked
              exact ⟨cursor :: places, .pass met moved passed, by simp⟩
  · rintro ⟨places, passed, rfl⟩
    induction passed generalizing snapshots with
    | done met => exact ⟨1, by rw [incrementalSnapshots, if_pos met]; rfl⟩
    | @pass cursor parent places unmet moved _ ih =>
        obtain ⟨fuel, walked⟩ := ih (cursor :: snapshots)
        refine ⟨fuel + 1, ?_⟩
        rw [incrementalSnapshots_parent snapshots unmet moved, walked]
        simp

end Loop

section Chain

variable {first last : Int}

theorem incrementalSnapshotChain_some (fuel : Nat) (different : first ≠ last) :
    incrementalSnapshotChain fuel metadata (some first) (some last) = (do
      let tip ← selectedSnapshot metadata (some last)
      incrementalSnapshots metadata first last fuel tip []) := by
  rw [incrementalSnapshotChain]
  simp only [okOr_some, ok_bind, if_neg different]

theorem incrementalSnapshotChain_same (fuel : Nat) (id : Int) :
    incrementalSnapshotChain fuel metadata (some id) (some id) = .ok [] := by
  rw [incrementalSnapshotChain]
  simp only [okOr_some, ok_bind, if_true]
  rfl

/-- A walk from another snapshot meets the first id only at a strict ancestor. -/
theorem strictAncestor_iff {tip : Snapshot} (different : first ≠ last)
    (selected : selectedSnapshot metadata (some last) = .ok tip) :
    StrictAncestor metadata first last ↔ ParentWalk.Meets (parentSnapshot metadata)
      (fun other => other.snapshotId = first) tip := by
  constructor
  · rintro ⟨other, ancestor, chosen, way, named⟩
    obtain rfl := Except.ok.inj (selected.symm.trans chosen)
    exact ⟨ancestor, way.to_reflTransGen, named⟩
  · rintro ⟨ancestor, way, named⟩
    rcases reflTransGen_iff_eq_or_transGen.mp way with rfl | strict
    · have own := (selectable_of_selected selected).1
      exact absurd (named.symm.trans own) different
    · exact ⟨tip, ancestor, selected, strict, named⟩

theorem chainBetween_of_passes {tip : Snapshot} {places : List Snapshot}
    (different : first ≠ last) (selected : selectedSnapshot metadata (some last) = .ok tip)
    (passed : ParentWalk.Passes (parentSnapshot metadata)
      (fun other => other.snapshotId = first) tip places) :
    ChainBetween metadata first last places.reverse := by
  have named := (selectable_of_selected selected).1
  have nonempty : places ≠ [] := by
    rintro rfl
    cases passed with
    | done met => exact different (met.symm.trans named)
  obtain ⟨newest, oldest, base, final, moved, met⟩ := passed.last nonempty
  have selectable : ∀ snapshot ∈ places, Selectable metadata snapshot := by
    intro snapshot member
    obtain ⟨fuel, walked⟩ := (@incrementalSnapshots_ok _ metadata first last tip [] _).mpr
      ⟨places, passed, rfl⟩
    refine incrementalSnapshots_selectable fuel tip [] _ (selectable_of_selected selected).2
      (by simp) walked snapshot ?_
    simpa using member
  refine ⟨?_, ⟨tip, selected, ?_⟩, ⟨oldest, base, ?_, moved, met⟩, ?_, ?_⟩
  · exact List.isChain_reverse.mpr passed.chain
  · rw [List.getLast?_reverse, newest]
  · rw [List.head?_reverse, final]
  · intro snapshot member
    exact passed.unmet snapshot (List.mem_reverse.mp member)
  · rw [List.map_reverse, List.nodup_reverse]
    refine passed.nodup.map_on ?_
    intro left leftIn right rightIn same
    have chosen := selectable left leftIn
    rw [Selectable, same] at chosen
    exact Except.ok.inj (chosen.symm.trans (selectable right rightIn))

theorem runsInCircles_iff {tip : Snapshot}
    (selected : selectedSnapshot metadata (some last) = .ok tip) :
    ¬RunsInCircles metadata first last ↔ ParentWalk.Ends (parentSnapshot metadata)
      (fun other => other.snapshotId = first) tip := by
  rw [ParentWalk.ends_iff metadata.snapshots parentOf_listed]
  constructor
  · intro straight
    by_cases met : ParentWalk.Meets (parentSnapshot metadata)
        (fun other => other.snapshotId = first) tip
    · exact .inl met
    · refine .inr fun around => straight ⟨tip, selected, around, ?_⟩
      exact fun ancestor way named => met ⟨ancestor, way, named⟩
  · rintro ended ⟨other, chosen, around, never⟩
    obtain rfl := Except.ok.inj (selected.symm.trans chosen)
    rcases ended with ⟨ancestor, way, named⟩ | straight
    · exact never ancestor way named
    · exact straight around

/-- The chain of two different ids returns unless its walk runs in circles. -/
theorem incrementalSnapshotChain_returned (different : first ≠ last) :
    (∃ fuel, Returned (incrementalSnapshotChain fuel metadata (some first) (some last))) ↔
      ¬RunsInCircles metadata first last := by
  simp only [incrementalSnapshotChain_some _ different]
  cases selected : selectedSnapshot metadata (some last) with
  | error error =>
      have failed : ¬RunsInCircles metadata first last := by
        rintro ⟨tip, chosen, _⟩
        rw [selected] at chosen
        cases chosen
      refine iff_of_true ⟨0, ?_⟩ failed
      have shape : ∃ text, error = .invalidArgument text := by
        rw [selectedSnapshot] at selected
        cases found : metadata.snapshots.find? (fun other => other.snapshotId = last) with
        | some snapshot => simp [found] at selected
        | none =>
            rw [found] at selected
            exact ⟨_, (Except.error.inj selected).symm⟩
      obtain ⟨text, rfl⟩ := shape
      exact fun same => by cases same
  | ok tip =>
      rw [runsInCircles_iff selected]
      exact incrementalSnapshots_returned tip []

end Chain

theorem chainsExactly_failed {startSnapshotId endSnapshotId : Option Int} (message : String)
    (failed : ∀ fuel, incrementalSnapshotChain fuel metadata startSnapshotId endSnapshotId =
      .error (.invalidArgument message))
    (missing : startSnapshotId = none ∨ endSnapshotId = none) :
    ChainsExactly metadata startSnapshotId endSnapshotId := by
  refine ⟨⟨0, ?_⟩, ⟨?_, ?_⟩, ?_⟩
  · rw [failed]
    exact fun same => by cases same
  · rintro ⟨fuel, snapshots, chained⟩
    rw [failed] at chained
    cases chained
  · rintro ⟨first, last, rfl, rfl, _⟩
    rcases missing with none | none <;> cases none
  · intro fuel snapshots chained
    rw [failed] at chained
    cases chained

theorem chainsExactly_same (id : Int) : ChainsExactly metadata (some id) (some id) := by
  refine ⟨⟨0, ?_⟩, ⟨?_, ?_⟩, ?_⟩
  · rw [incrementalSnapshotChain_same]
    exact fun same => by cases same
  · exact fun _ => ⟨id, id, rfl, rfl, .inl rfl⟩
  · exact fun _ => ⟨0, [], incrementalSnapshotChain_same 0 id⟩
  · intro fuel snapshots chained
    rw [incrementalSnapshotChain_same] at chained
    exact ⟨id, id, rfl, rfl, .inl ⟨rfl, (Except.ok.inj chained).symm⟩⟩

section Different

variable {first last : Int}

theorem incrementalSnapshotChain_ok (different : first ≠ last) (snapshots : List Snapshot) :
    (∃ fuel, incrementalSnapshotChain fuel metadata (some first) (some last) = .ok snapshots) ↔
      ∃ tip places, selectedSnapshot metadata (some last) = .ok tip ∧
        ParentWalk.Passes (parentSnapshot metadata) (fun other => other.snapshotId = first) tip
          places ∧ snapshots = places.reverse := by
  simp only [incrementalSnapshotChain_some _ different, bind_eq_ok]
  constructor
  · rintro ⟨fuel, tip, selected, walked⟩
    obtain ⟨places, passed, whole⟩ :=
      (incrementalSnapshots_ok tip [] snapshots).mp ⟨fuel, walked⟩
    exact ⟨tip, places, selected, passed, by simpa using whole⟩
  · rintro ⟨tip, places, selected, passed, rfl⟩
    obtain ⟨fuel, walked⟩ :=
      (@incrementalSnapshots_ok _ metadata first last tip [] places.reverse).mpr
        ⟨places, passed, by simp⟩
    exact ⟨fuel, tip, selected, walked⟩

theorem incrementalSnapshotChain_succeeds (different : first ≠ last) :
    (∃ fuel snapshots,
      incrementalSnapshotChain fuel metadata (some first) (some last) = .ok snapshots) ↔
      StrictAncestor metadata first last := by
  constructor
  · rintro ⟨fuel, snapshots, chained⟩
    obtain ⟨tip, places, selected, passed, _⟩ :=
      (incrementalSnapshotChain_ok different snapshots).mp ⟨fuel, chained⟩
    exact (strictAncestor_iff different selected).mpr
      (ParentWalk.meets_iff_passes.mpr ⟨places, passed⟩)
  · intro ancestor
    obtain ⟨tip, found, selected, way, named⟩ := ancestor
    have met := (strictAncestor_iff different selected).mp ⟨tip, found, selected, way, named⟩
    obtain ⟨places, passed⟩ := ParentWalk.meets_iff_passes.mp met
    obtain ⟨fuel, chained⟩ := (incrementalSnapshotChain_ok different places.reverse).mpr
      ⟨tip, places, selected, passed, rfl⟩
    exact ⟨fuel, places.reverse, chained⟩

theorem chainsExactly_different (different : first ≠ last) :
    ChainsExactly metadata (some first) (some last) ↔ ¬RunsInCircles metadata first last := by
  constructor
  · intro exactly
    exact (incrementalSnapshotChain_returned different).mp exactly.returns
  · intro straight
    refine ⟨(incrementalSnapshotChain_returned different).mpr straight, ?_, ?_⟩
    · rw [incrementalSnapshotChain_succeeds different]
      constructor
      · exact fun ancestor => ⟨first, last, rfl, rfl, .inr ancestor⟩
      · rintro ⟨given, asked, start, final, same | ancestor⟩
        · obtain rfl := Option.some.inj start
          obtain rfl := Option.some.inj final
          exact absurd same different
        · obtain rfl := Option.some.inj start
          obtain rfl := Option.some.inj final
          exact ancestor
    · intro fuel snapshots chained
      obtain ⟨tip, places, selected, passed, rfl⟩ :=
        (incrementalSnapshotChain_ok different snapshots).mp ⟨fuel, chained⟩
      exact ⟨first, last, rfl, rfl,
        .inr ⟨different, chainBetween_of_passes different selected passed⟩⟩

end Different

/-- The chain between two snapshots is the one asked for, whatever the parent ids are, unless the
walk from the end snapshot runs in circles without the start: then the code never returns. -/
theorem incrementalSnapshotChain_exactly (metadata : TableMetadata Field)
    (startSnapshotId endSnapshotId : Option Int) :
    ChainsExactly metadata startSnapshotId endSnapshotId ↔
      ∀ first last, startSnapshotId = some first → endSnapshotId = some last → first ≠ last →
        ¬RunsInCircles metadata first last := by
  cases startSnapshotId with
  | none =>
      refine iff_of_true ?_ (fun _ _ given => by cases given)
      exact chainsExactly_failed _ (fun _ => rfl) (.inl rfl)
  | some first =>
      cases endSnapshotId with
      | none =>
          refine iff_of_true ?_ (fun _ _ _ given => by cases given)
          exact chainsExactly_failed _ (fun _ => rfl) (.inr rfl)
      | some last =>
          by_cases different : first = last
          · subst different
            refine iff_of_true (chainsExactly_same first) ?_
            rintro left right start final unequal
            obtain rfl := Option.some.inj start
            exact absurd (Option.some.inj final) unequal
          · rw [chainsExactly_different different]
            constructor
            · rintro straight left right start final _
              obtain rfl := Option.some.inj start
              obtain rfl := Option.some.inj final
              exact straight
            · exact fun straight => straight first last rfl rfl different

/-- A snapshot that is its own parent. -/
def ownParent : Snapshot where
  snapshotId := 2
  parentSnapshotId := some 2
  sequenceNumber := 1
  manifestList := ""
  manifests := none
  operation := "append"

def circularMetadata : TableMetadata Unit where
  location := "file:///lake/orders"
  currentSchema := none
  currentSnapshot := some ownParent
  snapshots := [ownParent]
  partitionSpecs := []

theorem circularMetadata_never : ¬ChainsExactly circularMetadata (some 1) (some 2) := by
  rw [chainsExactly_different (by decide), not_not]
  have moved : ParentOf circularMetadata ownParent ownParent := rfl
  refine ⟨ownParent, rfl, ⟨ownParent, .refl, .single moved⟩, ?_⟩
  intro ancestor way
  have same : ancestor = ownParent := by
    induction way with
    | refl => rfl
    | tail _ step ih =>
        subst ih
        exact ParentWalk.moves_functional step moved
  rw [same]
  decide

end

end LakeCat
