import LakeCat.JsonTexts

/-!
JSON up to the order of the keys of its objects. Sorting the keys of every object
decides it: two values come out alike exactly when keys were moved between them.
-/

namespace LakeCat

namespace Json

/-- The keys come in their order, each once. -/
def Sorted (fields : List (String × Json)) : Prop :=
  fields.Pairwise fun one other => one.1 < other.1

theorem insertField_perm {key : String} (value : Json) {fields : List (String × Json)}
    (absent : key ∉ fields.map Prod.fst) :
    (insertField key value fields).Perm ((key, value) :: fields) := by
  induction fields with
  | nil => exact List.Perm.refl _
  | cons entry rest ih =>
      obtain ⟨other, stored⟩ := entry
      rw [List.map_cons, List.mem_cons, not_or] at absent
      rw [insertField, if_neg absent.1]
      split
      · exact List.Perm.refl _
      · exact ((ih absent.2).cons _).trans (List.Perm.swap _ _ _)

theorem insertField_sorted {key : String} (value : Json) {fields : List (String × Json)}
    (sorted : Sorted fields) (absent : key ∉ fields.map Prod.fst) :
    Sorted (insertField key value fields) := by
  induction fields with
  | nil => exact List.pairwise_singleton _ _
  | cons entry rest ih =>
      obtain ⟨other, stored⟩ := entry
      have ordered := List.pairwise_cons.mp sorted
      rw [List.map_cons, List.mem_cons, not_or] at absent
      rw [insertField, if_neg absent.1]
      split
      next before =>
        have first : key < other := compare_lt_iff_lt.mp before
        refine List.pairwise_cons.mpr ⟨?_, sorted⟩
        intro field member
        rcases List.mem_cons.mp member with rfl | later
        · exact first
        · exact String.lt_trans first (ordered.1 field later)
      next after =>
        have last : other < key := by
          have bound : ¬key < other := fun before => after (compare_lt_iff_lt.mpr before)
          exact lt_of_le_of_ne (not_lt.mp bound) fun same => absent.1 same.symm
        refine List.pairwise_cons.mpr ⟨?_, ih ordered.2 absent.2⟩
        intro field member
        rcases List.mem_cons.mp ((insertField_perm value absent.2).mem_iff.mp member) with
          rfl | later
        · exact last
        · exact ordered.1 field later

theorem insertFields_sorted {fields start : List (String × Json)} (sorted : Sorted start)
    (distinct : ((fields ++ start).map Prod.fst).Nodup) :
    Sorted (fields.foldl (fun map field => insertField field.1 field.2 map) start) ∧
      (fields.foldl (fun map field => insertField field.1 field.2 map) start).Perm
        (fields ++ start) := by
  induction fields generalizing start with
  | nil => exact ⟨sorted, List.Perm.refl _⟩
  | cons field rest ih =>
      rw [List.cons_append, List.map_cons, List.nodup_cons] at distinct
      have absent : field.1 ∉ start.map Prod.fst := fun member => distinct.1 (by
        rw [List.map_append]
        exact List.mem_append_right _ member)
      have moved : (rest ++ insertField field.1 field.2 start).Perm (field :: rest ++ start) :=
        ((insertField_perm field.2 absent).append_left rest).trans List.perm_middle
      obtain ⟨ordered, same⟩ := ih (insertField_sorted field.2 sorted absent)
        ((moved.map Prod.fst).nodup_iff.mpr (by simpa using distinct))
      exact ⟨ordered, same.trans moved⟩

/-- An object is its fields in the order of their keys. -/
theorem object_sorted {fields : List (String × Json)} (distinct : (fields.map Prod.fst).Nodup) :
    ∃ sorted, object fields = .obj sorted ∧ Sorted sorted ∧ sorted.Perm fields := by
  obtain ⟨ordered, same⟩ := insertFields_sorted List.Pairwise.nil
    (by simpa using distinct)
  exact ⟨_, rfl, ordered, by simpa using same⟩

theorem Sorted.eq_of_perm {one other : List (String × Json)} (sorted : Sorted one)
    (otherSorted : Sorted other) (same : one.Perm other) : one = other :=
  same.eq_of_pairwise (fun _ _ _ _ before after => absurd before (String.lt_asymm after)) sorted
    otherSorted

theorem Sorted.distinct {fields : List (String × Json)} (sorted : Sorted fields) :
    (fields.map Prod.fst).Nodup := by
  rw [List.Nodup, List.pairwise_map]
  exact sorted.imp fun before => ne_of_lt before

theorem sorted_of_keys {fields : List (String × Json)} (keys : List String)
    (named : fields.map Prod.fst = keys) (ordered : keys.Pairwise (· < ·)) : Sorted fields := by
  subst named
  exact List.pairwise_map.mp ordered

theorem object_perm {one other : List (String × Json)} (distinct : (one.map Prod.fst).Nodup)
    (same : one.Perm other) : object one = object other := by
  obtain ⟨sorted, built, ordered, moved⟩ := object_sorted distinct
  obtain ⟨otherSorted, otherBuilt, otherOrdered, otherMoved⟩ :=
    object_sorted ((same.map Prod.fst).nodup_iff.mp distinct)
  rw [built, otherBuilt,
    ordered.eq_of_perm otherOrdered (moved.trans (same.trans otherMoved.symm))]

/-- Fields that come in the order of their keys are an object as they are. -/
theorem object_of_sorted {fields : List (String × Json)} (sorted : Sorted fields) :
    object fields = .obj fields := by
  obtain ⟨ordered, built, arranged, moved⟩ := object_sorted sorted.distinct
  rw [built, arranged.eq_of_perm sorted moved]

mutual

/-- `canonicalize_json`. -/
def canonicalizeJson : Json → Json
  | .arr items => .arr (canonicalizeItems items)
  | .obj fields => .object (canonicalizeFields fields)
  | .null => .null
  | .bool value => .bool value
  | .int value => .int value
  | .float literal => .float literal
  | .str text => .str text

def canonicalizeItems : List Json → List Json
  | [] => []
  | item :: rest => canonicalizeJson item :: canonicalizeItems rest

def canonicalizeFields : List (String × Json) → List (String × Json)
  | [] => []
  | (key, value) :: rest => (key, canonicalizeJson value) :: canonicalizeFields rest

end

/-- One object somewhere in a value has its fields in another order. -/
inductive KeysMoved : Json → Json → Prop
  | fields {one other : List (String × Json)} (same : one.Perm other) :
      KeysMoved (.obj one) (.obj other)
  | item (before after : List Json) {one other : Json} (moved : KeysMoved one other) :
      KeysMoved (.arr (before ++ one :: after)) (.arr (before ++ other :: after))
  | field (before after : List (String × Json)) (key : String) {one other : Json}
      (moved : KeysMoved one other) :
      KeysMoved (.obj (before ++ (key, one) :: after)) (.obj (before ++ (key, other) :: after))

/-- Two values that differ in the order of keys alone. -/
def SameUpToKeys : Json → Json → Prop :=
  Relation.ReflTransGen KeysMoved

theorem canonicalizeItems_map (items : List Json) :
    canonicalizeItems items = items.map canonicalizeJson := by
  induction items with
  | nil => rfl
  | cons item rest ih => rw [canonicalizeItems, ih, List.map_cons]

theorem canonicalizeFields_map (fields : List (String × Json)) :
    canonicalizeFields fields = fields.map fun field => (field.1, canonicalizeJson field.2) := by
  induction fields with
  | nil => rfl
  | cons field rest ih => rw [canonicalizeFields, ih, List.map_cons]

/-- A value whose objects are all sorted is its own canonical form. -/
theorem canonical_obj {fields : List (String × Json)} (keys : List String)
    (named : fields.map Prod.fst = keys) (ordered : keys.Pairwise (· < ·))
    (each : ∀ field ∈ fields, canonicalizeJson field.2 = field.2) :
    canonicalizeJson (.obj fields) = .obj fields := by
  have kept : canonicalizeFields fields = fields := by
    rw [canonicalizeFields_map]
    refine (List.map_congr_left fun field member => ?_).trans (List.map_id fields)
    rw [each field member]
    rfl
  rw [canonicalizeJson, kept, object_of_sorted (sorted_of_keys keys named ordered)]

theorem canonicalizeFields_keys (fields : List (String × Json)) :
    (canonicalizeFields fields).map Prod.fst = fields.map Prod.fst := by
  rw [canonicalizeFields_map, List.map_map]
  rfl

/-- A step leaves the canonical form as it is, and the value well formed. -/
theorem KeysMoved.canonical {one other : Json} (moved : KeysMoved one other)
    (wellFormed : one.WellFormed) :
    canonicalizeJson one = canonicalizeJson other ∧ other.WellFormed := by
  induction moved with
  | fields same =>
      cases wellFormed with
      | obj distinct each =>
          refine ⟨?_, .obj ((same.map Prod.fst).nodup_iff.mp distinct)
            fun field member => each field (same.mem_iff.mpr member)⟩
          rw [canonicalizeJson, canonicalizeJson]
          refine object_perm ?_ ?_
          · rw [canonicalizeFields_keys]
            exact distinct
          · rw [canonicalizeFields_map, canonicalizeFields_map]
            exact same.map _
  | item before after moved ih =>
      cases wellFormed with
      | arr each =>
          obtain ⟨same, formed⟩ := ih (each _ (by simp))
          constructor
          · simp only [canonicalizeJson, canonicalizeItems_map, List.map_append, List.map_cons, same]
          · refine .arr fun item member => ?_
            rcases List.mem_append.mp member with first | last
            · exact each item (by simp [first])
            · rcases List.mem_cons.mp last with rfl | later
              · exact formed
              · exact each item (by simp [later])
  | field before after key moved ih =>
      cases wellFormed with
      | obj distinct each =>
          obtain ⟨same, formed⟩ := ih (each (key, _) (by simp))
          constructor
          · simp only [canonicalizeJson, canonicalizeFields_map, List.map_append, List.map_cons,
              same]
          · refine .obj (by simpa using distinct) fun field member => ?_
            rcases List.mem_append.mp member with first | last
            · exact each field (by simp [first])
            · rcases List.mem_cons.mp last with rfl | later
              · exact formed
              · exact each field (by simp [later])

theorem SameUpToKeys.canonical {one other : Json} (same : SameUpToKeys one other)
    (wellFormed : one.WellFormed) :
    canonicalizeJson one = canonicalizeJson other ∧ other.WellFormed := by
  induction same with
  | refl => exact ⟨rfl, wellFormed⟩
  | tail _ moved ih =>
      obtain ⟨alike, formed⟩ := ih
      obtain ⟨next, kept⟩ := moved.canonical formed
      exact ⟨alike.trans next, kept⟩

theorem KeysMoved.symm {one other : Json} (moved : KeysMoved one other) : KeysMoved other one := by
  induction moved with
  | fields same => exact .fields same.symm
  | item before after _ ih => exact .item before after ih
  | field before after key _ ih => exact .field before after key ih

theorem SameUpToKeys.symm {one other : Json} (same : SameUpToKeys one other) :
    SameUpToKeys other one := by
  induction same with
  | refl => exact .refl
  | tail _ moved ih => exact .head moved.symm ih

/-- Items that are the same up to keys make lists that are. -/
theorem sameUpToKeys_arr {items others : List Json} (each : List.Forall₂ SameUpToKeys items others)
    (before : List Json) : SameUpToKeys (.arr (before ++ items)) (.arr (before ++ others)) := by
  induction each generalizing before with
  | nil => exact .refl
  | @cons item other rest later same _ ih =>
      have front : SameUpToKeys (.arr (before ++ item :: rest)) (.arr (before ++ other :: rest)) :=
        same.lift (fun value => Json.arr (before ++ value :: rest))
          fun _ _ moved => .item before rest moved
      have back := ih (before ++ [other])
      rw [List.append_assoc, List.append_assoc] at back
      exact front.trans back

theorem sameUpToKeys_obj {fields others : List (String × Json)}
    (each : List.Forall₂ (fun field other => field.1 = other.1 ∧ SameUpToKeys field.2 other.2)
      fields others) (before : List (String × Json)) :
    SameUpToKeys (.obj (before ++ fields)) (.obj (before ++ others)) := by
  induction each generalizing before with
  | nil => exact .refl
  | @cons field other rest later same _ ih =>
      obtain ⟨key, value⟩ := field
      obtain ⟨otherKey, otherValue⟩ := other
      obtain ⟨rfl, alike⟩ := same
      have front : SameUpToKeys (.obj (before ++ (key, value) :: rest))
          (.obj (before ++ (key, otherValue) :: rest)) :=
        alike.lift (fun entry => Json.obj (before ++ (key, entry) :: rest))
          fun _ _ moved => .field before rest key moved
      have back := ih (before ++ [(key, otherValue)])
      rw [List.append_assoc, List.append_assoc] at back
      exact front.trans back

/-- Every value is its canonical form up to keys. -/
theorem WellFormed.reaches {value : Json} (wellFormed : value.WellFormed) :
    SameUpToKeys value (canonicalizeJson value) := by
  induction wellFormed with
  | null | bool _ | int _ | float _ | str _ => exact .refl
  | @arr items each ih =>
      rw [canonicalizeJson, canonicalizeItems_map]
      have items : List.Forall₂ SameUpToKeys items (items.map canonicalizeJson) := by
        rw [List.forall₂_map_right_iff]
        exact List.forall₂_same.mpr ih
      exact sameUpToKeys_arr items []
  | @obj fields distinct each ih =>
      rw [canonicalizeJson]
      have values : SameUpToKeys (.obj fields) (.obj (canonicalizeFields fields)) := by
        rw [canonicalizeFields_map]
        refine sameUpToKeys_obj ?_ []
        rw [List.forall₂_map_right_iff]
        exact List.forall₂_same.mpr fun field member => ⟨rfl, ih field member⟩
      have kept : ((canonicalizeFields fields).map Prod.fst).Nodup := by
        rwa [canonicalizeFields_keys]
      obtain ⟨sorted, built, _, moved⟩ := object_sorted kept
      rw [built]
      exact values.tail (.fields moved.symm)

theorem canonicalizeJson_eq {one other : Json} (wellFormed : one.WellFormed)
    (otherFormed : other.WellFormed) :
    canonicalizeJson one = canonicalizeJson other ↔ SameUpToKeys one other := by
  constructor
  · intro same
    have reached := wellFormed.reaches
    rw [same] at reached
    exact reached.trans otherFormed.reaches.symm
  · intro same
    exact (same.canonical wellFormed).1

/-- Arrays that are the same up to keys have their items in one order. -/
theorem SameUpToKeys.items {items others : List Json} (wellFormed : (Json.arr items).WellFormed)
    (same : SameUpToKeys (.arr items) (.arr others)) :
    List.Forall₂ SameUpToKeys items others := by
  obtain ⟨alike, formed⟩ := same.canonical wellFormed
  rw [canonicalizeJson, canonicalizeJson, canonicalizeItems_map, canonicalizeItems_map,
    Json.arr.injEq] at alike
  cases wellFormed with
  | arr each =>
      cases formed with
      | arr otherEach =>
          rw [← List.forall₂_eq_eq_eq, List.forall₂_map_left_iff, List.forall₂_map_right_iff]
            at alike
          have members := List.forall₂_iff_zip.mp alike
          refine List.forall₂_iff_zip.mpr ⟨members.1, fun {item other} member => ?_⟩
          exact (canonicalizeJson_eq (each item (List.of_mem_zip member).1)
            (otherEach other (List.of_mem_zip member).2)).mp (members.2 member)

theorem WellFormed.object {fields : List (String × Json)}
    (distinct : (fields.map Prod.fst).Nodup) (each : ∀ field ∈ fields, WellFormed field.2) :
    WellFormed (object fields) := by
  obtain ⟨sorted, built, _, moved⟩ := object_sorted distinct
  rw [built]
  exact .obj ((moved.map Prod.fst).nodup_iff.mpr distinct)
    fun field member => each field (moved.mem_iff.mp member)

theorem canonicalizeJson_wellFormed {value : Json} (wellFormed : value.WellFormed) :
    (canonicalizeJson value).WellFormed :=
  (wellFormed.reaches.canonical wellFormed).2

end Json

end LakeCat
