import LakeCat.InitialMetadata

/-!
The fields of a schema in the order in which the catalog numbers them, and what
the numbering does: it visits every field once and keeps its place.
-/

namespace LakeCat

/-- A step from a type to one of its fields. -/
inductive FieldStep where
  | member (index : Nat)
  | child (key : String)
  deriving DecidableEq

/-- A field with the way to it from the root of the schema. -/
structure FieldSlot where
  path : List FieldStep
  id : Option Int
  deriving DecidableEq

def FieldSlot.under (step : FieldStep) (slot : FieldSlot) : FieldSlot where
  path := step :: slot.path
  id := slot.id

mutual

def typeSlots (fieldType : Json) : List FieldSlot :=
  match jsonText fieldType "type" with
  | some "struct" =>
      match _found : fieldType.get "fields" with
      | some (.arr fields) => memberSlots 0 fields
      | _ => []
  | some "list" => childSlots (.child "element") fieldType "element-id" "element"
  | some "map" =>
      childSlots (.child "key") fieldType "key-id" "key" ++
        childSlots (.child "value") fieldType "value-id" "value"
  | _ => []
termination_by 2 * sizeOf fieldType + 1
decreasing_by
  · have smaller := Json.sizeOf_get _found
    simp only [Json.arr.sizeOf_spec] at smaller
    omega
  all_goals omega

def childSlots (step : FieldStep) (holder : Json) (idKey typeKey : String) : List FieldSlot :=
  ⟨[step], jsonNumber holder idKey⟩ ::
    match _found : holder.get typeKey with
    | some child => (typeSlots child).map (FieldSlot.under step)
    | none => []
termination_by 2 * sizeOf holder
decreasing_by
  have smaller := Json.sizeOf_get _found
  omega

def memberSlots (index : Nat) (fields : List Json) : List FieldSlot :=
  match fields with
  | [] => []
  | field :: rest =>
      (if field.isObject then childSlots (.member index) field "id" "type" else []) ++
        memberSlots (index + 1) rest
termination_by 2 * sizeOf fields
decreasing_by
  all_goals
    simp only [List.cons.sizeOf_spec]
    omega

end

def schemaSlots (schema : Json) : List FieldSlot :=
  match schema.get "fields" with
  | some (.arr fields) => memberSlots 0 fields
  | _ => []

def renumber (next : Int) : List FieldSlot → List FieldSlot
  | [] => []
  | slot :: rest => ⟨slot.path, some next⟩ :: renumber (saturatingNext next) rest

def FreshIds.assignAll (ids : FreshIds) (slots : List FieldSlot) : FreshIds :=
  slots.foldl (fun ids slot => ids.assign slot.id) ids

/-- The next id is one that JSON can state. -/
def FreshIds.Fits (ids : FreshIds) : Prop :=
  1 ≤ ids.next ∧ ids.next ≤ maxI64

/-- The slots of `old` in their places, numbered from the next id on. -/
structure Renumbered (ids : FreshIds) (old : List FieldSlot) (after : FreshIds)
    (new : List FieldSlot) : Prop where
  slots : new = renumber ids.next old
  after : after = ids.assignAll old

@[simp] theorem FreshIds.assignAll_nil (ids : FreshIds) : ids.assignAll [] = ids := rfl

@[simp] theorem FreshIds.assignAll_cons (ids : FreshIds) (slot : FieldSlot)
    (rest : List FieldSlot) :
    ids.assignAll (slot :: rest) = (ids.assign slot.id).assignAll rest := rfl

theorem FreshIds.assignAll_append (ids : FreshIds) (first second : List FieldSlot) :
    ids.assignAll (first ++ second) = (ids.assignAll first).assignAll second :=
  List.foldl_append

theorem FreshIds.assignAll_under (ids : FreshIds) (step : FieldStep) (slots : List FieldSlot) :
    ids.assignAll (slots.map (FieldSlot.under step)) = ids.assignAll slots :=
  List.foldl_map

@[simp] theorem FreshIds.assign_next (ids : FreshIds) (old : Option Int) :
    (ids.assign old).next = saturatingNext ids.next := rfl

theorem FreshIds.Fits.assign {ids : FreshIds} (fits : ids.Fits) (old : Option Int) :
    (ids.assign old).Fits := by
  obtain ⟨low, high⟩ := fits
  simp only [FreshIds.Fits, FreshIds.assign_next, saturatingNext, maxI64] at *
  omega

theorem FreshIds.Fits.assignAll {ids : FreshIds} (fits : ids.Fits) (slots : List FieldSlot) :
    (ids.assignAll slots).Fits := by
  induction slots generalizing ids with
  | nil => exact fits
  | cons slot rest ih => exact ih (fits.assign slot.id)

theorem FreshIds.Fits.stated {ids : FreshIds} (fits : ids.Fits) :
    (Json.int ids.next).asI64 = some ids.next := by
  obtain ⟨low, high⟩ := fits
  rw [Json.asI64, if_pos]
  rw [maxI64] at high
  omega

theorem renumber_under (step : FieldStep) (next : Int) (slots : List FieldSlot) :
    renumber next (slots.map (FieldSlot.under step)) =
      (renumber next slots).map (FieldSlot.under step) := by
  induction slots generalizing next with
  | nil => rfl
  | cons slot rest ih =>
      rw [List.map_cons, renumber, ih, renumber, List.map_cons]
      rfl

theorem renumber_append (ids : FreshIds) (first second : List FieldSlot) :
    renumber ids.next (first ++ second) =
      renumber ids.next first ++ renumber (ids.assignAll first).next second := by
  induction first generalizing ids with
  | nil => rfl
  | cons slot rest ih =>
      rw [List.cons_append, renumber, renumber, List.cons_append, FreshIds.assignAll_cons,
        ← FreshIds.assign_next ids slot.id, ih]

theorem Renumbered.append {ids middle after : FreshIds} {first second : List FieldSlot}
    {firstNew secondNew : List FieldSlot} (one : Renumbered ids first middle firstNew)
    (two : Renumbered middle second after secondNew) :
    Renumbered ids (first ++ second) after (firstNew ++ secondNew) := by
  constructor
  · rw [renumber_append, ← one.slots, ← one.after, ← two.slots]
  · rw [FreshIds.assignAll_append, ← one.after, ← two.after]

theorem Renumbered.nothing (ids : FreshIds) : Renumbered ids [] ids [] := ⟨rfl, rfl⟩

/-- A field with its fresh id before the renumbered fields of its type. -/
theorem Renumbered.child {ids after : FreshIds} {inner innerNew : List FieldSlot}
    {old : Option Int} (step : FieldStep)
    (type : Renumbered (ids.assign old) inner after innerNew) :
    Renumbered ids (⟨[step], old⟩ :: inner.map (FieldSlot.under step)) after
      (⟨[step], some ids.next⟩ :: innerNew.map (FieldSlot.under step)) := by
  constructor
  · rw [renumber, renumber_under, type.slots, FreshIds.assign_next]
  · rw [FreshIds.assignAll_cons, FreshIds.assignAll_under, ← type.after]

/-- Assigning an id touches two keys of the object. -/
theorem assignTypeId_get (source object : Json) (idKey typeKey key : String) (ids : FreshIds)
    (shape : object.isObject = true) (notId : key ≠ idKey) (notType : key ≠ typeKey) :
    (assignTypeId source object idKey typeKey ids).1.get key = object.get key := by
  rw [assignTypeId]
  split
  · rw [Json.get_set _ _ _ _ (Json.isObject_set _ _ _ shape), if_neg notType,
      Json.get_set _ _ _ _ shape, if_neg notId]
  · rw [Json.get_set _ _ _ _ shape, if_neg notId]

theorem assignTypeId_isObject (source object : Json) (idKey typeKey : String) (ids : FreshIds)
    (shape : object.isObject = true) :
    (assignTypeId source object idKey typeKey ids).1.isObject = true := by
  rw [assignTypeId]
  split
  · exact Json.isObject_set _ _ _ (Json.isObject_set _ _ _ shape)
  · exact Json.isObject_set _ _ _ shape

theorem isObject_of_get {value child : Json} {key : String} (found : value.get key = some child) :
    value.isObject = true := by
  cases value with
  | obj fields => rfl
  | null | bool | int | float | str | arr => cases found

theorem isObject_of_text {value : Json} {key text : String}
    (found : jsonText value key = some text) : value.isObject = true := by
  obtain ⟨child, held, -⟩ := Option.bind_eq_some_iff.mp found
  exact isObject_of_get held

section Equations

variable {fieldType : Json} (ids : FreshIds)

theorem assignType_struct {fields : List Json} (typed : jsonText fieldType "type" = some "struct")
    (held : fieldType.get "fields" = some (.arr fields)) :
    assignType fieldType ids =
      (fieldType.set "fields" (.arr (assignFields fields ids).1), (assignFields fields ids).2) := by
  rw [assignType]
  simp only [typed]
  split <;> simp_all

theorem typeSlots_struct {fields : List Json} (typed : jsonText fieldType "type" = some "struct")
    (held : fieldType.get "fields" = some (.arr fields)) :
    typeSlots fieldType = memberSlots 0 fields := by
  rw [typeSlots]
  simp only [typed]
  split <;> simp_all

theorem assignType_empty (typed : jsonText fieldType "type" = some "struct")
    (bare : ∀ fields, fieldType.get "fields" ≠ some (.arr fields)) :
    assignType fieldType ids = (fieldType, ids) := by
  rw [assignType]
  simp only [typed]

theorem typeSlots_empty (typed : jsonText fieldType "type" = some "struct")
    (bare : ∀ fields, fieldType.get "fields" ≠ some (.arr fields)) :
    typeSlots fieldType = [] := by
  rw [typeSlots]
  simp only [typed]

theorem assignType_list (typed : jsonText fieldType "type" = some "list") :
    assignType fieldType ids = assignTypeId fieldType fieldType "element-id" "element" ids := by
  rw [assignType]
  simp only [typed]

theorem typeSlots_list (typed : jsonText fieldType "type" = some "list") :
    typeSlots fieldType = childSlots (.child "element") fieldType "element-id" "element" := by
  rw [typeSlots]
  simp only [typed]

theorem assignType_map (typed : jsonText fieldType "type" = some "map") :
    assignType fieldType ids =
      assignTypeId fieldType (assignTypeId fieldType fieldType "key-id" "key" ids).1 "value-id"
        "value" (assignTypeId fieldType fieldType "key-id" "key" ids).2 := by
  rw [assignType]
  simp only [typed]

theorem typeSlots_map (typed : jsonText fieldType "type" = some "map") :
    typeSlots fieldType = childSlots (.child "key") fieldType "key-id" "key" ++
      childSlots (.child "value") fieldType "value-id" "value" := by
  rw [typeSlots]
  simp only [typed]

theorem assignType_plain (notStruct : jsonText fieldType "type" ≠ some "struct")
    (notList : jsonText fieldType "type" ≠ some "list")
    (notMap : jsonText fieldType "type" ≠ some "map") :
    assignType fieldType ids = (fieldType, ids) := by
  rw [assignType]
  split <;> simp_all

theorem typeSlots_plain (notStruct : jsonText fieldType "type" ≠ some "struct")
    (notList : jsonText fieldType "type" ≠ some "list")
    (notMap : jsonText fieldType "type" ≠ some "map") : typeSlots fieldType = [] := by
  rw [typeSlots]
  split <;> simp_all

variable {source object child : Json} {idKey typeKey : String}

theorem assignTypeId_some (held : source.get typeKey = some child) :
    assignTypeId source object idKey typeKey ids =
      ((object.set idKey (.int ids.next)).set typeKey
        (assignType child (ids.assign (jsonNumber object idKey))).1,
      (assignType child (ids.assign (jsonNumber object idKey))).2) := by
  rw [assignTypeId]
  split <;> simp_all

theorem assignTypeId_none (held : source.get typeKey = none) :
    assignTypeId source object idKey typeKey ids =
      (object.set idKey (.int ids.next), ids.assign (jsonNumber object idKey)) := by
  rw [assignTypeId]
  split <;> simp_all

theorem childSlots_some (step : FieldStep) (held : source.get typeKey = some child) :
    childSlots step source idKey typeKey = ⟨[step], jsonNumber source idKey⟩ ::
      (typeSlots child).map (FieldSlot.under step) := by
  rw [childSlots]
  split <;> simp_all

theorem childSlots_none (step : FieldStep) (held : source.get typeKey = none) :
    childSlots step source idKey typeKey = [⟨[step], jsonNumber source idKey⟩] := by
  rw [childSlots]
  split <;> simp_all

end Equations

/-- The slots of a child read two keys of its holder. -/
theorem childSlots_congr (step : FieldStep) {left right : Json} {idKey typeKey : String}
    (sameId : left.get idKey = right.get idKey) (sameType : left.get typeKey = right.get typeKey) :
    childSlots step left idKey typeKey = childSlots step right idKey typeKey := by
  have number : jsonNumber left idKey = jsonNumber right idKey := by
    rw [jsonNumber, jsonNumber, sameId]
  cases held : right.get typeKey with
  | none => rw [childSlots_none step held, childSlots_none step (sameType.trans held), number]
  | some child => rw [childSlots_some step held, childSlots_some step (sameType.trans held), number]

theorem jsonText_congr {left right : Json} {key : String} (same : left.get key = right.get key) :
    jsonText left key = jsonText right key := by
  rw [jsonText, jsonText, same]

mutual

theorem assignType_slots (fieldType : Json) (ids : FreshIds) (fits : ids.Fits) :
    Renumbered ids (typeSlots fieldType) (assignType fieldType ids).2
      (typeSlots (assignType fieldType ids).1) := by
  by_cases isStruct : jsonText fieldType "type" = some "struct"
  · have shape := isObject_of_text isStruct
    by_cases listed : ∃ fields, fieldType.get "fields" = some (.arr fields)
    · obtain ⟨fields, held⟩ := listed
      have smaller : sizeOf fields < sizeOf fieldType := by
        have inside := Json.sizeOf_get held
        simp only [Json.arr.sizeOf_spec] at inside
        omega
      have fresh := assignFields_slots 0 fields ids fits
      rw [assignType_struct ids isStruct held, typeSlots_struct isStruct held]
      have typed : jsonText (fieldType.set "fields" (.arr (assignFields fields ids).1)) "type" =
          some "struct" := by
        rw [← isStruct]
        apply jsonText_congr
        rw [Json.get_set _ _ _ _ shape, if_neg (by decide)]
      have stored : (fieldType.set "fields" (.arr (assignFields fields ids).1)).get "fields" =
          some (.arr (assignFields fields ids).1) := by
        rw [Json.get_set _ _ _ _ shape, if_pos rfl]
      rw [typeSlots_struct typed stored]
      exact fresh
    · have bare := not_exists.mp listed
      rw [assignType_empty ids isStruct bare, typeSlots_empty isStruct bare]
      exact .nothing ids
  · by_cases isList : jsonText fieldType "type" = some "list"
    · have shape := isObject_of_text isList
      rw [assignType_list ids isList, typeSlots_list isList]
      have typed : jsonText (assignTypeId fieldType fieldType "element-id" "element" ids).1 "type" =
          some "list" := by
        rw [← isList]
        exact jsonText_congr (assignTypeId_get _ _ _ _ _ _ shape (by decide) (by decide))
      rw [typeSlots_list typed]
      exact assignTypeId_slots _ fieldType fieldType _ _ ids fits shape (by decide) rfl
    · by_cases isMap : jsonText fieldType "type" = some "map"
      · have shape := isObject_of_text isMap
        rw [assignType_map ids isMap, typeSlots_map isMap]
        have key := assignTypeId_slots (.child "key") fieldType fieldType "key-id" "key" ids fits
          shape (by decide) rfl
        have keyShape := assignTypeId_isObject fieldType fieldType "key-id" "key" ids shape
        have keyFrame := fun name => assignTypeId_get fieldType fieldType "key-id" "key" name ids
          shape
        generalize assignTypeId fieldType fieldType "key-id" "key" ids = keyed at *
        have keyedFits : keyed.2.Fits := by
          rw [key.after]
          exact fits.assignAll _
        have value := assignTypeId_slots (.child "value") fieldType keyed.1 "value-id" "value"
          keyed.2 keyedFits keyShape (by decide) (keyFrame _ (by decide) (by decide))
        have valueFrame := fun name => assignTypeId_get fieldType keyed.1 "value-id" "value" name
          keyed.2 keyShape
        generalize assignTypeId fieldType keyed.1 "value-id" "value" keyed.2 = valued at *
        have typed : jsonText valued.1 "type" = some "map" := by
          rw [← isMap]
          apply jsonText_congr
          rw [valueFrame _ (by decide) (by decide), keyFrame _ (by decide) (by decide)]
        rw [typeSlots_map typed]
        rw [childSlots_congr (.child "key") (valueFrame "key-id" (by decide) (by decide))
          (valueFrame "key" (by decide) (by decide))]
        rw [childSlots_congr (.child "value") (keyFrame "value-id" (by decide) (by decide))
          (keyFrame "value" (by decide) (by decide))] at value
        exact key.append value
      · rw [assignType_plain ids isStruct isList isMap, typeSlots_plain isStruct isList isMap]
        exact .nothing ids
termination_by 2 * sizeOf fieldType + 1
decreasing_by all_goals omega

theorem assignTypeId_slots (step : FieldStep) (source object : Json) (idKey typeKey : String)
    (ids : FreshIds) (fits : ids.Fits) (shape : object.isObject = true) (apart : idKey ≠ typeKey)
    (same : object.get typeKey = source.get typeKey) :
    Renumbered ids (childSlots step object idKey typeKey)
      (assignTypeId source object idKey typeKey ids).2
      (childSlots step (assignTypeId source object idKey typeKey ids).1 idKey typeKey) := by
  have markedShape := Json.isObject_set object idKey (.int ids.next) shape
  cases held : source.get typeKey with
  | none =>
      rw [assignTypeId_none ids held, childSlots_none step (same.trans held)]
      have missing : (object.set idKey (.int ids.next)).get typeKey = none := by
        rw [Json.get_set _ _ _ _ shape, if_neg apart.symm, same, held]
      have numbered : jsonNumber (object.set idKey (.int ids.next)) idKey = some ids.next := by
        rw [jsonNumber, Json.get_set _ _ _ _ shape, if_pos rfl]
        exact fits.stated
      rw [childSlots_none step missing, numbered]
      exact .child step (.nothing _)
  | some child =>
      have smaller := Json.sizeOf_get held
      rw [assignTypeId_some ids held, childSlots_some step (same.trans held)]
      have type := assignType_slots child (ids.assign (jsonNumber object idKey)) (fits.assign _)
      generalize assignType child (ids.assign (jsonNumber object idKey)) = inner at *
      have stored : ((object.set idKey (.int ids.next)).set typeKey inner.1).get typeKey =
          some inner.1 := by
        rw [Json.get_set _ _ _ _ markedShape, if_pos rfl]
      have numbered : jsonNumber ((object.set idKey (.int ids.next)).set typeKey inner.1) idKey =
          some ids.next := by
        rw [jsonNumber, Json.get_set _ _ _ _ markedShape, if_neg apart,
          Json.get_set _ _ _ _ shape, if_pos rfl]
        exact fits.stated
      rw [childSlots_some step stored, numbered]
      exact .child step type
termination_by 2 * sizeOf source
decreasing_by all_goals omega

theorem assignFields_slots (index : Nat) (fields : List Json) (ids : FreshIds) (fits : ids.Fits) :
    Renumbered ids (memberSlots index fields) (assignFields fields ids).2
      (memberSlots index (assignFields fields ids).1) := by
  cases fields with
  | nil =>
      rw [assignFields, memberSlots]
      exact .nothing ids
  | cons field rest =>
      rw [assignFields, memberSlots, memberSlots, assignField]
      by_cases shape : field.isObject = true
      · have first := assignTypeId_slots (.member index) field field "id" "type" ids fits shape
          (by decide) rfl
        have firstShape := assignTypeId_isObject field field "id" "type" ids shape
        rw [if_pos shape, if_pos shape]
        generalize assignTypeId field field "id" "type" ids = assigned at *
        have firstFits : assigned.2.Fits := by
          rw [first.after]
          exact fits.assignAll _
        rw [if_pos firstShape]
        exact first.append (assignFields_slots (index + 1) rest assigned.2 firstFits)
      · rw [if_neg shape, if_neg shape, if_neg shape]
        exact (Renumbered.nothing ids).append (assignFields_slots (index + 1) rest ids fits)
termination_by 2 * sizeOf fields
decreasing_by
  all_goals
    simp only [List.cons.sizeOf_spec]
    omega

end

theorem renumber_paths (next : Int) (slots : List FieldSlot) :
    (renumber next slots).map FieldSlot.path = slots.map FieldSlot.path := by
  induction slots generalizing next with
  | nil => rfl
  | cons slot rest ih => rw [renumber, List.map_cons, List.map_cons, ih]

/-- Up to the end of the id space each slot gets the first id and its place. -/
theorem renumber_get {next : Int} {slots : List FieldSlot}
    (room : next + slots.length ≤ maxI64 + 1) (place : Nat) :
    (renumber next slots)[place]? =
      slots[place]?.map fun slot => ⟨slot.path, some (next + place)⟩ := by
  induction slots generalizing next place with
  | nil => rfl
  | cons slot rest ih =>
      rw [List.length_cons] at room
      cases place with
      | zero =>
          rw [renumber, List.getElem?_cons_zero, List.getElem?_cons_zero, Option.map_some]
          simp
      | succ place =>
          rw [renumber, List.getElem?_cons_succ, List.getElem?_cons_succ]
          cases rest with
          | nil => rfl
          | cons second rest =>
              have stepped : saturatingNext next = next + 1 := by
                rw [saturatingNext]
                simp only [List.length_cons] at room
                omega
              rw [stepped, ih (by omega)]
              congr 1
              funext slot
              simp only [FieldSlot.mk.injEq, Option.some.injEq, true_and]
              omega

theorem FreshIds.assignAll_next {ids : FreshIds} (fits : ids.Fits) (slots : List FieldSlot) :
    (ids.assignAll slots).next = min (ids.next + slots.length) maxI64 := by
  induction slots generalizing ids with
  | nil =>
      have high := fits.2
      simp only [assignAll_nil, List.length_nil]
      omega
  | cons slot rest ih =>
      rw [assignAll_cons, ih (fits.assign slot.id), assign_next, saturatingNext, List.length_cons]
      omega

theorem FreshIds.assign_other (ids : FreshIds) {old : Option Int} {id : Int}
    (other : old ≠ some id) : (ids.assign old).mapping[id]? = ids.mapping[id]? := by
  cases old with
  | none => rfl
  | some old =>
      have different : old ≠ id := fun same => other (congrArg some same)
      simp [FreshIds.assign, Std.ExtTreeMap.getElem?_insert, different]

theorem FreshIds.assign_same (ids : FreshIds) (id : Int) :
    (ids.assign (some id)).mapping[id]? = some ids.next := by
  simp [FreshIds.assign]

theorem FreshIds.assignAll_other (ids : FreshIds) {slots : List FieldSlot} {id : Int}
    (absent : id ∉ slots.filterMap FieldSlot.id) :
    (ids.assignAll slots).mapping[id]? = ids.mapping[id]? := by
  induction slots generalizing ids with
  | nil => rfl
  | cons slot rest ih =>
      have other : slot.id ≠ some id := by
        intro same
        apply absent
        rw [List.filterMap_cons_some same]
        exact List.mem_cons_self
      have later : id ∉ rest.filterMap FieldSlot.id := by
        intro found
        apply absent
        obtain ⟨slot, member, same⟩ := List.mem_filterMap.mp found
        exact List.mem_filterMap.mpr ⟨slot, List.mem_cons_of_mem _ member, same⟩
      rw [assignAll_cons, ih _ later, assign_other ids other]

/-- With distinct ids, each old one leads to the fresh id of its place. -/
theorem FreshIds.assignAll_mapping {ids : FreshIds} {slots : List FieldSlot}
    (distinct : (slots.filterMap FieldSlot.id).Nodup)
    (room : ids.next + slots.length ≤ maxI64 + 1) {place : Nat} {path : List FieldStep} {id : Int}
    (found : slots[place]? = some ⟨path, some id⟩) :
    (ids.assignAll slots).mapping[id]? = some (ids.next + place) := by
  induction slots generalizing ids place with
  | nil => cases found
  | cons slot rest ih =>
      rw [List.length_cons] at room
      rw [assignAll_cons]
      cases place with
      | zero =>
          rw [List.getElem?_cons_zero, Option.some.injEq] at found
          subst found
          have kept : (⟨path, some id⟩ : FieldSlot).id = some id := rfl
          rw [List.filterMap_cons_some kept, List.nodup_cons] at distinct
          rw [assignAll_other _ distinct.1, assign_same]
          simp
      | succ place =>
          rw [List.getElem?_cons_succ] at found
          have below : place < rest.length := by
            by_contra beyond
            rw [List.getElem?_eq_none (by omega)] at found
            cases found
          have stepped : (ids.assign slot.id).next = ids.next + 1 := by
            rw [assign_next, saturatingNext]
            omega
          have later : (rest.filterMap FieldSlot.id).Nodup := by
            rw [List.filterMap_cons] at distinct
            split at distinct
            · exact distinct
            · exact distinct.of_cons
          rw [ih later (by omega) found, stepped]
          congr 1
          omega

/-- Every fresh id is one that JSON can state. -/
theorem FreshIds.assignAll_stated {ids : FreshIds} (fits : ids.Fits)
    (stated : ∀ old new : Int, ids.mapping[old]? = some new → (Json.int new).asI64 = some new)
    (slots : List FieldSlot) {old new : Int}
    (found : (ids.assignAll slots).mapping[old]? = some new) :
    (Json.int new).asI64 = some new := by
  induction slots generalizing ids with
  | nil => exact stated _ _ found
  | cons slot rest ih =>
      apply ih (fits.assign slot.id) _ found
      intro before after mapped
      by_cases same : slot.id = some before
      · rw [same, assign_same, Option.some.injEq] at mapped
        rw [← mapped]
        exact fits.stated
      · rw [assign_other ids same] at mapped
        exact stated _ _ mapped

end LakeCat
