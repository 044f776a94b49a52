import LakeCat.FreshFieldIds
import LakeCat.TableRecords

/-!
The columns of a table that the provider creates, as fields of an Iceberg
schema: the fields of the partition spec and of the sort order, and the ids
that are handed out on the way.
-/

namespace LakeCat

open Fallible

namespace Arrow

inductive TimeUnit where
  | second | millisecond | microsecond | nanosecond
  deriving DecidableEq

mutual

/-- The types of Arrow that are told apart; `other` stands for the rest of them. -/
inductive DataType where
  | boolean
  | int8 | int16 | int32 | int64
  | uint8 | uint16 | uint32 | uint64
  | float16 | float32 | float64
  | date32 | date64
  | time32 (unit : TimeUnit)
  | time64 (unit : TimeUnit)
  | timestamp (unit : TimeUnit) (zone : Option String)
  | binary | largeBinary
  | fixedSizeBinary (size : Int)
  | decimal128 (precision scale : Int)
  | decimal256 (precision scale : Int)
  | utf8
  | struct (fields : List Field)
  | list (field : Field)
  | largeList (field : Field)
  | map (entry : Field) (sorted : Bool)
  | other (name : String)

inductive Field where
  | new (name : String) (dataType : DataType) (nullable : Bool)

end

namespace Field

def name : Field → String
  | new name _ _ => name

def dataType : Field → DataType
  | new _ dataType _ => dataType

def nullable : Field → Bool
  | new _ _ nullable => nullable

theorem sizeOf_dataType (field : Field) : sizeOf field.dataType < sizeOf field := by
  cases field
  simp only [dataType, Field.new.sizeOf_spec]
  omega

end Field

end Arrow

open Arrow

def maxI32 : Int := 2 ^ 31 - 1

/-- `allocate_field_id`: the id, and the next one. -/
def allocateFieldId (next : Int) : Int × Int :=
  (next, min (next + 1) maxI32)

/-- The types of the fields of an entry that are named `key` and `value`, and whether the value is
required. -/
def mapEntryTypes (entry : Field) : Option (DataType × DataType × Bool) :=
  match entry.dataType with
  | .struct fields => do
      let key ← fields.find? fun field => field.name = "key"
      let value ← fields.find? fun field => field.name = "value"
      return (key.dataType, value.dataType, !value.nullable)
  | _ => none

theorem sizeOf_mapEntryTypes {entry : Field} {keyType valueType : DataType} {required : Bool}
    (found : mapEntryTypes entry = some (keyType, valueType, required)) :
    sizeOf keyType < sizeOf entry ∧ sizeOf valueType < sizeOf entry := by
  have whole := entry.sizeOf_dataType
  unfold mapEntryTypes at found
  split at found
  next fields held =>
    rw [held, DataType.struct.sizeOf_spec] at whole
    simp only [Option.bind_eq_bind, Option.bind_eq_some_iff, Option.pure_def, Option.some.injEq,
      Prod.mk.injEq] at found
    obtain ⟨key, keyFound, value, valueFound, rfl, rfl, -⟩ := found
    have keySize := List.sizeOf_lt_of_mem (List.mem_of_find?_eq_some keyFound)
    have valueSize := List.sizeOf_lt_of_mem (List.mem_of_find?_eq_some valueFound)
    have keyType := key.sizeOf_dataType
    have valueType := value.sizeOf_dataType
    omega
  next => cases found

/-- `map_entry_types`, or texts where the entry has no such fields. -/
def mapTypes (entry : Field) : DataType × DataType × Bool :=
  (mapEntryTypes entry).getD (.utf8, .utf8, false)

theorem sizeOf_mapTypes (entry : Field) :
    sizeOf (mapTypes entry).1 < sizeOf entry ∧ sizeOf (mapTypes entry).2.1 < sizeOf entry := by
  unfold mapTypes
  cases found : mapEntryTypes entry with
  | some types =>
      obtain ⟨keyType, valueType, required⟩ := types
      exact sizeOf_mapEntryTypes found
  | none =>
      have whole := entry.sizeOf_dataType
      simp only [Option.getD_none, DataType.utf8.sizeOf_spec]
      have positive : 0 < sizeOf entry.dataType := by
        cases entry.dataType <;> simp
      omega

/-! The shapes of a schema. -/

def icebergStruct (fields : List Json) : Json :=
  .object [("type", .str "struct"), ("fields", .arr fields)]

def icebergList (elementId : Int) (element : Json) (required : Bool) : Json :=
  .object [("type", .str "list"), ("element-id", .int elementId), ("element", element),
    ("element-required", .bool required)]

def icebergMap (keyId : Int) (key : Json) (valueId : Int) (value : Json) (required : Bool) : Json :=
  .object [("type", .str "map"), ("key-id", .int keyId), ("key", key), ("value-id", .int valueId),
    ("value", value), ("value-required", .bool required)]

def icebergNestedField (id : Int) (name : String) (type : Json) (required : Bool) : Json :=
  .object [("id", .int id), ("name", .str name), ("type", type), ("required", .bool required)]

def icebergColumnField (id : Int) (name : String) (type : Json) (required : Bool)
    (doc : Option String) : Json :=
  .object [("id", .int id), ("name", .str name), ("type", type), ("required", .bool required),
    ("doc", ofOptionStr doc)]

mutual

/-- The Iceberg type, and the next id after those of its children. -/
def datafusionTypeToIceberg (dataType : DataType) (next : Int) : Json × Int :=
  match dataType with
  | .boolean => (.str "boolean", next)
  | .int8 | .int16 | .int32 => (.str "int", next)
  | .uint8 | .uint16 | .uint32 => (.str "int", next)
  | .int64 | .uint64 => (.str "long", next)
  | .float16 | .float32 => (.str "float", next)
  | .float64 => (.str "double", next)
  | .date32 | .date64 => (.str "date", next)
  | .time32 _ | .time64 _ => (.str "time", next)
  | .timestamp _ _ => (.str "timestamp", next)
  | .binary | .largeBinary | .fixedSizeBinary _ => (.str "binary", next)
  | .decimal128 _ _ | .decimal256 _ _ => (.str "decimal(38,18)", next)
  | .struct fields =>
      let converted := icebergNestedFieldsFromArrow fields next
      (icebergStruct converted.1, converted.2)
  | .list field | .largeList field =>
      let element := allocateFieldId next
      let converted := datafusionTypeToIceberg field.dataType element.2
      (icebergList element.1 converted.1 (!field.nullable), converted.2)
  | .map entry _ =>
      let key := allocateFieldId next
      let value := allocateFieldId key.2
      let convertedKey := datafusionTypeToIceberg (mapTypes entry).1 value.2
      let convertedValue := datafusionTypeToIceberg (mapTypes entry).2.1 convertedKey.2
      (icebergMap key.1 convertedKey.1 value.1 convertedValue.1 (mapTypes entry).2.2,
        convertedValue.2)
  | .utf8 | .other _ => (.str "string", next)
termination_by sizeOf dataType
decreasing_by
  all_goals
    first
    | simp only [DataType.struct.sizeOf_spec]
      omega
    | have inner := field.sizeOf_dataType
      simp only [DataType.list.sizeOf_spec, DataType.largeList.sizeOf_spec]
      omega
    | have inner := sizeOf_mapTypes entry
      simp only [DataType.map.sizeOf_spec]
      omega

/-- `iceberg_nested_field_from_arrow` on each field of a struct. -/
def icebergNestedFieldsFromArrow (fields : List Field) (next : Int) : List Json × Int :=
  match fields with
  | [] => ([], next)
  | .new name dataType nullable :: rest =>
      let id := allocateFieldId next
      let converted := datafusionTypeToIceberg dataType id.2
      let others := icebergNestedFieldsFromArrow rest converted.2
      (icebergNestedField id.1 name converted.1 (!nullable) :: others.1, others.2)
termination_by sizeOf fields
decreasing_by
  all_goals
    simp only [List.cons.sizeOf_spec, Field.new.sizeOf_spec]
    omega

end

/-- `CreateTableColumnOptions`. -/
structure CreateTableColumn where
  name : String
  dataType : DataType
  nullable : Bool
  comment : Option String

/-- `iceberg_field_from_column` on each column. -/
def icebergFieldsFrom (columns : List CreateTableColumn) (next : Int) : List Json × Int :=
  match columns with
  | [] => ([], next)
  | column :: rest =>
      let id := allocateFieldId next
      let converted := datafusionTypeToIceberg column.dataType id.2
      let others := icebergFieldsFrom rest converted.2
      let field :=
        icebergColumnField id.1 column.name converted.1 (!column.nullable) column.comment
      (field :: others.1, others.2)

def toI32 (value : Int) : Option Int :=
  if -2 ^ 31 ≤ value ∧ value < 2 ^ 31 then some value else none

def columnEntry (field : Json) : Option (String × Int) := do
  let name ← jsonText field "name"
  let id ← toI32 (← jsonNumber field "id")
  return (name, id)

/-- A later field of one name takes the place of an earlier one. -/
def columnIds (fields : List Json) : BTreeMap Int :=
  (fields.filterMap columnEntry).foldl (fun ids entry => ids.insert entry.1 entry.2) ∅

structure IcebergColumns where
  fields : List Json
  columnIds : BTreeMap Int
  lastColumnId : Int

def icebergFieldsFromColumns (columns : List CreateTableColumn) : IcebergColumns :=
  let converted := icebergFieldsFrom columns 1
  ⟨converted.1, columnIds converted.1, converted.2 - 1⟩

inductive PartitionTransform where
  | identity | year | month | day | hour
  | bucket (count : Nat)
  | truncate (width : Nat)

structure CatalogPartitionField where
  column : String
  transform : Option PartitionTransform

def partitionTransformToIceberg (field : CatalogPartitionField) : String × String :=
  match field.transform with
  | none | some .identity => ("identity", field.column)
  | some .year => ("year", field.column ++ "_year")
  | some .month => ("month", field.column ++ "_month")
  | some .day => ("day", field.column ++ "_day")
  | some .hour => ("hour", field.column ++ "_hour")
  | some (.bucket count) => ("bucket[" ++ toString count ++ "]", field.column ++ "_bucket")
  | some (.truncate width) => ("truncate[" ++ toString width ++ "]", field.column ++ "_trunc")

/-- `i32::try_from(idx + 1000).unwrap_or(i32::MAX)`. -/
def partitionFieldId (index : Nat) : Int :=
  (toI32 (index + 1000)).getD maxI32

/-- A field of a column that is not there is left out. -/
def partitionSpecFields (columnIds : BTreeMap Int) (partitionBy : List CatalogPartitionField) :
    List Json :=
  partitionBy.zipIdx.filterMap fun (field, index) => do
    let sourceId ← columnIds[field.column]?
    let (transform, name) := partitionTransformToIceberg field
    return .object [("source-id", .int sourceId), ("field-id", .int (partitionFieldId index)),
      ("name", .str name), ("transform", .str transform)]

structure CatalogTableSort where
  column : String
  ascending : Bool

def sortOrderFields (columnIds : BTreeMap Int) (sortBy : List CatalogTableSort) : List Json :=
  sortBy.filterMap fun field => do
    let sourceId ← columnIds[field.column]?
    return .object [("source-id", .int sourceId), ("transform", .str "identity"),
      ("direction", .str (if field.ascending then "asc" else "desc")),
      ("null-order", .str (if field.ascending then "nulls-first" else "nulls-last"))]

/-! The ids that are handed out. -/

/-- So many ids from the next one on. -/
def allocatedIds (next : Int) : Nat → List Int
  | 0 => []
  | count + 1 => next :: allocatedIds (allocateFieldId next).2 count

def idAfter (next : Int) : Nat → Int
  | 0 => next
  | count + 1 => idAfter (allocateFieldId next).2 count

mutual

/-- The ids that the children of a type take. -/
def typeIdCount (dataType : DataType) : Nat :=
  match dataType with
  | .struct fields => fieldsIdCount fields
  | .list field | .largeList field => typeIdCount field.dataType + 1
  | .map entry _ => typeIdCount (mapTypes entry).1 + typeIdCount (mapTypes entry).2.1 + 2
  | _ => 0
termination_by sizeOf dataType
decreasing_by
  all_goals
    first
    | simp only [DataType.struct.sizeOf_spec]
      omega
    | have inner := field.sizeOf_dataType
      simp only [DataType.list.sizeOf_spec, DataType.largeList.sizeOf_spec]
      omega
    | have inner := sizeOf_mapTypes entry
      simp only [DataType.map.sizeOf_spec]
      omega

def fieldsIdCount (fields : List Field) : Nat :=
  match fields with
  | [] => 0
  | .new _ dataType _ :: rest => typeIdCount dataType + 1 + fieldsIdCount rest
termination_by sizeOf fields
decreasing_by
  all_goals
    simp only [List.cons.sizeOf_spec, Field.new.sizeOf_spec]
    omega

end

def columnsIdCount (columns : List CreateTableColumn) : Nat :=
  (columns.map fun column => typeIdCount column.dataType + 1).sum

/-- An id of a schema. -/
def IsFieldId (id : Int) : Prop :=
  1 ≤ id ∧ id ≤ maxI32

theorem IsFieldId.next {id : Int} (inside : IsFieldId id) : IsFieldId (allocateFieldId id).2 := by
  obtain ⟨low, high⟩ := inside
  simp only [IsFieldId, allocateFieldId, maxI32] at *
  omega

theorem IsFieldId.after {id : Int} (inside : IsFieldId id) (count : Nat) :
    IsFieldId (idAfter id count) := by
  induction count generalizing id with
  | zero => exact inside
  | succ count ih => exact ih inside.next

theorem allocatedIds_append (next : Int) (first second : Nat) :
    allocatedIds next (first + second) =
      allocatedIds next first ++ allocatedIds (idAfter next first) second := by
  induction first generalizing next with
  | zero => rw [Nat.zero_add]; rfl
  | succ first ih =>
      rw [Nat.succ_add, allocatedIds, ih, allocatedIds, idAfter, List.cons_append]

theorem idAfter_add (next : Int) (first second : Nat) :
    idAfter next (first + second) = idAfter (idAfter next first) second := by
  induction first generalizing next with
  | zero => rw [Nat.zero_add]; rfl
  | succ first ih => rw [Nat.succ_add, idAfter, ih, idAfter]

theorem idAfter_eq {next : Int} (inside : IsFieldId next) (count : Nat) :
    idAfter next count = min (next + count) maxI32 := by
  obtain ⟨low, high⟩ := inside
  induction count generalizing next with
  | zero =>
      rw [idAfter]
      omega
  | succ count ih =>
      have step := IsFieldId.next ⟨low, high⟩
      rw [idAfter, ih step.1 step.2, allocateFieldId]
      simp only [maxI32]
      omega

theorem mem_allocatedIds {next : Int} (inside : IsFieldId next) {count : Nat} {id : Int} :
    id ∈ allocatedIds next count ↔ ∃ place < count, id = min (next + place) maxI32 := by
  induction count generalizing next with
  | zero => simp [allocatedIds]
  | succ count ih =>
      obtain ⟨low, high⟩ := inside
      rw [allocatedIds, List.mem_cons, ih (IsFieldId.next ⟨low, high⟩), allocateFieldId]
      constructor
      · rintro (rfl | ⟨place, within, rfl⟩)
        · exact ⟨0, by omega, by simp only [Nat.cast_zero]; omega⟩
        · refine ⟨place + 1, by omega, ?_⟩
          simp only [maxI32, Nat.cast_add, Nat.cast_one]
          omega
      · rintro ⟨place, within, rfl⟩
        cases place with
        | zero =>
            left
            simp only [Nat.cast_zero]
            omega
        | succ place =>
            right
            refine ⟨place, by omega, ?_⟩
            simp only [maxI32, Nat.cast_add, Nat.cast_one]
            omega

/-- Where the ids do not run out, they are the numbers in their order. -/
theorem allocatedIds_eq {next : Int} (inside : IsFieldId next) {count : Nat}
    (enough : next + count ≤ maxI32) :
    allocatedIds next count = (List.range count).map fun place : Nat => next + (place : Int) := by
  induction count generalizing next with
  | zero => rfl
  | succ count ih =>
      rw [Nat.cast_add, Nat.cast_one] at enough
      have step : (allocateFieldId next).2 = next + 1 := by
        rw [allocateFieldId]
        omega
      have stepInside := inside.next
      rw [step] at stepInside
      rw [allocatedIds, step, ih stepInside (by omega), List.range_succ_eq_map, List.map_cons,
        List.map_map]
      congr 1
      · simp
      · refine List.map_congr_left fun place _ => ?_
        simp only [Function.comp_apply, Nat.cast_succ]
        omega

/-! The ids of what a type is converted to. -/

theorem jsonNumber_int {value : Json} {key : String} {id : Int} (inside : IsFieldId id)
    (held : value.get key = some (.int id)) : jsonNumber value key = some id := by
  obtain ⟨low, high⟩ := inside
  rw [maxI32] at high
  rw [jsonNumber, held, Option.bind_some, Json.asI64, if_pos (by omega)]

def slotIds (slots : List FieldSlot) : List (Option Int) :=
  slots.map FieldSlot.id

theorem slotIds_append (first second : List FieldSlot) :
    slotIds (first ++ second) = slotIds first ++ slotIds second :=
  List.map_append

/-- The ids at a child are its own and those of its type. -/
theorem slotIds_child {holder child : Json} {idKey typeKey : String} {id : Int}
    (inside : IsFieldId id) (numbered : holder.get idKey = some (.int id))
    (held : holder.get typeKey = some child) (step : FieldStep) :
    slotIds (childSlots step holder idKey typeKey) = some id :: slotIds (typeSlots child) := by
  rw [childSlots_some step held, jsonNumber_int inside numbered, slotIds, List.map_cons,
    List.map_map]
  rfl

theorem slotIds_struct (fields : List Json) :
    slotIds (typeSlots (icebergStruct fields)) = slotIds (memberSlots 0 fields) := by
  have typed : jsonText (icebergStruct fields) "type" = some "struct" := by
    rw [jsonText, icebergStruct, Json.get_object]
    rfl
  have held : (icebergStruct fields).get "fields" = some (.arr fields) := by
    rw [icebergStruct, Json.get_object]
    rfl
  rw [typeSlots_struct typed held]

theorem slotIds_list {id : Int} (inside : IsFieldId id) (element : Json) (required : Bool) :
    slotIds (typeSlots (icebergList id element required)) =
      some id :: slotIds (typeSlots element) := by
  have typed : jsonText (icebergList id element required) "type" = some "list" := by
    rw [jsonText, icebergList, Json.get_object]
    rfl
  rw [typeSlots_list typed]
  apply slotIds_child inside
  · rw [icebergList, Json.get_object]
    rfl
  · rw [icebergList, Json.get_object]
    rfl

theorem slotIds_map {keyId valueId : Int} (keyInside : IsFieldId keyId)
    (valueInside : IsFieldId valueId) (key value : Json) (required : Bool) :
    slotIds (typeSlots (icebergMap keyId key valueId value required)) =
      some keyId :: slotIds (typeSlots key) ++ some valueId :: slotIds (typeSlots value) := by
  have typed : jsonText (icebergMap keyId key valueId value required) "type" = some "map" := by
    rw [jsonText, icebergMap, Json.get_object]
    rfl
  rw [typeSlots_map typed, slotIds_append]
  congr 1
  · apply slotIds_child keyInside
    · rw [icebergMap, Json.get_object]
      rfl
    · rw [icebergMap, Json.get_object]
      rfl
  · apply slotIds_child valueInside
    · rw [icebergMap, Json.get_object]
      rfl
    · rw [icebergMap, Json.get_object]
      rfl

theorem typeSlots_text (text : String) : typeSlots (.str text) = [] := by
  apply typeSlots_plain <;> simp [jsonText, Json.get]

/-- A field is an object with an id and a type. -/
theorem slotIds_member {field type : Json} {id : Int} (inside : IsFieldId id)
    (shape : field.isObject = true) (numbered : field.get "id" = some (.int id))
    (held : field.get "type" = some type) (index : Nat) (rest : List Json) :
    slotIds (memberSlots index (field :: rest)) =
      some id :: slotIds (typeSlots type) ++ slotIds (memberSlots (index + 1) rest) := by
  rw [memberSlots, if_pos shape, slotIds_append, slotIds_child inside numbered held]

/-- So many ids were handed out, and the slots hold them. -/
structure Numbers (next : Int) (count : Nat) (slots : List FieldSlot) (after : Int) : Prop where
  ids : (slotIds slots).Perm ((allocatedIds next count).map some)
  after : after = idAfter next count

theorem Numbers.nothing (next : Int) : Numbers next 0 [] next := ⟨.nil, rfl⟩

theorem Numbers.append {next middle after : Int} {first second : Nat}
    {slots others : List FieldSlot} (one : Numbers next first slots middle)
    (two : Numbers middle second others after) :
    Numbers next (first + second) (slots ++ others) after where
  ids := by
    rw [slotIds_append, allocatedIds_append, List.map_append, ← one.after]
    exact one.ids.append two.ids
  after := by rw [two.after, one.after, idAfter_add]

mutual

theorem datafusionType_numbers (dataType : DataType) {next : Int} (inside : IsFieldId next) :
    Numbers next (typeIdCount dataType) (typeSlots (datafusionTypeToIceberg dataType next).1)
      (datafusionTypeToIceberg dataType next).2 := by
  cases dataType with
  | struct fields =>
      rw [datafusionTypeToIceberg, typeIdCount]
      have members := nestedFields_numbers fields inside 0
      exact ⟨by rw [slotIds_struct]; exact members.ids, members.after⟩
  | list field | largeList field =>
      rw [datafusionTypeToIceberg, typeIdCount]
      have element := datafusionType_numbers field.dataType inside.next
      refine ⟨?_, element.after⟩
      change (slotIds (typeSlots (icebergList next _ _))).Perm _
      rw [slotIds_list inside, allocatedIds, List.map_cons]
      exact element.ids.cons _
  | map entry sorted =>
      rw [datafusionTypeToIceberg, typeIdCount]
      have key := datafusionType_numbers (mapTypes entry).1 inside.next.next
      have keyInside : IsFieldId (datafusionTypeToIceberg (mapTypes entry).1
          (allocateFieldId (allocateFieldId next).2).2).2 := by
        rw [key.after]
        exact inside.next.next.after _
      have value := datafusionType_numbers (mapTypes entry).2.1 keyInside
      have whole := key.append value
      refine ⟨?_, whole.after⟩
      change (slotIds (typeSlots (icebergMap next _ (allocateFieldId next).2 _ _))).Perm _
      rw [slotIds_map inside inside.next, allocatedIds, allocatedIds, List.map_cons, List.map_cons]
      have moved := whole.ids
      rw [slotIds_append] at moved
      exact ((List.perm_middle).cons _).trans ((moved.cons _).cons _)
  | boolean | int8 | int16 | int32 | int64 | uint8 | uint16 | uint32 | uint64 | float16 | float32
  | float64 | date32 | date64 | time32 | time64 | timestamp | binary | largeBinary
  | fixedSizeBinary | decimal128 | decimal256 | utf8 | other =>
      simp only [datafusionTypeToIceberg, typeIdCount, typeSlots_text]
      exact .nothing next
termination_by sizeOf dataType
decreasing_by
  all_goals
    first
    | simp only [DataType.struct.sizeOf_spec]
      omega
    | have inner := field.sizeOf_dataType
      simp only [DataType.list.sizeOf_spec, DataType.largeList.sizeOf_spec]
      omega
    | have inner := sizeOf_mapTypes entry
      simp only [DataType.map.sizeOf_spec]
      omega

theorem nestedFields_numbers (fields : List Field) {next : Int} (inside : IsFieldId next)
    (index : Nat) :
    Numbers next (fieldsIdCount fields)
      (memberSlots index (icebergNestedFieldsFromArrow fields next).1)
      (icebergNestedFieldsFromArrow fields next).2 := by
  cases fields with
  | nil =>
      rw [icebergNestedFieldsFromArrow, fieldsIdCount, memberSlots]
      exact .nothing next
  | cons field rest =>
      obtain ⟨name, dataType, nullable⟩ := field
      rw [icebergNestedFieldsFromArrow, fieldsIdCount]
      have own := datafusionType_numbers dataType inside.next
      have ownInside : IsFieldId (datafusionTypeToIceberg dataType (allocateFieldId next).2).2 := by
        rw [own.after]
        exact inside.next.after _
      have others := nestedFields_numbers rest ownInside (index + 1)
      have whole := own.append others
      refine ⟨?_, ?_⟩
      · rw [slotIds_member inside rfl (by rw [icebergNestedField, Json.get_object]; rfl)
          (by rw [icebergNestedField, Json.get_object]; rfl), Nat.add_right_comm, allocatedIds,
          List.map_cons, List.cons_append, ← slotIds_append]
        exact whole.ids.cons _
      · rw [whole.after, Nat.add_right_comm, idAfter]
termination_by sizeOf fields
decreasing_by
  all_goals
    simp only [List.cons.sizeOf_spec, Field.new.sizeOf_spec]
    omega

end

theorem columns_numbers (columns : List CreateTableColumn) {next : Int} (inside : IsFieldId next)
    (index : Nat) :
    Numbers next (columnsIdCount columns) (memberSlots index (icebergFieldsFrom columns next).1)
      (icebergFieldsFrom columns next).2 := by
  induction columns generalizing next index with
  | nil =>
      rw [icebergFieldsFrom, memberSlots]
      exact .nothing next
  | cons column rest ih =>
      rw [icebergFieldsFrom]
      have own := datafusionType_numbers column.dataType inside.next
      have ownInside : IsFieldId
          (datafusionTypeToIceberg column.dataType (allocateFieldId next).2).2 := by
        rw [own.after]
        exact inside.next.after _
      have whole := own.append (ih ownInside (index + 1))
      have count : columnsIdCount (column :: rest) =
          typeIdCount column.dataType + columnsIdCount rest + 1 := by
        rw [columnsIdCount, columnsIdCount, List.map_cons, List.sum_cons]
        omega
      refine ⟨?_, ?_⟩
      · rw [slotIds_member inside rfl (by rw [icebergColumnField, Json.get_object]; rfl)
          (by rw [icebergColumnField, Json.get_object]; rfl), count, allocatedIds,
          List.map_cons, List.cons_append, ← slotIds_append]
        exact whole.ids.cons _
      · rw [whole.after, count, idAfter]

end LakeCat
