import LakeCat.ColumnConversion
import LakeCat.OrderedMap

/-!
What a reader of the provider finds in the fields that columns were converted
to, and which columns the partition and sort fields of the table refer to.
-/

namespace LakeCat

open Fallible Arrow

def primitiveIcebergType (kind : String) : DataType :=
  match kind with
  | "boolean" => .boolean
  | "int" => .int32
  | "long" => .int64
  | "float" => .float32
  | "double" => .float64
  | "date" => .date32
  | "time" => .time64 .microsecond
  | "timestamp" | "timestamptz" => .timestamp .microsecond none
  | "binary" | "fixed" => .binary
  | "string" | "uuid" => .utf8
  | kind => if startsWith kind "decimal" then .decimal128 38 18 else .utf8

def jsonFlag (value : Json) (key : String) : Bool :=
  ((value.get key).bind Json.asBool).getD false

mutual

def icebergTypeToDatafusion (value : Json) : DataType :=
  match value with
  | .str kind => primitiveIcebergType kind
  | .obj object =>
      match jsonText (.obj object) "type" with
      | some "struct" =>
          match _found : (Json.obj object).get "fields" with
          | some (.arr fields) => .struct (icebergNestedFieldsToDatafusion fields)
          | _ => .struct []
      | some "list" => .list (.new "item"
          (icebergChildToDatafusion (.obj object) "element")
          (!jsonFlag (.obj object) "element-required"))
      | some "map" => .map (.new "entries" (.struct [
          .new "key" (icebergChildToDatafusion (.obj object) "key") false,
          .new "value" (icebergChildToDatafusion (.obj object) "value")
            (!jsonFlag (.obj object) "value-required")]) false) false
      | some kind => primitiveIcebergType kind
      | none => .utf8
  | _ => .utf8
termination_by 2 * sizeOf value + 1
decreasing_by
  · have smaller := Json.sizeOf_get _found
    simp only [Json.arr.sizeOf_spec] at smaller
    omega
  all_goals omega

/-- The type under a key, or text. -/
def icebergChildToDatafusion (holder : Json) (key : String) : DataType :=
  match _found : holder.get key with
  | some child => icebergTypeToDatafusion child
  | none => .utf8
termination_by 2 * sizeOf holder
decreasing_by
  have smaller := Json.sizeOf_get _found
  omega

/-- `iceberg_nested_field_to_datafusion` on each field, without those that it drops. -/
def icebergNestedFieldsToDatafusion (fields : List Json) : List Field :=
  match fields with
  | [] => []
  | field :: rest =>
      let others := icebergNestedFieldsToDatafusion rest
      match jsonText field "name", _found : field.get "type" with
      | some name, some type =>
          .new name (icebergTypeToDatafusion type) (!jsonFlag field "required") :: others
      | _, _ => others
termination_by 2 * sizeOf fields
decreasing_by
  · simp only [List.cons.sizeOf_spec]
    omega
  · have smaller := Json.sizeOf_get _found
    simp only [List.cons.sizeOf_spec]
    omega

end

/-! What a reader finds. -/

mutual

/-- The type that a reader finds where this one was written: the widths, units, zones, sizes and
precisions that Iceberg has no room for here are lost, and what is not converted is text. -/
def readType (dataType : DataType) : DataType :=
  match dataType with
  | .boolean => .boolean
  | .int8 | .int16 | .int32 | .uint8 | .uint16 | .uint32 => .int32
  | .int64 | .uint64 => .int64
  | .float16 | .float32 => .float32
  | .float64 => .float64
  | .date32 | .date64 => .date32
  | .time32 _ | .time64 _ => .time64 .microsecond
  | .timestamp _ _ => .timestamp .microsecond none
  | .binary | .largeBinary | .fixedSizeBinary _ => .binary
  | .decimal128 _ _ | .decimal256 _ _ => .decimal128 38 18
  | .struct fields => .struct (readFields fields)
  | .list field | .largeList field =>
      .list (.new "item" (readType field.dataType) field.nullable)
  | .map entry _ => .map (.new "entries" (.struct [
      .new "key" (readType (mapTypes entry).1) false,
      .new "value" (readType (mapTypes entry).2.1) (!(mapTypes entry).2.2)]) false) false
  | .utf8 | .other _ => .utf8
termination_by sizeOf dataType
decreasing_by
  all_goals
    first
    | simp only [DataType.struct.sizeOf_spec]
      omega
    | have inner := field.sizeOf_dataType
      simp only [DataType.list.sizeOf_spec, DataType.largeList.sizeOf_spec]
      omega
    | have inner := sizeOf_mapTypes entry
      simp only [DataType.map.sizeOf_spec]
      omega

def readFields (fields : List Field) : List Field :=
  match fields with
  | [] => []
  | .new name dataType nullable :: rest => .new name (readType dataType) nullable :: readFields rest
termination_by sizeOf fields
decreasing_by
  all_goals
    simp only [List.cons.sizeOf_spec, Field.new.sizeOf_spec]
    omega

end

section Reading

variable {value child : Json}

theorem icebergType_struct {fields : List Json} (typed : jsonText value "type" = some "struct")
    (held : value.get "fields" = some (.arr fields)) :
    icebergTypeToDatafusion value = .struct (icebergNestedFieldsToDatafusion fields) := by
  cases value with
  | obj object =>
      rw [icebergTypeToDatafusion]
      simp only [typed]
      split <;> simp_all
  | null | bool | int | float | str | arr => cases held

theorem icebergType_list (typed : jsonText value "type" = some "list") :
    icebergTypeToDatafusion value = .list (.new "item" (icebergChildToDatafusion value "element")
      (!jsonFlag value "element-required")) := by
  cases value with
  | obj object =>
      rw [icebergTypeToDatafusion]
      simp only [typed]
  | null | bool | int | float | str | arr => cases typed

theorem icebergType_map (typed : jsonText value "type" = some "map") :
    icebergTypeToDatafusion value = .map (.new "entries" (.struct [
      .new "key" (icebergChildToDatafusion value "key") false,
      .new "value" (icebergChildToDatafusion value "value")
        (!jsonFlag value "value-required")]) false) false := by
  cases value with
  | obj object =>
      rw [icebergTypeToDatafusion]
      simp only [typed]
  | null | bool | int | float | str | arr => cases typed

theorem icebergChild_some {key : String} (held : value.get key = some child) :
    icebergChildToDatafusion value key = icebergTypeToDatafusion child := by
  rw [icebergChildToDatafusion]
  split <;> simp_all

theorem icebergNestedFields_cons {name : String} (rest : List Json)
    (named : jsonText value "name" = some name) (held : value.get "type" = some child) :
    icebergNestedFieldsToDatafusion (value :: rest) =
      .new name (icebergTypeToDatafusion child) (!jsonFlag value "required") ::
        icebergNestedFieldsToDatafusion rest := by
  rw [icebergNestedFieldsToDatafusion]
  split <;> simp_all

end Reading

theorem primitiveType_decimal : primitiveIcebergType "decimal(38,18)" = .decimal128 38 18 := by
  have decimal : startsWith "decimal(38,18)" "decimal" = true := by decide +kernel
  unfold primitiveIcebergType
  split <;> simp_all

mutual

theorem datafusionType_read (dataType : DataType) (next : Int) :
    icebergTypeToDatafusion (datafusionTypeToIceberg dataType next).1 = readType dataType := by
  cases dataType with
  | struct fields =>
      rw [datafusionTypeToIceberg, readType, ← nestedFields_read fields next]
      apply icebergType_struct
      · rw [jsonText, icebergStruct, Json.get_object]
        rfl
      · rw [icebergStruct, Json.get_object]
        rfl
  | list field | largeList field =>
      rw [datafusionTypeToIceberg, readType,
        ← datafusionType_read field.dataType (allocateFieldId next).2]
      generalize datafusionTypeToIceberg field.dataType (allocateFieldId next).2 = converted
      have typed : jsonText (icebergList (allocateFieldId next).1 converted.1 (!field.nullable))
          "type" = some "list" := by
        rw [jsonText, icebergList, Json.get_object]
        rfl
      have element : (icebergList (allocateFieldId next).1 converted.1 (!field.nullable)).get
          "element" = some converted.1 := by
        rw [icebergList, Json.get_object]
        rfl
      have required : jsonFlag (icebergList (allocateFieldId next).1 converted.1 (!field.nullable))
          "element-required" = !field.nullable := by
        rw [jsonFlag, icebergList, Json.get_object]
        rfl
      rw [icebergType_list typed, icebergChild_some element, required, Bool.not_not]
  | map entry sorted =>
      rw [datafusionTypeToIceberg, readType]
      have key := datafusionType_read (mapTypes entry).1
        (allocateFieldId (allocateFieldId next).2).2
      have value := datafusionType_read (mapTypes entry).2.1 (datafusionTypeToIceberg
        (mapTypes entry).1 (allocateFieldId (allocateFieldId next).2).2).2
      rw [← key, ← value]
      generalize datafusionTypeToIceberg (mapTypes entry).1
        (allocateFieldId (allocateFieldId next).2).2 = keyMade
      generalize datafusionTypeToIceberg (mapTypes entry).2.1 keyMade.2 = valueMade
      generalize (mapTypes entry).2.2 = flag
      have held (field : String) : (icebergMap (allocateFieldId next).1 keyMade.1
          (allocateFieldId (allocateFieldId next).2).1 valueMade.1 flag).get field =
          List.lookup field [("value-required", .bool flag), ("value", valueMade.1),
            ("value-id", .int (allocateFieldId (allocateFieldId next).2).1), ("key", keyMade.1),
            ("key-id", .int (allocateFieldId next).1), ("type", .str "map")] := by
        rw [icebergMap, Json.get_object]
        rfl
      have typed : jsonText (icebergMap (allocateFieldId next).1 keyMade.1
          (allocateFieldId (allocateFieldId next).2).1 valueMade.1 flag) "type" = some "map" := by
        rw [jsonText, held]
        rfl
      rw [icebergType_map typed, icebergChild_some (held "key"), icebergChild_some (held "value"),
        jsonFlag, held]
      rfl
  | decimal128 precision scale | decimal256 precision scale =>
      rw [datafusionTypeToIceberg, readType, icebergTypeToDatafusion, primitiveType_decimal]
  | boolean | int8 | int16 | int32 | int64 | uint8 | uint16 | uint32 | uint64 | float16 | float32
  | float64 | date32 | date64 | time32 | time64 | timestamp | binary | largeBinary
  | fixedSizeBinary | utf8 | other =>
      simp only [datafusionTypeToIceberg, readType, icebergTypeToDatafusion, primitiveIcebergType]
termination_by sizeOf dataType
decreasing_by
  all_goals
    first
    | simp only [DataType.struct.sizeOf_spec]
      omega
    | have inner := field.sizeOf_dataType
      simp only [DataType.list.sizeOf_spec, DataType.largeList.sizeOf_spec]
      omega
    | have inner := sizeOf_mapTypes entry
      simp only [DataType.map.sizeOf_spec]
      omega

theorem nestedFields_read (fields : List Field) (next : Int) :
    icebergNestedFieldsToDatafusion (icebergNestedFieldsFromArrow fields next).1 =
      readFields fields := by
  cases fields with
  | nil => rw [icebergNestedFieldsFromArrow, readFields, icebergNestedFieldsToDatafusion]
  | cons field rest =>
      obtain ⟨name, dataType, nullable⟩ := field
      rw [icebergNestedFieldsFromArrow, readFields,
        ← datafusionType_read dataType (allocateFieldId next).2,
        ← nestedFields_read rest (datafusionTypeToIceberg dataType (allocateFieldId next).2).2]
      generalize datafusionTypeToIceberg dataType (allocateFieldId next).2 = converted
      have held (key : String) : (icebergNestedField (allocateFieldId next).1 name converted.1
          (!nullable)).get key = List.lookup key [("required", .bool (!nullable)),
            ("type", converted.1), ("name", .str name), ("id", .int (allocateFieldId next).1)] := by
        rw [icebergNestedField, Json.get_object]
        rfl
      have named : jsonText (icebergNestedField (allocateFieldId next).1 name converted.1
          (!nullable)) "name" = some name := by
        rw [jsonText, held]
        rfl
      rw [icebergNestedFields_cons _ named (held "type"), jsonFlag, held]
      simp [List.lookup, Json.asBool]
termination_by sizeOf fields
decreasing_by
  all_goals
    simp only [List.cons.sizeOf_spec, Field.new.sizeOf_spec]
    omega

end

mutual

/-- What was read once is read again as it is. -/
theorem readType_again (dataType : DataType) :
    readType (readType dataType) = readType dataType := by
  cases dataType with
  | struct fields =>
      rw [readType, readType, readFields_again fields]
  | list field | largeList field =>
      rw [readType, readType, Field.dataType, readType_again field.dataType]
      rfl
  | map entry sorted =>
      have types : mapTypes (.new "entries" (.struct [
          .new "key" (readType (mapTypes entry).1) false,
          .new "value" (readType (mapTypes entry).2.1) (!(mapTypes entry).2.2)]) false) =
          (readType (mapTypes entry).1, readType (mapTypes entry).2.1, (mapTypes entry).2.2) := by
        simp [mapTypes, mapEntryTypes, Field.dataType, Field.name, Field.nullable]
      have key := readType_again (mapTypes entry).1
      have value := readType_again (mapTypes entry).2.1
      rw [readType, readType, types, key, value]
  | boolean | int8 | int16 | int32 | int64 | uint8 | uint16 | uint32 | uint64 | float16 | float32
  | float64 | date32 | date64 | time32 | time64 | timestamp | binary | largeBinary
  | fixedSizeBinary | decimal128 | decimal256 | utf8 | other =>
      simp only [readType]
termination_by sizeOf dataType
decreasing_by
  all_goals
    first
    | simp only [DataType.struct.sizeOf_spec]
      omega
    | have inner := field.sizeOf_dataType
      simp only [DataType.list.sizeOf_spec, DataType.largeList.sizeOf_spec]
      omega
    | have inner := sizeOf_mapTypes entry
      simp only [DataType.map.sizeOf_spec]
      omega

theorem readFields_again (fields : List Field) :
    readFields (readFields fields) = readFields fields := by
  cases fields with
  | nil => rw [readFields, readFields]
  | cons field rest =>
      obtain ⟨name, dataType, nullable⟩ := field
      rw [readFields, readFields, readType_again dataType, readFields_again rest]
termination_by sizeOf fields
decreasing_by
  all_goals
    simp only [List.cons.sizeOf_spec, Field.new.sizeOf_spec]
    omega

end

section Columns

variable (column : CreateTableColumn) (id : Int) (type : Json)

def createdField : Json :=
  icebergColumnField id column.name type (!column.nullable) column.comment

theorem createdField_get (key : String) :
    (createdField column id type).get key =
      List.lookup key [("doc", ofOptionStr column.comment), ("required", .bool (!column.nullable)),
        ("type", type), ("name", .str column.name), ("id", .int id)] := by
  rw [createdField, icebergColumnField, Json.get_object]
  rfl

theorem createdField_name : jsonText (createdField column id type) "name" = some column.name := by
  rw [jsonText, createdField_get]
  rfl

theorem createdField_required :
    jsonFlag (createdField column id type) "required" = !column.nullable := by
  rw [jsonFlag, createdField_get]
  rfl

end Columns

theorem columns_read (columns : List CreateTableColumn) (next : Int) :
    icebergNestedFieldsToDatafusion (icebergFieldsFrom columns next).1 =
      columns.map fun column => .new column.name (readType column.dataType) column.nullable := by
  induction columns generalizing next with
  | nil => rw [icebergFieldsFrom, icebergNestedFieldsToDatafusion, List.map_nil]
  | cons column rest ih =>
      have others := ih (datafusionTypeToIceberg column.dataType (allocateFieldId next).2).2
      have type := datafusionType_read column.dataType (allocateFieldId next).2
      rw [icebergFieldsFrom, List.map_cons, ← others, ← type]
      generalize datafusionTypeToIceberg column.dataType (allocateFieldId next).2 = converted
      have held := createdField_get column (allocateFieldId next).1 converted.1 "type"
      have named := createdField_name column (allocateFieldId next).1 converted.1
      have required := createdField_required column (allocateFieldId next).1 converted.1
      rw [createdField] at held named required
      rw [icebergNestedFields_cons _ named held, required, Bool.not_not]

/-! What refers to a column. -/

/-- The source of a reference is the last column of the name. -/
def RefersTo (fields : List Json) (name : String) (reference : Json) : Prop :=
  ∃ before field after, fields = before ++ field :: after ∧
    jsonText field "name" = some name ∧ reference.get "source-id" = field.get "id" ∧
    ∀ later ∈ after, jsonText later "name" ≠ some name

theorem toI32_inside {id : Int} (inside : IsFieldId id) : toI32 id = some id := by
  obtain ⟨low, high⟩ := inside
  rw [maxI32] at high
  rw [toI32, if_pos (by omega)]

theorem mem_icebergFieldsFrom {columns : List CreateTableColumn} {next : Int}
    (inside : IsFieldId next) {field : Json} (member : field ∈ (icebergFieldsFrom columns next).1) :
    ∃ column ∈ columns, ∃ id type, IsFieldId id ∧ field = createdField column id type := by
  induction columns generalizing next with
  | nil =>
      rw [icebergFieldsFrom] at member
      cases member
  | cons column rest ih =>
      rw [icebergFieldsFrom, List.mem_cons] at member
      rcases member with rfl | member
      · exact ⟨column, List.mem_cons_self, _, _, inside, rfl⟩
      · have own := datafusionType_numbers column.dataType inside.next
        have ownInside : IsFieldId
            (datafusionTypeToIceberg column.dataType (allocateFieldId next).2).2 := by
          rw [own.after]
          exact inside.next.after _
        obtain ⟨found, memberOf, rest⟩ := ih ownInside member
        exact ⟨found, List.mem_cons_of_mem _ memberOf, rest⟩

theorem isFieldId_one : IsFieldId 1 := by
  simp [IsFieldId, maxI32]

theorem columnEntry_eq {column : CreateTableColumn} {id : Int} {type : Json}
    (inside : IsFieldId id) :
    columnEntry (createdField column id type) = some (column.name, id) := by
  have held : (createdField column id type).get "id" = some (.int id) := by
    rw [createdField_get]
    rfl
  rw [columnEntry, createdField_name, jsonNumber_int inside held]
  simp [toI32_inside inside]

/-- An id that is found for a name is that of the last column of the name. -/
theorem refersTo_of_found (columns : List CreateTableColumn) {name : String} {id : Int}
    (found : (icebergFieldsFromColumns columns).columnIds[name]? = some id) {reference : Json}
    (source : reference.get "source-id" = some (.int id)) :
    RefersTo (icebergFieldsFromColumns columns).fields name reference := by
  obtain ⟨before, after, split, later⟩ := OrderedMap.getElem?_foldl_last _ found
  rw [List.filterMap_eq_append_iff] at split
  obtain ⟨fields, others, whole, -, rest⟩ := split
  rw [List.filterMap_eq_cons_iff] at rest
  obtain ⟨unnamed, field, tail, rfl, -, entry, final⟩ := rest
  have made {other : Json} (member : other ∈ field :: tail) :
      ∃ column id type, IsFieldId id ∧ other = createdField column id type := by
    have memberOf : other ∈ (icebergFieldsFromColumns columns).fields := by
      rw [icebergFieldsFromColumns, whole]
      exact List.mem_append_right _ (List.mem_append_right _ member)
    obtain ⟨column, -, id, type, inside, same⟩ := mem_icebergFieldsFrom isFieldId_one memberOf
    exact ⟨column, id, type, inside, same⟩
  refine ⟨fields ++ unnamed, field, tail, ?_, ?_, ?_, ?_⟩
  · rw [List.append_assoc]
    exact whole
  · obtain ⟨column, number, type, inside, rfl⟩ := made List.mem_cons_self
    rw [columnEntry_eq inside] at entry
    rw [createdField_name]
    exact congrArg (Option.map Prod.fst) entry
  · obtain ⟨column, number, type, inside, rfl⟩ := made List.mem_cons_self
    rw [columnEntry_eq inside] at entry
    rw [source, createdField_get, (Prod.mk.inj (Option.some.inj entry)).2.symm]
    rfl
  · intro other member
    obtain ⟨column, number, type, inside, rfl⟩ := made (List.mem_cons_of_mem _ member)
    rw [createdField_name]
    intro same
    refine later (column.name, number) ?_ (Option.some.inj same)
    rw [← final]
    exact List.mem_filterMap.mpr ⟨_, member, columnEntry_eq inside⟩

theorem partitionSpecFields_field {columns : List CreateTableColumn}
    {partitionBy : List CatalogPartitionField} {reference : Json}
    (member : reference ∈ partitionSpecFields (icebergFieldsFromColumns columns).columnIds
      partitionBy) :
    ∃ index field, partitionBy[index]? = some field ∧
      reference.get "field-id" = some (.int (partitionFieldId index)) ∧
      jsonText reference "transform" = some (partitionTransformToIceberg field).1 ∧
      RefersTo (icebergFieldsFromColumns columns).fields field.column reference := by
  rw [partitionSpecFields, List.mem_filterMap] at member
  obtain ⟨⟨field, index⟩, listed, made⟩ := member
  simp only [Option.bind_eq_bind, Option.bind_eq_some_iff, Option.pure_def,
    Option.some.injEq] at made
  obtain ⟨id, found, rfl⟩ := made
  refine ⟨index, field, ?_, ?_, ?_, ?_⟩
  · exact List.mk_mem_zipIdx_iff_getElem?.mp listed
  · rw [Json.get_object]
    rfl
  · rw [jsonText, Json.get_object]
    rfl
  · apply refersTo_of_found columns found
    rw [Json.get_object]
    rfl

theorem sortOrderFields_field {columns : List CreateTableColumn} {sortBy : List CatalogTableSort}
    {reference : Json}
    (member : reference ∈ sortOrderFields (icebergFieldsFromColumns columns).columnIds sortBy) :
    ∃ field ∈ sortBy, RefersTo (icebergFieldsFromColumns columns).fields field.column reference := by
  rw [sortOrderFields, List.mem_filterMap] at member
  obtain ⟨field, listed, made⟩ := member
  simp only [Option.bind_eq_bind, Option.bind_eq_some_iff, Option.pure_def,
    Option.some.injEq] at made
  obtain ⟨id, found, rfl⟩ := made
  refine ⟨field, listed, ?_⟩
  apply refersTo_of_found columns found
  rw [Json.get_object]
  rfl

theorem partitionFieldId_eq {index : Nat} (few : index + 1000 < 2 ^ 31) :
    partitionFieldId index = index + 1000 := by
  rw [partitionFieldId, toI32, if_pos (by omega), Option.getD_some]

theorem partitionFieldIds_nodup (columnIds : BTreeMap Int)
    {partitionBy : List CatalogPartitionField} (few : partitionBy.length + 1000 ≤ 2 ^ 31) :
    ((partitionSpecFields columnIds partitionBy).map fun field => field.get "field-id").Nodup := by
  have indices : (partitionBy.zipIdx.map Prod.snd).Nodup := by
    rw [List.zipIdx_map_snd]
    exact List.nodup_range'
  rw [List.Nodup, List.pairwise_map] at indices
  rw [partitionSpecFields, List.Nodup, List.pairwise_map, List.pairwise_filterMap]
  refine indices.imp_of_mem ?_
  rintro ⟨first, left⟩ ⟨second, right⟩ firstListed secondListed apart entry made other otherMade
  have leftBound := (List.mem_zipIdx firstListed).2.1
  have rightBound := (List.mem_zipIdx secondListed).2.1
  simp only [Option.bind_eq_bind, Option.bind_eq_some_iff, Option.pure_def,
    Option.some.injEq] at made otherMade
  obtain ⟨id, -, rfl⟩ := made
  obtain ⟨otherId, -, rfl⟩ := otherMade
  rw [Json.get_object, Json.get_object]
  intro same
  have ids : partitionFieldId left = partitionFieldId right := Json.int.inj (Option.some.inj same)
  rw [partitionFieldId_eq (by omega), partitionFieldId_eq (by omega)] at ids
  exact apart (by simp only; omega)

/-- Each id from 1 to the last is at one place, and no other id is at any. -/
structure IdsSound (made : IcebergColumns) : Prop where
  distinct : (slotIds (memberSlots 0 made.fields)).Nodup
  counted : ∀ id, id ∈ slotIds (memberSlots 0 made.fields) ↔
    ∃ value, id = some value ∧ 1 ≤ value ∧ value ≤ made.lastColumnId

theorem lastColumnId_eq (columns : List CreateTableColumn) :
    (icebergFieldsFromColumns columns).lastColumnId =
      min (1 + (columnsIdCount columns : Int)) maxI32 - 1 := by
  rw [← idAfter_eq isFieldId_one, ← (columns_numbers columns isFieldId_one 0).after]
  rfl

theorem mem_columnIds {columns : List CreateTableColumn} {id : Option Int} :
    id ∈ slotIds (memberSlots 0 (icebergFieldsFromColumns columns).fields) ↔
      ∃ place < columnsIdCount columns, id = some (min (1 + (place : Int)) maxI32) := by
  rw [icebergFieldsFromColumns, (columns_numbers columns isFieldId_one 0).ids.mem_iff,
    List.mem_map]
  constructor
  · rintro ⟨id, member, rfl⟩
    obtain ⟨place, within, rfl⟩ := (mem_allocatedIds isFieldId_one).mp member
    exact ⟨place, within, rfl⟩
  · rintro ⟨place, within, rfl⟩
    exact ⟨_, (mem_allocatedIds isFieldId_one).mpr ⟨place, within, rfl⟩, rfl⟩

theorem columns_idsSound (columns : List CreateTableColumn) :
    IdsSound (icebergFieldsFromColumns columns) ↔ columnsIdCount columns < maxI32 := by
  have last := lastColumnId_eq columns
  constructor
  · intro sound
    by_contra many
    have high : maxI32 = 1 + ((2 ^ 31 - 2 : Nat) : Int) := rfl
    have place : 2 ^ 31 - 2 < columnsIdCount columns := by
      rw [maxI32] at many
      omega
    have full := mem_columnIds.mpr ⟨_, place, rfl⟩
    obtain ⟨value, same, -, within⟩ := (sound.counted _).mp full
    rw [← high, min_self] at same
    rw [last, ← Option.some.inj same] at within
    omega
  · intro enough
    refine ⟨?_, fun id => ?_⟩
    · rw [icebergFieldsFromColumns,
        (columns_numbers columns isFieldId_one 0).ids.nodup_iff,
        allocatedIds_eq isFieldId_one (by omega), List.map_map]
      refine List.Nodup.map ?_ List.nodup_range
      intro left right same
      simp only [Function.comp_apply, Option.some.injEq] at same
      omega
    · rw [mem_columnIds, last]
      constructor
      · rintro ⟨place, within, rfl⟩
        exact ⟨_, rfl, by omega, by omega⟩
      · rintro ⟨value, rfl, low, high⟩
        refine ⟨(value - 1).toNat, by omega, ?_⟩
        rw [Int.toNat_of_nonneg (by omega), min_eq_left (by omega)]
        simp

/-- A list of numbers between two columns of text, partitioned by the day of the last. -/
def nestedColumns : List CreateTableColumn :=
  [⟨"id", .int64, false, none⟩,
    ⟨"sizes", .list (.new "item" (.struct [.new "width" .int32 true]) true), true, none⟩,
    ⟨"made", .date32, false, some "the day"⟩]

end LakeCat
