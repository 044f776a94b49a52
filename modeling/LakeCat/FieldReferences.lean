import LakeCat.FreshFieldIds

/-!
What the references of a create request point at once the fields have their
fresh ids. The source ids follow their fields; the other references stay as the
client wrote them.
-/

namespace LakeCat

def jsonNumbers (value : Json) (key : String) : List Int :=
  (((value.get key).bind Json.asArray).getD []).filterMap Json.asI64

/-- The fields of a partition spec or of a sort order. -/
def specFields (spec : Json) : List Json :=
  ((spec.get "fields").bind Json.asArray).getD []

def sourceIds (spec : Json) : List Int :=
  (specFields spec).filterMap fun field => jsonNumber field "source-id"

def sourceIdLists (spec : Json) : List Int :=
  (specFields spec).flatMap fun field => jsonNumbers field "source-ids"

def partitionFieldIds (spec : Json) : List Int :=
  (specFields spec).filterMap fun field => jsonNumber field "field-id"

def identifierFieldIds (schema : Json) : List Int :=
  jsonNumbers schema "identifier-field-ids"

def schemaIds (schema : Json) : List Int :=
  (schemaSlots schema).filterMap FieldSlot.id

/-- The only document that the metadata lists under a key. -/
def onlyOf (metadata : Json) (key : String) : Json :=
  (((metadata.get key).bind Json.asArray).bind List.head?).getD .null

/-- `right` denotes in the new schema the field that `left` denotes in the old one. -/
def SameField (old new : Json) (left right : Int) : Prop :=
  ∀ (place : Nat) (path : List FieldStep),
    (schemaSlots old)[place]? = some ⟨path, some left⟩ →
    (schemaSlots new)[place]? = some ⟨path, some right⟩

namespace InitialTable

def spec (request : InitialTable) : Json :=
  request.partitionSpec.getD unpartitionedSpec

def order (request : InitialTable) : Json :=
  request.sortOrder.getD unsortedOrder

end InitialTable

/-- Fresh ids from one on, and references that denote the fields they did in the request. -/
structure KeepsReferences (request : InitialTable) (metadata : Json) : Prop where
  paths : (schemaSlots (onlyOf metadata "schemas")).map FieldSlot.path =
    (schemaSlots request.schema).map FieldSlot.path
  distinct : ((schemaSlots (onlyOf metadata "schemas")).map FieldSlot.id).Nodup
  numbered : ∃ last, jsonNumber metadata "last-column-id" = some last ∧
    ∀ id, id ∈ (schemaSlots (onlyOf metadata "schemas")).map FieldSlot.id ↔
      ∃ number, id = some number ∧ 1 ≤ number ∧ number ≤ last
  partitionSources : List.Forall₂ (SameField request.schema (onlyOf metadata "schemas"))
    (sourceIds request.spec) (sourceIds (onlyOf metadata "partition-specs"))
  partitionSourceLists : List.Forall₂ (SameField request.schema (onlyOf metadata "schemas"))
    (sourceIdLists request.spec) (sourceIdLists (onlyOf metadata "partition-specs"))
  sortSources : List.Forall₂ (SameField request.schema (onlyOf metadata "schemas"))
    (sourceIds request.order) (sourceIds (onlyOf metadata "sort-orders"))
  identifiers : List.Forall₂ (SameField request.schema (onlyOf metadata "schemas"))
    (identifierFieldIds request.schema) (identifierFieldIds (onlyOf metadata "schemas"))
  lastPartition : ∃ last, jsonNumber metadata "last-partition-id" = some last ∧
    (∀ id ∈ partitionFieldIds (onlyOf metadata "partition-specs"), id ≤ last) ∧
    (specFields (onlyOf metadata "partition-specs") = [] → last ≤ 999)

/-- An id that is already the place of its field in the order of the schema. -/
def InPlace (schema : Json) (id : Int) : Prop :=
  ∀ (place : Nat) (path : List FieldStep),
    (schemaSlots schema)[place]? = some ⟨path, some id⟩ → id = place + 1

/-- Every reference of the request is to a field of its schema. -/
structure InitialTable.RefersWithin (request : InitialTable) : Prop where
  partitionSources : ∀ id ∈ sourceIds request.spec, id ∈ schemaIds request.schema
  partitionSourceLists : ∀ id ∈ sourceIdLists request.spec, id ∈ schemaIds request.schema
  sortSources : ∀ id ∈ sourceIds request.order, id ∈ schemaIds request.schema
  identifiers : ∀ id ∈ identifierFieldIds request.schema, id ∈ schemaIds request.schema

/-- A request whose references need no rewriting save for the single source ids. -/
structure InitialTable.Settled (request : InitialTable) : Prop where
  room : (schemaSlots request.schema).length < maxI64
  identifiers : ∀ id ∈ identifierFieldIds request.schema, InPlace request.schema id
  sourceLists : ∀ id ∈ sourceIdLists request.spec, InPlace request.schema id
  fieldIds : ∀ id ∈ partitionFieldIds request.spec, id ≤ 999

section Rewriting

variable (mapping : Std.ExtTreeMap Int Int)

theorem rewriteFields_lookup (fields : List (String × Json)) (key : String) :
    (rewriteFields mapping fields).lookup key = (fields.lookup key).map fun child =>
      if key = "source-id" then rewriteSourceId mapping (rewriteSourceIds mapping child)
      else rewriteSourceIds mapping child := by
  induction fields with
  | nil => rfl
  | cons entry rest ih =>
      obtain ⟨other, child⟩ := entry
      rw [rewriteFields, Json.lookup_field, Json.lookup_field, ih]
      by_cases asked : key = other
      · subst asked
        simp
      · rw [if_neg asked, if_neg asked]

theorem rewriteSourceIds_get (value : Json) {key : String} (other : key ≠ "source-id") :
    (rewriteSourceIds mapping value).get key =
      (value.get key).map (rewriteSourceIds mapping) := by
  cases value with
  | obj fields =>
      rw [rewriteSourceIds]
      exact (rewriteFields_lookup mapping fields key).trans (by simp [other, Json.get])
  | null | bool | int | float | str | arr =>
      simp [rewriteSourceIds, Json.get]

theorem rewriteSourceIds_source (value : Json) :
    (rewriteSourceIds mapping value).get "source-id" = (value.get "source-id").map fun child =>
      rewriteSourceId mapping (rewriteSourceIds mapping child) := by
  cases value with
  | obj fields =>
      rw [rewriteSourceIds]
      exact (rewriteFields_lookup mapping fields "source-id").trans (by simp [Json.get])
  | null | bool | int | float | str | arr =>
      simp [rewriteSourceIds, Json.get]

theorem rewriteSourceIds_asI64 (value : Json) :
    (rewriteSourceIds mapping value).asI64 = value.asI64 := by
  cases value <;> simp [rewriteSourceIds, Json.asI64]

theorem rewriteValues_eq (values : List Json) :
    rewriteValues mapping values = values.map (rewriteSourceIds mapping) := by
  induction values with
  | nil => rfl
  | cons value rest ih => rw [rewriteValues, ih, List.map_cons]

theorem rewriteSourceIds_asArray (value : Json) :
    (rewriteSourceIds mapping value).asArray =
      value.asArray.map fun values => values.map (rewriteSourceIds mapping) := by
  cases value with
  | arr values =>
      rw [rewriteSourceIds, rewriteValues_eq]
      rfl
  | null | bool | int | float | str | obj =>
      simp [rewriteSourceIds, Json.asArray]

theorem rewriteSourceIds_number (value : Json) {key : String} (other : key ≠ "source-id") :
    jsonNumber (rewriteSourceIds mapping value) key = jsonNumber value key := by
  rw [jsonNumber, rewriteSourceIds_get mapping value other, jsonNumber]
  cases value.get key with
  | none => rfl
  | some child => exact rewriteSourceIds_asI64 mapping child

theorem rewriteSourceIds_array (value : Json) {key : String} (other : key ≠ "source-id") :
    (((rewriteSourceIds mapping value).get key).bind Json.asArray).getD [] =
      (((value.get key).bind Json.asArray).getD []).map (rewriteSourceIds mapping) := by
  rw [rewriteSourceIds_get mapping value other]
  cases value.get key with
  | none => rfl
  | some child =>
      simp only [Option.map_some, Option.bind_some, rewriteSourceIds_asArray]
      cases child.asArray <;> rfl

theorem rewriteSourceIds_numbers (value : Json) {key : String} (other : key ≠ "source-id") :
    jsonNumbers (rewriteSourceIds mapping value) key = jsonNumbers value key := by
  rw [jsonNumbers, rewriteSourceIds_array mapping value other, jsonNumbers, List.filterMap_map]
  congr 1
  funext child
  exact rewriteSourceIds_asI64 mapping child

theorem specFields_rewrite (spec : Json) :
    specFields (rewriteSourceIds mapping spec) =
      (specFields spec).map (rewriteSourceIds mapping) :=
  rewriteSourceIds_array mapping spec (by decide)

theorem sourceIdLists_rewrite (spec : Json) :
    sourceIdLists (rewriteSourceIds mapping spec) = sourceIdLists spec := by
  rw [sourceIdLists, specFields_rewrite, sourceIdLists, List.flatMap_map]
  congr 1
  funext field
  exact rewriteSourceIds_numbers mapping field (by decide)

theorem partitionFieldIds_rewrite (spec : Json) :
    partitionFieldIds (rewriteSourceIds mapping spec) = partitionFieldIds spec := by
  rw [partitionFieldIds, specFields_rewrite, partitionFieldIds, List.filterMap_map]
  congr 1
  funext field
  exact rewriteSourceIds_number mapping field (by decide)

/-- The fresh id of a source id, or the source id itself. -/
def mappedId (id : Int) : Int :=
  (mapping[id]?).getD id

variable {mapping}

theorem sourceId_rewrite
    (stated : ∀ old new : Int, mapping[old]? = some new → (Json.int new).asI64 = some new)
    (field : Json) :
    jsonNumber (rewriteSourceIds mapping field) "source-id" =
      (jsonNumber field "source-id").map (mappedId mapping) := by
  rw [jsonNumber, rewriteSourceIds_source, jsonNumber]
  cases field.get "source-id" with
  | none => rfl
  | some child =>
      simp only [Option.map_some, Option.bind_some, rewriteSourceId, rewriteSourceIds_asI64]
      cases read : child.asI64 with
      | none => simp [rewriteSourceIds_asI64, read]
      | some id =>
          cases mapped : mapping[id]? with
          | none => simp [mapped, mappedId, rewriteSourceIds_asI64, read]
          | some replacement =>
              simp only [Option.bind_some, mapped, Option.map_some, mappedId, Option.getD_some]
              exact stated id replacement mapped

theorem sourceIds_rewrite
    (stated : ∀ old new : Int, mapping[old]? = some new → (Json.int new).asI64 = some new)
    (spec : Json) :
    sourceIds (rewriteSourceIds mapping spec) = (sourceIds spec).map (mappedId mapping) := by
  rw [sourceIds, specFields_rewrite, sourceIds, List.filterMap_map, List.map_filterMap]
  congr 1
  funext field
  exact sourceId_rewrite stated field

end Rewriting

/-- Rewritten references that each denote the field of the one they stand for. -/
theorem sameFields_map (old new : Json) (ids : List Int) (rewrite : Int → Int) :
    List.Forall₂ (SameField old new) ids (ids.map rewrite) ↔
      ∀ id ∈ ids, SameField old new id (rewrite id) := by
  rw [List.forall₂_map_right_iff, List.forall₂_same]

theorem sameFields_kept (old new : Json) (ids : List Int) :
    List.Forall₂ (SameField old new) ids ids ↔ ∀ id ∈ ids, SameField old new id id :=
  List.forall₂_same

namespace InitialTable

variable (request : InitialTable)

/-- What the ids of the schema are assigned to, and by. -/
def freshIds : FreshIds :=
  FreshIds.assignAll ⟨1, ∅⟩ (schemaSlots request.schema)

def freshSchema : Json :=
  (assignFreshFieldIds request.identifiedSchema).1

theorem start_fits : FreshIds.Fits ⟨1, ∅⟩ := by
  constructor
  · exact le_refl 1
  · decide

theorem identifiedSchema_get {key : String} (other : key ≠ "schema-id") :
    request.identifiedSchema.get key = request.schema.get key := by
  rw [identifiedSchema]
  split
  next missing => rw [Json.get_set _ _ _ _ missing.2, if_neg other]
  next => rfl

theorem identifiedSchema_slots :
    schemaSlots request.identifiedSchema = schemaSlots request.schema := by
  rw [schemaSlots, request.identifiedSchema_get (by decide), schemaSlots]

/-- The schema of the metadata is the one asked for, renumbered from one on. -/
theorem freshSchema_renumbered :
    Renumbered ⟨1, ∅⟩ (schemaSlots request.schema) request.freshIds
        (schemaSlots request.freshSchema) ∧
      (assignFreshFieldIds request.identifiedSchema).2 =
        (request.freshIds.next - 1, request.freshIds.mapping) := by
  by_cases listed : ∃ fields, request.identifiedSchema.get "fields" = some (.arr fields)
  · obtain ⟨fields, held⟩ := listed
    have shape := isObject_of_get held
    have assigned := assignFields_slots 0 fields ⟨1, ∅⟩ start_fits
    have old : schemaSlots request.schema = memberSlots 0 fields := by
      rw [← request.identifiedSchema_slots, schemaSlots, held]
    have new : schemaSlots request.freshSchema = memberSlots 0 (assignFields fields ⟨1, ∅⟩).1 := by
      simp only [schemaSlots, freshSchema, assignFreshFieldIds, held]
      rw [Json.get_set _ _ _ _ shape, if_pos rfl]
    constructor
    · refine ⟨?_, rfl⟩
      rw [new, old]
      exact assigned.slots
    · simp only [assignFreshFieldIds, held, freshIds, old]
      rw [assigned.after]
  · have bare : ∀ fields, request.identifiedSchema.get "fields" ≠ some (.arr fields) :=
      not_exists.mp listed
    have unchanged : assignFreshFieldIds request.identifiedSchema =
        (request.identifiedSchema, 0, ∅) := by
      simp only [assignFreshFieldIds]
      rfl
    have none : schemaSlots request.schema = [] := by
      rw [← request.identifiedSchema_slots, schemaSlots]
      split
      next fields held => exact absurd held (bare fields)
      next => rfl
    have same : schemaSlots request.freshSchema = [] := by
      rw [freshSchema, unchanged, request.identifiedSchema_slots, none]
    constructor
    · refine ⟨?_, rfl⟩
      rw [same, none]
      rfl
    · rw [unchanged, freshIds, none]
      rfl

theorem freshIds_stated (old new : Int) (found : request.freshIds.mapping[old]? = some new) :
    (Json.int new).asI64 = some new := by
  apply FreshIds.assignAll_stated start_fits _ _ found
  intro before after mapped
  simp at mapped

theorem freshSchema_identifiers :
    identifierFieldIds request.freshSchema = identifierFieldIds request.schema := by
  have kept : request.freshSchema.get "identifier-field-ids" =
      request.schema.get "identifier-field-ids" := by
    rw [← request.identifiedSchema_get (by decide), freshSchema, assignFreshFieldIds]
    split
    next fields held =>
      rw [Json.get_set _ _ _ _ (isObject_of_get held), if_neg (by decide)]
    next => rfl
  rw [identifierFieldIds, jsonNumbers, kept, identifierFieldIds, jsonNumbers]

/-- The parts of the metadata that carry ids, or refer to them. -/
theorem initialMetadata_parts (nowMs : Int) :
    onlyOf (initialTableMetadata nowMs request) "schemas" = request.freshSchema ∧
      onlyOf (initialTableMetadata nowMs request) "partition-specs" =
        rewriteSourceIds request.freshIds.mapping request.spec ∧
      onlyOf (initialTableMetadata nowMs request) "sort-orders" =
        rewriteSourceIds request.freshIds.mapping request.order ∧
      (initialTableMetadata nowMs request).get "last-column-id" =
        some (.int (request.freshIds.next - 1)) ∧
      jsonNumber (initialTableMetadata nowMs request) "last-partition-id" = some 999 := by
  have assigned := request.freshSchema_renumbered.2
  simp only [initialTableMetadata, assigned]
  refine ⟨?_, ?_, ?_, ?_, ?_⟩
  · simp [onlyOf, Json.lookup_field, Json.asArray, freshSchema]
  · simp [onlyOf, Json.lookup_field, Json.asArray, spec]
  · simp [onlyOf, Json.lookup_field, Json.asArray, order]
  · simp [Json.lookup_field]
  · simp [jsonNumber, Json.lookup_field, Json.asI64]

/-- The slots of the new schema, while there is room for their ids. -/
theorem freshSchema_get (room : (schemaSlots request.schema).length < maxI64) (place : Nat) :
    (schemaSlots request.freshSchema)[place]? =
      (schemaSlots request.schema)[place]?.map fun slot => ⟨slot.path, some (1 + place)⟩ := by
  rw [request.freshSchema_renumbered.1.slots]
  exact renumber_get (by simp only; omega) place

theorem freshIds_mapping (distinct : (schemaIds request.schema).Nodup)
    (room : (schemaSlots request.schema).length < maxI64) {place : Nat} {path : List FieldStep}
    {id : Int} (found : (schemaSlots request.schema)[place]? = some ⟨path, some id⟩) :
    mappedId request.freshIds.mapping id = 1 + place := by
  rw [mappedId, freshIds, FreshIds.assignAll_mapping distinct (by simp only; omega) found,
    Option.getD_some]

/-- A source id is rewritten to the id of its own field. -/
theorem mappedId_sameField (distinct : (schemaIds request.schema).Nodup)
    (room : (schemaSlots request.schema).length < maxI64) (id : Int) :
    SameField request.schema request.freshSchema id (mappedId request.freshIds.mapping id) := by
  intro place path found
  rw [request.freshIds_mapping distinct room found, request.freshSchema_get room, found,
    Option.map_some]

/-- An id that is kept denotes its field when it was that field's place to begin with. -/
theorem sameField_iff_inPlace (room : (schemaSlots request.schema).length < maxI64) (id : Int) :
    SameField request.schema request.freshSchema id id ↔ InPlace request.schema id := by
  constructor
  · intro same place path found
    have kept := same place path found
    rw [request.freshSchema_get room, found, Option.map_some, Option.some.injEq,
      FieldSlot.mk.injEq, Option.some.injEq] at kept
    omega
  · intro inPlace place path found
    rw [request.freshSchema_get room, found, Option.map_some, inPlace place path found,
      Int.add_comm]

theorem freshIds_next :
    request.freshIds.next = min (1 + ((schemaSlots request.schema).length : Int)) maxI64 :=
  FreshIds.assignAll_next start_fits (schemaSlots request.schema)

theorem lastColumnId (nowMs : Int) :
    jsonNumber (initialTableMetadata nowMs request) "last-column-id" =
      some (request.freshIds.next - 1) := by
  have fits : request.freshIds.Fits := start_fits.assignAll (schemaSlots request.schema)
  obtain ⟨low, high⟩ := fits
  rw [jsonNumber, (request.initialMetadata_parts nowMs).2.2.2.1, Option.bind_some, Json.asI64,
    if_pos]
  rw [maxI64] at high
  omega

theorem freshSchema_ids (room : (schemaSlots request.schema).length < maxI64) :
    (schemaSlots request.freshSchema).map FieldSlot.id =
      (List.range (schemaSlots request.schema).length).map fun place : Nat =>
        some (1 + (place : Int)) := by
  apply List.ext_getElem?
  intro place
  rw [List.getElem?_map, request.freshSchema_get room, List.getElem?_map]
  by_cases below : place < (schemaSlots request.schema).length
  · rw [List.getElem?_eq_getElem below, List.getElem?_range below]
    rfl
  · rw [List.getElem?_eq_none (by omega), List.getElem?_eq_none (by simp; omega)]
    rfl

/-- Distinct ids that are all among the first ones leave room behind them. -/
theorem room_of_numbered {metadata : Json} {last : Int}
    (distinct : ((schemaSlots metadata).map FieldSlot.id).Nodup)
    (bounded : ∀ id ∈ (schemaSlots metadata).map FieldSlot.id,
      ∃ number, id = some number ∧ 1 ≤ number ∧ number ≤ last) (positive : 0 ≤ last) :
    (schemaSlots metadata).length ≤ last := by
  have within : ((schemaSlots metadata).map FieldSlot.id).toFinset ⊆
      (Finset.Icc 1 last).image some := by
    intro id member
    obtain ⟨number, rfl, low, high⟩ := bounded id (List.mem_toFinset.mp member)
    exact Finset.mem_image_of_mem some (Finset.mem_Icc.mpr ⟨low, high⟩)
  have counted := Finset.card_le_card within
  rw [List.toFinset_card_of_nodup distinct, List.length_map] at counted
  have images := Finset.card_image_le (f := (some : Int → Option Int)) (s := Finset.Icc 1 last)
  rw [Int.card_Icc] at images
  omega

theorem keepsReferences_numbered (nowMs : Int)
    (room : (schemaSlots request.schema).length < maxI64) :
    ((schemaSlots request.freshSchema).map FieldSlot.id).Nodup ∧
      ∃ last, jsonNumber (initialTableMetadata nowMs request) "last-column-id" = some last ∧
        ∀ id, id ∈ (schemaSlots request.freshSchema).map FieldSlot.id ↔
          ∃ number, id = some number ∧ 1 ≤ number ∧ number ≤ last := by
  rw [request.freshSchema_ids room]
  constructor
  · apply List.nodup_range.map
    intro left right same
    simp only [Option.some.injEq] at same
    omega
  · refine ⟨_, request.lastColumnId nowMs, ?_⟩
    intro id
    rw [request.freshIds_next, List.mem_map]
    constructor
    · rintro ⟨place, below, rfl⟩
      rw [List.mem_range] at below
      exact ⟨1 + place, rfl, by omega, by omega⟩
    · rintro ⟨number, rfl, low, high⟩
      refine ⟨(number - 1).toNat, List.mem_range.mpr (by omega), ?_⟩
      congr 1
      omega

end InitialTable

/-- A created table keeps the meaning of its references exactly when every identifier field id
and every id of a source id list is already the place of its field, the partition field ids
are below 1000, and the field ids do not run out. -/
theorem initialTableMetadata_keepsReferences (nowMs : Int) (request : InitialTable)
    (distinct : (schemaIds request.schema).Nodup) :
    KeepsReferences request (initialTableMetadata nowMs request) ↔ request.Settled := by
  obtain ⟨schemas, specs, orders, -, lastPartition⟩ := request.initialMetadata_parts nowMs
  have sources := fun spec => sourceIds_rewrite request.freshIds_stated spec
  constructor
  · intro kept
    obtain ⟨last, stated, numbered⟩ := kept.numbered
    rw [request.lastColumnId nowMs, Option.some.injEq] at stated
    have room : (schemaSlots request.schema).length < maxI64 := by
      have next := request.freshIds_next
      have large : 1 ≤ maxI64 := by decide
      have same : (schemaSlots (onlyOf (initialTableMetadata nowMs request) "schemas")).length =
          (schemaSlots request.schema).length := by
        have lengths := congrArg List.length kept.paths
        simpa using lengths
      have below := InitialTable.room_of_numbered kept.distinct
        (fun id member => (numbered id).mp member) (by omega)
      omega
    constructor
    · exact room
    · intro id member
      have identifiers := kept.identifiers
      rw [schemas, request.freshSchema_identifiers, sameFields_kept] at identifiers
      exact (request.sameField_iff_inPlace room id).mp (identifiers id member)
    · intro id member
      have lists := kept.partitionSourceLists
      rw [schemas, specs, sourceIdLists_rewrite, sameFields_kept] at lists
      exact (request.sameField_iff_inPlace room id).mp (lists id member)
    · intro id member
      obtain ⟨reserved, read, above, -⟩ := kept.lastPartition
      rw [lastPartition, Option.some.injEq] at read
      rw [specs, partitionFieldIds_rewrite] at above
      have bounded := above id member
      omega
  · intro settled
    have numbered := request.keepsReferences_numbered nowMs settled.room
    constructor
    · rw [schemas, request.freshSchema_renumbered.1.slots, renumber_paths]
    · rw [schemas]
      exact numbered.1
    · rw [schemas]
      exact numbered.2
    · rw [schemas, specs, sources, sameFields_map]
      intro id _
      exact request.mappedId_sameField distinct settled.room id
    · rw [schemas, specs, sourceIdLists_rewrite, sameFields_kept]
      intro id member
      exact (request.sameField_iff_inPlace settled.room id).mpr (settled.sourceLists id member)
    · rw [schemas, orders, sources, sameFields_map]
      intro id _
      exact request.mappedId_sameField distinct settled.room id
    · rw [schemas, request.freshSchema_identifiers, sameFields_kept]
      intro id member
      exact (request.sameField_iff_inPlace settled.room id).mpr (settled.identifiers id member)
    · refine ⟨999, lastPartition, ?_, ?_⟩
      · rw [specs, partitionFieldIds_rewrite]
        exact settled.fieldIds
      · intro _
        exact le_refl 999

/-- A required column of a primitive type. -/
def columnField (id : Int) (name typeName : String) : Json :=
  .object [("id", .int id), ("name", .str name), ("required", .bool true),
    ("type", .str typeName)]

/-- A table of two columns, the first of which identifies its rows; it is partitioned by the
second, which the spec names as a single source and in a list of sources. -/
def partitionedTable (first second fieldId : Int) : InitialTable where
  tableUuid := sampleUuid
  location := "s3://warehouse/events"
  schema := .object [("type", .str "struct"), ("schema-id", .int 0),
    ("identifier-field-ids", .arr [.int first]),
    ("fields", .arr [columnField first "id" "long", columnField second "day" "int"])]
  partitionSpec := some (.object [("spec-id", .int 0), ("fields", .arr [
    .object [("name", .str "part"), ("transform", .str "identity"),
      ("source-id", .int second), ("source-ids", .arr [.int second]),
      ("field-id", .int fieldId)]])])
  sortOrder := none
  properties := .object []

theorem columnField_slots (step : FieldStep) (id : Int) (name typeName : String)
    (stated : (Json.int id).asI64 = some id) :
    childSlots step (columnField id name typeName) "id" "type" = [⟨[step], some id⟩] := by
  have typed : (columnField id name typeName).get "type" = some (.str typeName) := by
    simp [columnField]
  have plain : typeSlots (.str typeName) = [] := by
    rw [typeSlots_plain] <;> simp [jsonText, Json.get]
  have numbered : jsonNumber (columnField id name typeName) "id" = some id := by
    simp [columnField, jsonNumber, Json.lookup_field, stated]
  rw [childSlots_some step typed, plain, numbered]
  rfl

theorem partitionedTable_slots (first second fieldId : Int)
    (statedFirst : (Json.int first).asI64 = some first)
    (statedSecond : (Json.int second).asI64 = some second) :
    schemaSlots (partitionedTable first second fieldId).schema =
      [⟨[.member 0], some first⟩, ⟨[.member 1], some second⟩] := by
  have held : (partitionedTable first second fieldId).schema.get "fields" =
      some (.arr [columnField first "id" "long", columnField second "day" "int"]) := by
    simp [partitionedTable]
  have shape (id : Int) (name typeName : String) :
      (columnField id name typeName).isObject = true := rfl
  rw [schemaSlots, held]
  simp only [memberSlots, shape, if_pos, columnField_slots _ _ _ _ statedFirst,
    columnField_slots _ _ _ _ statedSecond]
  rfl

theorem partitionedTable_distinct (first second fieldId : Int)
    (statedFirst : (Json.int first).asI64 = some first)
    (statedSecond : (Json.int second).asI64 = some second) (different : first ≠ second) :
    (schemaIds (partitionedTable first second fieldId).schema).Nodup := by
  rw [schemaIds, partitionedTable_slots first second fieldId statedFirst statedSecond]
  simpa using different

/-- A request that already numbers its columns from one on keeps its references. -/
theorem initialTableMetadata_keepsReferences_settled :
    KeepsReferences (partitionedTable 1 2 999)
      (initialTableMetadata 0 (partitionedTable 1 2 999)) := by
  have distinct := partitionedTable_distinct 1 2 999 (by decide) (by decide) (by decide)
  have slots := partitionedTable_slots 1 2 999 (by decide) (by decide)
  apply (initialTableMetadata_keepsReferences 0 _ distinct).mpr
  have first : InPlace (partitionedTable 1 2 999).schema 1 := by
    intro place path found
    rw [slots] at found
    match place with
    | 0 => rfl
    | 1 => simp at found
    | place + 2 => simp at found
  have second : InPlace (partitionedTable 1 2 999).schema 2 := by
    intro place path found
    rw [slots] at found
    match place with
    | 0 => simp at found
    | 1 => rfl
    | place + 2 => simp at found
  constructor
  · rw [slots]
    decide
  · simpa [partitionedTable, identifierFieldIds, jsonNumbers, Json.lookup_field, Json.asArray,
      Json.asI64] using first
  · simpa [partitionedTable, sourceIdLists, specFields, jsonNumbers, Json.lookup_field,
      Json.asArray, Json.asI64, InitialTable.spec] using second
  · simp [partitionedTable, partitionFieldIds, specFields, jsonNumber, Json.asArray, Json.asI64,
      InitialTable.spec]

/-- A client that numbers its columns from zero loses its identifier field. -/
theorem identifierField_lost :
    ¬∀ (nowMs : Int) (request : InitialTable), (schemaIds request.schema).Nodup →
      request.RefersWithin → KeepsReferences request (initialTableMetadata nowMs request) := by
  intro keeps
  have distinct := partitionedTable_distinct 0 1 1000 (by decide) (by decide) (by decide)
  have slots := partitionedTable_slots 0 1 1000 (by decide) (by decide)
  have ids : schemaIds (partitionedTable 0 1 1000).schema = [0, 1] := by
    rw [schemaIds, slots]
    rfl
  have refers : (partitionedTable 0 1 1000).RefersWithin := by
    constructor <;> rw [ids] <;>
      simp [partitionedTable, sourceIds, sourceIdLists, identifierFieldIds, specFields, jsonNumber,
        jsonNumbers, Json.lookup_field, Json.asArray, Json.asI64, InitialTable.spec,
        InitialTable.order, unsortedOrder]
  have identifiers := (keeps 0 _ distinct refers).identifiers
  rw [((partitionedTable 0 1 1000).initialMetadata_parts 0).1,
    InitialTable.freshSchema_identifiers, sameFields_kept] at identifiers
  have room : (schemaSlots (partitionedTable 0 1 1000).schema).length < maxI64 := by
    rw [slots]
    decide
  have identifier : 0 ∈ identifierFieldIds (partitionedTable 0 1 1000).schema := by
    simp [partitionedTable, identifierFieldIds, jsonNumbers, Json.lookup_field, Json.asArray,
      Json.asI64]
  have inPlace := (InitialTable.sameField_iff_inPlace _ room 0).mp (identifiers 0 identifier)
  have first := inPlace 0 [.member 0] (by rw [slots]; rfl)
  omega

end LakeCat
