import LakeCat.RequirementChecks

/-!
The metadata document of a table that is created from a schema. The ids of the
request are provisional: each field of the schema gets a fresh one, and the
source ids of the partition spec and of the sort order follow.
-/

namespace LakeCat

def maxI64 : Int := 2 ^ 63 - 1

/-- `next.saturating_add(1)`. -/
def saturatingNext (next : Int) : Int :=
  min (next + 1) maxI64

/-- The next id to assign, and the fresh id of each old one. -/
structure FreshIds where
  next : Int
  mapping : Std.ExtTreeMap Int Int

def FreshIds.assign (ids : FreshIds) (old : Option Int) : FreshIds where
  next := saturatingNext ids.next
  mapping :=
    match old with
    | some old => ids.mapping.insert old ids.next
    | none => ids.mapping

mutual

def assignType (fieldType : Json) (ids : FreshIds) : Json × FreshIds :=
  match jsonText fieldType "type" with
  | some "struct" =>
      match _found : fieldType.get "fields" with
      | some (.arr fields) =>
          let assigned := assignFields fields ids
          (fieldType.set "fields" (.arr assigned.1), assigned.2)
      | _ => (fieldType, ids)
  | some "list" => assignTypeId fieldType fieldType "element-id" "element" ids
  | some "map" =>
      let keyed := assignTypeId fieldType fieldType "key-id" "key" ids
      assignTypeId fieldType keyed.1 "value-id" "value" keyed.2
  | _ => (fieldType, ids)
termination_by 2 * sizeOf fieldType + 1
decreasing_by
  · have smaller := Json.sizeOf_get _found
    simp only [Json.arr.sizeOf_spec] at smaller
    omega
  all_goals omega

/-- The child stands in `source`, the object before its other ids were assigned. -/
def assignTypeId (source object : Json) (idKey typeKey : String) (ids : FreshIds) :
    Json × FreshIds :=
  let assigned := ids.assign (jsonNumber object idKey)
  let marked := object.set idKey (.int ids.next)
  match _found : source.get typeKey with
  | some child =>
      let inner := assignType child assigned
      (marked.set typeKey inner.1, inner.2)
  | none => (marked, assigned)
termination_by 2 * sizeOf source
decreasing_by
  have smaller := Json.sizeOf_get _found
  omega

def assignFields (fields : List Json) (ids : FreshIds) : List Json × FreshIds :=
  match fields with
  | [] => ([], ids)
  | field :: rest =>
      let first := assignField field ids
      let others := assignFields rest first.2
      (first.1 :: others.1, others.2)
termination_by 2 * sizeOf fields
decreasing_by
  all_goals
    simp only [List.cons.sizeOf_spec]
    omega

def assignField (field : Json) (ids : FreshIds) : Json × FreshIds :=
  if field.isObject then assignTypeId field field "id" "type" ids else (field, ids)
termination_by 2 * sizeOf field + 1
decreasing_by omega

end

/-- The schema with its fresh ids, the last of them, and the fresh id of each old one. -/
def assignFreshFieldIds (schema : Json) : Json × Int × Std.ExtTreeMap Int Int :=
  let start : FreshIds := ⟨1, ∅⟩
  match schema.get "fields" with
  | some (.arr fields) =>
      let assigned := assignFields fields start
      (schema.set "fields" (.arr assigned.1), assigned.2.next - 1, assigned.2.mapping)
  | _ => (schema, start.next - 1, start.mapping)

/-- The value of a source id, replaced when its field got a fresh id. -/
def rewriteSourceId (mapping : Std.ExtTreeMap Int Int) (sourceId : Json) : Json :=
  match sourceId.asI64.bind fun id => mapping[id]? with
  | some replacement => .int replacement
  | none => sourceId

mutual

def rewriteSourceIds (mapping : Std.ExtTreeMap Int Int) : Json → Json
  | .obj fields => .obj (rewriteFields mapping fields)
  | .arr values => .arr (rewriteValues mapping values)
  | other => other

/-- A replaced source id is a number, in which nothing is rewritten. -/
def rewriteFields (mapping : Std.ExtTreeMap Int Int) :
    List (String × Json) → List (String × Json)
  | [] => []
  | (key, child) :: rest =>
      let rewritten := rewriteSourceIds mapping child
      (key, if key = "source-id" then rewriteSourceId mapping rewritten else rewritten) ::
        rewriteFields mapping rest

def rewriteValues (mapping : Std.ExtTreeMap Int Int) : List Json → List Json
  | [] => []
  | child :: rest => rewriteSourceIds mapping child :: rewriteValues mapping rest

end

/-- A create request: what the catalog makes the first metadata document of. -/
structure InitialTable where
  tableUuid : String
  location : String
  schema : Json
  partitionSpec : Option Json
  sortOrder : Option Json
  properties : Json

def InitialTable.identifiedSchema (request : InitialTable) : Json :=
  if request.schema.get "schema-id" = none ∧ request.schema.isObject then
    request.schema.set "schema-id" (.int 0)
  else request.schema

def unpartitionedSpec : Json :=
  .object [("spec-id", .int 0), ("fields", .arr [])]

def unsortedOrder : Json :=
  .object [("order-id", .int 0), ("fields", .arr [])]

def initialTableMetadata (nowMs : Int) (request : InitialTable) : Json :=
  let schema := request.identifiedSchema
  let currentSchemaId := (jsonNumber schema "schema-id").getD 0
  let assigned := assignFreshFieldIds schema
  let partitionSpec := rewriteSourceIds assigned.2.2
    (request.partitionSpec.getD unpartitionedSpec)
  let defaultSpecId := (jsonNumber partitionSpec "spec-id").getD 0
  let sortOrder := rewriteSourceIds assigned.2.2 (request.sortOrder.getD unsortedOrder)
  let defaultSortOrderId := (jsonNumber sortOrder "order-id").getD 0
  .object [("format-version", .int 2), ("table-uuid", .str request.tableUuid),
    ("location", .str request.location), ("last-sequence-number", .int 0),
    ("last-updated-ms", .int nowMs), ("last-column-id", .int assigned.2.1),
    ("schemas", .arr [assigned.1]), ("current-schema-id", .int currentSchemaId),
    ("partition-specs", .arr [partitionSpec]), ("default-spec-id", .int defaultSpecId),
    ("last-partition-id", .int 999), ("sort-orders", .arr [sortOrder]),
    ("default-sort-order-id", .int defaultSortOrderId),
    ("properties", if request.properties.isObject then request.properties else .object []),
    ("current-snapshot-id", .int (-1)), ("snapshots", .arr []), ("snapshot-log", .arr []),
    ("metadata-log", .arr [])]

end LakeCat
