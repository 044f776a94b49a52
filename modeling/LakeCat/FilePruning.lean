import LakeCat.ScanFilters
import LakeCat.ValueRanges

/-!
Whether a data file may hold a row that the filters accept, decided from the
metrics of the file alone.
-/

namespace LakeCat

open Fallible

variable [SailSpec]

open SailSpec (PrimitiveLiteral FieldType)

def filterReferenceField (metadata : TableMetadata FieldType) (term : Term) :
    Option (NestedField FieldType) :=
  match term with
  | .reference reference => do
      let fields ← metadata.currentSchema
      fields.find? fun field => field.name = reference
  | .transformTerm _ => none

def filterLiteralForField (field : NestedField FieldType) (value : Json) :
    LakeCatResult PrimitiveLiteral :=
  match SailSpec.literalFromJson value field.fieldType with
  | .error text => .error (.invalidArgument
      ("invalid Iceberg REST filter literal for column " ++ field.name ++ ": " ++ text))
  | .ok (some (.primitive literal)) => .ok literal
  | .ok (some _) => .error (.notSupported
      ("Iceberg REST filter literal for column " ++ field.name ++ " is not primitive"))
  | .ok none => .error (.notSupported
      ("Iceberg REST null literal pruning for column " ++ field.name ++ " is not supported"))

def valueMayOverlapBounds (value : PrimitiveLiteral) (lower upper : Option PrimitiveLiteral) :
    Bool :=
  lower.all (fun lower => lower ≤ value) && upper.all (fun upper => value ≤ upper)

def exactFileValue (dataFile : SailDataFile) (fieldId : Int) : Option PrimitiveLiteral :=
  ValueRanges.singleValue (dataFile.lowerBounds.lookup fieldId)
    (dataFile.upperBounds.lookup fieldId)

/-- From the last byte that is not `u8::MAX`; nothing when what is left is not UTF-8. -/
def nextLexicographicPrefix (head : String) : Option String := do
  let bytes ← ValueRanges.raiseLast (fun byte => byte = 255) (fun byte => byte + 1) (utf8 head)
  String.fromUTF8? ⟨bytes.toArray⟩

def primitiveStartsWith (value head : PrimitiveLiteral) : Bool :=
  match SailSpec.stringOf value, SailSpec.stringOf head with
  | some value, some head => startsWith value head
  | _, _ => false

/-- The text of a bound: of one that is there and is no string, nothing can be said. -/
def stringBound (bound : Option PrimitiveLiteral) : Option (Option String) :=
  match bound with
  | some bound => (SailSpec.stringOf bound).map some
  | none => some none

def stringPrefixMayOverlapBounds (head : PrimitiveLiteral)
    (lower upper : Option PrimitiveLiteral) : Bool :=
  match SailSpec.stringOf head, stringBound lower, stringBound upper with
  | some head, some lower, some upper =>
      if upper.any fun upper => utf8 upper < utf8 head then false
      else match nextLexicographicPrefix head with
        | some next => !lower.any fun lower => utf8 next ≤ utf8 lower
        | none => true
  | _, _, _ => true

def literalPredicateMayMatch (dataFile : SailDataFile) (field : NestedField FieldType)
    (op : String) (value : Json) : LakeCatResult Bool := do
  let literal ← filterLiteralForField field value
  let lower := dataFile.lowerBounds.lookup field.id
  let upper := dataFile.upperBounds.lookup field.id
  return match op with
    | "eq" => valueMayOverlapBounds literal lower upper
    | "not-eq" => exactFileValue dataFile field.id ≠ some literal
    | "lt" => lower.all fun lower => lower < literal
    | "lt-eq" => lower.all fun lower => lower ≤ literal
    | "gt" => upper.all fun upper => upper > literal
    | "gt-eq" => upper.all fun upper => upper ≥ literal
    | "starts-with" => stringPrefixMayOverlapBounds literal lower upper
    | "not-starts-with" =>
        (exactFileValue dataFile field.id).all fun value => !primitiveStartsWith value literal
    | _ => true

/-- The loop of `in`: one value that may be there is enough. -/
def anyLiteralMayMatch (dataFile : SailDataFile) (field : NestedField FieldType) :
    List Json → LakeCatResult Bool
  | [] => .ok false
  | value :: rest => do
      if ← literalPredicateMayMatch dataFile field "eq" value then return true
      else anyLiteralMayMatch dataFile field rest

/-- The loop of `not-in` over a file with a single value. -/
def literalExcluded (field : NestedField FieldType) (single : PrimitiveLiteral) :
    List Json → LakeCatResult Bool
  | [] => .ok false
  | value :: rest => do
      let literal ← filterLiteralForField field value
      if literal = single then return true else literalExcluded field single rest

def dataFileMayMatchFilter (metadata : TableMetadata FieldType) (dataFile : SailDataFile)
    (filter : Json) : LakeCatResult Bool := do
  let expressionType ← filterType filter
  match expressionType with
  | "true" | "always-true" => return true
  | "false" | "always-false" => return false
  | "and" =>
      let left ← requiredFilterChild filter "left"
      if ← dataFileMayMatchFilter metadata dataFile left.val then
        let right ← requiredFilterChild filter "right"
        dataFileMayMatchFilter metadata dataFile right.val
      else return false
  | "or" =>
      let left ← requiredFilterChild filter "left"
      if ← dataFileMayMatchFilter metadata dataFile left.val then return true
      else
        let right ← requiredFilterChild filter "right"
        dataFileMayMatchFilter metadata dataFile right.val
  | "not" => return true
  | "in" =>
      let expression ← validateFilterModel (SailSpec.setExpression filter) expressionType
      match filterReferenceField metadata expression.term with
      | none => return true
      | some field => anyLiteralMayMatch dataFile field expression.values
  | "not-in" =>
      let expression ← validateFilterModel (SailSpec.setExpression filter) expressionType
      match filterReferenceField metadata expression.term with
      | none => return true
      | some field =>
          match exactFileValue dataFile field.id with
          | some single => return !(← literalExcluded field single expression.values)
          | none => return true
  | "lt" | "lt-eq" | "gt" | "gt-eq" | "eq" | "not-eq" | "starts-with" | "not-starts-with" =>
      let expression ← validateFilterModel (SailSpec.literalExpression filter) expressionType
      match filterReferenceField metadata expression.term with
      | none => return true
      | some field => literalPredicateMayMatch dataFile field expressionType expression.value
  | "is-null" =>
      let expression ← validateFilterModel (SailSpec.unaryExpression filter) expressionType
      match filterReferenceField metadata expression.term with
      | none => return true
      | some field => return 0 < (dataFile.nullValueCounts.lookup field.id).getD 0
  | "not-null" =>
      let expression ← validateFilterModel (SailSpec.unaryExpression filter) expressionType
      match filterReferenceField metadata expression.term with
      | none => return true
      | some field =>
          return (dataFile.nullValueCounts.lookup field.id).getD 0 < dataFile.recordCount
  | _ => return true
termination_by sizeOf filter
decreasing_by
  · exact left.property
  · exact right.property
  · exact left.property
  · exact right.property

def dataFileMayMatchFilters (metadata : TableMetadata FieldType) (dataFile : SailDataFile) :
    List Json → LakeCatResult Bool
  | [] => .ok true
  | filter :: rest => do
      if ← dataFileMayMatchFilter metadata dataFile filter then
        dataFileMayMatchFilters metadata dataFile rest
      else return false

end LakeCat
