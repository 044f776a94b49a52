import LakeCat.FilePruning
import LakeCat.ThreeValued

/-!
What a filter says of a row, in three-valued logic, and what it is for the
metrics of a file to be true of the rows in it.
-/

namespace LakeCat

open Fallible
open ThreeValued (Truth)
open SailSpec (PrimitiveLiteral FieldType)

variable [SailSpec]

/-- The value of a row under each field id; nothing stands for NULL. -/
abbrev Row := Int → Option PrimitiveLiteral

inductive Comparison where
  | lt
  | ltEq
  | gt
  | gtEq
  | eq
  | notEq
  | startsWith
  | notStartsWith
  deriving DecidableEq

inductive ValueTest where
  | isNull
  | notNull
  | isNan
  | notNan
  deriving DecidableEq

namespace Comparison

def text : Comparison → String
  | .lt => "lt"
  | .ltEq => "lt-eq"
  | .gt => "gt"
  | .gtEq => "gt-eq"
  | .eq => "eq"
  | .notEq => "not-eq"
  | .startsWith => "starts-with"
  | .notStartsWith => "not-starts-with"

/-- Values compare in the order of the literals; only text has a head. -/
def headTruth (value head : PrimitiveLiteral) : Truth :=
  match SailSpec.stringOf value, SailSpec.stringOf head with
  | some value, some head => .ofBool (LakeCat.startsWith value head)
  | _, _ => .unknown

def truthOf (comparison : Comparison) (value literal : PrimitiveLiteral) : Truth :=
  match comparison with
  | .lt => .ofBool (value < literal)
  | .ltEq => .ofBool (value ≤ literal)
  | .gt => .ofBool (literal < value)
  | .gtEq => .ofBool (literal ≤ value)
  | .eq => .ofBool (value = literal)
  | .notEq => .ofBool (value ≠ literal)
  | .startsWith => headTruth value literal
  | .notStartsWith => (headTruth value literal).not

/-- A comparison with NULL on either side is unknown. -/
def truth (comparison : Comparison) : Option PrimitiveLiteral → Option PrimitiveLiteral → Truth
  | some value, some literal => comparison.truthOf value literal
  | _, _ => .unknown

end Comparison

namespace ValueTest

def text : ValueTest → String
  | .isNull => "is-null"
  | .notNull => "not-null"
  | .isNan => "is-nan"
  | .notNan => "not-nan"

def truth (test : ValueTest) (value : Option PrimitiveLiteral) : Truth :=
  match test, value with
  | .isNull, value => .ofBool value.isNone
  | .notNull, value => .ofBool value.isSome
  | .isNan, some value => .ofBool (SailSpec.isNan value)
  | .notNan, some value => .ofBool (!SailSpec.isNan value)
  | _, none => .unknown

end ValueTest

/-- A filter with its columns resolved and its literals read. A leaf over a transform, or
over a column the schema lacks, may have any truth value. -/
inductive FilterExpression where
  | always (holds : Bool)
  | and (left right : FilterExpression)
  | or (left right : FilterExpression)
  | not (child : FilterExpression)
  | test (test : ValueTest) (fieldId : Int)
  | compare (comparison : Comparison) (fieldId : Int) (literal : Option PrimitiveLiteral)
  | isIn (fieldId : Int) (literals : List (Option PrimitiveLiteral))
  | notIn (fieldId : Int) (literals : List (Option PrimitiveLiteral))
  | foreign (truth : Row → Truth)

namespace FilterExpression

def memberTruth (value : Option PrimitiveLiteral) (literals : List (Option PrimitiveLiteral)) :
    Truth :=
  .any (literals.map (Comparison.eq.truth value))

def truth (row : Row) : FilterExpression → Truth
  | .always holds => .ofBool holds
  | .and left right => (left.truth row).and (right.truth row)
  | .or left right => (left.truth row).or (right.truth row)
  | .not child => (child.truth row).not
  | .test asked fieldId => asked.truth (row fieldId)
  | .compare comparison fieldId literal => comparison.truth (row fieldId) literal
  | .isIn fieldId literals => memberTruth (row fieldId) literals
  | .notIn fieldId literals => (memberTruth (row fieldId) literals).not
  | .foreign truth => truth row

/-- No literal of the expression is NULL, which the engine refuses to compare with. -/
def WithoutNull : FilterExpression → Prop
  | .and left right | .or left right => left.WithoutNull ∧ right.WithoutNull
  | .compare _ _ literal => literal ≠ none
  | .isIn _ literals | .notIn _ literals => none ∉ literals
  | _ => True

end FilterExpression

/-- The value a JSON literal has in a column, if it has one of the column's type. -/
def literalOf (field : NestedField FieldType) (value : Json) : Option (Option PrimitiveLiteral) :=
  match SailSpec.literalFromJson value field.fieldType with
  | .ok (some (.primitive literal)) => some (some literal)
  | .ok none => some none
  | _ => none

/-- The expression that the JSON of a filter denotes over the current schema of a table. -/
inductive Denotes (metadata : TableMetadata FieldType) : Json → FilterExpression → Prop
  | always {filter : Json} {kind : String} {holds : Bool} (typed : filterType filter = .ok kind)
      (named : (kind, holds) ∈
        [("true", true), ("always-true", true), ("false", false), ("always-false", false)]) :
      Denotes metadata filter (.always holds)
  | and {filter left right : Json} {first second : FilterExpression}
      (typed : filterType filter = .ok "and") (leftChild : filter.get "left" = some left)
      (rightChild : filter.get "right" = some right) (leftMeans : Denotes metadata left first)
      (rightMeans : Denotes metadata right second) :
      Denotes metadata filter (.and first second)
  | or {filter left right : Json} {first second : FilterExpression}
      (typed : filterType filter = .ok "or") (leftChild : filter.get "left" = some left)
      (rightChild : filter.get "right" = some right) (leftMeans : Denotes metadata left first)
      (rightMeans : Denotes metadata right second) :
      Denotes metadata filter (.or first second)
  | not {filter child : Json} {inner : FilterExpression} (typed : filterType filter = .ok "not")
      (onlyChild : filter.get "child" = some child) (means : Denotes metadata child inner) :
      Denotes metadata filter (.not inner)
  | test {filter : Json} {expression : UnaryExpression} {field : NestedField FieldType}
      (test : ValueTest) (typed : filterType filter = .ok test.text)
      (decoded : SailSpec.unaryExpression filter = .ok expression)
      (column : filterReferenceField metadata expression.term = some field) :
      Denotes metadata filter (.test test field.id)
  | compare {filter : Json} {expression : LiteralExpression} {field : NestedField FieldType}
      {literal : Option PrimitiveLiteral} (comparison : Comparison)
      (typed : filterType filter = .ok comparison.text)
      (decoded : SailSpec.literalExpression filter = .ok expression)
      (column : filterReferenceField metadata expression.term = some field)
      (read : literalOf field expression.value = some literal) :
      Denotes metadata filter (.compare comparison field.id literal)
  | isIn {filter : Json} {expression : SetExpression} {field : NestedField FieldType}
      {literals : List (Option PrimitiveLiteral)} (typed : filterType filter = .ok "in")
      (decoded : SailSpec.setExpression filter = .ok expression)
      (column : filterReferenceField metadata expression.term = some field)
      (read : List.Forall₂ (fun value literal => literalOf field value = some literal)
        expression.values literals) :
      Denotes metadata filter (.isIn field.id literals)
  | notIn {filter : Json} {expression : SetExpression} {field : NestedField FieldType}
      {literals : List (Option PrimitiveLiteral)} (typed : filterType filter = .ok "not-in")
      (decoded : SailSpec.setExpression filter = .ok expression)
      (column : filterReferenceField metadata expression.term = some field)
      (read : List.Forall₂ (fun value literal => literalOf field value = some literal)
        expression.values literals) :
      Denotes metadata filter (.notIn field.id literals)
  | foreignTest {filter : Json} {expression : UnaryExpression} (test : ValueTest)
      (truth : Row → Truth) (typed : filterType filter = .ok test.text)
      (decoded : SailSpec.unaryExpression filter = .ok expression)
      (noColumn : filterReferenceField metadata expression.term = none) :
      Denotes metadata filter (.foreign truth)
  | foreignCompare {filter : Json} {expression : LiteralExpression} (comparison : Comparison)
      (truth : Row → Truth) (typed : filterType filter = .ok comparison.text)
      (decoded : SailSpec.literalExpression filter = .ok expression)
      (noColumn : filterReferenceField metadata expression.term = none) :
      Denotes metadata filter (.foreign truth)
  | foreignSet {filter : Json} {expression : SetExpression} {kind : String}
      (truth : Row → Truth) (typed : filterType filter = .ok kind)
      (member : kind ∈ ["in", "not-in"])
      (decoded : SailSpec.setExpression filter = .ok expression)
      (noColumn : filterReferenceField metadata expression.term = none) :
      Denotes metadata filter (.foreign truth)

/-- The filter is true of the row; false and unknown both drop it. -/
def Satisfies (metadata : TableMetadata FieldType) (filter : Json) (row : Row) : Prop :=
  ∃ expression, Denotes metadata filter expression ∧ expression.truth row = .yes

/-- The metrics that are recorded are true of the rows: counts are exact, and bounds cover
every value that is neither NULL nor NaN. -/
structure TrueMetrics (dataFile : SailDataFile) (rows : List Row) : Prop where
  records : dataFile.recordCount = rows.length
  values : ∀ fieldId count, dataFile.valueCounts.lookup fieldId = some count →
    count = rows.length
  nulls : ∀ fieldId count, dataFile.nullValueCounts.lookup fieldId = some count →
    count = rows.countP fun row => (row fieldId).isNone
  nans : ∀ fieldId count, dataFile.nanValueCounts.lookup fieldId = some count →
    count = rows.countP fun row => (row fieldId).any SailSpec.isNan
  lower : ∀ fieldId bound, dataFile.lowerBounds.lookup fieldId = some bound →
    ∀ row ∈ rows, ∀ value, row fieldId = some value → SailSpec.isNan value = false →
      bound ≤ value
  upper : ∀ fieldId bound, dataFile.upperBounds.lookup fieldId = some bound →
    ∀ row ∈ rows, ∀ value, row fieldId = some value → SailSpec.isNan value = false →
      value ≤ bound

/-- Filters that the engine accepts and that some row satisfies never prune the file, and
the answer is that the file may match whenever no literal is NULL. -/
def PruningSound (metadata : TableMetadata FieldType) (dataFile : SailDataFile)
    (rows : List Row) : Prop :=
  ∀ filters : List Json,
    (∀ filter ∈ filters, ∃ accepted,
      validateFilterExpression (typedMetadataSummary metadata) filter [] = .ok accepted) →
    (∃ row ∈ rows, ∀ filter ∈ filters, Satisfies metadata filter row) →
    dataFileMayMatchFilters metadata dataFile filters ≠ .ok false ∧
      ((∀ filter ∈ filters, ∃ expression,
          Denotes metadata filter expression ∧ expression.WithoutNull) →
        dataFileMayMatchFilters metadata dataFile filters = .ok true)

/-- A literal that a filter on the column can be written with. -/
def FilterLiteral (field : NestedField FieldType) (literal : PrimitiveLiteral) : Prop :=
  ∃ value : Json, literalOf field value = some (some literal)

/-- The metrics decide every column: where a row is NULL the null count is recorded, and a
NaN, which the bounds need not cover, is on no side of a literal that a bound is not on. -/
structure MetricsDecide (dataFile : SailDataFile) (rows : List Row)
    (field : NestedField FieldType) : Prop where
  nulls : (∃ row ∈ rows, row field.id = none) →
    ∃ count, dataFile.nullValueCounts.lookup field.id = some count
  nans : ∀ row ∈ rows, ∀ value, row field.id = some value → SailSpec.isNan value = true →
    ∀ literal, FilterLiteral field literal →
      ValueRanges.Unseparated (dataFile.lowerBounds.lookup field.id)
        (dataFile.upperBounds.lookup field.id) value literal

end LakeCat
