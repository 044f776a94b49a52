import LakeCat.SailMetadata

/-!
The filters and the projection of a scan request: what the engine accepts
before it plans anything.
-/

namespace LakeCat

open Fallible

def filterType (filter : Json) : LakeCatResult String :=
  okOr ((filter.get "type").bind Json.asStr)
    (.invalidArgument "Iceberg REST filter expression is missing string field 'type'")

/-- A child of an expression, with the fact that it is smaller than the expression. -/
def requiredFilterChild (filter : Json) (field : String) :
    LakeCatResult { child : Json // sizeOf child < sizeOf filter } :=
  match found : filter.get field with
  | some child => .ok ⟨child, Json.sizeOf_get found⟩
  | none => .error (.invalidArgument
      ("Iceberg REST filter expression is missing field '" ++ field ++ "'"))

def validateFilterModel {α : Type} (decoded : Except String α) (expressionType : String) :
    LakeCatResult α :=
  match decoded with
  | .ok expression => .ok expression
  | .error text => .error (.invalidArgument
      ("invalid Iceberg REST " ++ expressionType ++ " filter expression: " ++ text))

def validateFilterReference (summary : SailMetadataSummary) (reference : String) :
    LakeCatResult Unit :=
  if summary.v4ExtensionMode ∨ summary.fields = [] then .ok ()
  else rejectIf (¬summary.fields.any fun field => field.name = reference)
    (.invalidArgument ("unknown Iceberg filter column: " ++ reference))

/-- The references seen so far, with the one of the term behind them. -/
def validateFilterTerm (summary : SailMetadataSummary) (term : Term) (references : List String) :
    LakeCatResult (List String) :=
  match term with
  | .reference reference => do
      validateFilterReference summary reference
      return references ++ [reference]
  | .transformTerm reference => do
      validateFilterReference summary reference
      return references ++ [reference]

/-- The type of the expression, and the references it adds to those already seen. -/
def validateFilterExpression [SailSpec] (summary : SailMetadataSummary) (filter : Json)
    (references : List String) : LakeCatResult (String × List String) := do
  let expressionType ← filterType filter
  match expressionType with
  | "true" | "always-true" =>
      validateFilterModel (SailSpec.trueExpression filter) expressionType
      return (expressionType, references)
  | "false" | "always-false" =>
      validateFilterModel (SailSpec.falseExpression filter) expressionType
      return (expressionType, references)
  | "and" | "or" =>
      validateFilterModel (SailSpec.andOrExpression filter) expressionType
      let left ← requiredFilterChild filter "left"
      let (_, references) ← validateFilterExpression summary left.val references
      let right ← requiredFilterChild filter "right"
      let (_, references) ← validateFilterExpression summary right.val references
      return (expressionType, references)
  | "not" =>
      validateFilterModel (SailSpec.notExpression filter) expressionType
      let child ← requiredFilterChild filter "child"
      let (_, references) ← validateFilterExpression summary child.val references
      return (expressionType, references)
  | "in" | "not-in" =>
      let expression ← validateFilterModel (SailSpec.setExpression filter) expressionType
      let references ← validateFilterTerm summary expression.term references
      return (expressionType, references)
  | "lt" | "lt-eq" | "gt" | "gt-eq" | "eq" | "not-eq" | "starts-with" | "not-starts-with" =>
      let expression ← validateFilterModel (SailSpec.literalExpression filter) expressionType
      let references ← validateFilterTerm summary expression.term references
      return (expressionType, references)
  | "is-null" | "not-null" | "is-nan" | "not-nan" =>
      let expression ← validateFilterModel (SailSpec.unaryExpression filter) expressionType
      let references ← validateFilterTerm summary expression.term references
      return (expressionType, references)
  | other =>
      throw (.notSupported ("unsupported Iceberg REST filter expression type: " ++ other))
termination_by sizeOf filter
decreasing_by
  · exact left.property
  · exact right.property
  · exact child.property

/-- The summaries of the accepted filters go into the evidence of the plan only. -/
def validateScanFilters [SailSpec] (summary : SailMetadataSummary) (filters : List Json) :
    LakeCatResult Unit :=
  checkEach (fun filter => (fun _ => ()) <$> validateFilterExpression summary filter []) filters

end LakeCat
