import LakeCat.FirstOccurrences
import LakeCat.OptionalMeet
import LakeCat.Restriction

/-!
The restriction that a list of ODRL documents comes to. A document may write
what it restricts at its top, in an extension object or in the constraints of
its permissions, and each kind of restriction is looked for in its own way.
-/

namespace LakeCat

open Fallible FirstOccurrences OptionalMeet

namespace Json

def asU64 : Json → Option Nat
  | .int value => if 0 ≤ value ∧ value < 2 ^ 64 then some value.toNat else none
  | _ => none

/-- `value.get(key)?.get(key)?...`. -/
def getPath (value : Json) (path : List String) : Option Json :=
  path.foldlM Json.get value

end Json

section JsonLd

def jsonldTerm (value : Json) : Option String :=
  value.asStr.or ((value.get "@id").bind Json.asStr)

def jsonldStringValue (value : Json) : Option String :=
  value.asStr.or ((value.get "@value").bind Json.asStr)

def jsonldU64Value (value : Json) : Option Nat :=
  value.asU64.or
    ((value.get "@value").bind fun value => value.asU64.or (value.asStr.bind parseU64))

def requireNonblankString (value label : String) : LakeCatResult String := do
  rejectIf (isBlank value) (.invalidArgument s!"{label} must not be blank")
  return value

def nonblankJsonldString (label : String) (value : Json) : LakeCatResult String := do
  let value ← okOr (jsonldStringValue value) (.invalidArgument s!"{label} must be strings")
  requireNonblankString value label

def dedupScanned (columns : List String) : List String :=
  columns.foldl (fun out column => if column ∈ out then out else out ++ [column]) []

/-- What `HashSet::insert` answers for each column in turn. -/
def insertsNew (seen : Std.HashSet String) : List String → List Bool
  | [] => []
  | column :: rest => (!seen.contains column) :: insertsNew (seen.insert column) rest

def dedupHashed (columns : List String) : List String :=
  let keep := insertsNew ∅ columns
  (columns.zip keep).filterMap fun (column, keep) => if keep then some column else none

def dedupColumns (columns : List String) : List String :=
  if linearColumnLookupMax < columns.length then dedupHashed columns else dedupScanned columns

/-- The items of a list as `string_list` finds them, before it checks that there are some. -/
def listedStrings (value : Json) (label : String) : LakeCatResult (List String) :=
  match value, value.get "@list" with
  | .arr values, _ => collect (nonblankJsonldString label) values
  | _, some list => do
      let values ← okOr list.asArray (.invalidArgument s!"{label} @list must be an array")
      collect (nonblankJsonldString label) values
  | value, none =>
      match jsonldStringValue value with
      | some _ => do return [← nonblankJsonldString label value]
      | none => .error (.invalidArgument s!"{label} must be a string or string array")

def stringList (label : String) (value : Json) : LakeCatResult (List String) := do
  let raw ← listedStrings value label
  rejectIf (raw = []) (.invalidArgument s!"{label} must not be empty")
  return dedupColumns raw

end JsonLd

section Constraints

def valuesAsSlice : Option Json → List Json
  | some (.arr values) => values
  | some value => [value]
  | none => []

def odrlConstraints (odrl : Json) : List Json :=
  ((valuesAsSlice (odrl.get "permission")).flatMap fun permission =>
    valuesAsSlice (permission.get "constraint")) ++ valuesAsSlice (odrl.get "constraint")

def constraintOperator (constraint : Json) : Option String :=
  ((constraint.get "operator").or (constraint.get "odrl:operator")).bind jsonldTerm

def constraintLeftOperand (constraint : Json) : Option String :=
  ((constraint.get "leftOperand").or ((constraint.get "left-operand").or
    (constraint.get "odrl:leftOperand"))).bind jsonldTerm

def constraintRightOperand (constraint : Json) (label : String) : LakeCatResult Json :=
  okOr ((constraint.get "rightOperand").or ((constraint.get "right-operand").or
    (constraint.get "odrl:rightOperand")))
    (.invalidArgument s!"ODRL {label} constraint must include a right operand")

def normalizedOperator (operator : String) : String :=
  ((stripHead operator "odrl:").or (stripHead operator "http://www.w3.org/ns/odrl/2/")).getD operator

def requireConstraintOperator (constraint : Json) (label : String) (allowed : List String) :
    LakeCatResult Unit := do
  let operator ← okOr (constraintOperator constraint)
    (.invalidArgument s!"ODRL {label} constraint must include an operator")
  rejectIf (normalizedOperator operator ∉ allowed)
    (.invalidArgument s!"ODRL {label} constraint uses unsupported operator {operator}")

/-- The constraints whose left operand is one of the names. -/
def constraintsOn (operands : List String) (odrl : Json) : List Json :=
  (odrlConstraints odrl).filter fun constraint =>
    (constraintLeftOperand constraint).getD "" ∈ operands

/-- The values that stand at the paths, in the order of the paths. -/
def spellings (paths : List (List String)) (odrl : Json) : List Json :=
  paths.filterMap odrl.getPath

/-- The value of a constraint whose right operand is asked for before its operator. -/
def constraintValue (label : String) (operators : List String) (read : Json → LakeCatResult α)
    (constraint : Json) : LakeCatResult α := do
  let value ← constraintRightOperand constraint label
  requireConstraintOperator constraint label operators
  read value

end Constraints

section Columns

def columnPaths : List (List String) :=
  [["allowed-columns"], ["allowedColumns"], ["columns"],
    ["lakecat:read-restriction", "allowed-columns"], ["lakecat:read-restriction", "allowedColumns"],
    ["read-restriction", "allowed-columns"], ["readRestriction", "allowedColumns"]]

def columnOperands : List String :=
  ["column", "columns", "allowed-columns", "allowedColumns", "lakecat:allowed-columns"]

def columnConstraint : Json → LakeCatResult (List String) :=
  constraintValue "allowed columns" ["eq", "isAnyOf", "isAllOf"] (stringList "ODRL allowed columns")

def allowedColumnsFromOdrl (odrl : Json) : LakeCatResult (Option (List String)) :=
  match spellings columnPaths odrl with
  | value :: _ => do return some (← stringList "ODRL allowed columns" value)
  | [] => do
      let columns ← collect columnConstraint (constraintsOn columnOperands odrl)
      if columns.flatten = [] then return none
      else return some (dedupColumns columns.flatten)

def intersectColumns (left right : List String) : List String :=
  retainAllowedColumns left right

end Columns

section RowPredicates

def predicatePaths : List (List String) :=
  [["row-predicate"], ["rowPredicate"], ["lakecat:row-predicate"],
    ["lakecat:read-restriction", "row-predicate"], ["lakecat:read-restriction", "rowPredicate"],
    ["read-restriction", "row-predicate"], ["readRestriction", "rowPredicate"]]

def predicateOperands : List String :=
  ["row-predicate", "rowPredicate", "lakecat:row-predicate"]

def rowPredicateValue (value : Json) : LakeCatResult Json := do
  rejectIf (¬value.isObject)
    (.invalidArgument "ODRL row predicate must be an Iceberg expression object")
  return value

def andRowPredicates (left right : Json) : Json :=
  .object [("type", .str "and"), ("left", left), ("right", right)]

def predicateConstraint : Json → LakeCatResult Json :=
  constraintValue "row predicate" ["eq"] rowPredicateValue

def rowPredicateFromOdrl (odrl : Json) : LakeCatResult (Option Json) :=
  match spellings predicatePaths odrl with
  | value :: _ => do return some (← rowPredicateValue value)
  | [] => do
      let predicates ← collect predicateConstraint (constraintsOn predicateOperands odrl)
      return combine andRowPredicates none (predicates.map some)

end RowPredicates

section Purposes

def purposeOperands : List String := ["purpose", "lakecat:purpose"]

def purposeConflict (existing next : String) : LakeCatError :=
  .conflict s!"ODRL read restriction carries conflicting purposes {existing} and {next}"

/-- The operator of a purpose is asked for before its right operand. -/
def purposeConstraint (constraint : Json) : LakeCatResult String := do
  requireConstraintOperator constraint "purpose" ["eq"]
  let rightOperand ← constraintRightOperand constraint "purpose"
  let value ← okOr (jsonldStringValue rightOperand)
    (.invalidArgument "ODRL purpose constraint must use a string right operand")
  requireNonblankString value "ODRL purpose constraint"

def topPurpose (odrl : Json) : LakeCatResult (Option String) :=
  match odrl.get "purpose" with
  | some value => do return some (← nonblankJsonldString "ODRL purpose" value)
  | none => .ok none

def agreePurpose (purpose : Option String) (constraint : Json) : LakeCatResult (Option String) := do
  let next ← purposeConstraint constraint
  agree purposeConflict purpose (some next)

def purposeFromOdrl (odrl : Json) : LakeCatResult (Option String) := do
  let purpose ← topPurpose odrl
  (constraintsOn purposeOperands odrl).foldlM agreePurpose purpose

end Purposes

section Ttls

def ttlPaths : List (List String) :=
  [["max-credential-ttl-seconds"], ["maxCredentialTtlSeconds"],
    ["lakecat:read-restriction", "max-credential-ttl-seconds"],
    ["lakecat:read-restriction", "maxCredentialTtlSeconds"],
    ["read-restriction", "max-credential-ttl-seconds"],
    ["readRestriction", "maxCredentialTtlSeconds"]]

def ttlOperands : List String :=
  ["max-credential-ttl-seconds", "maxCredentialTtlSeconds", "credential-ttl", "credentialTtl",
    "lakecat:max-credential-ttl-seconds", "lakecat:credential-ttl"]

def ttlValue (value : Json) : LakeCatResult Nat :=
  okOr (jsonldU64Value value)
    (.invalidArgument "ODRL max credential TTL must be an unsigned integer number of seconds")

def ttlConstraint : Json → LakeCatResult Nat :=
  constraintValue "max credential TTL" ["eq", "lteq", "lt"] ttlValue

/-- `tighten_ttl` is the merge with the lesser of two. -/
def ttlFromOdrl (odrl : Json) : LakeCatResult (Option Nat) := do
  let spelled ← collect ttlValue (spellings ttlPaths odrl)
  let constrained ← collect ttlConstraint (constraintsOn ttlOperands odrl)
  return combine min none ((spelled ++ constrained).map some)

end Ttls

namespace FullReadRestriction

variable [External]

/-- One document more. -/
def restrictedBy (restriction : FullReadRestriction) (odrl : Json) :
    LakeCatResult FullReadRestriction := do
  let policyHash := contentHashJson odrl
  let columns ← allowedColumnsFromOdrl odrl
  let rowPredicate ← rowPredicateFromOdrl odrl
  let stated ← purposeFromOdrl odrl
  let purpose ← agree purposeConflict restriction.purpose stated
  let ttl ← ttlFromOdrl odrl
  return {
    allowedColumns := restriction.allowedColumns.merge intersectColumns columns
    rowPredicate := restriction.rowPredicate.merge andRowPredicates rowPredicate
    purpose := purpose
    maxCredentialTtlSeconds := restriction.maxCredentialTtlSeconds.merge min ttl
    policyHashes := restriction.policyHashes ++ [policyHash] }

def fromOdrlPolicies (policies : List Json) : LakeCatResult FullReadRestriction :=
  policies.foldlM restrictedBy unrestricted

end FullReadRestriction

section Reading

variable {odrl : Json}

/-- The loop appends the first of each column that is not there yet. -/
theorem dedupScanned_from (columns out : List String) :
    columns.foldl (fun out column => if column ∈ out then out else out ++ [column]) out =
      out ++ (columns.filter fun column => column ∉ out).eraseDups := by
  induction columns generalizing out with
  | nil => simp
  | cons first rest ih =>
      rw [List.foldl_cons, ih]
      by_cases present : first ∈ out
      · simp [present]
      · rw [if_neg present, List.filter_cons, if_pos (by simpa using present),
          List.eraseDups_cons, List.append_assoc, List.filter_filter]
        simp only [List.singleton_append, List.mem_append, List.mem_singleton, not_or]
        congr 3
        apply List.filter_congr
        intro column _
        rw [Bool.eq_iff_iff]
        simp [and_comm]

theorem dedupScanned_eq (columns : List String) : dedupScanned columns = columns.eraseDups := by
  rw [dedupScanned, dedupScanned_from]
  simp

/-- The flags mark the first of each column that the set does not hold yet. -/
theorem dedupHashed_from (seen : Std.HashSet String) (columns : List String) :
    (columns.zip (insertsNew seen columns)).filterMap
        (fun (column, keep) => if keep then some column else none) =
      (columns.filter fun column => !seen.contains column).eraseDups := by
  induction columns generalizing seen with
  | nil => rfl
  | cons first rest ih =>
      rw [insertsNew, List.zip_cons_cons, List.filterMap_cons, ih]
      by_cases present : seen.contains first = true
      · simp only [present, Bool.not_true, Bool.false_eq_true, if_false, List.filter_cons]
        congr 1
        apply List.filter_congr
        intro column _
        rw [Std.HashSet.contains_insert]
        by_cases same : first = column
        · simp [← same, present]
        · simp [same]
      · simp only [present, Bool.not_false, if_true, List.filter_cons, List.eraseDups_cons,
          List.filter_filter]
        congr 2
        apply List.filter_congr
        intro column _
        rw [Std.HashSet.contains_insert, Bool.not_or, BEq.comm]

theorem dedupHashed_eq (columns : List String) : dedupHashed columns = columns.eraseDups := by
  rw [dedupHashed, dedupHashed_from]
  simp

theorem dedupColumns_eq (columns : List String) : dedupColumns columns = columns.eraseDups := by
  rw [dedupColumns, dedupHashed_eq, dedupScanned_eq, ite_self]

@[simp] theorem mem_dedupColumns (columns : List String) (column : String) :
    column ∈ dedupColumns columns ↔ column ∈ columns := by
  rw [dedupColumns_eq, List.mem_eraseDups]

theorem nodup_dedupColumns (columns : List String) : (dedupColumns columns).Nodup := by
  rw [dedupColumns_eq]
  exact (isFirsts_eraseDups columns).distinct

@[simp] theorem mem_intersectColumns (left right : List String) (column : String) :
    column ∈ intersectColumns left right ↔ column ∈ left ∧ column ∈ right := by
  simp [intersectColumns]

theorem stringList_listed {label : String} {value : Json} {columns : List String}
    (read : stringList label value = .ok columns) : columns ≠ [] ∧ columns.Nodup := by
  simp only [stringList, bind_eq_ok, exists_unit, rejectIf_ok, pure_eq, Except.ok.injEq] at read
  obtain ⟨raw, -, present, rfl⟩ := read
  refine ⟨?_, nodup_dedupColumns raw⟩
  obtain ⟨first, member⟩ := List.exists_mem_of_ne_nil raw present
  exact List.ne_nil_of_mem ((mem_dedupColumns raw first).mpr member)

end Reading

end LakeCat
