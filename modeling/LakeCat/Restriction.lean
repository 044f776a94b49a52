import LakeCat.Core

/-!
What the policies of a table restrict its readers to: the columns, the rows,
the purpose and the lifetime of credentials.
-/

namespace LakeCat

open Fallible

/-- The part of a restriction that scans are planned under. -/
@[ext] structure ReadRestriction where
  allowedColumns : Option (List String)
  rowPredicate : Option Json
  deriving DecidableEq

def linearColumnLookupMax : Nat := 32

/-- The columns that a scan of a short list finds. -/
def retainScanned (requested allowed : List String) : List String :=
  requested.filter fun column => allowed.any fun other => other = column

/-- The columns that the set of a long list holds. -/
def retainHashed (requested allowed : List String) : List String :=
  let allowed := Std.HashSet.ofList allowed
  requested.filter fun column => allowed.contains column

def retainAllowedColumns (requested allowed : List String) : List String :=
  if allowed.length ≤ linearColumnLookupMax then retainScanned requested allowed
  else retainHashed requested allowed

theorem retainHashed_scanned (requested allowed : List String) :
    retainHashed requested allowed = retainScanned requested allowed := by
  apply List.filter_congr
  intro column _
  rw [Std.HashSet.contains_ofList, Bool.eq_iff_iff, List.contains_iff_mem, List.any_eq_true]
  simp

@[simp] theorem retainAllowedColumns_eq (requested allowed : List String) :
    retainAllowedColumns requested allowed =
      requested.filter fun column => column ∈ allowed := by
  have scanned : retainScanned requested allowed =
      requested.filter fun column => column ∈ allowed := by
    apply List.filter_congr
    intro column _
    rw [Bool.eq_iff_iff, List.any_eq_true]
    simp
  rw [retainAllowedColumns, retainHashed_scanned, scanned, ite_self]

namespace ReadRestriction

def effectiveProjection (restriction : ReadRestriction) (requestedProjection : List String) :
    LakeCatResult (List String) :=
  match restriction.allowedColumns with
  | none => .ok requestedProjection
  | some allowedColumns => do
      rejectIf (allowedColumns = [])
        (.conflict "read restriction leaves no columns available for scan planning")
      if requestedProjection = [] then return allowedColumns
      else
        let projection := retainAllowedColumns requestedProjection allowedColumns
        rejectIf (projection = [])
          (.conflict "requested projection is outside the governed read restriction")
        return projection

def effectiveStatsFields (restriction : ReadRestriction) (requested : List String) :
    List String :=
  match restriction.allowedColumns with
  | none => requested
  | some allowedColumns => retainAllowedColumns requested allowedColumns

def mandatoryFilters (restriction : ReadRestriction) : List Json :=
  restriction.rowPredicate.toList

end ReadRestriction

/-- `ReadRestriction` with all of its fields. -/
@[ext] structure FullReadRestriction extends ReadRestriction where
  purpose : Option String
  maxCredentialTtlSeconds : Option Nat
  policyHashes : List String
  deriving DecidableEq

namespace FullReadRestriction

def unrestricted : FullReadRestriction where
  allowedColumns := none
  rowPredicate := none
  purpose := none
  maxCredentialTtlSeconds := none
  policyHashes := []

def isUnrestricted (restriction : FullReadRestriction) : Bool :=
  restriction.allowedColumns.isNone && restriction.rowPredicate.isNone &&
    restriction.purpose.isNone && restriction.maxCredentialTtlSeconds.isNone

def requiresGovernedRead (restriction : FullReadRestriction) : Bool :=
  restriction.allowedColumns.isSome || restriction.rowPredicate.isSome

end FullReadRestriction

end LakeCat
