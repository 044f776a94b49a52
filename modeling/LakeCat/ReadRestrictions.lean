import LakeCat.FetchSteps
import LakeCat.FilterMeaning
import LakeCat.Restriction
import LakeCat.TableRecords

/-!
Scans under a read restriction. What a restriction requires is put into the
tokens of a plan and asked of every token that is fetched; the tokens of a plan
and of every later fetch pass, except over metadata that the typed model cannot
read.
-/

namespace LakeCat

open Fallible

open SailSpec (PrimitiveLiteral FieldType)

structure ProviderScanPlanningRequest where
  projection : List String
  filters : List Json
  limit : Option Nat
  snapshotId : Option Int
  startSnapshotId : Option Int
  endSnapshotId : Option Int

/-- The scan that is planned for a request once the restriction has been applied. -/
def ProviderScanPlanningRequest.restricted (request : ProviderScanPlanningRequest)
    (restriction : ReadRestriction) (table : TableRecord) (projection : List String) :
    ScanPlanningRequest where
  table := table.ident
  metadataLocation := table.metadataLocation
  tableMetadata := table.metadata
  projection := projection
  filters := request.filters ++ restriction.mandatoryFilters
  limit := request.limit
  snapshotId := request.snapshotId
  startSnapshotId := request.startSnapshotId
  endSnapshotId := request.endSnapshotId

/-- The fetch of a token, with what the restriction requires of it. -/
def ReadRestriction.fetchRequest (restriction : ReadRestriction) (table : TableRecord)
    (requiredProjection : List String) (planTask : String) : FetchScanTasksRequest where
  table := table.ident
  metadataLocation := table.metadataLocation
  tableMetadata := table.metadata
  planTask := planTask
  requiredProjection := requiredProjection
  requiredFilters := restriction.mandatoryFilters

variable [SailSpec] [SailIo] [PlanCodec]

def planTableScanWithCapability (fuel : Nat) (restriction : ReadRestriction) (table : TableRecord)
    (request : ProviderScanPlanningRequest) : LakeCatResult ScanPlan := do
  let projection ← restriction.effectiveProjection request.projection
  planScan fuel (request.restricted restriction table projection)

def fetchTableScanTasksWithCapability (restriction : ReadRestriction) (table : TableRecord)
    (planTask : String) : LakeCatResult FetchScanTasksPlan := do
  let requiredProjection ← restriction.effectiveProjection []
  fetchScanTasks (restriction.fetchRequest table requiredProjection planTask)

section Acceptance

/-- The token passes every check of a fetch under the restriction. -/
def Accepted (restriction : ReadRestriction) (table : TableRecord) (planTask : String)
    (decoded : DecodedPlanTask) : Prop :=
  ∃ requiredProjection summary typed,
    restriction.effectiveProjection [] = .ok requiredProjection ∧
    inspectSailTableMetadataWithTyped table.metadata = .ok (summary, typed) ∧
    decodePlanTask planTask = .ok decoded ∧
    validateDecodedPlanTask (restriction.fetchRequest table requiredProjection planTask) summary
      typed decoded = .ok ()

/-- The projection stays inside the allowed columns, and whatever satisfies the filters
satisfies the mandatory predicate. -/
structure StaysWithin (restriction : ReadRestriction) (projection : List String)
    (filters : List Json) : Prop where
  columns : ∀ allowed, restriction.allowedColumns = some allowed →
    projection ≠ [] ∧ ∀ column ∈ projection, column ∈ allowed
  predicate : ∀ predicate, restriction.rowPredicate = some predicate →
    ∀ (metadata : TableMetadata FieldType) (row : Row),
      (∀ filter ∈ filters, Satisfies metadata filter row) → Satisfies metadata predicate row

/-- The tokens that a token leads to, fetch after fetch. -/
inductive LeadsTo (restriction : ReadRestriction) (table : TableRecord) :
    String → String → Prop
  | self (token : String) : LeadsTo restriction table token token
  | fetch {token next last : String} {plan : FetchScanTasksPlan} {child : SailScanTask}
      (fetched : fetchTableScanTasksWithCapability restriction table token = .ok plan)
      (member : child ∈ plan.planTasks) (handed : child.planTask = next)
      (later : LeadsTo restriction table next last) : LeadsTo restriction table token last

/-- A plan under a restriction can be fetched under it, nothing that is fetched under it goes
beyond it, and both hold of every token that fetches lead to. -/
structure GovernedScans (restriction : ReadRestriction) (table : TableRecord)
    (plan : ScanPlan) : Prop where
  minted : ∀ task ∈ plan.scanTasks, ∃ decoded,
    Accepted restriction table task.planTask decoded
  sound : ∀ token decoded, Accepted restriction table token decoded →
    StaysWithin restriction decoded.projection decoded.filters
  children : ∀ token decoded, Accepted restriction table token decoded →
    ∀ child, LeadsTo restriction table token child → ∃ decoded,
      Accepted restriction table child decoded ∧
        StaysWithin restriction decoded.projection decoded.filters

/-- A manifest list that an expansion reads and finds manifests in. -/
def ExpandsToManifests (summary : SailMetadataSummary) (manifestList : String) : Prop :=
  SailIo.localFileUrlExists manifestList = true ∧
    ∃ store manifests, localStoreContext summary = .ok (some store) ∧
      SailIo.loadManifestList store manifestList = .ok manifests ∧ manifests ≠ []

/-- Over metadata that only the format 4 reader takes, a manifest list is asked for as of the
current snapshot and is not expanded. -/
def TakenAsCurrent (table : TableRecord) (request : ProviderScanPlanningRequest) : Prop :=
  ∀ summary, inspectSailTableMetadataWithTyped table.metadata = .ok (summary, none) →
    ∀ manifestList, summary.manifestList = some manifestList →
      (∀ snapshotId, request.snapshotId = some snapshotId →
        summary.currentSnapshotId = some snapshotId) ∧
      ¬ExpandsToManifests summary manifestList

end Acceptance

end LakeCat
