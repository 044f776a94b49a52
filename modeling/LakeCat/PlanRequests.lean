import LakeCat.Operability
import LakeCat.ScanEvents
import LakeCat.Transition

/-!
Plan requests that the service handles beside each other and beside the other
calls on its store. A request makes its calls on the store one by one; between
two of them the store may be changed by anyone.
-/

namespace LakeCat

open Fallible Transition

structure PlanningCall where
  identity : RequestIdentity
  ident : TableIdent
  request : PlanTableScanRequest

/-- A request in its canonical form, with the projection that it gets. -/
structure PlannedRequest where
  normalized : NormalizedPlanTableScanRequest
  projection : List String

/-- What a request that succeeds has planned, granted and recorded. -/
structure PlanAnswer where
  capability : TableScanCapability
  planned : PlannedRequest
  scan : ScanPlan
  grant : Option GovernedScanGrant
  event : CatalogAuditEvent

/-- How far a request has come: what it holds until its next call on the store. -/
inductive PlanStage where
  | asked
  | authorized (capability : TableScanCapability)
  | loaded (capability : TableScanCapability) (table : TableRecord)
  | issued (capability : TableScanCapability) (table : TableRecord) (planned : PlannedRequest)
      (scan : ScanPlan) (grant : Option GovernedScanGrant)
  | saved (capability : TableScanCapability) (table : TableRecord) (planned : PlannedRequest)
      (scan : ScanPlan) (grant : Option GovernedScanGrant)
  | finished (answer : LakeCatResult PlanAnswer)

namespace PlanStage

def isFinished : PlanStage → Bool
  | finished _ => true
  | asked | authorized _ | loaded .. | issued .. | saved .. => false

/-- A failure ends the request. -/
def attempt (result : LakeCatResult α) (next : α → PlanStage) : PlanStage :=
  match result with
  | .ok value => next value
  | .error error => .finished (.error error)

end PlanStage

/-- A request with the stores that it has lived to see. -/
structure PlanRun where
  call : PlanningCall
  stage : PlanStage
  during : List MemoryState

structure PlanSystem where
  store : MemoryState
  requests : Nat → Option PlanRun

inductive PlanStep where
  | ask (client : Nat) (call : PlanningCall)
  | advance (client : Nat) (now : Timestamp)
  | other (op : MemoryOp)

def PlanRun.seeing (run : PlanRun) (store : MemoryState) : PlanRun :=
  if run.stage.isFinished then run else { run with during := run.during ++ [store] }

section Requests

variable [External] [SailSpec] [SailIo] [PlanCodec]

/-- `plan_scan_with_capability` up to the grant: the provider loads the table again. The texts
that the provider makes of its errors are left out. -/
def planAndIssue (fuel : Nat) (catalogIdentity : String) (store : MemoryState)
    (capability : TableScanCapability) (table : TableRecord) (request : PlanTableScanRequest)
    (now : Timestamp) :
    LakeCatResult (PlannedRequest × ScanPlan × Option GovernedScanGrant) := do
  let normalized ← request.intoNormalized
  let projection ← capability.restriction.effectiveProjection normalized.projection
  let record ← store.loadTable capability.table
  let scan ← planTableScanWithCapability fuel capability.restriction.toReadRestriction record
    normalized.toProvider
  let grant ← issueGovernedScanGrant catalogIdentity capability table scan.forGrant
    normalized.projection projection now
  return (⟨normalized, projection⟩, scan, grant)

def PlannedRequest.event (planned : PlannedRequest) (capability : TableScanCapability)
    (table : TableRecord) (scan : ScanPlan) (grant : Option GovernedScanGrant)
    (now : Timestamp) : CatalogAuditEvent :=
  scanPlannedEvent table capability scan (scanRequestExtensions planned.normalized
    capability.restriction planned.projection) (grant.map GovernedScanGrant.proof) now

/-- The next call of a request on the store, and what it leaves there. -/
def PlanStage.next (fuel : Nat) (state : LakeCatState) (call : PlanningCall) (store : MemoryState)
    (now : Timestamp) : PlanStage → PlanStage × MemoryState
  | asked =>
      (attempt (authorizeTableScan state store call.identity call.ident now) authorized, store)
  | authorized capability =>
      (attempt (store.loadTable capability.table) (loaded capability), store)
  | loaded capability table =>
      (attempt (planAndIssue fuel state.catalogIdentity store capability table call.request now)
        fun (planned, scan, grant) => issued capability table planned scan grant, store)
  | issued capability table planned scan none =>
      (saved capability table planned scan none, store)
  | issued capability table planned scan (some grant) =>
      match store.saveGovernedScanGrant grant with
      | .error error => (finished (.error error), store)
      | .ok (kept, next) => (saved capability table planned scan (some kept), next)
  | saved capability table planned scan grant =>
      let event := planned.event capability table scan grant now
      match store.recordAuditEvent event with
      | .error error => (finished (.error error), store)
      | .ok (_, next) => (finished (.ok ⟨capability, planned, scan, grant, event⟩), next)
  | finished answer => (finished answer, store)

namespace PlanSystem

def idle (store : MemoryState) : PlanSystem := ⟨store, fun _ => none⟩

/-- The store after a step, and the requests that see it. -/
def seen (store : MemoryState) (requests : Nat → Option PlanRun) : PlanSystem :=
  ⟨store, fun client => (requests client).map fun run => run.seeing store⟩

def step (fuel : Nat) (state : LakeCatState) (system : PlanSystem) : PlanStep → PlanSystem
  | .ask client call =>
      match system.requests client with
      | some _ => system
      | none => {
          system with
          requests := Function.update system.requests client
            (some ⟨call, .asked, [system.store]⟩) }
  | .advance client now =>
      match system.requests client with
      | none => system
      | some run =>
          let next := run.stage.next fuel state run.call system.store now
          seen next.2
            (Function.update system.requests client (some { run with stage := next.1 }))
  | .other op => seen (system.store.step op) system.requests

def run (fuel : Nat) (state : LakeCatState) (system : PlanSystem) (steps : List PlanStep) :
    PlanSystem :=
  Transition.run (step fuel state) system steps

end PlanSystem

/-- One stored table from which the plan was made and to which the grant and the event belong. -/
structure DescribesOne (fuel : Nat) (table : TableRecord) (answer : PlanAnswer) : Prop where
  planned : planTableScanWithCapability fuel answer.capability.restriction.toReadRestriction table
    answer.planned.normalized.toProvider = .ok answer.scan
  tasks : ∀ task ∈ answer.scan.scanTasks, task.metadataLocation = table.metadataLocation
  granted : ∀ grant, answer.grant = some grant → grant.proof.tableVersion = table.version ∧
    currentSnapshotId table = some grant.proof.snapshotId ∧
    grant.tableMetadataDigest = governedEvidenceDigest tableMetadataDomain table.metadata
  location : answer.event.payload.get "metadata-location" = some (ofOptionStr table.metadataLocation)
  version : ∀ value, answer.event.payload.get "version" = some value →
    value = .int table.version.toNat
  graph : ∀ value, answer.event.payload.get "metadata-graph" = some value →
    value = tableMetadataGraphSummary table.metadata

/-- The answer of a request describes one table that was stored while the request was handled. -/
def PlanRun.DescribesOneState (fuel : Nat) (run : PlanRun) (answer : PlanAnswer) : Prop :=
  ∃ store ∈ run.during, ∃ table, store.loadTable run.call.ident = .ok table ∧
    DescribesOne fuel table answer

/-- Where the provider loads the table, its metadata is what the handler loaded. -/
def PlanSystem.RereadsSameMetadata (system : PlanSystem) : PlanStep → Prop
  | .advance client _ => ∀ run capability table, system.requests client = some run →
      run.stage = .loaded capability table → ∀ record,
        system.store.loadTable capability.table = .ok record →
          record.metadata = table.metadata ∧ record.metadataLocation = table.metadataLocation
  | .ask .. | .other _ => True

end Requests

end LakeCat
