import LakeCat.MetadataGraph
import LakeCat.ReadRestrictions
import LakeCat.ScanGrants

/-!
Scan requests as clients write them, and the events that the service records of
a plan and of a fetch. An event is put together from the restriction, the
request and the plan.
-/

namespace LakeCat

open Fallible

/-- Missing lists are empty. -/
structure PlanTableScanRequest where
  projection : List String
  select : List String
  filters : List Json
  filter : Option Json
  limit : Option Nat
  snapshotId : Option Int
  caseSensitive : Option Bool
  useSnapshotSchema : Option Bool
  startSnapshotId : Option Int
  endSnapshotId : Option Int
  statsFields : List String

structure NormalizedPlanTableScanRequest where
  projection : List String
  filters : List Json
  limit : Option Nat
  snapshotId : Option Int
  caseSensitive : Option Bool
  useSnapshotSchema : Option Bool
  startSnapshotId : Option Int
  endSnapshotId : Option Int
  statsFields : List String

namespace PlanTableScanRequest

def isIncrementalScan (request : PlanTableScanRequest) : Bool :=
  request.startSnapshotId.isSome || request.endSnapshotId.isSome

def validateScanMode (request : PlanTableScanRequest) : LakeCatResult Unit := do
  rejectIf (request.snapshotId.isSome ∧ request.isIncrementalScan) (.invalidArgument
    "Iceberg scan planning cannot mix snapshot-id with incremental start/end snapshot ids")
  rejectIf (request.startSnapshotId.isSome ∧ request.endSnapshotId.isNone) (.invalidArgument
    ("Iceberg incremental scan planning requires end-snapshot-id when start-snapshot-id is " ++
      "set"))
  rejectIf (request.endSnapshotId.isSome ∧ request.startSnapshotId.isNone) (.invalidArgument
    ("Iceberg incremental scan planning requires start-snapshot-id when end-snapshot-id is " ++
      "set"))

def intoNormalized (request : PlanTableScanRequest) :
    LakeCatResult NormalizedPlanTableScanRequest := do
  request.validateScanMode
  return {
    projection := if request.select = [] then request.projection else request.select
    filters := request.filters ++ request.filter.toList
    limit := request.limit
    snapshotId := request.snapshotId
    caseSensitive := request.caseSensitive
    useSnapshotSchema := request.useSnapshotSchema
    startSnapshotId := request.startSnapshotId
    endSnapshotId := request.endSnapshotId
    statsFields := request.statsFields }

end PlanTableScanRequest

def NormalizedPlanTableScanRequest.toProvider (request : NormalizedPlanTableScanRequest) :
    ProviderScanPlanningRequest where
  projection := request.projection
  filters := request.filters
  limit := request.limit
  snapshotId := request.snapshotId
  startSnapshotId := request.startSnapshotId
  endSnapshotId := request.endSnapshotId

def stringArray (texts : List String) : Json := .arr (texts.map .str)

def SailScanTask.toJson (task : SailScanTask) : Json :=
  .object [("task-type", .str task.taskType), ("table", .str task.table),
    ("snapshot-id", .int task.snapshotId), ("plan-task", .str task.planTask),
    ("metadata-location", ofOptionStr task.metadataLocation),
    ("manifest-list", ofOptionStr task.manifestList),
    ("manifest-path", ofOptionStr task.manifestPath), ("content", ofOptionStr task.content),
    ("sequence-number", Json.ofOption .int task.sequenceNumber)]

/-- Who plans: `planned_by` of every plan that the Sail integration makes. -/
def sailRestModels : String := "sail-rest-models"

def ScanPlan.forGrant (scan : ScanPlan) : PlannedScan :=
  ⟨scan.snapshotId, scan.scanTasks.map SailScanTask.toJson⟩

def GovernedScanProof.toJson (proof : GovernedScanProof) : Json :=
  .object [("version", .str proof.version), ("grantId", .str proof.grantId),
    ("catalogIdentity", .str proof.catalogIdentity), ("table", proof.table.toJson),
    ("tableVersion", .int proof.tableVersion.toNat), ("snapshotId", .int proof.snapshotId),
    ("planTaskDigest", .str proof.planTaskDigest),
    ("principalSubject", .str proof.principalSubject), ("purpose", .str proof.purpose),
    ("effectiveProjection", stringArray proof.effectiveProjection),
    ("identityContextDigest", .str proof.identityContextDigest),
    ("authorizationReceiptDigest", .str proof.authorizationReceiptDigest),
    ("policyDecisionDigest", .str proof.policyDecisionDigest)]

def scanRequestExtensions (request : NormalizedPlanTableScanRequest)
    (restriction : FullReadRestriction) (projection : List String) : Json :=
  let statsFields := stringArray (restriction.effectiveStatsFields request.statsFields)
  .object [("case-sensitive", Json.ofOption .bool request.caseSensitive),
    ("use-snapshot-schema", Json.ofOption .bool request.useSnapshotSchema),
    ("start-snapshot-id", Json.ofOption .int request.startSnapshotId),
    ("end-snapshot-id", Json.ofOption .int request.endSnapshotId),
    ("requested-projection", stringArray request.projection),
    ("effective-projection", stringArray projection),
    ("read-restriction", restriction.toJson),
    ("requested-stats-fields", stringArray request.statsFields),
    ("effective-stats-fields", statsFields), ("stats-fields", statsFields)]

def fetchScanTasksExtensions (restriction : FullReadRestriction) : LakeCatResult Json := do
  let requiredProjection ← restriction.effectiveProjection []
  let columns := stringArray requiredProjection
  return .object [("read-restriction", restriction.toJson), ("required-projection", columns),
    ("effective-projection", columns), ("required-filters", .arr restriction.mandatoryFilters),
    ("requested-stats-fields", columns), ("effective-stats-fields", columns),
    ("stats-fields", columns)]

def appendReadRestrictionRequirements (auditPayload : Json) (restriction : FullReadRestriction) :
    Json :=
  match restriction.effectiveProjection [] with
  | .error _ => auditPayload
  | .ok requiredProjection =>
      ((auditPayload.set "required-projection" (stringArray requiredProjection)).set
        "effective-projection" (stringArray requiredProjection)).set "required-filters"
          (.arr restriction.mandatoryFilters)

/-- The restriction of the receipt, when it has one, and what it requires. -/
def appendReadRestriction (auditPayload : Json) (receipt : AuthorizationReceipt)
    (restriction : FullReadRestriction) : Json :=
  match receipt.context.get "read-restriction" with
  | none => auditPayload
  | some own =>
      appendReadRestrictionRequirements (auditPayload.set "read-restriction" own) restriction

/-- The fields of the extensions that an event repeats. -/
def copyFields (fields : List String) (extensions auditPayload : Json) : Json :=
  fields.foldl (fun auditPayload field =>
    match extensions.get field with
    | none => auditPayload
    | some value => auditPayload.set field value) auditPayload

section Fields

theorem copyFields_shape (fields : List String) (extensions auditPayload : Json)
    (shape : auditPayload.isObject = true) :
    (copyFields fields extensions auditPayload).isObject = true := by
  induction fields generalizing auditPayload with
  | nil => exact shape
  | cons field rest ih =>
      rw [copyFields, List.foldl_cons]
      refine ih _ ?_
      cases extensions.get field with
      | none => exact shape
      | some value => exact Json.isObject_set _ _ _ shape

/-- A repeated field is that of the extensions, if they have it. -/
theorem copyFields_get (fields : List String) (extensions auditPayload : Json) (key : String)
    (shape : auditPayload.isObject = true) :
    (copyFields fields extensions auditPayload).get key =
      if key ∈ fields then (extensions.get key).or (auditPayload.get key)
      else auditPayload.get key := by
  induction fields generalizing auditPayload with
  | nil => rfl
  | cons field rest ih =>
      rw [copyFields, List.foldl_cons]
      cases found : extensions.get field with
      | none =>
          refine (ih auditPayload shape).trans ?_
          by_cases same : key = field
          · subst same
            simp [found]
          · simp [same]
      | some value =>
          refine (ih _ (Json.isObject_set _ _ _ shape)).trans ?_
          rw [Json.get_set _ _ _ _ shape]
          by_cases same : key = field
          · subst same
            simp [found]
          · simp [same]

/-- What the restriction of a receipt adds to an event. -/
def restrictionFields (receipt : AuthorizationReceipt) (restriction : FullReadRestriction)
    (key : String) : Option Json :=
  match receipt.context.get "read-restriction" with
  | none => none
  | some own =>
      match restriction.effectiveProjection [] with
      | .error _ => if key = "read-restriction" then some own else none
      | .ok requiredProjection =>
          if key = "required-filters" then some (.arr restriction.mandatoryFilters)
          else if key = "effective-projection" ∨ key = "required-projection" then
            some (stringArray requiredProjection)
          else if key = "read-restriction" then some own
          else none

theorem appendReadRestriction_get (auditPayload : Json) (receipt : AuthorizationReceipt)
    (restriction : FullReadRestriction) (key : String) (shape : auditPayload.isObject = true) :
    (appendReadRestriction auditPayload receipt restriction).get key =
      (restrictionFields receipt restriction key).or (auditPayload.get key) := by
  rw [appendReadRestriction, restrictionFields]
  cases receipt.context.get "read-restriction" with
  | none => rfl
  | some own =>
      simp only [appendReadRestrictionRequirements]
      cases restriction.effectiveProjection [] with
      | error error =>
          simp only [Json.get_set _ _ _ _ shape]
          split <;> rfl
      | ok requiredProjection =>
          have first := Json.isObject_set auditPayload "read-restriction" own shape
          have second := Json.isObject_set _ "required-projection" (stringArray requiredProjection)
            first
          have third := Json.isObject_set _ "effective-projection" (stringArray requiredProjection)
            second
          simp only [Json.get_set _ _ _ _ third, Json.get_set _ _ _ _ second,
            Json.get_set _ _ _ _ first, Json.get_set _ _ _ _ shape]
          by_cases filters : key = "required-filters"
          · simp [filters]
          · by_cases effective : key = "effective-projection"
            · simp [effective]
            · by_cases required : key = "required-projection"
              · simp [required]
              · by_cases own : key = "read-restriction"
                · simp [own]
                · simp [filters, effective, required, own]

theorem appendReadRestriction_shape (auditPayload : Json) (receipt : AuthorizationReceipt)
    (restriction : FullReadRestriction) (shape : auditPayload.isObject = true) :
    (appendReadRestriction auditPayload receipt restriction).isObject = true := by
  rw [appendReadRestriction]
  split
  · exact shape
  · rw [appendReadRestrictionRequirements]
    split
    · exact Json.isObject_set _ _ _ shape
    · exact Json.isObject_set _ _ _ (Json.isObject_set _ _ _
        (Json.isObject_set _ _ _ (Json.isObject_set _ _ _ shape)))

/-- What is written into an event, from the last to the first. -/
theorem auditPayload_get (fields : List String) (extensions : Json)
    (entries : List (String × Json)) (receipt : AuthorizationReceipt)
    (restriction : FullReadRestriction) (key : String) :
    (copyFields fields extensions
        (appendReadRestriction (.object entries) receipt restriction)).get key =
      (if key ∈ fields then extensions.get key else none).or
        ((restrictionFields receipt restriction key).or (entries.reverse.lookup key)) := by
  rw [copyFields_get _ _ _ _ (appendReadRestriction_shape _ _ _ rfl),
    appendReadRestriction_get _ _ _ _ rfl, Json.get_object]
  split <;> rfl

end Fields

section Payloads

variable [External]

def tableScanPlannedAuditPayload (ident : TableIdent) (table : TableRecord)
    (capability : TableScanCapability) (scan : ScanPlan) (extensions : Json) : Json :=
  copyFields ["requested-projection", "effective-projection", "requested-stats-fields",
      "effective-stats-fields"] extensions
    (appendReadRestriction (.object [("event-type", .str "table.scan-planned"),
        ("table", ident.toJson), ("authorization-receipt", capability.receipt.toJson),
        ("planned-by", .str sailRestModels), ("snapshot-id", Json.ofOption .int scan.snapshotId),
        ("scan-task-count", .int scan.scanTasks.length),
        ("storage-location", .str table.location),
        ("metadata-location", ofOptionStr table.metadataLocation)])
      capability.receipt capability.restriction)

def tableScanTasksFetchedAuditPayload (ident : TableIdent) (table : TableRecord)
    (capability : TableScanCapability) (fetched : FetchScanTasksPlan) (extensions : Json) : Json :=
  copyFields ["requested-stats-fields", "effective-stats-fields", "stats-fields"] extensions
    (appendReadRestriction (.object [("event-type", .str "table.scan-tasks-fetched"),
        ("table", ident.toJson), ("authorization-receipt", capability.receipt.toJson),
        ("planned-by", .str sailRestModels), ("snapshot-id", .int fetched.snapshotId),
        ("plan-task", .str fetched.planTask),
        ("file-scan-task-count", .int fetched.fileScanTasks.length),
        ("delete-file-count", .int fetched.deleteFiles.length),
        ("child-plan-task-count", .int fetched.planTasks.length),
        ("storage-location", .str table.location),
        ("metadata-location", ofOptionStr table.metadataLocation)])
      capability.receipt capability.restriction)

/-- The payload with the proof of the grant that was issued, if one was. -/
def withGovernedScanProof (auditPayload : Json) (proof : Option GovernedScanProof) : Json :=
  match proof with
  | none => auditPayload
  | some proof => auditPayload.set "governed-scan-proof" proof.toJson

def scanPlannedEvent (table : TableRecord) (capability : TableScanCapability) (scan : ScanPlan)
    (extensions : Json) (proof : Option GovernedScanProof) (now : Timestamp) :
    CatalogAuditEvent :=
  CatalogAuditEvent.new "table.scan-planned" (some capability.table) capability.receipt.principal
    (withGovernedScanProof
      (tableScanPlannedAuditPayload capability.table table capability scan extensions) proof) now

def scanTasksFetchedEvent (table : TableRecord) (capability : TableScanCapability)
    (fetched : FetchScanTasksPlan) (extensions : Json) (now : Timestamp) : CatalogAuditEvent :=
  CatalogAuditEvent.new "table.scan-tasks-fetched" (some capability.table)
    capability.receipt.principal
    (tableScanTasksFetchedAuditPayload capability.table table capability fetched extensions) now

end Payloads

end LakeCat
