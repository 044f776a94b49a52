import LakeCat.PlanTokens
import LakeCat.ScanFiles

/-!
Planning a scan and fetching its tasks. A plan hands out tokens; a fetch checks
a token against the table and the read restriction, and expands it into files
and further tokens.
-/

namespace LakeCat

open Fallible

open SailSpec (PrimitiveLiteral FieldType)

structure ScanPlanningRequest where
  table : TableIdent
  metadataLocation : Option String
  tableMetadata : Json
  projection : List String
  filters : List Json
  limit : Option Nat
  snapshotId : Option Int
  startSnapshotId : Option Int
  endSnapshotId : Option Int

def ScanPlanningRequest.isIncrementalScan (request : ScanPlanningRequest) : Bool :=
  request.startSnapshotId.isSome || request.endSnapshotId.isSome

structure FetchScanTasksRequest where
  table : TableIdent
  metadataLocation : Option String
  tableMetadata : Json
  planTask : String
  requiredProjection : List String
  requiredFilters : List Json

structure SailScanTask where
  taskType : String
  table : String
  snapshotId : Int
  planTask : String
  metadataLocation : Option String
  manifestList : Option String
  manifestPath : Option String
  content : Option String
  sequenceNumber : Option Int
  deriving DecidableEq

structure ScanPlan where
  snapshotId : Option Int
  scanTasks : List SailScanTask

/-- `projection` and `filters` are what the residual filter of the answer carries. -/
structure FetchScanTasksPlan where
  planTask : String
  snapshotId : Int
  fileScanTasks : List FileScanTask
  deleteFiles : List Json
  planTasks : List SailScanTask
  projection : List String
  filters : List Json

def selectedSnapshot {Field : Type} (metadata : TableMetadata Field)
    (requestedSnapshotId : Option Int) : LakeCatResult Snapshot :=
  match requestedSnapshotId with
  | some snapshotId => okOr (metadata.snapshots.find? fun snapshot =>
      snapshot.snapshotId = snapshotId)
      (.invalidArgument s!"Iceberg snapshot {snapshotId} not found")
  | none => okOr metadata.currentSnapshot
      (.invalidArgument "Iceberg table metadata is missing a current snapshot")

def validateProjectionColumns (summary : SailMetadataSummary) (projection : List String) :
    LakeCatResult Unit :=
  if summary.v4ExtensionMode ∨ summary.fields = [] then .ok ()
  else
    let missing := projection.filter fun column =>
      !summary.fields.any fun field => field.name = column
    rejectIf (missing ≠ [])
      (.invalidArgument ("unknown Iceberg projection column(s): " ++ joinText ", " missing))

def combinedScanFilter : List Json → Option Json
  | [] => none
  | first :: rest => some (rest.foldl (fun left right =>
      .object [("type", .str "and"), ("left", left), ("right", right)]) first)

/-- The loop that walks from the end snapshot to its ancestors. The code puts no bound on it,
so it runs on `fuel` here; a run that needs more has not returned. -/
def incrementalSnapshots {Field : Type} (metadata : TableMetadata Field)
    (startSnapshotId endSnapshotId : Int) :
    Nat → Snapshot → List Snapshot → LakeCatResult (List Snapshot)
  | 0, _, _ => .error (.unavailable "the snapshot chain is still being walked")
  | fuel + 1, cursor, snapshots =>
      if cursor.snapshotId = startSnapshotId then .ok snapshots
      else match cursor.parentSnapshotId with
        | none => .error (.invalidArgument
            s!"Iceberg snapshot {startSnapshotId} is not an ancestor of snapshot {endSnapshotId}")
        | some parent => do
            let next ← selectedSnapshot metadata (some parent)
            incrementalSnapshots metadata startSnapshotId endSnapshotId fuel next
              (cursor :: snapshots)

def incrementalSnapshotChain {Field : Type} (fuel : Nat) (metadata : TableMetadata Field)
    (startSnapshotId endSnapshotId : Option Int) : LakeCatResult (List Snapshot) := do
  let startSnapshotId ← okOr startSnapshotId
    (.invalidArgument "Iceberg incremental scan planning requires start-snapshot-id")
  let endSnapshotId ← okOr endSnapshotId
    (.invalidArgument "Iceberg incremental scan planning requires end-snapshot-id")
  if startSnapshotId = endSnapshotId then return []
  else
    let cursor ← selectedSnapshot metadata (some endSnapshotId)
    incrementalSnapshots metadata startSnapshotId endSnapshotId fuel cursor []

section Planning

variable [SailSpec] [SailIo] [PlanCodec]

def manifestListScanTask (kind : String) (snapshot : Snapshot) (request : ScanPlanningRequest)
    (metadataLocation : Option String) : SailScanTask where
  taskType := kind
  table := request.table.stableId
  snapshotId := snapshot.snapshotId
  planTask := opaquePlanTaskWithFilters request.table kind snapshot.snapshotId
    snapshot.manifestList request.projection request.filters
  metadataLocation := metadataLocation
  manifestList := some snapshot.manifestList
  manifestPath := none
  content := none
  sequenceNumber := some snapshot.sequenceNumber

/-- The task of a manifest list, which format 1 may lack. -/
def pushManifestListScanTask (snapshot : Snapshot) (request : ScanPlanningRequest)
    (metadataLocation : Option String) : List SailScanTask :=
  if snapshot.manifestList ≠ "" then
    [manifestListScanTask "manifest-list" snapshot request metadataLocation]
  else []

def pushV1ManifestScanTasks (snapshot : Snapshot) (request : ScanPlanningRequest)
    (metadataLocation : Option String) : List SailScanTask :=
  (snapshot.manifests.getD []).map fun manifestPath =>
    { taskType := "manifest"
      table := request.table.stableId
      snapshotId := snapshot.snapshotId
      planTask := opaquePlanTaskWithFilters request.table "manifest" snapshot.snapshotId
        manifestPath request.projection request.filters
      metadataLocation := metadataLocation
      manifestList := none
      manifestPath := some manifestPath
      content := some "data"
      sequenceNumber := some snapshot.sequenceNumber }

def fullSnapshotManifestPlanTasks (snapshot : Snapshot) (request : ScanPlanningRequest)
    (metadataLocation : Option String) : List SailScanTask :=
  pushManifestListScanTask snapshot request metadataLocation ++
    pushV1ManifestScanTasks snapshot request metadataLocation

def localStoreContext (summary : SailMetadataSummary) :
    LakeCatResult (Option SailIo.StoreContext) :=
  match summary.tableLocation with
  | none => .ok none
  | some location =>
      if !SailIo.isFileUrl location then .ok none
      else match SailIo.newStoreContext location with
        | .ok store => .ok (some store)
        | .error text => .error (.internal ("failed to create Sail store context: " ++ text))

/-- The task of a manifest list, if the snapshot added a manifest to it. -/
def incrementalListTask (store : SailIo.StoreContext) (snapshot : Snapshot)
    (request : ScanPlanningRequest) (metadataLocation : Option String) :
    LakeCatResult (List SailScanTask) :=
  if snapshot.manifestList = "" then .ok []
  else match SailIo.loadManifestList store snapshot.manifestList with
    | .error text => .error (.internal
        ("failed to load Iceberg manifest list for incremental planning: " ++ text))
    | .ok manifests =>
        if manifests.any fun manifest => manifest.addedSnapshotId = snapshot.snapshotId then
          .ok [manifestListScanTask "incremental-manifest-list" snapshot request metadataLocation]
        else .ok []

def incrementalPlanTasksOf (store : SailIo.StoreContext) (request : ScanPlanningRequest)
    (metadataLocation : Option String) : List Snapshot → LakeCatResult (List SailScanTask)
  | [] => .ok []
  | snapshot :: rest => do
      rejectIf (snapshot.operation ≠ "append") (.notSupported
        (s!"Iceberg incremental scan planning only supports append snapshots, but snapshot " ++
          s!"{snapshot.snapshotId} is {snapshot.operation}"))
      let listed ← incrementalListTask store snapshot request metadataLocation
      let others ← incrementalPlanTasksOf store request metadataLocation rest
      return listed ++ pushV1ManifestScanTasks snapshot request metadataLocation ++ others

def incrementalManifestPlanTasks (fuel : Nat) (metadata : TableMetadata FieldType)
    (summary : SailMetadataSummary) (request : ScanPlanningRequest)
    (metadataLocation : Option String) : LakeCatResult (List SailScanTask) := do
  let snapshots ←
    incrementalSnapshotChain fuel metadata request.startSnapshotId request.endSnapshotId
  match ← localStoreContext summary with
  | none => throw (.notSupported ("Iceberg incremental scan planning currently requires " ++
      "local file metadata so Sail can inspect manifest lists"))
  | some store => incrementalPlanTasksOf store request metadataLocation snapshots

def stableManifestPlanTasks (fuel : Nat) (metadata : TableMetadata FieldType)
    (summary : SailMetadataSummary) (request : ScanPlanningRequest)
    (metadataLocation : Option String) : LakeCatResult (List SailScanTask) :=
  if request.isIncrementalScan then
    incrementalManifestPlanTasks fuel metadata summary request metadataLocation
  else do
    let snapshot ← selectedSnapshot metadata request.snapshotId
    return fullSnapshotManifestPlanTasks snapshot request metadataLocation

def v4ExtensionManifestPlanTasks (request : ScanPlanningRequest) (summary : SailMetadataSummary)
    (metadataLocation : Option String) : LakeCatResult (List SailScanTask) := do
  let snapshotId ← okOr (request.snapshotId.or summary.currentSnapshotId)
    (.invalidArgument "Iceberg v4 extension metadata is missing a current snapshot")
  return match summary.manifestList with
    | none => []
    | some manifestList =>
        [{ taskType := "manifest-list"
           table := request.table.stableId
           snapshotId := snapshotId
           planTask := opaquePlanTaskWithFilters request.table "manifest-list" snapshotId
             manifestList request.projection request.filters
           metadataLocation := metadataLocation
           manifestList := some manifestList
           manifestPath := none
           content := none
           sequenceNumber := summary.sequenceNumber }]

def planningPayloadError (text : String) : LakeCatError :=
  .internal ("Sail generated an invalid Iceberg REST planning payload: " ++ text)

/-- The tasks of a plan, by the kind of metadata that the table has. -/
def manifestPlanTasks (fuel : Nat) (typed : Option (TableMetadata FieldType))
    (summary : SailMetadataSummary) (request : ScanPlanningRequest)
    (metadataLocation : Option String) : LakeCatResult (List SailScanTask) :=
  match typed with
  | some metadata => stableManifestPlanTasks fuel metadata summary request metadataLocation
  | none => do
      rejectIf request.isIncrementalScan (.notSupported
        "Iceberg v4 extension incremental scan planning needs typed Sail metadata")
      v4ExtensionManifestPlanTasks request summary metadataLocation

def planScan (fuel : Nat) (request : ScanPlanningRequest) : LakeCatResult ScanPlan := do
  let (summary, typed) ← inspectSailTableMetadataWithTyped request.tableMetadata
  validateProjectionColumns summary request.projection
  validateScanFilters summary request.filters
  let metadataLocation ← okOr request.metadataLocation
    (.notSupported "Sail scan planning needs an Iceberg metadata location")
  let scanTasks ← manifestPlanTasks fuel typed summary request (some metadataLocation)
  let plannedSnapshotId := (scanTasks.head?.map SailScanTask.snapshotId).or
    (request.snapshotId.or summary.currentSnapshotId)
  modelCheck (SailIo.planningResultFromValues (scanTasks.map SailScanTask.planTask))
    planningPayloadError
  let snapshotId ← modelCheck (SailIo.planTableScanRequest (.object
      [("snapshot-id", Json.ofOption .int plannedSnapshotId),
        ("select", if request.projection = [] then .null
          else .arr (request.projection.map .str)),
        ("filter", (combinedScanFilter request.filters).getD .null),
        ("case-sensitive", .bool true)]))
    (fun text => .invalidArgument
      ("invalid Iceberg REST scan-planning request for Sail: " ++ text))
  return ⟨snapshotId, scanTasks⟩

end Planning

section Fetching

variable [SailSpec] [SailIo] [PlanCodec]

def validateDecodedProjection (request : FetchScanTasksRequest) (decoded : DecodedPlanTask) :
    LakeCatResult Unit :=
  if request.requiredProjection = [] then .ok ()
  else do
    rejectIf (decoded.projection = [])
      (.invalidArgument "plan task omits the required governed projection")
    rejectIf (¬decoded.projection.all fun column => request.requiredProjection.contains column)
      (.invalidArgument "plan task projection widens the governed read restriction")

def validateDecodedFilters (request : FetchScanTasksRequest) (decoded : DecodedPlanTask) :
    LakeCatResult Unit :=
  checkEach (fun required => rejectIf (required ∉ decoded.filters)
    (.invalidArgument "plan task omits a required governed filter")) request.requiredFilters

def manifestPathMatchesLocalManifestList (summary : SailMetadataSummary) (snapshot : Snapshot)
    (manifestPath : String) : LakeCatResult Bool :=
  if snapshot.manifestList = "" ∨ !SailIo.localFileUrlExists snapshot.manifestList then .ok false
  else do
    match ← localStoreContext summary with
    | none => return false
    | some store =>
        match SailIo.loadManifestList store snapshot.manifestList with
        | .error text => throw (.internal
            ("failed to validate manifest against Iceberg manifest list: " ++ text))
        | .ok manifests => return manifests.any fun manifest => manifest.manifestPath = manifestPath

def validateDecodedPath (summary : SailMetadataSummary) (snapshot : Snapshot)
    (decoded : DecodedPlanTask) : LakeCatResult Unit :=
  match decoded.kind with
  | "manifest-list" | "incremental-manifest-list" =>
      rejectIf (snapshot.manifestList ≠ decoded.path) (.invalidArgument
        s!"plan task manifest list does not match snapshot {decoded.snapshotId}")
  | "manifest" => do
      let listed ← if decoded.path ∈ snapshot.manifests.getD [] then pure true
        else manifestPathMatchesLocalManifestList summary snapshot decoded.path
      rejectIf (¬listed) (.invalidArgument
        s!"plan task manifest does not match snapshot {decoded.snapshotId}")
  | _ => invalidPlanTask decoded.raw

def validateDecodedPlanTask (request : FetchScanTasksRequest) (summary : SailMetadataSummary)
    (typed : Option (TableMetadata FieldType)) (decoded : DecodedPlanTask) :
    LakeCatResult Unit := do
  rejectIf (decoded.table.any fun table => table ≠ request.table.stableId) (.invalidArgument
    ("plan task table does not match requested table " ++ request.table.stableId))
  validateDecodedProjection request decoded
  validateDecodedFilters request decoded
  match typed with
  | some metadata => do
      let snapshot ← selectedSnapshot metadata (some decoded.snapshotId)
      validateDecodedPath summary snapshot decoded
  | none =>
      rejectIf (¬(summary.currentSnapshotId = some decoded.snapshotId ∧
          decoded.kind = "manifest-list" ∧ summary.manifestList = some decoded.path))
        (.invalidArgument
          ("plan task does not match Iceberg v4 extension metadata: " ++ decoded.raw))

structure FetchExpansion where
  fileScanTasks : List FileScanTask
  deleteFiles : List Json
  planTasks : List SailScanTask

def validateFetchTasksShape (expansion : FetchExpansion) : LakeCatResult Unit := do
  checkEach validateDeleteFileShape expansion.deleteFiles
  modelCheck (SailIo.fetchScanTasksResult (.object
      [("file-scan-tasks", if expansion.fileScanTasks.isEmpty then .null
          else .arr (expansion.fileScanTasks.map FileScanTask.toJson)),
        ("plan-tasks", if expansion.planTasks = [] then .null else .arr [])]))
    (fun text => .internal ("Sail manifest expansion produced an invalid Iceberg " ++
      "fetchScanTasks result: " ++ text))

/-- A child task, with the projection and the filters of the task it comes from. -/
def manifestScanTask (request : FetchScanTasksRequest) (decoded : DecodedPlanTask)
    (manifest : ManifestFile) : SailScanTask where
  taskType := "manifest"
  table := request.table.stableId
  snapshotId := decoded.snapshotId
  planTask := opaquePlanTaskWithFilters request.table "manifest" decoded.snapshotId
    manifest.manifestPath decoded.projection decoded.filters
  metadataLocation := request.metadataLocation
  manifestList := some decoded.path
  manifestPath := some manifest.manifestPath
  content := some (match manifest.content with
    | .data => "data"
    | .deletes => "deletes")
  sequenceNumber := some manifest.sequenceNumber

/-- The manifests that an expansion of the list covers: all, or those the snapshot added. -/
def includedManifests (decoded : DecodedPlanTask) (manifests : List ManifestFile) :
    List ManifestFile :=
  if decoded.kind = "incremental-manifest-list" then
    manifests.filter fun manifest => manifest.addedSnapshotId = decoded.snapshotId
  else manifests

/-- The files of the list itself, which only typed metadata can attach deletes to. -/
def manifestListFiles (store : SailIo.StoreContext) (manifests : List ManifestFile)
    (typed : Option (TableMetadata FieldType)) (filters : List Json) :
    LakeCatResult (List FileScanTask × List Json) :=
  match typed with
  | none => .ok ([], [])
  | some metadata => expandManifestListFilesWithDeleteRefs store manifests metadata filters

def expandManifestListTask (store : SailIo.StoreContext) (decoded : DecodedPlanTask)
    (request : FetchScanTasksRequest) (typed : Option (TableMetadata FieldType)) :
    LakeCatResult FetchExpansion := do
  let manifests ← modelCheck (SailIo.loadManifestList store decoded.path)
    (fun text => .internal ("failed to load Iceberg manifest list: " ++ text))
  let included := includedManifests decoded manifests
  let planTasks := included.map (manifestScanTask request decoded)
  let (tasks, deletes) ← manifestListFiles store included typed decoded.filters
  validateFetchTasksShape ⟨tasks, deletes, planTasks⟩
  return ⟨tasks, deletes, planTasks⟩

def expandManifestTask (store : SailIo.StoreContext) (decoded : DecodedPlanTask) :
    LakeCatResult FetchExpansion := do
  let entries ← modelCheck (SailIo.loadManifest store decoded.path)
    (fun text => .internal ("failed to load Iceberg manifest: " ++ text))
  let (tasks, deletes) ← manifestFileTasks entries
  validateFetchTasksShape ⟨tasks, deletes, []⟩
  return ⟨tasks, deletes, []⟩

def expandFetchPlanTaskWithSailIo (decoded : DecodedPlanTask) (summary : SailMetadataSummary)
    (typed : Option (TableMetadata FieldType)) (request : FetchScanTasksRequest) :
    LakeCatResult (Option FetchExpansion) :=
  if !SailIo.localFileUrlExists decoded.path then .ok none
  else do
    match ← localStoreContext summary with
    | none => return none
    | some store =>
        match decoded.kind with
        | "manifest-list" | "incremental-manifest-list" =>
            return some (← expandManifestListTask store decoded request typed)
        | "manifest" => return some (← expandManifestTask store decoded)
        | _ => return none

/-- The task itself, when its path cannot be read from here. -/
def DecodedPlanTask.toScanTask (decoded : DecodedPlanTask) (table : String)
    (metadataLocation : Option String) (sequenceNumber : Option Int) : SailScanTask where
  taskType := decoded.kind
  table := table
  snapshotId := decoded.snapshotId
  planTask := decoded.raw
  metadataLocation := metadataLocation
  manifestList := if decoded.kind = "manifest-list" ∨ decoded.kind = "incremental-manifest-list"
    then some decoded.path else none
  manifestPath := if decoded.kind = "manifest" then some decoded.path else none
  content := if decoded.kind = "manifest" then some "data" else none
  sequenceNumber := sequenceNumber

def fetchScanTasks (request : FetchScanTasksRequest) : LakeCatResult FetchScanTasksPlan := do
  let (summary, typed) ← inspectSailTableMetadataWithTyped request.tableMetadata
  let decoded ← decodePlanTask request.planTask
  validateDecodedPlanTask request summary typed decoded
  let expanded ← expandFetchPlanTaskWithSailIo decoded summary typed request
  let expansion := expanded.getD ⟨[], [], [decoded.toScanTask request.table.stableId
    request.metadataLocation summary.sequenceNumber]⟩
  modelCheck (SailIo.fetchResultFromValues (expansion.planTasks.map SailScanTask.planTask)
      (expansion.fileScanTasks.map FileScanTask.toJson) expansion.deleteFiles)
    planningPayloadError
  return {
    planTask := request.planTask
    snapshotId := decoded.snapshotId
    fileScanTasks := expansion.fileScanTasks
    deleteFiles := expansion.deleteFiles
    planTasks := expansion.planTasks
    projection := decoded.projection
    filters := decoded.filters
  }

end Fetching

end LakeCat
