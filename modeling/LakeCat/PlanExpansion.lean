import LakeCat.PlanCodecModel
import LakeCat.PruningSound
import LakeCat.TaskFiles
import LakeCat.Worklist

/-!
What the tokens of a full plan come to. They are fetched in any order, each
token that a fetch hands back after them, until none is left; the files that
were delivered are compared with the live data files of the snapshot.
-/

namespace LakeCat

open Fallible Worklist

open SailSpec (PrimitiveLiteral FieldType)

/-- A file as a client gets it, with the delete files that its task refers to. -/
structure Delivery where
  dataFile : Json
  deletes : List Json

def Delivery.path (delivery : Delivery) : Option String :=
  filePathOf delivery.dataFile

/-- The files of a response, whose tasks refer to its delete files by their places. -/
def deliveriesOf (tasks : List FileScanTask) (deleteFiles : List Json) : List Delivery :=
  tasks.map fun task =>
    ⟨task.dataFile, task.deleteFileReferences.filterMap fun index => deleteFiles[index]?⟩

theorem deliveriesOf_path (tasks : List FileScanTask) (deleteFiles : List Json) :
    (deliveriesOf tasks deleteFiles).map Delivery.path = tasks.map FileScanTask.path := by
  simp only [deliveriesOf, List.map_map]
  rfl

theorem deliveriesOf_alone {tasks : List FileScanTask}
    (alone : ∀ task ∈ tasks, task.deleteFileReferences = []) (deleteFiles : List Json) :
    ∀ delivery ∈ deliveriesOf tasks deleteFiles, delivery.deletes = [] := by
  intro delivery member
  obtain ⟨task, listed, rfl⟩ := List.mem_map.mp member
  simp [alone task listed]

/-- The fetch of a token of the plan, whatever the fetch requires of it. -/
def ScanPlanningRequest.fetchRequest (request : ScanPlanningRequest)
    (requiredProjection : List String) (requiredFilters : List Json) (planTask : String) :
    FetchScanTasksRequest where
  table := request.table
  metadataLocation := request.metadataLocation
  tableMetadata := request.tableMetadata
  planTask := planTask
  requiredProjection := requiredProjection
  requiredFilters := requiredFilters

section Trees

variable [SailSpec]

/-- A snapshot as the reader returns it: the manifests of its manifest list and the manifests
that format 1 names in the snapshot itself, each with its entries. -/
structure SnapshotTree where
  listed : List (ManifestFile × List ManifestEntry)
  direct : List (List ManifestEntry)

/-- The live data files of the snapshot, with their sequence numbers. -/
def SnapshotTree.dataFiles (tree : SnapshotTree) : List (SailDataFile × Int) :=
  (tree.listed.flatMap fun manifest => liveFiles manifest.1 manifest.2) ++
    (tree.direct.flatten.filter fun entry => entry.isLive && entry.isData).map fun entry =>
      (entry.dataFile, entry.sequenceNumber.getD 0)

/-- The live delete files of the snapshot. Only typed metadata knows the partition specs that
they are matched by. -/
def SnapshotTree.deleteFiles (tree : SnapshotTree) (typed : Option (TableMetadata FieldType)) :
    List DeleteFileRef :=
  match typed with
  | none => []
  | some metadata =>
      (tree.listed.flatMap fun manifest => match manifest.1.content with
        | .data => []
        | .deletes => (manifest.2.filter ManifestEntry.isLive).map
            (deleteFileRef metadata manifest.1)) ++
      (tree.direct.flatten.filter fun entry => entry.isLive && !entry.isData).map fun entry =>
        { dataFile := entry.dataFile
          dataSequenceNumber := entry.sequenceNumber.getD 0
          partitionSpecId := entry.dataFile.partitionSpecId
          isUnpartitionedSpec := ((metadata.partitionSpecs.find? fun spec =>
            spec.specId = entry.dataFile.partitionSpecId).map
              PartitionSpec.isUnpartitioned).getD false }

/-- The filters say that no row of the file can match. -/
def RuledOut (typed : Option (TableMetadata FieldType)) (filters : List Json)
    (file : SailDataFile) : Prop :=
  ∃ metadata, typed = some metadata ∧ dataFileMayMatchFilters metadata file filters = .ok false

variable [SailIo]

/-- The manifest list and the manifests that a full plan for the request is about. -/
def plannedPaths (summary : SailMetadataSummary) (typed : Option (TableMetadata FieldType))
    (request : ScanPlanningRequest) : LakeCatResult (String × List String) :=
  match typed with
  | some metadata => do
      let snapshot ← selectedSnapshot metadata request.snapshotId
      return (snapshot.manifestList, snapshot.manifests.getD [])
  | none => .ok (summary.manifestList.getD "", [])

/-- The reader returns the tree for these paths. -/
structure SnapshotTree.ReadBy (tree : SnapshotTree) (store : SailIo.StoreContext)
    (manifestList : String) (manifests : List String) : Prop where
  list : if manifestList = "" then tree.listed = []
    else SailIo.loadManifestList store manifestList = .ok (tree.listed.map Prod.fst)
  listed : ∀ manifest ∈ tree.listed,
    SailIo.loadManifest store manifest.1.manifestPath = .ok manifest.2
  direct : List.Forall₂ (fun path entries => SailIo.loadManifest store path = .ok entries)
    manifests tree.direct

/-- The files that were delivered are the live data files that the filters do not rule out,
each once, and each with the delete files that apply to it. -/
structure Faithful (typed : Option (TableMetadata FieldType)) (filters : List Json)
    (tree : SnapshotTree) (delivered : List Delivery) : Prop where
  once : (delivered.map Delivery.path).Nodup
  complete : ∀ file ∈ tree.dataFiles, ¬RuledOut typed filters file.1 →
    some file.1.filePath ∈ delivered.map Delivery.path
  sound : ∀ delivery ∈ delivered, ∃ file ∈ tree.dataFiles,
    delivery.path = some file.1.filePath ∧ ¬RuledOut typed filters file.1
  deletes : ∀ delivery ∈ delivered, ∀ file ∈ tree.dataFiles,
    delivery.path = some file.1.filePath → ∀ deleteFile ∈ tree.deleteFiles typed,
      SailIo.deleteApplies deleteFile file.1 file.2 = true →
        ∃ value ∈ delivery.deletes, restDeleteFileValue deleteFile.dataFile = .ok value

/-- No manifest of the manifest list has a data entry, and the data entries of the manifests in
the snapshot itself are live, not ruled out, of different files, and without delete files. -/
structure OnlyDirect (typed : Option (TableMetadata FieldType)) (filters : List Json)
    (tree : SnapshotTree) : Prop where
  listed : ∀ manifest ∈ tree.listed, ∀ entry ∈ manifest.2, entry.isData = false
  live : ∀ entry ∈ tree.direct.flatten, entry.isData = true →
    entry.isLive = true ∧ ¬RuledOut typed filters entry.dataFile
  distinct : ((tree.direct.flatten.filter ManifestEntry.isData).map
    fun entry => entry.dataFile.filePath).Nodup
  undeleted : ∀ file ∈ tree.dataFiles, ∀ deleteFile ∈ tree.deleteFiles typed,
    SailIo.deleteApplies deleteFile file.1 file.2 = false

end Trees

section Fetching

variable [SailSpec] [SailIo] [PlanCodec]

/-- A fetch of a token yields these files and leaves these tokens. -/
def FetchYields (fetchRequest : String → FetchScanTasksRequest) (planTask : String)
    (children : List String) (own : List Delivery) : Prop :=
  ∃ answer, fetchScanTasks (fetchRequest planTask) = .ok answer ∧
    children = answer.planTasks.map SailScanTask.planTask ∧
      own = deliveriesOf answer.fileScanTasks answer.deleteFiles

variable {request : ScanPlanningRequest} {requiredProjection : List String}
  {requiredFilters : List Json} {summary : SailMetadataSummary}
  {typed : Option (TableMetadata FieldType)} {store : SailIo.StoreContext}

/-- A token that is done has been expanded. -/
theorem token_drained (codec : PlanCodec.Documented)
    (inspected : inspectSailTableMetadataWithTyped request.tableMetadata = .ok (summary, typed))
    {task : EncodedPlanTask} (known : isPlanTaskKind task.kind = true)
    {delivered : List Delivery}
    (drained : Drains (FetchYields (request.fetchRequest requiredProjection requiredFilters))
      [signedToken task] delivered) :
    ∃ expansion later,
      let token := signedToken task
      let fetch := request.fetchRequest requiredProjection requiredFilters token
      let decoded := task.decoded token
      validateDecodedPlanTask fetch summary typed decoded = .ok () ∧
      expandFetchPlanTaskWithSailIo decoded summary typed fetch = .ok (some expansion) ∧
      Drains (FetchYields (request.fetchRequest requiredProjection requiredFilters))
        (expansion.planTasks.map SailScanTask.planTask) later ∧
      delivered = deliveriesOf expansion.fileScanTasks expansion.deleteFiles ++ later := by
  obtain ⟨children, own, later, ⟨answer, fetched, rfl, rfl⟩, rest, rfl⟩ := drained.single
  obtain ⟨_, _, decoded, expanded, again, read, valid, made, rfl⟩ :=
    fetchScanTasks_expanded fetched
  obtain ⟨rfl, rfl⟩ := Prod.mk.inj (Except.ok.inj (inspected.symm.trans again))
  obtain rfl := Except.ok.inj ((decodePlanTask_signedToken codec task known).symm.trans read)
  cases expanded with
  | some expansion => exact ⟨expansion, later, valid, made, rest, rfl⟩
  | none =>
      refine absurd drained (Drains.not_of_echo fun children own => ?_)
      rintro ⟨answer, again, rfl, -⟩
      obtain rfl := Except.ok.inj (fetched.symm.trans again)
      rfl

variable (request requiredProjection requiredFilters) in
/-- The plan has come to an end. -/
abbrev Delivers (tokens : List String) (delivered : List Delivery) : Prop :=
  Drains (FetchYields (request.fetchRequest requiredProjection requiredFilters)) tokens delivered

/-- The paths of the data entries of a manifest. -/
def dataPaths (entries : List ManifestEntry) : List (Option String) :=
  (entries.filter ManifestEntry.isData).map fun entry => some entry.dataFile.filePath

omit [SailIo] [PlanCodec] in
theorem dataPaths_append (first second : List ManifestEntry) :
    dataPaths (first ++ second) = dataPaths first ++ dataPaths second := by
  simp [dataPaths]

theorem expanded_list {fetch : FetchScanTasksRequest} {decoded : DecodedPlanTask}
    {expansion : FetchExpansion} (opened : localStoreContext summary = .ok (some store))
    (kind : decoded.kind = "manifest-list")
    (expanded : expandFetchPlanTaskWithSailIo decoded summary typed fetch =
      .ok (some expansion)) :
    ∃ manifests tasks deletes, SailIo.loadManifestList store decoded.path = .ok manifests ∧
      manifestListFiles store manifests typed decoded.filters = .ok (tasks, deletes) ∧
      expansion = ⟨tasks, deletes, manifests.map (manifestScanTask fetch decoded)⟩ := by
  unfold expandFetchPlanTaskWithSailIo at expanded
  split at expanded
  next => cases expanded
  next =>
    simp only [opened, ok_bind, kind, bind_eq_ok, pure_eq, Except.ok.injEq,
      Option.some.injEq] at expanded
    obtain ⟨_, made, rfl⟩ := expanded
    simp only [expandManifestListTask, bind_eq_ok, exists_unit, modelCheck_eq_ok, pure_eq,
      Except.ok.injEq, Prod.exists, includedManifests, kind] at made
    obtain ⟨manifests, loaded, tasks, deletes, listed, -, rfl⟩ := made
    exact ⟨manifests, tasks, deletes, loaded, listed, rfl⟩

theorem expanded_manifest {fetch : FetchScanTasksRequest} {decoded : DecodedPlanTask}
    {expansion : FetchExpansion} (opened : localStoreContext summary = .ok (some store))
    (kind : decoded.kind = "manifest")
    (expanded : expandFetchPlanTaskWithSailIo decoded summary typed fetch =
      .ok (some expansion)) :
    ∃ entries tasks deletes, SailIo.loadManifest store decoded.path = .ok entries ∧
      manifestFileTasks entries = .ok (tasks, deletes) ∧ expansion = ⟨tasks, deletes, []⟩ := by
  unfold expandFetchPlanTaskWithSailIo at expanded
  split at expanded
  next => cases expanded
  next =>
    simp only [opened, ok_bind, kind, bind_eq_ok, pure_eq, Except.ok.injEq,
      Option.some.injEq] at expanded
    obtain ⟨_, made, rfl⟩ := expanded
    simp only [expandManifestTask, bind_eq_ok, exists_unit, modelCheck_eq_ok, pure_eq,
      Except.ok.injEq, Prod.exists] at made
    obtain ⟨entries, loaded, tasks, deletes, listed, -, rfl⟩ := made
    exact ⟨entries, tasks, deletes, loaded, listed, rfl⟩

/-- A manifest is delivered whole, without delete files. -/
theorem manifest_delivered (codec : PlanCodec.Documented)
    (inspected : inspectSailTableMetadataWithTyped request.tableMetadata = .ok (summary, typed))
    (opened : localStoreContext summary = .ok (some store)) {snapshotId : Int} {path : String}
    {projection : List String} {filters : List Json} {entries : List ManifestEntry}
    (loaded : SailIo.loadManifest store path = .ok entries) {delivered : List Delivery}
    (drained : Delivers request requiredProjection requiredFilters
      [opaquePlanTaskWithFilters request.table "manifest" snapshotId path projection filters]
      delivered) :
    delivered.map Delivery.path = dataPaths entries ∧
      ∀ delivery ∈ delivered, delivery.deletes = [] := by
  obtain ⟨expansion, later, -, expanded, rest, rfl⟩ := token_drained codec inspected rfl drained
  obtain ⟨found, tasks, deletes, again, made, rfl⟩ := expanded_manifest opened rfl expanded
  obtain rfl := Except.ok.inj (loaded.symm.trans again)
  obtain rfl := rest.nil
  obtain ⟨paths, alone⟩ := manifestFileTasks_files made
  rw [List.append_nil]
  exact ⟨(deliveriesOf_path tasks deletes).trans paths, deliveriesOf_alone alone deletes⟩

theorem manifests_delivered (codec : PlanCodec.Documented)
    (inspected : inspectSailTableMetadataWithTyped request.tableMetadata = .ok (summary, typed))
    (opened : localStoreContext summary = .ok (some store)) {snapshotId : Int}
    {projection : List String} {filters : List Json} {paths : List String}
    {contents : List (List ManifestEntry)}
    (loads : List.Forall₂ (fun path entries => SailIo.loadManifest store path = .ok entries)
      paths contents) {delivered : List Delivery}
    (drained : Delivers request requiredProjection requiredFilters
      (paths.map fun path =>
        opaquePlanTaskWithFilters request.table "manifest" snapshotId path projection filters)
      delivered) :
    (delivered.map Delivery.path).Perm (dataPaths contents.flatten) ∧
      ∀ delivery ∈ delivered, delivery.deletes = [] := by
  induction loads generalizing delivered with
  | nil =>
      obtain rfl := drained.nil
      exact ⟨.refl _, by simp⟩
  | cons loaded rest ih =>
      obtain ⟨first, others, ofFirst, ofRest, same⟩ := drained.split [_] _ rfl
      obtain ⟨paths, alone⟩ := manifest_delivered codec inspected opened loaded ofFirst
      obtain ⟨laterPaths, laterAlone⟩ := ih ofRest
      constructor
      · rw [List.flatten_cons, dataPaths_append, ← paths]
        calc (delivered.map Delivery.path).Perm ((first ++ others).map Delivery.path) :=
              same.map _
          _ = first.map Delivery.path ++ others.map Delivery.path := List.map_append
          List.Perm _ _ := laterPaths.append_left _
      · intro delivery member
        rcases List.mem_append.mp (same.mem_iff.mp member) with earlier | later
        · exact alone delivery earlier
        · exact laterAlone delivery later

/-- A manifest list is delivered twice over: its live data files that may match, and every data
entry of its manifests. -/
theorem list_delivered (codec : PlanCodec.Documented)
    (inspected : inspectSailTableMetadataWithTyped request.tableMetadata = .ok (summary, typed))
    (opened : localStoreContext summary = .ok (some store)) {snapshotId : Int} {path : String}
    {projection : List String} {filters : List Json}
    {listed : List (ManifestFile × List ManifestEntry)}
    (list : SailIo.loadManifestList store path = .ok (listed.map Prod.fst))
    (loads : ∀ manifest ∈ listed,
      SailIo.loadManifest store manifest.1.manifestPath = .ok manifest.2)
    {delivered : List Delivery}
    (drained : Delivers request requiredProjection requiredFilters
      [opaquePlanTaskWithFilters request.table "manifest-list" snapshotId path projection filters]
      delivered) :
    ∃ tasks deletes children,
      manifestListFiles store (listed.map Prod.fst) typed filters = .ok (tasks, deletes) ∧
      Delivers request requiredProjection requiredFilters
        ((listed.map fun manifest => manifest.1.manifestPath).map fun path =>
          opaquePlanTaskWithFilters request.table "manifest" snapshotId path projection filters)
        children ∧
      (children.map Delivery.path).Perm (dataPaths (listed.map Prod.snd).flatten) ∧
      (∀ delivery ∈ children, delivery.deletes = []) ∧
      delivered = deliveriesOf tasks deletes ++ children := by
  obtain ⟨expansion, later, -, expanded, rest, rfl⟩ := token_drained codec inspected rfl drained
  obtain ⟨found, tasks, deletes, again, made, rfl⟩ := expanded_list opened rfl expanded
  obtain rfl := Except.ok.inj (list.symm.trans again)
  have contents : List.Forall₂ (fun path entries => SailIo.loadManifest store path = .ok entries)
      (listed.map fun manifest => manifest.1.manifestPath) (listed.map Prod.snd) := by
    rw [List.forall₂_map_left_iff, List.forall₂_map_right_iff, List.forall₂_same]
    exact loads
  have children : Delivers request requiredProjection requiredFilters
      ((listed.map fun manifest => manifest.1.manifestPath).map fun path =>
        opaquePlanTaskWithFilters request.table "manifest" snapshotId path projection filters)
      later := by
    rw [List.map_map]
    rw [List.map_map, List.map_map] at rest
    exact rest
  obtain ⟨paths, alone⟩ := manifests_delivered codec inspected opened contents children
  exact ⟨tasks, deletes, later, made, children, paths, alone, rfl⟩

/-- Without a typed model no manifest of a list can be fetched. -/
theorem untyped_manifest_refused (codec : PlanCodec.Documented)
    (inspected : inspectSailTableMetadataWithTyped request.tableMetadata = .ok (summary, none))
    {snapshotId : Int} {path : String} {projection : List String} {filters : List Json}
    {delivered : List Delivery} :
    ¬Delivers request requiredProjection requiredFilters
      [opaquePlanTaskWithFilters request.table "manifest" snapshotId path projection filters]
      delivered := by
  intro drained
  obtain ⟨expansion, later, valid, -⟩ := token_drained codec inspected rfl drained
  simp only [validateDecodedPlanTask, bind_unit_eq_ok, rejectIf_ok, not_not] at valid
  obtain ⟨-, -, -, -, kind, -⟩ := valid
  change "manifest" = "manifest-list" at kind
  exact absurd kind (by decide)

end Fetching

section Plans

variable [SailSpec] [SailIo] [PlanCodec]

variable {fuel : Nat} {request : ScanPlanningRequest} {plan : ScanPlan}
  {requiredProjection : List String} {requiredFilters : List Json} {summary : SailMetadataSummary}
  {typed : Option (TableMetadata FieldType)} {store : SailIo.StoreContext}
  {manifestList : String} {manifests : List String} {tree : SnapshotTree}
  {delivered : List Delivery}

/-- The tokens of a full plan over typed metadata. -/
theorem fullPlan_tokens {metadata : TableMetadata FieldType}
    (full : request.isIncrementalScan = false)
    (planned : planScan fuel request = .ok plan)
    (inspected : inspectSailTableMetadataWithTyped request.tableMetadata =
      .ok (summary, some metadata))
    (paths : plannedPaths summary (some metadata) request = .ok (manifestList, manifests)) :
    ∃ snapshotId, plan.scanTasks.map SailScanTask.planTask =
      (if manifestList = "" then [] else [opaquePlanTaskWithFilters request.table "manifest-list"
        snapshotId manifestList request.projection request.filters]) ++
      manifests.map fun path => opaquePlanTaskWithFilters request.table "manifest" snapshotId path
        request.projection request.filters := by
  obtain ⟨_, _, location, again, made⟩ := planScan_ok planned
  obtain ⟨rfl, rfl⟩ := Prod.mk.inj (Except.ok.inj (inspected.symm.trans again))
  simp only [plannedPaths, bind_eq_ok, pure_eq, Except.ok.injEq, Prod.mk.injEq] at paths
  obtain ⟨snapshot, selected, rfl, rfl⟩ := paths
  simp only [manifestPlanTasks, stableManifestPlanTasks, full, Bool.false_eq_true, if_false,
    selected, ok_bind, pure_eq, Except.ok.injEq] at made
  refine ⟨snapshot.snapshotId, ?_⟩
  rw [← made, fullSnapshotManifestPlanTasks, List.map_append, pushManifestListScanTask,
    pushV1ManifestScanTasks, List.map_map]
  by_cases empty : snapshot.manifestList = "" <;>
    simp [empty, manifestListScanTask, Function.comp_def]

/-- What a full plan over typed metadata delivers: the files of the manifest list, and next to
them every data entry of every manifest. -/
theorem fullPlan_delivered (codec : PlanCodec.Documented) {metadata : TableMetadata FieldType}
    (full : request.isIncrementalScan = false)
    (planned : planScan fuel request = .ok plan)
    (inspected : inspectSailTableMetadataWithTyped request.tableMetadata =
      .ok (summary, some metadata))
    (opened : localStoreContext summary = .ok (some store))
    (paths : plannedPaths summary (some metadata) request = .ok (manifestList, manifests))
    (read : tree.ReadBy store manifestList manifests)
    (drained : Delivers request requiredProjection requiredFilters
      (plan.scanTasks.map SailScanTask.planTask) delivered) :
    ∃ tasks deletes rest,
      expandManifestListFilesWithDeleteRefs store (tree.listed.map Prod.fst) metadata
        request.filters = .ok (tasks, deletes) ∧
      (rest.map Delivery.path).Perm
        (dataPaths ((tree.listed.map Prod.snd).flatten ++ tree.direct.flatten)) ∧
      (∀ delivery ∈ rest, delivery.deletes = []) ∧
      delivered.Perm (deliveriesOf tasks deletes ++ rest) := by
  obtain ⟨snapshotId, tokens⟩ := fullPlan_tokens full planned inspected paths
  obtain ⟨first, second, ofList, ofManifests, same⟩ := drained.split _ _ tokens
  obtain ⟨directPaths, directAlone⟩ :=
    manifests_delivered codec inspected opened read.direct ofManifests
  have list := read.list
  by_cases empty : manifestList = ""
  · rw [if_pos empty] at list ofList
    obtain rfl := ofList.nil
    rw [list]
    exact ⟨[], [], second, rfl, by simpa using directPaths, directAlone, same⟩
  · rw [if_neg empty] at list ofList
    obtain ⟨tasks, deletes, children, files, -, listedPaths, listedAlone, rfl⟩ :=
      list_delivered codec inspected opened list read.listed ofList
    refine ⟨tasks, deletes, children ++ second, files, ?_, ?_, by simpa using same⟩
    · rw [dataPaths_append, List.map_append]
      exact listedPaths.append directPaths
    · intro delivery member
      exact (List.mem_append.mp member).elim (listedAlone delivery) (directAlone delivery)

end Plans

section Faithfulness

variable [SailSpec]

theorem mem_dataPaths {entries : List ManifestEntry} {entry : ManifestEntry}
    (member : entry ∈ entries) (data : entry.isData = true) :
    some entry.dataFile.filePath ∈ dataPaths entries :=
  List.mem_map.mpr ⟨entry, List.mem_filter.mpr ⟨member, data⟩, rfl⟩

theorem liveFiles_none {listed : List (ManifestFile × List ManifestEntry)}
    (none_data : ∀ manifest ∈ listed, ∀ entry ∈ manifest.2, entry.isData = false) :
    (listed.flatMap fun manifest => liveFiles manifest.1 manifest.2) = [] := by
  rw [List.flatMap_eq_nil_iff]
  intro manifest member
  unfold liveFiles
  split
  next => rfl
  next =>
    rw [List.map_eq_nil_iff, List.filter_eq_nil_iff]
    intro entry held
    simp [none_data manifest member entry held]

theorem mem_directFiles {tree : SnapshotTree} {file : SailDataFile × Int}
    (member : file ∈ (tree.direct.flatten.filter fun entry => entry.isLive && entry.isData).map
      fun entry => (entry.dataFile, entry.sequenceNumber.getD 0)) :
    ∃ entry ∈ tree.direct.flatten, entry.isLive = true ∧ entry.isData = true ∧
      file.1 = entry.dataFile := by
  obtain ⟨entry, held, rfl⟩ := List.mem_map.mp member
  simp only [List.mem_filter, Bool.and_eq_true] at held
  exact ⟨entry, held.1, held.2.1, held.2.2, rfl⟩

variable [SailIo]

variable {metadata : TableMetadata FieldType} {filters : List Json} {store : SailIo.StoreContext}
  {tree : SnapshotTree} {tasks : List FileScanTask} {deletes : List Json}
  {delivered rest : List Delivery}

omit [SailIo] in
/-- The paths that are delivered, by where they come from. -/
theorem delivered_paths (same : delivered.Perm (deliveriesOf tasks deletes ++ rest))
    (paths : (rest.map Delivery.path).Perm
      (dataPaths ((tree.listed.map Prod.snd).flatten ++ tree.direct.flatten))) :
    (delivered.map Delivery.path).Perm (tasks.map FileScanTask.path ++
      (dataPaths (tree.listed.map Prod.snd).flatten ++ dataPaths tree.direct.flatten)) := by
  rw [← dataPaths_append, ← deliveriesOf_path tasks deletes]
  refine (same.map Delivery.path).trans ?_
  rw [List.map_append]
  exact paths.append_left _

theorem onlyDirect_of_faithful
    (loads : ∀ manifest ∈ tree.listed,
      SailIo.loadManifest store manifest.1.manifestPath = .ok manifest.2)
    (files : expandManifestListFilesWithDeleteRefs store (tree.listed.map Prod.fst) metadata
      filters = .ok (tasks, deletes))
    (paths : (rest.map Delivery.path).Perm
      (dataPaths ((tree.listed.map Prod.snd).flatten ++ tree.direct.flatten)))
    (alone : ∀ delivery ∈ rest, delivery.deletes = [])
    (same : delivered.Perm (deliveriesOf tasks deletes ++ rest))
    (faithful : Faithful (some metadata) filters tree delivered) :
    OnlyDirect (some metadata) filters tree := by
  have whole := delivered_paths same paths
  obtain ⟨-, others, apart⟩ := List.nodup_append.mp (whole.nodup_iff.mp faithful.once)
  obtain ⟨-, directOnce, listedApart⟩ := List.nodup_append.mp others
  -- Every data entry of a manifest is delivered, so it is the path of a live data file.
  have file_of (path : Option String)
      (entry : path ∈ dataPaths (tree.listed.map Prod.snd).flatten ∨
        path ∈ dataPaths tree.direct.flatten) :
      ∃ file ∈ tree.dataFiles, path = some file.1.filePath ∧
        ¬RuledOut (some metadata) filters file.1 := by
    have found : path ∈ delivered.map Delivery.path :=
      whole.mem_iff.mpr (List.mem_append_right _ (List.mem_append.mpr entry))
    obtain ⟨delivery, member, rfl⟩ := List.mem_map.mp found
    exact faithful.sound delivery member
  -- A live data file of the list is delivered by the list as well.
  have not_listed (file : SailDataFile × Int)
      (member : file ∈ tree.listed.flatMap fun manifest => liveFiles manifest.1 manifest.2)
      (kept : ¬RuledOut (some metadata) filters file.1)
      (entry : some file.1.filePath ∈ dataPaths (tree.listed.map Prod.snd).flatten ∨
        some file.1.filePath ∈ dataPaths tree.direct.flatten) : False := by
    have task := listFiles_delivered tree.listed loads files member
      fun out => kept ⟨metadata, rfl, out⟩
    exact apart _ task _ (List.mem_append.mpr entry) rfl
  have listed : ∀ manifest ∈ tree.listed, ∀ entry ∈ manifest.2, entry.isData = false := by
    intro manifest member entry held
    by_contra data
    rw [Bool.not_eq_false] at data
    have listedPath : some entry.dataFile.filePath ∈
        dataPaths (tree.listed.map Prod.snd).flatten :=
      mem_dataPaths (List.mem_flatten.mpr ⟨_, List.mem_map_of_mem member, held⟩) data
    obtain ⟨file, live, same_path, kept⟩ := file_of _ (.inl listedPath)
    rcases List.mem_append.mp live with fromList | fromDirect
    · exact not_listed file fromList kept (.inl (same_path ▸ listedPath))
    · obtain ⟨other, inside, -, otherData, file_eq⟩ := mem_directFiles fromDirect
      rw [file_eq] at same_path
      exact listedApart _ listedPath _ (mem_dataPaths inside otherData) same_path
  have live : ∀ entry ∈ tree.direct.flatten, entry.isData = true →
      entry.isLive = true ∧ ¬RuledOut (some metadata) filters entry.dataFile := by
    intro entry held data
    have directPath := mem_dataPaths held data
    obtain ⟨file, member, same_path, kept⟩ := file_of _ (.inr directPath)
    rcases List.mem_append.mp member with fromList | fromDirect
    · exact (not_listed file fromList kept (.inr (same_path ▸ directPath))).elim
    · obtain ⟨other, inside, isLive, otherData, file_eq⟩ := mem_directFiles fromDirect
      rw [file_eq] at same_path kept
      have one := List.inj_on_of_nodup_map directOnce
        (List.mem_filter.mpr ⟨held, data⟩) (List.mem_filter.mpr ⟨inside, otherData⟩) same_path
      subst one
      exact ⟨isLive, kept⟩
  refine ⟨listed, live, ?_, fun file member deleteFile held => ?_⟩
  · have once : (dataPaths tree.direct.flatten).Nodup := directOnce
    rw [dataPaths, show (fun entry : ManifestEntry => some entry.dataFile.filePath) =
      some ∘ fun entry => entry.dataFile.filePath from rfl, ← List.map_map] at once
    exact once.of_map
  · by_contra applies
    rw [Bool.not_eq_false] at applies
    have none_listed := liveFiles_none listed
    have fromDirect := (List.mem_append.mp member).resolve_left (by simp [none_listed])
    obtain ⟨entry, inside, -, data, file_eq⟩ := mem_directFiles fromDirect
    have kept : ¬RuledOut (some metadata) filters file.1 := file_eq ▸ (live entry inside data).2
    obtain ⟨delivery, given, path_eq⟩ := List.mem_map.mp (faithful.complete file member kept)
    obtain ⟨value, carried, -⟩ := faithful.deletes delivery given file member path_eq deleteFile
      held applies
    obtain rfl := listFiles_none tree.listed loads files none_listed
    rw [alone delivery (by simpa [deliveriesOf] using same.mem_iff.mp given)] at carried
    cases carried

theorem faithful_of_onlyDirect
    (loads : ∀ manifest ∈ tree.listed,
      SailIo.loadManifest store manifest.1.manifestPath = .ok manifest.2)
    (files : expandManifestListFilesWithDeleteRefs store (tree.listed.map Prod.fst) metadata
      filters = .ok (tasks, deletes))
    (paths : (rest.map Delivery.path).Perm
      (dataPaths ((tree.listed.map Prod.snd).flatten ++ tree.direct.flatten)))
    (same : delivered.Perm (deliveriesOf tasks deletes ++ rest))
    (only : OnlyDirect (some metadata) filters tree) :
    Faithful (some metadata) filters tree delivered := by
  have none_listed := liveFiles_none only.listed
  have none_data : dataPaths (tree.listed.map Prod.snd).flatten = [] := by
    rw [dataPaths, List.map_eq_nil_iff, List.filter_eq_nil_iff]
    intro entry held
    obtain ⟨entries, listed, inside⟩ := List.mem_flatten.mp held
    obtain ⟨manifest, member, rfl⟩ := List.mem_map.mp listed
    simp [only.listed manifest member entry inside]
  obtain rfl := listFiles_none tree.listed loads files none_listed
  have whole := delivered_paths same paths
  rw [none_data] at whole
  simp only [List.map_nil, List.nil_append] at whole
  refine ⟨whole.nodup_iff.mpr ?_, fun file member kept => whole.mem_iff.mpr ?_,
    fun delivery given => ?_, fun delivery given file member path_eq deleteFile held applies => ?_⟩
  · have once := only.distinct.map (Option.some_injective String)
    rwa [List.map_map] at once
  · have fromDirect := (List.mem_append.mp member).resolve_left (by simp [none_listed])
    obtain ⟨entry, inside, -, data, file_eq⟩ := mem_directFiles fromDirect
    rw [file_eq]
    exact mem_dataPaths inside data
  · obtain ⟨entry, held, path_eq⟩ :=
      List.mem_map.mp (whole.mem_iff.mp (List.mem_map_of_mem given))
    obtain ⟨inside, data⟩ := List.mem_filter.mp held
    obtain ⟨isLive, kept⟩ := only.live entry inside data
    refine ⟨(entry.dataFile, entry.sequenceNumber.getD 0), List.mem_append_right _ ?_,
      path_eq.symm, kept⟩
    exact List.mem_map.mpr ⟨entry, List.mem_filter.mpr ⟨inside, by simp [isLive, data]⟩, rfl⟩
  · exact absurd applies (by simp [only.undeleted file member deleteFile held])

end Faithfulness

section Law

variable [SailSpec] [SailIo] [PlanCodec]

/-- Without a typed model a plan that comes to an end is about no manifest at all. -/
theorem untyped_delivered (codec : PlanCodec.Documented) (io : SailIo.Documented) {fuel : Nat}
    {request : ScanPlanningRequest} {plan : ScanPlan} {requiredProjection : List String}
    {requiredFilters : List Json} {summary : SailMetadataSummary} {store : SailIo.StoreContext}
    {manifestList : String} {manifests : List String} {tree : SnapshotTree}
    {delivered : List Delivery} (planned : planScan fuel request = .ok plan)
    (inspected : inspectSailTableMetadataWithTyped request.tableMetadata = .ok (summary, none))
    (opened : localStoreContext summary = .ok (some store))
    (paths : plannedPaths summary none request = .ok (manifestList, manifests))
    (read : tree.ReadBy store manifestList manifests)
    (drained : Delivers request requiredProjection requiredFilters
      (plan.scanTasks.map SailScanTask.planTask) delivered) :
    delivered = [] ∧ tree.listed = [] ∧ tree.direct = [] := by
  obtain ⟨_, _, location, again, made⟩ := planScan_ok planned
  obtain ⟨rfl, rfl⟩ := Prod.mk.inj (Except.ok.inj (inspected.symm.trans again))
  obtain ⟨rfl, rfl⟩ := Prod.mk.inj (Except.ok.inj paths)
  have direct : tree.direct = [] := List.forall₂_nil_left_iff.mp read.direct
  have list := read.list
  rcases untypedTasks_planned made with ⟨absent, empty⟩ |
      ⟨path, snapshotId, task, listed, -, single, token⟩
  · rw [empty] at drained
    rw [absent] at list
    exact ⟨drained.nil, by simpa using list, direct⟩
  · rw [listed, Option.getD_some] at list
    rw [single, List.map_singleton, token] at drained
    by_cases empty : path = ""
    · rw [if_pos empty] at list
      refine ⟨?_, list, direct⟩
      obtain ⟨expansion, later, -, expanded, -⟩ := token_drained codec inspected rfl drained
      have unread : SailIo.localFileUrlExists path = false := by rw [empty, io.emptyPath]
      simp [expandFetchPlanTaskWithSailIo, EncodedPlanTask.decoded, encodedPlanTask, unread]
        at expanded
    · rw [if_neg empty] at list
      obtain ⟨tasks, deletes, children, files, ofChildren, -, -, rfl⟩ :=
        list_delivered codec inspected opened list read.listed drained
      obtain ⟨rfl, rfl⟩ := Prod.mk.inj (Except.ok.inj files)
      cases present : tree.listed with
      | nil =>
          rw [present] at ofChildren
          exact ⟨ofChildren.nil, rfl, direct⟩
      | cons manifest rest =>
          rw [present] at ofChildren
          obtain ⟨first, others, ofFirst, -⟩ := ofChildren.split [_] _ rfl
          exact (untyped_manifest_refused codec inspected ofFirst).elim

/-- What a full plan delivers is the live data of the snapshot exactly when there is no data
behind its manifest list. -/
theorem planExpansion_faithful_iff (codec : PlanCodec.Documented) (io : SailIo.Documented)
    (fuel : Nat) (request : ScanPlanningRequest) (plan : ScanPlan)
    (requiredProjection : List String) (requiredFilters : List Json)
    (summary : SailMetadataSummary) (typed : Option (TableMetadata FieldType))
    (store : SailIo.StoreContext) (manifestList : String) (manifests : List String)
    (tree : SnapshotTree) (delivered : List Delivery)
    (full : request.isIncrementalScan = false)
    (planned : planScan fuel request = .ok plan)
    (inspected : inspectSailTableMetadataWithTyped request.tableMetadata = .ok (summary, typed))
    (opened : localStoreContext summary = .ok (some store))
    (paths : plannedPaths summary typed request = .ok (manifestList, manifests))
    (read : tree.ReadBy store manifestList manifests)
    (drained : Delivers request requiredProjection requiredFilters
      (plan.scanTasks.map SailScanTask.planTask) delivered) :
    Faithful typed request.filters tree delivered ↔ OnlyDirect typed request.filters tree := by
  cases typed with
  | some metadata =>
      obtain ⟨tasks, deletes, rest, files, restPaths, alone, same⟩ :=
        fullPlan_delivered codec full planned inspected opened paths read drained
      exact ⟨onlyDirect_of_faithful read.listed files restPaths alone same,
        faithful_of_onlyDirect read.listed files restPaths same⟩
  | none =>
      obtain ⟨rfl, listed, direct⟩ :=
        untyped_delivered codec io planned inspected opened paths read drained
      have no_files : tree.dataFiles = [] := by simp [SnapshotTree.dataFiles, listed, direct]
      constructor
      · intro _
        exact ⟨by simp [listed], by simp [direct], by simp [direct], by simp [no_files]⟩
      · intro _
        exact ⟨by simp, by simp [no_files], by simp, by simp⟩

end Law

section Sample

/-- Every table is read as one with this snapshot. -/
@[reducible] def localSail (snapshot : Snapshot) : SailSpec :=
  { sampleSail with
    deserializeMetadata := fun _ => .ok
      ⟨"file:///tables/events", some [⟨1, "id", ()⟩], some snapshot, [snapshot], [⟨0, true⟩]⟩ }

/-- The files of one data manifest, named by the snapshot or by its manifest list. -/
def localManifest : String := "file:///tables/events/metadata/m-1.avro"

def localManifestList : String := "file:///tables/events/metadata/snap-1.avro"

def listSnapshot : Snapshot := ⟨1, none, 1, localManifestList, none, "append"⟩

def directSnapshot : Snapshot := ⟨1, none, 1, "", some [localManifest], "append"⟩

def localManifestFile : ManifestFile := ⟨localManifest, .data, 1, 1, 0, none⟩

def localEntry (snapshot : Snapshot) : @ManifestEntry (localSail snapshot) :=
  let _ := localSail snapshot
  { status := .added
    sequenceNumber := some 1
    dataFile :=
      { content := .data
        filePath := "file:///tables/events/data/part-0.parquet"
        fileFormat := .parquet
        partition := []
        recordCount := 1
        fileSizeInBytes := 400
        columnSizes := []
        valueCounts := []
        nullValueCounts := []
        nanValueCounts := []
        lowerBounds := []
        upperBounds := []
        splitOffsets := []
        equalityIds := []
        sortOrderId := none
        firstRowId := none
        partitionSpecId := 0
        contentOffset := none
        contentSizeInBytes := none } }

@[reducible] def localIo (snapshot : Snapshot) : @SailIo (localSail snapshot) :=
  let _ := localSail snapshot
  { StoreContext := Unit
    localFileUrlExists := fun path => path = localManifest ∨ path = localManifestList
    isFileUrl := fun _ => true
    newStoreContext := fun _ => .ok ()
    loadManifestList := fun _ path =>
      if path = localManifestList then .ok [localManifestFile] else .error "not found"
    loadManifest := fun _ path =>
      if path = localManifest then .ok [localEntry snapshot] else .error "not found"
    indexDelete := fun _ => .ok ()
    deleteApplies := fun _ _ _ => false
    positionDeleteFile := fun _ => .ok ()
    equalityDeleteFile := fun _ => .ok ()
    fetchScanTasksResult := fun _ => .ok ()
    planTableScanRequest := fun request => .ok ((request.get "snapshot-id").bind Json.asI64)
    planningResultFromValues := fun _ => .ok ()
    fetchResultFromValues := fun _ _ _ => .ok () }

def localRequest : ScanPlanningRequest where
  table := ⟨⟨"local"⟩, ⟨["default"]⟩, ⟨"events"⟩⟩
  metadataLocation := some "file:///tables/events/metadata/00001.json"
  tableMetadata := .obj [("format-version", .int 2)]
  projection := ["id"]
  filters := []
  limit := none
  snapshotId := none
  startSnapshotId := none
  endSnapshotId := none

def localDelivery : Delivery where
  dataFile := .obj [("content", .str "data"), ("file-format", .str "parquet"),
    ("file-path", .str "file:///tables/events/data/part-0.parquet"),
    ("file-size-in-bytes", .int 400), ("partition", .arr []), ("record-count", .int 1),
    ("spec-id", .int 0)]
  deletes := []

def localTask (kind path : String) : EncodedPlanTask :=
  encodedPlanTask localRequest.table kind 1 path ["id"] []

/-- The response that delivers the one file and these tokens. -/
def localAnswer (token : String) (task : EncodedPlanTask) (children : List SailScanTask) :
    FetchScanTasksPlan :=
  (⟨[⟨localDelivery.dataFile, []⟩], [], children⟩ : FetchExpansion).answer token
    (task.decoded token)

theorem localManifest_yields (snapshot : Snapshot)
    (placed : snapshot = listSnapshot ∨ snapshot = directSnapshot) :
    @FetchYields (localSail snapshot) (localIo snapshot) modelCodec
      (localRequest.fetchRequest [] [])
      (@signedToken modelCodec (localTask "manifest" localManifest)) [] [localDelivery] := by
  let _ := localSail snapshot
  let _ := localIo snapshot
  let _ := modelCodec
  let task := localTask "manifest" localManifest
  have read := decodePlanTask_signedToken modelCodec_documented task rfl
  refine ⟨localAnswer (signedToken task) task [], ?_, rfl, rfl⟩
  simp only [fetchScanTasks, ScanPlanningRequest.fetchRequest]
  rw [read]
  rcases placed with rfl | rfl <;> rfl

theorem localList_yields :
    @FetchYields (localSail listSnapshot) (localIo listSnapshot) modelCodec
      (localRequest.fetchRequest [] [])
      (@signedToken modelCodec (localTask "manifest-list" localManifestList))
      [@signedToken modelCodec (localTask "manifest" localManifest)] [localDelivery] := by
  let _ := localSail listSnapshot
  let _ := localIo listSnapshot
  let _ := modelCodec
  let task := localTask "manifest-list" localManifestList
  have read := decodePlanTask_signedToken modelCodec_documented task rfl
  refine ⟨localAnswer (signedToken task) task [manifestScanTask
    (localRequest.fetchRequest [] [] (signedToken task)) (task.decoded (signedToken task))
    localManifestFile], ?_, rfl, rfl⟩
  simp only [fetchScanTasks, ScanPlanningRequest.fetchRequest]
  rw [read]
  rfl

noncomputable def localPlan (snapshot : Snapshot) : LakeCatResult ScanPlan :=
  @planScan (localSail snapshot) (localIo snapshot) modelCodec 0 localRequest

/-- The tokens of the plan, fetched to the end, come to these files. -/
def LocalDelivers (snapshot : Snapshot) (plan : ScanPlan) (delivered : List Delivery) : Prop :=
  @Delivers (localSail snapshot) (localIo snapshot) modelCodec localRequest [] []
    (plan.scanTasks.map SailScanTask.planTask) delivered

def localTree (snapshot : Snapshot)
    (listed : List ManifestFile) (direct : Nat) : @SnapshotTree (localSail snapshot) :=
  let _ := localSail snapshot
  ⟨listed.map fun manifest => (manifest, [localEntry snapshot]),
    List.replicate direct [localEntry snapshot]⟩

def localMetadata (snapshot : Snapshot) : TableMetadata Unit :=
  ⟨"file:///tables/events", some [⟨1, "id", ()⟩], some snapshot, [snapshot], [⟨0, true⟩]⟩

/-- A manifest that the snapshot itself names is delivered as it should be. -/
theorem planExpansion_direct :
    @Faithful (localSail directSnapshot) (localIo directSnapshot)
      (some (localMetadata directSnapshot)) [] (localTree directSnapshot [] 1)
      [localDelivery] := by
  let _ := localSail directSnapshot
  let io := localIo directSnapshot
  let _ := modelCodec
  have documented : SailIo.Documented := ⟨rfl, rfl, fun _ => rfl⟩
  have planned : localPlan directSnapshot = .ok ⟨some 1, pushV1ManifestScanTasks directSnapshot
    localRequest localRequest.metadataLocation⟩ := rfl
  have drained : LocalDelivers directSnapshot ⟨some 1, pushV1ManifestScanTasks directSnapshot
      localRequest localRequest.metadataLocation⟩ ([localDelivery] ++ []) :=
    Drains.next (localManifest_yields directSnapshot (.inr rfl)) .done
  have read : (localTree directSnapshot [] 1).ReadBy (() : io.StoreContext) "" [localManifest] :=
    ⟨rfl, by simp [localTree], .cons rfl .nil⟩
  refine (planExpansion_faithful_iff modelCodec_documented documented 0 localRequest _ [] [] _
    (some (localMetadata directSnapshot)) () "" [localManifest] _ [localDelivery] rfl planned rfl
    rfl rfl read drained).mpr ⟨nofun, ?_, ?_, ?_⟩
  · intro entry member _
    obtain rfl : entry = localEntry directSnapshot := by simpa [localTree] using member
    refine ⟨rfl, ?_⟩
    rintro ⟨metadata, -, out⟩
    cases out
  · exact List.nodup_singleton _
  · exact fun _ _ _ _ => rfl

/-- A file behind a manifest list is delivered by the list and again by its manifest. -/
theorem planExpansion_twice :
    ∃ plan, localPlan listSnapshot = .ok plan ∧
      LocalDelivers listSnapshot plan [localDelivery, localDelivery] ∧
      ¬@Faithful (localSail listSnapshot) (localIo listSnapshot)
        (some (localMetadata listSnapshot)) [] (localTree listSnapshot [localManifestFile] 0)
        [localDelivery, localDelivery] := by
  let _ := localSail listSnapshot
  let _ := localIo listSnapshot
  let _ := modelCodec
  refine ⟨⟨some 1, pushManifestListScanTask listSnapshot localRequest
    localRequest.metadataLocation⟩, rfl, ?_, fun faithful => ?_⟩
  · exact Drains.next localList_yields
      (Drains.next (localManifest_yields listSnapshot (.inl rfl)) .done)
  · have once := faithful.once
    simp at once

end Sample

end LakeCat
