import LakeCat.ScanPlanning

/-!
What a plan and a fetch that succeed have done: which tokens they hand out, and
what each token was made of.
-/

namespace LakeCat

open Fallible

open SailSpec (PrimitiveLiteral FieldType)

section Snapshots

variable {Field : Type} {metadata : TableMetadata Field}

/-- The snapshot that its own id selects. -/
def Selectable (metadata : TableMetadata Field) (snapshot : Snapshot) : Prop :=
  selectedSnapshot metadata (some snapshot.snapshotId) = .ok snapshot

theorem selectable_of_selected {snapshotId : Int} {snapshot : Snapshot}
    (selected : selectedSnapshot metadata (some snapshotId) = .ok snapshot) :
    snapshot.snapshotId = snapshotId ∧ Selectable metadata snapshot := by
  have found := selected
  simp only [selectedSnapshot, okOr_ok] at found
  have named : snapshot.snapshotId = snapshotId := by simpa using List.find?_some found
  refine ⟨named, ?_⟩
  subst named
  exact selected

theorem incrementalSnapshots_selectable {startSnapshotId endSnapshotId : Int} (fuel : Nat)
    (cursor : Snapshot) (snapshots result : List Snapshot) (current : Selectable metadata cursor)
    (earlier : ∀ snapshot ∈ snapshots, Selectable metadata snapshot)
    (walked : incrementalSnapshots metadata startSnapshotId endSnapshotId fuel cursor snapshots =
      .ok result) : ∀ snapshot ∈ result, Selectable metadata snapshot := by
  induction fuel generalizing cursor snapshots with
  | zero => cases walked
  | succ fuel ih =>
      rw [incrementalSnapshots] at walked
      split at walked
      next =>
        obtain rfl := Except.ok.inj walked
        exact earlier
      next =>
        split at walked
        next => cases walked
        next parent known =>
          obtain ⟨next, selected, rest⟩ := (bind_eq_ok _ _ _).mp walked
          refine ih next (cursor :: snapshots) (selectable_of_selected selected).2 ?_ rest
          exact List.forall_mem_cons.mpr ⟨current, earlier⟩

theorem incrementalSnapshotChain_selectable {fuel : Nat}
    {startSnapshotId endSnapshotId : Option Int} {snapshots : List Snapshot}
    (walked : incrementalSnapshotChain fuel metadata startSnapshotId endSnapshotId =
      .ok snapshots) : ∀ snapshot ∈ snapshots, Selectable metadata snapshot := by
  simp only [incrementalSnapshotChain, bind_eq_ok, okOr_ok] at walked
  obtain ⟨first, -, last, -, rest⟩ := walked
  split at rest
  next =>
    obtain rfl := Except.ok.inj rest
    simp
  next =>
    obtain ⟨cursor, selected, chain⟩ := (bind_eq_ok _ _ _).mp rest
    exact incrementalSnapshots_selectable fuel cursor [] snapshots
      (selectable_of_selected selected).2 (by simp) chain

end Snapshots

variable [SailSpec]

theorem inspect_typed {json : Json} {summary : SailMetadataSummary}
    {metadata : TableMetadata FieldType}
    (inspected : inspectSailTableMetadataWithTyped json = .ok (summary, some metadata)) :
    SailSpec.deserializeMetadata json = .ok metadata ∧
      summary = typedMetadataSummary metadata := by
  simp only [inspectSailTableMetadataWithTyped, bind_eq_ok, exists_unit] at inspected
  obtain ⟨-, rest⟩ := inspected
  split at rest
  next => simp at rest
  next =>
    split at rest
    next => cases rest
    next typed read =>
      simp only [pure_eq, Except.ok.injEq, Prod.mk.injEq, Option.some.injEq] at rest
      obtain ⟨rfl, rfl⟩ := rest
      exact ⟨read, rfl⟩

section Plans

variable [SailIo] [PlanCodec]

/-- A task handed out for a path of a snapshot, with a kind that says what the path is. -/
structure PlannedTask (metadata : TableMetadata FieldType) (request : ScanPlanningRequest)
    (task : SailScanTask) (kind : String) (snapshot : Snapshot) (path : String) : Prop where
  token : task.planTask = opaquePlanTaskWithFilters request.table kind snapshot.snapshotId path
    request.projection request.filters
  selectable : Selectable metadata snapshot
  placed : (kind = "manifest-list" ∨ kind = "incremental-manifest-list") ∧
      path = snapshot.manifestList ∨
    kind = "manifest" ∧ path ∈ snapshot.manifests.getD []

/-- Every task of a list is a planned one. -/
def AllPlanned (metadata : TableMetadata FieldType) (request : ScanPlanningRequest)
    (tasks : List SailScanTask) : Prop :=
  ∀ task ∈ tasks, ∃ kind snapshot path, PlannedTask metadata request task kind snapshot path

omit [SailIo] in
theorem AllPlanned.append {metadata : TableMetadata FieldType} {request : ScanPlanningRequest}
    {first second : List SailScanTask} (left : AllPlanned metadata request first)
    (right : AllPlanned metadata request second) :
    AllPlanned metadata request (first ++ second) := by
  intro task member
  rcases List.mem_append.mp member with earlier | later
  · exact left task earlier
  · exact right task later

variable {metadata : TableMetadata FieldType} {request : ScanPlanningRequest}

omit [SailIo] in
theorem manifestListScanTask_planned {kind : String} {snapshot : Snapshot}
    (location : Option String) (selectable : Selectable metadata snapshot)
    (listKind : kind = "manifest-list" ∨ kind = "incremental-manifest-list") :
    AllPlanned metadata request [manifestListScanTask kind snapshot request location] := by
  intro task member
  obtain rfl := List.mem_singleton.mp member
  exact ⟨kind, snapshot, snapshot.manifestList, rfl, selectable, .inl ⟨listKind, rfl⟩⟩

omit [SailIo] in
theorem v1Tasks_planned {snapshot : Snapshot} (location : Option String)
    (selectable : Selectable metadata snapshot) :
    AllPlanned metadata request (pushV1ManifestScanTasks snapshot request location) := by
  intro task member
  obtain ⟨path, listed, rfl⟩ := List.mem_map.mp member
  exact ⟨"manifest", snapshot, path, rfl, selectable, .inr ⟨rfl, listed⟩⟩

theorem incrementalListTask_planned {store : SailIo.StoreContext} {snapshot : Snapshot}
    {location : Option String} {tasks : List SailScanTask}
    (selectable : Selectable metadata snapshot)
    (planned : incrementalListTask store snapshot request location = .ok tasks) :
    AllPlanned metadata request tasks := by
  unfold incrementalListTask at planned
  split at planned
  next =>
    obtain rfl := Except.ok.inj planned
    simp [AllPlanned]
  next =>
    split at planned
    next => cases planned
    next =>
      split at planned
      next =>
        obtain rfl := Except.ok.inj planned
        exact manifestListScanTask_planned location selectable (.inr rfl)
      next =>
        obtain rfl := Except.ok.inj planned
        simp [AllPlanned]

theorem incrementalPlanTasks_planned {store : SailIo.StoreContext} {location : Option String}
    (snapshots : List Snapshot) (tasks : List SailScanTask)
    (selectable : ∀ snapshot ∈ snapshots, Selectable metadata snapshot)
    (planned : incrementalPlanTasksOf store request location snapshots = .ok tasks) :
    AllPlanned metadata request tasks := by
  induction snapshots generalizing tasks with
  | nil =>
      obtain rfl := Except.ok.inj planned
      simp [AllPlanned]
  | cons snapshot rest ih =>
      obtain ⟨current, others⟩ := List.forall_mem_cons.mp selectable
      simp only [incrementalPlanTasksOf, bind_eq_ok, exists_unit, pure_eq,
        Except.ok.injEq] at planned
      obtain ⟨-, listed, fromList, later, rest, rfl⟩ := planned
      exact ((incrementalListTask_planned current fromList).append
        (v1Tasks_planned location current)).append (ih later others rest)

theorem stablePlanTasks_planned {fuel : Nat} {summary : SailMetadataSummary}
    {location : Option String} {tasks : List SailScanTask}
    (current : ∀ snapshot, metadata.currentSnapshot = some snapshot →
      Selectable metadata snapshot)
    (planned : stableManifestPlanTasks fuel metadata summary request location = .ok tasks) :
    AllPlanned metadata request tasks := by
  unfold stableManifestPlanTasks at planned
  split at planned
  next =>
    simp only [incrementalManifestPlanTasks, bind_eq_ok] at planned
    obtain ⟨snapshots, chain, found, -, rest⟩ := planned
    cases found with
    | none => cases rest
    | some store =>
        exact incrementalPlanTasks_planned snapshots tasks
          (incrementalSnapshotChain_selectable chain) rest
  next =>
    simp only [bind_eq_ok, pure_eq, Except.ok.injEq] at planned
    obtain ⟨snapshot, selected, rfl⟩ := planned
    have selectable : Selectable metadata snapshot := by
      cases asked : request.snapshotId with
      | none =>
          rw [asked] at selected
          exact current snapshot (by simpa [selectedSnapshot] using selected)
      | some snapshotId =>
          rw [asked] at selected
          exact (selectable_of_selected selected).2
    refine AllPlanned.append ?_ (v1Tasks_planned location selectable)
    unfold pushManifestListScanTask
    split
    · exact manifestListScanTask_planned location selectable (.inl rfl)
    · simp [AllPlanned]

/-- Without a typed model the plan is the manifest list, when there is one. -/
theorem untypedTasks_planned {fuel : Nat} {summary : SailMetadataSummary}
    {location : Option String} {tasks : List SailScanTask}
    (planned : manifestPlanTasks fuel none summary request location = .ok tasks) :
    summary.manifestList = none ∧ tasks = [] ∨
      ∃ manifestList snapshotId task, summary.manifestList = some manifestList ∧
        request.snapshotId.or summary.currentSnapshotId = some snapshotId ∧
        tasks = [task] ∧ task.planTask = opaquePlanTaskWithFilters request.table "manifest-list"
          snapshotId manifestList request.projection request.filters := by
  simp only [manifestPlanTasks, v4ExtensionManifestPlanTasks, bind_eq_ok, okOr_ok, pure_eq,
    Except.ok.injEq] at planned
  obtain ⟨-, -, snapshotId, chosen, made⟩ := planned
  cases listed : summary.manifestList with
  | none =>
      rw [listed] at made
      exact .inl ⟨rfl, made.symm⟩
  | some manifestList =>
      rw [listed] at made
      exact .inr ⟨manifestList, snapshotId, _, rfl, chosen, made.symm, rfl⟩

theorem untypedTasks_listed {fuel : Nat} {summary : SailMetadataSummary}
    {location : Option String} {tasks : List SailScanTask} {manifestList : String}
    (planned : manifestPlanTasks fuel none summary request location = .ok tasks)
    (listed : summary.manifestList = some manifestList) :
    ∃ snapshotId task, request.snapshotId.or summary.currentSnapshotId = some snapshotId ∧
      tasks = [task] ∧ task.planTask = opaquePlanTaskWithFilters request.table "manifest-list"
        snapshotId manifestList request.projection request.filters := by
  rcases untypedTasks_planned planned with ⟨absent, -⟩ | ⟨other, snapshotId, task, named, rest⟩
  · cases listed.symm.trans absent
  · obtain rfl := Option.some.inj (listed.symm.trans named)
    exact ⟨snapshotId, task, rest⟩

/-- What a plan that succeeds has read. -/
theorem planScan_ok {fuel : Nat} {plan : ScanPlan} (planned : planScan fuel request = .ok plan) :
    ∃ summary typed location,
      inspectSailTableMetadataWithTyped request.tableMetadata = .ok (summary, typed) ∧
      manifestPlanTasks fuel typed summary request (some location) = .ok plan.scanTasks := by
  simp only [planScan, bind_eq_ok, exists_unit, okOr_ok, pure_eq, Except.ok.injEq,
    Prod.exists] at planned
  obtain ⟨summary, typed, inspected, -, -, location, -, tasks, made, -, -, -, rfl⟩ := planned
  exact ⟨summary, typed, location, inspected, made⟩

end Plans

section Fetches

variable [SailIo] [PlanCodec]

omit [SailSpec] [SailIo] in
theorem decodePlanTask_raw {token : String} {decoded : DecodedPlanTask}
    (read : decodePlanTask token = .ok decoded) :
    decoded.raw = token ∧ isPlanTaskKind decoded.kind = true := by
  have structured {bytes : List UInt8}
      (found : decodeStructuredPlanTask token bytes = .ok decoded) :
      decoded.raw = token ∧ isPlanTaskKind decoded.kind = true := by
    unfold decodeStructuredPlanTask at found
    split at found
    next => cases found
    next task _ =>
      split at found
      next known =>
        obtain rfl := Except.ok.inj found
        exact ⟨rfl, known⟩
      next => cases found
  unfold decodePlanTask at read
  split at read
  next =>
    split at read
    next =>
      simp only [bind_eq_ok, exists_unit] at read
      obtain ⟨bytes, -, -, found⟩ := read
      exact structured found
    next => cases read
  next =>
    split at read
    next =>
      simp only [bind_eq_ok] at read
      obtain ⟨bytes, -, found⟩ := read
      exact structured found
    next =>
      unfold decodeLegacyPlanTask at read
      split at read
      next head engine kind snapshotId path _ =>
        split at read
        next => cases read
        next =>
          split at read
          next => cases read
          next known =>
            split at read
            next =>
              obtain rfl := Except.ok.inj read
              exact ⟨rfl, by simpa using known⟩
            next => cases read
      next => cases read

variable {request : FetchScanTasksRequest} {summary : SailMetadataSummary}
  {typed : Option (TableMetadata FieldType)} {decoded : DecodedPlanTask}

/-- A manifest of the list that a task names, as an expansion of the task finds it. -/
structure ListedManifest (summary : SailMetadataSummary) (decoded : DecodedPlanTask)
    (manifest : ManifestFile) : Prop where
  listKind : decoded.kind = "manifest-list" ∨ decoded.kind = "incremental-manifest-list"
  readable : SailIo.localFileUrlExists decoded.path = true
  listed : ∃ store manifests, localStoreContext summary = .ok (some store) ∧
    SailIo.loadManifestList store decoded.path = .ok manifests ∧ manifest ∈ manifests

omit [SailIo] [PlanCodec] [SailSpec] in
theorem mem_includedManifests {manifests : List ManifestFile} {manifest : ManifestFile}
    (member : manifest ∈ includedManifests decoded manifests) : manifest ∈ manifests := by
  unfold includedManifests at member
  split at member
  · exact List.mem_of_mem_filter member
  · exact member

theorem expandManifestListTask_children {store : SailIo.StoreContext} {expansion : FetchExpansion}
    (expanded : expandManifestListTask store decoded request typed = .ok expansion) :
    ∃ manifests, SailIo.loadManifestList store decoded.path = .ok manifests ∧
      expansion.planTasks =
        (includedManifests decoded manifests).map (manifestScanTask request decoded) := by
  simp only [expandManifestListTask, bind_eq_ok, exists_unit, modelCheck_eq_ok, pure_eq,
    Except.ok.injEq] at expanded
  obtain ⟨manifests, loaded, files, -, -, rfl⟩ := expanded
  exact ⟨manifests, loaded, rfl⟩

omit [PlanCodec] in
theorem expandManifestTask_children {store : SailIo.StoreContext} {expansion : FetchExpansion}
    (expanded : expandManifestTask store decoded = .ok expansion) : expansion.planTasks = [] := by
  simp only [expandManifestTask, bind_eq_ok, exists_unit, pure_eq, Except.ok.injEq] at expanded
  obtain ⟨entries, -, found, -, -, rfl⟩ := expanded
  rfl

/-- Every child of an expansion is a manifest of the list that the task names. -/
theorem expandFetch_children {expansion : FetchExpansion}
    (expanded : expandFetchPlanTaskWithSailIo decoded summary typed request =
      .ok (some expansion)) :
    ∀ child ∈ expansion.planTasks, ∃ manifest, ListedManifest summary decoded manifest ∧
      child = manifestScanTask request decoded manifest := by
  unfold expandFetchPlanTaskWithSailIo at expanded
  split at expanded
  next => cases expanded
  next readable =>
    obtain ⟨found, opened, rest⟩ := (bind_eq_ok _ _ _).mp expanded
    cases found with
    | none => cases rest
    | some store =>
      have fromList (listKind : decoded.kind = "manifest-list" ∨
          decoded.kind = "incremental-manifest-list")
          (made : expandManifestListTask store decoded request typed = .ok expansion) :
          ∀ child ∈ expansion.planTasks, ∃ manifest, ListedManifest summary decoded manifest ∧
            child = manifestScanTask request decoded manifest := by
        obtain ⟨manifests, loaded, children⟩ := expandManifestListTask_children made
        intro child member
        rw [children] at member
        obtain ⟨manifest, included, rfl⟩ := List.mem_map.mp member
        exact ⟨manifest, ⟨listKind, by simpa using readable, store, manifests, opened, loaded,
          mem_includedManifests included⟩, rfl⟩
      simp only at rest
      split at rest
      next same =>
        obtain ⟨made, done, same'⟩ := (bind_eq_ok _ _ _).mp rest
        obtain rfl := Option.some.inj (Except.ok.inj same')
        exact fromList (.inl same) done
      next same =>
        obtain ⟨made, done, same'⟩ := (bind_eq_ok _ _ _).mp rest
        obtain rfl := Option.some.inj (Except.ok.inj same')
        exact fromList (.inr same) done
      next =>
        obtain ⟨made, done, same'⟩ := (bind_eq_ok _ _ _).mp rest
        obtain rfl := Option.some.inj (Except.ok.inj same')
        simp [expandManifestTask_children done]
      next => cases rest

/-- The answer that carries an expansion. -/
def FetchExpansion.answer (expansion : FetchExpansion) (planTask : String)
    (decoded : DecodedPlanTask) : FetchScanTasksPlan where
  planTask := planTask
  snapshotId := decoded.snapshotId
  fileScanTasks := expansion.fileScanTasks
  deleteFiles := expansion.deleteFiles
  planTasks := expansion.planTasks
  projection := decoded.projection
  filters := decoded.filters

/-- What a fetch that succeeds has read and expanded. -/
theorem fetchScanTasks_expanded {plan : FetchScanTasksPlan}
    (fetched : fetchScanTasks request = .ok plan) :
    ∃ summary typed decoded expanded,
      inspectSailTableMetadataWithTyped request.tableMetadata = .ok (summary, typed) ∧
      decodePlanTask request.planTask = .ok decoded ∧
      validateDecodedPlanTask request summary typed decoded = .ok () ∧
      expandFetchPlanTaskWithSailIo decoded summary typed request = .ok expanded ∧
      plan = (expanded.getD ⟨[], [], [decoded.toScanTask request.table.stableId
        request.metadataLocation summary.sequenceNumber]⟩).answer request.planTask decoded := by
  simp only [fetchScanTasks, bind_eq_ok, exists_unit, pure_eq, Except.ok.injEq,
    Prod.exists] at fetched
  obtain ⟨summary, typed, inspected, decoded, read, valid, expanded, made, -, rfl⟩ := fetched
  exact ⟨summary, typed, decoded, expanded, inspected, read, valid, made, rfl⟩

/-- What a fetch that succeeds has read, and where its children come from. -/
theorem fetchScanTasks_ok {plan : FetchScanTasksPlan}
    (fetched : fetchScanTasks request = .ok plan) :
    ∃ summary typed decoded,
      inspectSailTableMetadataWithTyped request.tableMetadata = .ok (summary, typed) ∧
      decodePlanTask request.planTask = .ok decoded ∧
      validateDecodedPlanTask request summary typed decoded = .ok () ∧
      plan.projection = decoded.projection ∧ plan.filters = decoded.filters ∧
      ∀ child ∈ plan.planTasks, child.planTask = request.planTask ∨
        ∃ manifest, ListedManifest summary decoded manifest ∧
          child = manifestScanTask request decoded manifest := by
  obtain ⟨summary, typed, decoded, expanded, inspected, read, valid, made, rfl⟩ :=
    fetchScanTasks_expanded fetched
  refine ⟨summary, typed, decoded, inspected, read, valid, rfl, rfl, ?_⟩
  cases expanded with
  | none =>
      intro child member
      obtain rfl := List.mem_singleton.mp member
      exact .inl (decodePlanTask_raw read).1
  | some expansion =>
      intro child member
      exact .inr (expandFetch_children made child member)

end Fetches

end LakeCat
