import LakeCat.ReadRestrictions
import LakeCat.PlanCodecModel
import LakeCat.PruningSound

/-!
Governed scans cannot be widened, at any depth of fetching; and a plan can be
fetched unless the table is in format 4 and was asked for as of another
snapshot, or its manifest list is expanded.
-/

namespace LakeCat

open Fallible

open SailSpec (PrimitiveLiteral FieldType)

theorem ReadRestriction.effectiveProjection_nil (restriction : ReadRestriction)
    (required : List String) :
    restriction.effectiveProjection [] = .ok required ↔
      match restriction.allowedColumns with
      | none => required = []
      | some allowed => allowed ≠ [] ∧ required = allowed := by
  unfold effectiveProjection
  cases restriction.allowedColumns with
  | none => simp [eq_comm]
  | some allowed =>
      simp only [rejectIf_bind, if_true, pure_eq, Except.ok.injEq]
      exact and_congr_right fun _ => eq_comm

/-- What a plan asks for is what a fetch requires, or less of it. -/
theorem ReadRestriction.effectiveProjection_fits {restriction : ReadRestriction}
    {requested projection : List String}
    (effective : restriction.effectiveProjection requested = .ok projection) :
    ∃ required, restriction.effectiveProjection [] = .ok required ∧
      (required = [] ∨ projection ≠ [] ∧ ∀ column ∈ projection, column ∈ required) := by
  cases limited : restriction.allowedColumns with
  | none =>
      exact ⟨[], (restriction.effectiveProjection_nil []).mpr (by simp [limited]), .inl rfl⟩
  | some allowed =>
      simp only [effectiveProjection, limited, rejectIf_bind] at effective
      obtain ⟨present, rest⟩ := effective
      refine ⟨allowed, (restriction.effectiveProjection_nil allowed).mpr
        (by simp [limited, present]), .inr ?_⟩
      split at rest
      next =>
        obtain rfl := Except.ok.inj rest
        exact ⟨present, fun _ member => member⟩
      next =>
        simp only [rejectIf_bind, pure_eq, Except.ok.injEq, retainAllowedColumns_eq] at rest
        obtain ⟨kept, rfl⟩ := rest
        refine ⟨kept, fun column member => ?_⟩
        simpa using (List.mem_filter.mp member).2

theorem ReadRestriction.effectiveStatsFields_allowed {restriction : ReadRestriction}
    {allowed : List String} (limited : restriction.allowedColumns = some allowed)
    (requested : List String) :
    ∀ field ∈ restriction.effectiveStatsFields requested, field ∈ allowed := by
  intro field member
  simp only [effectiveStatsFields, limited, retainAllowedColumns_eq] at member
  simpa using (List.mem_filter.mp member).2

section Model

variable [SailSpec] [SailIo] [PlanCodec]

section Checks

/-- What a request asks of a token, apart from the path. -/
structure FitsRequest (request : FetchScanTasksRequest) (decoded : DecodedPlanTask) : Prop where
  table : ∀ table, decoded.table = some table → table = request.table.stableId
  projection : request.requiredProjection = [] ∨ decoded.projection ≠ [] ∧
    ∀ column ∈ decoded.projection, column ∈ request.requiredProjection
  filters : ∀ filter ∈ request.requiredFilters, filter ∈ decoded.filters

/-- What the metadata of the table asks of the path of a token. -/
def PathMatches (summary : SailMetadataSummary) (typed : Option (TableMetadata FieldType))
    (decoded : DecodedPlanTask) : Prop :=
  match typed with
  | some metadata => ∃ snapshot,
      selectedSnapshot metadata (some decoded.snapshotId) = .ok snapshot ∧
        validateDecodedPath summary snapshot decoded = .ok ()
  | none => summary.currentSnapshotId = some decoded.snapshotId ∧
      decoded.kind = "manifest-list" ∧ summary.manifestList = some decoded.path

omit [SailSpec] [SailIo] [PlanCodec] in
theorem validateDecodedProjection_ok (request : FetchScanTasksRequest)
    (decoded : DecodedPlanTask) :
    validateDecodedProjection request decoded = .ok () ↔
      (request.requiredProjection = [] ∨ decoded.projection ≠ [] ∧
        ∀ column ∈ decoded.projection, column ∈ request.requiredProjection) := by
  unfold validateDecodedProjection
  split
  next free => simp [free]
  next limited => simp [limited]

omit [PlanCodec] in
theorem validateDecodedPlanTask_ok (request : FetchScanTasksRequest)
    (summary : SailMetadataSummary) (typed : Option (TableMetadata FieldType))
    (decoded : DecodedPlanTask) :
    validateDecodedPlanTask request summary typed decoded = .ok () ↔
      FitsRequest request decoded ∧ PathMatches summary typed decoded := by
  simp only [validateDecodedPlanTask, bind_unit_eq_ok, rejectIf_ok, validateDecodedProjection_ok,
    validateDecodedFilters, checkEach_ok, not_not]
  constructor
  · rintro ⟨table, projection, filters, path⟩
    refine ⟨⟨fun name named => ?_, projection, filters⟩, ?_⟩
    · simpa [named] using table
    · cases typed with
      | none => simpa [PathMatches] using path
      | some metadata =>
          obtain ⟨snapshot, selected, valid⟩ := (bind_eq_ok _ _ _).mp path
          exact ⟨snapshot, selected, valid⟩
  · rintro ⟨fits, path⟩
    refine ⟨?_, fits.projection, fits.filters, ?_⟩
    · cases named : decoded.table with
      | none => simp
      | some name => simpa using fits.table name named
    · cases typed with
      | none => simpa [PathMatches] using path
      | some metadata =>
          obtain ⟨snapshot, selected, valid⟩ := path
          exact (bind_eq_ok _ _ _).mpr ⟨snapshot, selected, valid⟩

end Checks

section Soundness

variable {restriction : ReadRestriction} {table : TableRecord}

theorem accepted_staysWithin {token : String} {decoded : DecodedPlanTask}
    (accepted : Accepted restriction table token decoded) :
    StaysWithin restriction decoded.projection decoded.filters := by
  obtain ⟨required, summary, typed, effective, -, -, valid⟩ := accepted
  obtain ⟨fits, -⟩ := (validateDecodedPlanTask_ok _ _ _ _).mp valid
  refine ⟨fun allowed limited => ?_, fun predicate governed metadata row satisfied => ?_⟩
  · have matched := (restriction.effectiveProjection_nil required).mp effective
    rw [limited] at matched
    obtain ⟨present, rfl⟩ := matched
    exact fits.projection.resolve_left present
  · refine satisfied predicate (fits.filters predicate ?_)
    simp [ReadRestriction.fetchRequest, ReadRestriction.mandatoryFilters, governed]

/-- A token that carries what another accepted one does is accepted for any path that the
metadata allows. -/
theorem Accepted.carry {token other : String} {decoded carried : DecodedPlanTask}
    (accepted : Accepted restriction table token decoded)
    (read : decodePlanTask other = .ok carried)
    (named : carried.table = some table.ident.stableId)
    (projection : carried.projection = decoded.projection)
    (filters : carried.filters = decoded.filters)
    (path : ∀ summary typed,
      inspectSailTableMetadataWithTyped table.metadata = .ok (summary, typed) →
      PathMatches summary typed decoded → PathMatches summary typed carried) :
    Accepted restriction table other carried := by
  obtain ⟨required, summary, typed, effective, inspected, -, valid⟩ := accepted
  obtain ⟨fits, matched⟩ := (validateDecodedPlanTask_ok _ _ _ _).mp valid
  refine ⟨required, summary, typed, effective, inspected, read,
    (validateDecodedPlanTask_ok _ _ _ _).mpr ⟨⟨?_, ?_, ?_⟩, path summary typed inspected matched⟩⟩
  · rintro _ found
    exact Option.some.inj (found.symm.trans named)
  · rw [projection]
    exact fits.projection
  · intro filter member
    rw [filters]
    exact fits.filters filter member

end Soundness

section Completeness

variable {restriction : ReadRestriction} {table : TableRecord}
  {request : ProviderScanPlanningRequest} {projection : List String}

omit [SailSpec] [SailIo] [PlanCodec] in
/-- A token of a plan fits the fetches of the restriction it was planned under. -/
theorem minted_fits {required : List String}
    (fits : required = [] ∨ projection ≠ [] ∧ ∀ column ∈ projection, column ∈ required)
    (kind : String) (snapshotId : Int) (path raw : String) :
    FitsRequest (restriction.fetchRequest table required raw)
      ((encodedPlanTask table.ident kind snapshotId path
        (request.restricted restriction table projection).projection
        (request.restricted restriction table projection).filters).decoded raw) where
  table _ named := (Option.some.inj named).symm
  projection := fits
  filters _ member := List.mem_append_right _ member

theorem minted_accepted_of_path (codec : PlanCodec.Documented) {required : List String}
    {summary : SailMetadataSummary} {typed : Option (TableMetadata FieldType)}
    (effective : restriction.effectiveProjection [] = .ok required)
    (fits : required = [] ∨ projection ≠ [] ∧ ∀ column ∈ projection, column ∈ required)
    (inspected : inspectSailTableMetadataWithTyped table.metadata = .ok (summary, typed))
    {kind : String} (known : isPlanTaskKind kind = true) (snapshotId : Int) (path : String)
    (matched : ∀ raw, PathMatches summary typed
      ((encodedPlanTask table.ident kind snapshotId path
        (request.restricted restriction table projection).projection
        (request.restricted restriction table projection).filters).decoded raw)) :
    ∃ decoded, Accepted restriction table
      (opaquePlanTaskWithFilters table.ident kind snapshotId path
        (request.restricted restriction table projection).projection
        (request.restricted restriction table projection).filters) decoded :=
  ⟨_, required, summary, typed, effective, inspected,
    decodePlanTask_signedToken codec _ known,
    (validateDecodedPlanTask_ok _ _ _ _).mpr ⟨minted_fits fits _ _ _ _, matched _⟩⟩

omit [PlanCodec] in
theorem planned_pathMatches {metadata : TableMetadata FieldType} {summary : SailMetadataSummary}
    {kind : String} {snapshot : Snapshot} {path : String}
    (selectable : Selectable metadata snapshot)
    (placed : (kind = "manifest-list" ∨ kind = "incremental-manifest-list") ∧
        path = snapshot.manifestList ∨
      kind = "manifest" ∧ path ∈ snapshot.manifests.getD [])
    (task : DecodedPlanTask) (named : task.kind = kind)
    (stamped : task.snapshotId = snapshot.snapshotId) (located : task.path = path) :
    PathMatches summary (some metadata) task := by
  refine ⟨snapshot, stamped ▸ selectable, ?_⟩
  subst located
  rcases placed with ⟨rfl | rfl, listed⟩ | ⟨rfl, member⟩
  · simp [validateDecodedPath, named, listed]
  · simp [validateDecodedPath, named, listed]
  · simp [validateDecodedPath, named, member]

omit [PlanCodec] in
/-- The path that a child is made for is in the list of the task it comes from. -/
theorem child_pathMatches (io : SailIo.Documented) {metadata : TableMetadata FieldType}
    {summary : SailMetadataSummary} {decoded : DecodedPlanTask} {manifest : ManifestFile}
    (matched : PathMatches summary (some metadata) decoded)
    (listed : ListedManifest summary decoded manifest) (task : DecodedPlanTask)
    (named : task.kind = "manifest") (stamped : task.snapshotId = decoded.snapshotId)
    (located : task.path = manifest.manifestPath) :
    PathMatches summary (some metadata) task := by
  obtain ⟨snapshot, selected, valid⟩ := matched
  obtain ⟨listKind, readable, store, manifests, opened, loaded, member⟩ := listed
  have same : snapshot.manifestList = decoded.path := by
    rcases listKind with kind | kind <;> simpa [validateDecodedPath, kind] using valid
  have nonempty : decoded.path ≠ "" := by
    rintro empty
    rw [empty, io.emptyPath] at readable
    cases readable
  have found : manifestPathMatchesLocalManifestList summary snapshot manifest.manifestPath =
      .ok true := by
    have present : manifests.any (fun other => other.manifestPath = manifest.manifestPath) =
        true := List.any_eq_true.mpr ⟨manifest, member, by simp⟩
    simp [manifestPathMatchesLocalManifestList, nonempty, same, readable, opened, loaded, present]
  refine ⟨snapshot, stamped ▸ selected, ?_⟩
  simp only [validateDecodedPath, named, located]
  split
  · simp
  · simp [found]

/-- Children of typed metadata are accepted wherever their parent is. -/
theorem typed_child_accepted (codec : PlanCodec.Documented) (io : SailIo.Documented)
    {token : String} {decoded : DecodedPlanTask} {metadata : TableMetadata FieldType}
    {summary : SailMetadataSummary}
    (inspected : inspectSailTableMetadataWithTyped table.metadata = .ok (summary, some metadata))
    (accepted : Accepted restriction table token decoded) {manifest : ManifestFile}
    (listed : ListedManifest summary decoded manifest) {required : List String} :
    ∃ child, Accepted restriction table
      (manifestScanTask (restriction.fetchRequest table required token) decoded
        manifest).planTask child := by
  refine ⟨_, accepted.carry (decodePlanTask_signedToken codec _ rfl) rfl rfl rfl ?_⟩
  intro summary' typed' again matched
  obtain ⟨rfl, rfl⟩ := Prod.mk.inj (Except.ok.inj (inspected.symm.trans again))
  exact child_pathMatches io matched listed _ rfl rfl rfl

/-- One fetch keeps acceptance, if children that are listed are accepted. -/
theorem fetch_accepted {token : String} {plan : FetchScanTasksPlan} {decoded : DecodedPlanTask}
    (accepted : Accepted restriction table token decoded)
    (fetched : fetchTableScanTasksWithCapability restriction table token = .ok plan)
    (listedAccepted : ∀ summary typed manifest required,
      inspectSailTableMetadataWithTyped table.metadata = .ok (summary, typed) →
      ListedManifest summary decoded manifest →
      ∃ child, Accepted restriction table
        (manifestScanTask (restriction.fetchRequest table required token) decoded
          manifest).planTask child) :
    ∀ task ∈ plan.planTasks, ∃ child, Accepted restriction table task.planTask child := by
  obtain ⟨required, effective, made⟩ := (bind_eq_ok _ _ _).mp fetched
  obtain ⟨summary, typed, again, inspected, read, -, -, -, children⟩ := fetchScanTasks_ok made
  obtain ⟨_, _, _, _, _, read', _⟩ := id accepted
  obtain rfl : decoded = again := Except.ok.inj (read'.symm.trans read)
  intro task member
  rcases children task member with echoed | ⟨manifest, listed, rfl⟩
  · rw [echoed]
    exact ⟨decoded, accepted⟩
  · exact listedAccepted summary typed manifest required inspected listed

/-- The run lemma: acceptance is kept along every chain of fetches. -/
theorem leadsTo_accepted
    (listedAccepted : ∀ token decoded, Accepted restriction table token decoded →
      ∀ summary typed manifest required,
        inspectSailTableMetadataWithTyped table.metadata = .ok (summary, typed) →
        ListedManifest summary decoded manifest →
        ∃ child, Accepted restriction table
          (manifestScanTask (restriction.fetchRequest table required token) decoded
            manifest).planTask child)
    {token last : String} (chain : LeadsTo restriction table token last)
    (start : ∃ decoded, Accepted restriction table token decoded) :
    ∃ decoded, Accepted restriction table last decoded := by
  induction chain with
  | self => exact start
  | fetch fetched member handed _ ih =>
      obtain ⟨decoded, accepted⟩ := start
      refine ih ?_
      rw [← handed]
      exact fetch_accepted accepted fetched (listedAccepted _ decoded accepted) _ member

end Completeness

section ExtensionMode

variable {restriction : ReadRestriction} {table : TableRecord}
  {request : ProviderScanPlanningRequest} {summary : SailMetadataSummary}

/-- Without a typed model the checks know only the manifest list of the current snapshot. -/
theorem Accepted.untyped {token : String} {decoded : DecodedPlanTask}
    (accepted : Accepted restriction table token decoded)
    (inspected : inspectSailTableMetadataWithTyped table.metadata = .ok (summary, none)) :
    summary.currentSnapshotId = some decoded.snapshotId ∧ decoded.kind = "manifest-list" ∧
      summary.manifestList = some decoded.path := by
  obtain ⟨required, other, typed, -, again, -, valid⟩ := accepted
  obtain ⟨rfl, rfl⟩ := Prod.mk.inj (Except.ok.inj (inspected.symm.trans again))
  exact ((validateDecodedPlanTask_ok _ _ _ _).mp valid).2

/-- An untyped manifest list that is read hands out one child for each manifest. -/
theorem untyped_expansion (io : SailIo.Documented) {fetch : FetchScanTasksRequest}
    {decoded : DecodedPlanTask} {store : SailIo.StoreContext} {manifests : List ManifestFile}
    (kind : decoded.kind = "manifest-list")
    (readable : SailIo.localFileUrlExists decoded.path = true)
    (opened : localStoreContext summary = .ok (some store))
    (loaded : SailIo.loadManifestList store decoded.path = .ok manifests)
    (present : manifests ≠ []) :
    expandFetchPlanTaskWithSailIo decoded summary none fetch =
      .ok (some ⟨[], [], manifests.map (manifestScanTask fetch decoded)⟩) := by
  have shaped : validateFetchTasksShape
      ⟨[], [], manifests.map (manifestScanTask fetch decoded)⟩ = .ok () := by
    simp [validateFetchTasksShape, checkEach, present, io.childrenOnly, modelCheck]
  have expanded : expandManifestListTask store decoded fetch none =
      .ok ⟨[], [], manifests.map (manifestScanTask fetch decoded)⟩ := by
    simp [expandManifestListTask, loaded, modelCheck, includedManifests, kind, manifestListFiles,
      shaped]
  simp [expandFetchPlanTaskWithSailIo, readable, opened, kind, expanded]

theorem untyped_fetch (io : SailIo.Documented) {token : String} {decoded : DecodedPlanTask}
    (accepted : Accepted restriction table token decoded)
    (inspected : inspectSailTableMetadataWithTyped table.metadata = .ok (summary, none))
    (expands : ExpandsToManifests summary decoded.path) :
    ∃ plan required manifest,
      fetchTableScanTasksWithCapability restriction table token = .ok plan ∧
      manifestScanTask (restriction.fetchRequest table required token) decoded manifest ∈
        plan.planTasks := by
  obtain ⟨-, kind, -⟩ := accepted.untyped inspected
  obtain ⟨required, other, typed, effective, again, read, valid⟩ := accepted
  obtain ⟨rfl, rfl⟩ := Prod.mk.inj (Except.ok.inj (inspected.symm.trans again))
  obtain ⟨readable, store, manifests, opened, loaded, present⟩ := expands
  obtain ⟨manifest, rest, rfl⟩ := List.exists_cons_of_ne_nil present
  let fetch := restriction.fetchRequest table required token
  let children := (manifest :: rest).map (manifestScanTask fetch decoded)
  have expanded : expandFetchPlanTaskWithSailIo decoded summary none fetch =
      .ok (some ⟨[], [], children⟩) :=
    untyped_expansion io kind readable opened loaded present
  have answered : fetchScanTasks fetch =
      .ok ⟨token, decoded.snapshotId, [], [], children, decoded.projection, decoded.filters⟩ := by
    have read' : decodePlanTask fetch.planTask = .ok decoded := read
    have inspected' : inspectSailTableMetadataWithTyped fetch.tableMetadata =
        .ok (summary, none) := inspected
    have valid' : validateDecodedPlanTask fetch summary none decoded = .ok () := valid
    simp only [fetchScanTasks, inspected', read', valid', ok_bind, expanded, Option.getD_some,
      List.map_nil, io.tokensOnly, modelCheck, pure_eq]
    rfl
  exact ⟨_, required, manifest, (bind_eq_ok _ _ _).mpr ⟨required, effective, answered⟩,
    List.mem_cons_self⟩

end ExtensionMode

section Law

variable {restriction : ReadRestriction} {table : TableRecord}
  {request : ProviderScanPlanningRequest} {plan : ScanPlan}

theorem minted_accepted (documented : SailSpec.Documented) (codec : PlanCodec.Documented)
    (fuel : Nat)
    (planned : planTableScanWithCapability fuel restriction table request = .ok plan)
    (current : TakenAsCurrent table request) :
    ∀ task ∈ plan.scanTasks, ∃ decoded, Accepted restriction table task.planTask decoded := by
  obtain ⟨projection, effective, made⟩ := (bind_eq_ok _ _ _).mp planned
  obtain ⟨required, limits, fits⟩ := ReadRestriction.effectiveProjection_fits effective
  obtain ⟨summary, typed, location, inspected, tasks⟩ := planScan_ok made
  intro task member
  cases typed with
  | some metadata =>
      obtain ⟨read, -⟩ := inspect_typed inspected
      obtain ⟨kind, snapshot, path, made⟩ := stablePlanTasks_planned
        (fun snapshot found => by
          simpa [Selectable, selectedSnapshot] using
            documented.currentSnapshot _ metadata snapshot read found)
        tasks task member
      have known : isPlanTaskKind kind = true := by
        rcases made.placed with ⟨rfl | rfl, -⟩ | ⟨rfl, -⟩ <;> rfl
      rw [made.token]
      exact minted_accepted_of_path codec limits fits inspected known _ _ fun raw =>
        planned_pathMatches made.selectable made.placed _ rfl rfl rfl
  | none =>
      rcases untypedTasks_planned tasks with ⟨-, empty⟩ |
          ⟨manifestList, snapshotId, only, listed, chosen, single, token⟩
      · rw [empty] at member
        cases member
      · rw [single] at member
        obtain rfl := List.mem_singleton.mp member
        have asCurrent : summary.currentSnapshotId = some snapshotId := by
          have chosen : request.snapshotId.or summary.currentSnapshotId = some snapshotId :=
            chosen
          cases asked : request.snapshotId with
          | none => simpa [asked] using chosen
          | some other =>
              obtain rfl : other = snapshotId := by simpa [asked] using chosen
              exact (current summary inspected manifestList listed).1 other asked
        rw [token]
        exact minted_accepted_of_path codec limits fits inspected rfl _ _ fun raw =>
          ⟨asCurrent, rfl, listed⟩

theorem listed_accepted (codec : PlanCodec.Documented) (io : SailIo.Documented)
    (current : TakenAsCurrent table request) (token : String) (decoded : DecodedPlanTask)
    (accepted : Accepted restriction table token decoded) (summary : SailMetadataSummary)
    (typed : Option (TableMetadata FieldType)) (manifest : ManifestFile)
    (required : List String)
    (inspected : inspectSailTableMetadataWithTyped table.metadata = .ok (summary, typed))
    (listed : ListedManifest summary decoded manifest) :
    ∃ child, Accepted restriction table
      (manifestScanTask (restriction.fetchRequest table required token) decoded
        manifest).planTask child := by
  cases typed with
  | some metadata => exact typed_child_accepted codec io inspected accepted listed
  | none =>
      obtain ⟨-, -, known⟩ := accepted.untyped inspected
      obtain ⟨-, readable, store, manifests, opened, loaded, member⟩ := listed
      exact absurd ⟨readable, store, manifests, opened, loaded, List.ne_nil_of_mem member⟩
        (current summary inspected decoded.path known).2

theorem takenAsCurrent_of_governed (codec : PlanCodec.Documented) (io : SailIo.Documented)
    (fuel : Nat)
    (planned : planTableScanWithCapability fuel restriction table request = .ok plan)
    (governed : GovernedScans restriction table plan) : TakenAsCurrent table request := by
  intro summary inspected manifestList listed
  obtain ⟨projection, effective, made⟩ := (bind_eq_ok _ _ _).mp planned
  obtain ⟨other, typed, location, again, tasks⟩ := planScan_ok made
  obtain ⟨rfl, rfl⟩ := Prod.mk.inj (Except.ok.inj (inspected.symm.trans again))
  obtain ⟨snapshotId, task, chosen, single, token⟩ := untypedTasks_listed tasks listed
  obtain ⟨decoded, accepted⟩ := governed.minted task (by simp [single])
  have read : decodePlanTask task.planTask = .ok decoded := by
    obtain ⟨_, _, _, _, _, read, _⟩ := accepted
    exact read
  have same : decoded = _ :=
    Except.ok.inj (read.symm.trans
      ((congrArg decodePlanTask token).trans (decodePlanTask_signedToken codec _ rfl)))
  have known := accepted.untyped inspected
  refine ⟨fun asked named => ?_, fun expands => ?_⟩
  · have chosen : request.snapshotId.or summary.currentSnapshotId = some snapshotId := chosen
    obtain rfl : asked = snapshotId := by simpa [named] using chosen
    rw [known.1, same]
    rfl
  · have atPath : decoded.path = manifestList := by
      rw [same]
      rfl
    obtain ⟨next, required, manifest, fetched, member⟩ :=
      untyped_fetch io accepted inspected (atPath ▸ expands)
    obtain ⟨child, childAccepted, -⟩ := governed.children task.planTask decoded accepted _
      (.fetch fetched member rfl (.self _))
    obtain ⟨_, _, _, _, _, childRead, _⟩ := id childAccepted
    have childSame := Except.ok.inj
      (childRead.symm.trans (decodePlanTask_signedToken codec _ rfl))
    have childKind := (childAccepted.untyped inspected).2.1
    rw [childSame] at childKind
    change "manifest" = "manifest-list" at childKind
    exact absurd childKind (by decide)

/-- A planned scan is governed at every depth of fetching exactly when the table has typed
metadata, or its manifest list is asked for as of the current snapshot and stays unexpanded. -/
theorem governedScans_iff (documented : SailSpec.Documented) (io : SailIo.Documented)
    (codec : PlanCodec.Documented) (fuel : Nat) (restriction : ReadRestriction)
    (table : TableRecord) (request : ProviderScanPlanningRequest) (plan : ScanPlan)
    (planned : planTableScanWithCapability fuel restriction table request = .ok plan) :
    GovernedScans restriction table plan ↔ TakenAsCurrent table request := by
  constructor
  · exact takenAsCurrent_of_governed codec io fuel planned
  · intro current
    refine ⟨minted_accepted documented codec fuel planned current,
      fun token decoded => accepted_staysWithin, fun token decoded accepted child chain => ?_⟩
    obtain ⟨reached, stillAccepted⟩ := leadsTo_accepted (listed_accepted codec io current) chain
      ⟨decoded, accepted⟩
    exact ⟨reached, stillAccepted, accepted_staysWithin stillAccepted⟩

end Law

end Model

section Sample

/-- No path can be read from here. -/
@[reducible] def remoteIo : @SailIo sampleSail :=
  let _ := sampleSail
  { StoreContext := Unit
    localFileUrlExists := fun _ => false
    isFileUrl := fun _ => false
    newStoreContext := fun _ => .ok ()
    loadManifestList := fun _ _ => .error "not found"
    loadManifest := fun _ _ => .error "not found"
    indexDelete := fun _ => .ok ()
    deleteApplies := fun _ _ _ => false
    positionDeleteFile := fun _ => .ok ()
    equalityDeleteFile := fun _ => .ok ()
    fetchScanTasksResult := fun _ => .ok ()
    planTableScanRequest := fun request => .ok ((request.get "snapshot-id").bind Json.asI64)
    planningResultFromValues := fun _ => .ok ()
    fetchResultFromValues := fun _ _ _ => .ok () }

theorem remoteIo_documented : @SailIo.Documented sampleSail remoteIo :=
  let _ := sampleSail
  let _ := remoteIo
  ⟨rfl, rfl, fun _ => rfl⟩

/-- A table in format 4 whose current snapshot is 42. -/
def extensionTable : TableRecord :=
  TableRecord.new ⟨⟨"local"⟩, ⟨["default"]⟩, ⟨"events"⟩⟩ "s3://lake/events"
    (some "s3://lake/events/metadata/00001.json")
    (.obj [("current-snapshot-id", .int 42), ("format-version", .int 4),
      ("snapshots", .arr [.obj [("manifest-list", .str "s3://lake/events/metadata/snap-42.avro"),
        ("snapshot-id", .int 42)]])])
    .anonymous 0

def extensionRequest (snapshotId : Option Int) : ProviderScanPlanningRequest :=
  ⟨["id", "email"], [], none, snapshotId, none, none⟩

def idOnly : ReadRestriction := ⟨some ["id"], none⟩

noncomputable def extensionPlan (snapshotId : Int) : ScanPlan :=
  let _ := modelCodec
  ⟨some snapshotId,
    [{ taskType := "manifest-list"
       table := extensionTable.ident.stableId
       snapshotId := snapshotId
       planTask := opaquePlanTaskWithFilters extensionTable.ident "manifest-list" snapshotId
         "s3://lake/events/metadata/snap-42.avro" ["id"] []
       metadataLocation := some "s3://lake/events/metadata/00001.json"
       manifestList := some "s3://lake/events/metadata/snap-42.avro"
       manifestPath := none
       content := none
       sequenceNumber := none }]⟩

theorem extensionPlan_planned :
    @planTableScanWithCapability sampleSail remoteIo modelCodec 0 idOnly extensionTable
      (extensionRequest none) = .ok (extensionPlan 42) := rfl

theorem olderPlan_planned :
    @planTableScanWithCapability sampleSail remoteIo modelCodec 0 idOnly extensionTable
      (extensionRequest (some 7)) = .ok (extensionPlan 7) := rfl

/-- Planned as of the current snapshot, the scan is governed. -/
theorem governedScans_sample :
    @GovernedScans sampleSail remoteIo modelCodec idOnly extensionTable (extensionPlan 42) := by
  let _ := sampleSail
  let _ := remoteIo
  let _ := modelCodec
  refine (governedScans_iff sampleSail_documented remoteIo_documented modelCodec_documented 0
    idOnly extensionTable (extensionRequest none) (extensionPlan 42) extensionPlan_planned).mpr ?_
  rintro summary - manifestList -
  exact ⟨nofun, fun expands => Bool.false_ne_true expands.1⟩

/-- Planned as of another snapshot, its own token is refused. -/
theorem olderSnapshot_refused :
    @planTableScanWithCapability sampleSail remoteIo modelCodec 0 idOnly extensionTable
      (extensionRequest (some 7)) = .ok (extensionPlan 7) ∧
    ¬@GovernedScans sampleSail remoteIo modelCodec idOnly extensionTable (extensionPlan 7) := by
  let _ := sampleSail
  let _ := remoteIo
  let _ := modelCodec
  refine ⟨olderPlan_planned, fun governed => ?_⟩
  have current := takenAsCurrent_of_governed modelCodec_documented remoteIo_documented 0
    olderPlan_planned governed
  have asked := (current (inspectV4ExtensionMetadata extensionTable.metadata) rfl _ rfl).1 7 rfl
  revert asked
  decide

end Sample

end LakeCat
