import LakeCat.CommitEvidence
import LakeCat.CredentialScope
import LakeCat.EventIds
import LakeCat.GrantRenewal
import LakeCat.PlanRequests
import LakeCat.PruningSound

/-!
A plan, its grant and its event describe one table, as long as the table has
the same metadata when the provider loads it as when the handler did.
-/

namespace LakeCat

open Fallible Transition

section Tasks

variable [SailSpec] [SailIo] [PlanCodec]

/-- All tasks name this metadata location. -/
def TasksOf (location : Option String) (tasks : List SailScanTask) : Prop :=
  ∀ task ∈ tasks, task.metadataLocation = location

omit [SailSpec] [SailIo] [PlanCodec] in
theorem TasksOf.append {location : Option String} {first second : List SailScanTask}
    (left : TasksOf location first) (right : TasksOf location second) :
    TasksOf location (first ++ second) :=
  List.forall_mem_append.mpr ⟨left, right⟩

omit [SailSpec] [SailIo] in
theorem manifestListScanTask_located (kind : String) (snapshot : Snapshot)
    (request : ScanPlanningRequest) (location : Option String) :
    TasksOf location [manifestListScanTask kind snapshot request location] := by
  intro task member
  rw [List.mem_singleton.mp member]
  rfl

omit [SailSpec] [SailIo] in
theorem v1Tasks_located (snapshot : Snapshot) (request : ScanPlanningRequest)
    (location : Option String) :
    TasksOf location (pushV1ManifestScanTasks snapshot request location) := by
  intro task member
  obtain ⟨path, _, rfl⟩ := List.mem_map.mp member
  rfl

omit [SailSpec] [SailIo] [PlanCodec] in
theorem tasksOf_nil (location : Option String) : TasksOf location [] := by
  intro task member
  cases member

variable {request : ScanPlanningRequest} {location : Option String} {tasks : List SailScanTask}

theorem incrementalListTask_located {store : SailIo.StoreContext} {snapshot : Snapshot}
    (planned : incrementalListTask store snapshot request location = .ok tasks) :
    TasksOf location tasks := by
  rw [incrementalListTask] at planned
  split at planned
  · cases planned
    exact tasksOf_nil location
  · split at planned
    · cases planned
    · split at planned
      · cases planned
        exact manifestListScanTask_located _ _ _ _
      · cases planned
        exact tasksOf_nil location

theorem incrementalPlanTasks_located {store : SailIo.StoreContext} (snapshots : List Snapshot)
    (planned : incrementalPlanTasksOf store request location snapshots = .ok tasks) :
    TasksOf location tasks := by
  induction snapshots generalizing tasks with
  | nil =>
      cases planned
      exact tasksOf_nil location
  | cons snapshot rest ih =>
      simp only [incrementalPlanTasksOf, bind_eq_ok, exists_unit, pure_eq,
        Except.ok.injEq] at planned
      obtain ⟨_, listed, fromList, others, later, rfl⟩ := planned
      exact ((incrementalListTask_located fromList).append (v1Tasks_located _ _ _)).append
        (ih later)

theorem manifestPlanTasks_located {fuel : Nat}
    {typed : Option (TableMetadata SailSpec.FieldType)} {summary : SailMetadataSummary}
    (planned : manifestPlanTasks fuel typed summary request location = .ok tasks) :
    TasksOf location tasks := by
  cases typed with
  | none =>
      simp only [manifestPlanTasks, v4ExtensionManifestPlanTasks, bind_eq_ok, pure_eq,
        Except.ok.injEq] at planned
      obtain ⟨_, _, snapshotId, _, rfl⟩ := planned
      cases summary.manifestList with
      | none => exact tasksOf_nil location
      | some manifestList =>
          intro task member
          rw [List.mem_singleton.mp member]
  | some metadata =>
      rw [manifestPlanTasks, stableManifestPlanTasks] at planned
      split at planned
      · simp only [incrementalManifestPlanTasks, bind_eq_ok] at planned
        obtain ⟨snapshots, _, found, _, rest⟩ := planned
        cases found with
        | none => cases rest
        | some store => exact incrementalPlanTasks_located snapshots rest
      · simp only [bind_eq_ok, pure_eq, Except.ok.injEq] at planned
        obtain ⟨snapshot, _, rfl⟩ := planned
        refine TasksOf.append ?_ (v1Tasks_located _ _ _)
        rw [pushManifestListScanTask]
        split
        · exact manifestListScanTask_located _ _ _ _
        · exact tasksOf_nil location

/-- The tasks of a plan name the metadata location that the plan was made from. -/
theorem planScan_located {fuel : Nat} {scan : ScanPlan}
    (planned : planScan fuel request = .ok scan) :
    TasksOf request.metadataLocation scan.scanTasks := by
  simp only [planScan, bind_eq_ok, exists_unit, okOr_ok, pure_eq, Except.ok.injEq,
    Prod.exists] at planned
  obtain ⟨summary, typed, _, _, _, own, located, tasks, made, _, _, _, rfl⟩ := planned
  rw [located]
  exact manifestPlanTasks_located made

theorem planTableScan_located {fuel : Nat} {restriction : ReadRestriction} {table : TableRecord}
    {provider : ProviderScanPlanningRequest} {scan : ScanPlan}
    (planned : planTableScanWithCapability fuel restriction table provider = .ok scan) :
    TasksOf table.metadataLocation scan.scanTasks := by
  simp only [planTableScanWithCapability, bind_eq_ok] at planned
  obtain ⟨projection, _, planned⟩ := planned
  exact planScan_located planned

/-- A plan reads the name of the table, its metadata and its metadata location. -/
theorem planTableScan_congr {fuel : Nat} {restriction : ReadRestriction}
    {one other : TableRecord} {provider : ProviderScanPlanningRequest}
    (named : one.ident = other.ident) (metadata : one.metadata = other.metadata)
    (located : one.metadataLocation = other.metadataLocation) :
    planTableScanWithCapability fuel restriction one provider =
      planTableScanWithCapability fuel restriction other provider := by
  have same (projection : List String) : provider.restricted restriction one projection =
      provider.restricted restriction other projection := by
    rw [ProviderScanPlanningRequest.restricted, named, metadata, located]
    rfl
  simp only [planTableScanWithCapability, same]

end Tasks

section Grants

variable [External]

/-- A grant is bound to the table that it is issued for. -/
theorem issueGovernedScanGrant_binds {catalogIdentity : String}
    {capability : TableScanCapability} {table : TableRecord} {scan : PlannedScan}
    {requested effective : List String} {now : Timestamp} {grant : GovernedScanGrant}
    (issued : issueGovernedScanGrant catalogIdentity capability table scan requested effective now =
      .ok (some grant)) :
    grant.proof.tableVersion = table.version ∧
      currentSnapshotId table = some grant.proof.snapshotId ∧
      grant.tableMetadataDigest = governedEvidenceDigest tableMetadataDomain table.metadata := by
  rw [issueGovernedScanGrant] at issued
  split at issued
  · cases issued
  · simp only [bind_eq_ok, exists_unit, rejectIf_ok, not_not] at issued
    obtain ⟨snapshotId, _, current, issued⟩ := issued
    rw [withVerifiedIdentity.eq_def] at issued
    split at issued
    next =>
      simp only [issueVerified, GovernedScanProof.issue, bind_eq_ok, exists_unit, pure_eq,
        Except.ok.injEq, Option.some.injEq] at issued
      obtain ⟨proof, ⟨_, rfl⟩, _, rfl⟩ := issued
      exact ⟨rfl, current, rfl⟩
    next =>
      split at issued <;> cases issued
    next => cases issued

omit [External] in
/-- A grant with the same stable evidence is bound to the same table. -/
theorem sameStableEvidence_binds {one other : GovernedScanGrant}
    (same : one = other ∨ one.hasSameStableEvidence other = true) :
    one.proof = other.proof ∧ one.tableMetadataDigest = other.tableMetadataDigest := by
  rcases same with rfl | same
  · exact ⟨rfl, rfl⟩
  · simp only [GovernedScanGrant.hasSameStableEvidence, Bool.and_eq_true,
      decide_eq_true_eq] at same
    exact ⟨same.1.1.1.1.1.1.1, same.2⟩

end Grants

section Event

variable [External] {table : TableRecord} {capability : TableScanCapability} {scan : ScanPlan}
  {extensions : Json} {proof : Option GovernedScanProof} {now : Timestamp}

/-- A field that no restriction, no extension and no proof writes. -/
theorem scanPlannedEvent_get {key : String}
    (own : key ∉ ["requested-projection", "effective-projection", "requested-stats-fields",
      "effective-stats-fields", "read-restriction", "required-projection", "required-filters",
      "governed-scan-proof"]) :
    (scanPlannedEvent table capability scan extensions proof now).payload.get key =
      (Json.object [("event-type", .str "table.scan-planned"),
        ("table", capability.table.toJson), ("authorization-receipt", capability.receipt.toJson),
        ("planned-by", .str sailRestModels), ("snapshot-id", Json.ofOption .int scan.snapshotId),
        ("scan-task-count", .int scan.scanTasks.length),
        ("storage-location", .str table.location),
        ("metadata-location", ofOptionStr table.metadataLocation)]).get key := by
  simp only [List.mem_cons, List.not_mem_nil, or_false, not_or] at own
  obtain ⟨requested, effective, requestedStats, effectiveStats, restriction, required, filters,
    proven⟩ := own
  have payload : (tableScanPlannedAuditPayload capability.table table capability scan
      extensions).isObject = true :=
    copyFields_shape _ _ _ (appendReadRestriction_shape _ _ _ rfl)
  have kept : (withGovernedScanProof (tableScanPlannedAuditPayload capability.table table
      capability scan extensions) proof).get key = (tableScanPlannedAuditPayload capability.table
        table capability scan extensions).get key := by
    cases proof with
    | none => rfl
    | some proof => rw [withGovernedScanProof, Json.get_set _ _ _ _ payload, if_neg proven]
  rw [scanPlannedEvent, CatalogAuditEvent.new, kept, tableScanPlannedAuditPayload,
    auditPayload_get, if_neg (by simp [requested, effective, requestedStats, effectiveStats]),
    restrictionFields, Json.get_object]
  split
  · rfl
  · split <;> simp [effective, restriction, required, filters]

end Event

section Runs

variable [External] [SailSpec] [SailIo] [PlanCodec]

/-- The table that a request holds was stored while it was handled. -/
def PlanRun.Holds (run : PlanRun) (capability : TableScanCapability) (table : TableRecord) : Prop :=
  capability.table = run.call.ident ∧
    ∃ store ∈ run.during, store.loadTable run.call.ident = .ok table

/-- The plan and the grant that a request holds were made from the table that it holds. -/
structure MadeFrom (fuel : Nat) (capability : TableScanCapability) (table : TableRecord)
    (planned : PlannedRequest) (scan : ScanPlan) (grant : Option GovernedScanGrant) : Prop where
  planned : planTableScanWithCapability fuel capability.restriction.toReadRestriction table
    planned.normalized.toProvider = .ok scan
  granted : ∀ own, grant = some own → own.proof.tableVersion = table.version ∧
    currentSnapshotId table = some own.proof.snapshotId ∧
    own.tableMetadataDigest = governedEvidenceDigest tableMetadataDomain table.metadata

/-- What holds of a request at each stage. -/
def PlanRun.Sound (fuel : Nat) (run : PlanRun) : Prop :=
  match run.stage with
  | .asked => True
  | .authorized capability => capability.table = run.call.ident
  | .loaded capability table => run.Holds capability table
  | .issued capability table planned scan grant | .saved capability table planned scan grant =>
      run.Holds capability table ∧ MadeFrom fuel capability table planned scan grant
  | .finished (.ok answer) => run.DescribesOneState fuel answer
  | .finished (.error _) => True

/-- A request that has not finished sees the store as it is. -/
def PlanRun.Watches (run : PlanRun) (store : MemoryState) : Prop :=
  run.stage.isFinished = false → store ∈ run.during

variable {fuel : Nat}

omit [External] [PlanCodec] [SailIo] [SailSpec] in
theorem seeing_watches (run : PlanRun) (store : MemoryState) : (run.seeing store).Watches store := by
  intro unfinished
  rw [PlanRun.seeing] at unfinished ⊢
  split
  next finished =>
    rw [if_pos finished, finished] at unfinished
    cases unfinished
  next => exact List.mem_append_right _ (List.mem_singleton.mpr rfl)

omit [External] [PlanCodec] [SailIo] [SailSpec] in
theorem seeing_fields (run : PlanRun) (store : MemoryState) :
    (run.seeing store).call = run.call ∧ (run.seeing store).stage = run.stage ∧
      ∀ seen ∈ run.during, seen ∈ (run.seeing store).during := by
  rw [PlanRun.seeing]
  split
  · exact ⟨rfl, rfl, fun _ member => member⟩
  · exact ⟨rfl, rfl, fun _ member => List.mem_append_left _ member⟩

omit [External] [PlanCodec] [SailIo] [SailSpec] in
theorem PlanRun.Holds.seeing {run : PlanRun} {capability : TableScanCapability}
    {table : TableRecord} (holds : run.Holds capability table) (store : MemoryState) :
    (run.seeing store).Holds capability table := by
  obtain ⟨call, _, kept⟩ := seeing_fields run store
  obtain ⟨own, seen, member, loaded⟩ := holds
  rw [PlanRun.Holds, call]
  exact ⟨own, seen, kept seen member, loaded⟩

/-- Seeing another store takes nothing away. -/
theorem PlanRun.Sound.seeing {run : PlanRun} (sound : run.Sound fuel) (store : MemoryState) :
    (run.seeing store).Sound fuel := by
  obtain ⟨call, stage, kept⟩ := seeing_fields run store
  rw [PlanRun.Sound] at sound ⊢
  rw [stage]
  cases held : run.stage with
  | asked => trivial
  | authorized capability =>
      rw [held] at sound
      exact call ▸ sound
  | loaded capability table =>
      rw [held] at sound
      exact PlanRun.Holds.seeing sound store
  | issued capability table planned scan grant =>
      rw [held] at sound
      exact ⟨sound.1.seeing store, sound.2⟩
  | saved capability table planned scan grant =>
      rw [held] at sound
      exact ⟨sound.1.seeing store, sound.2⟩
  | finished answer =>
      rw [held] at sound
      cases answer with
      | error error => trivial
      | ok answer =>
          obtain ⟨seen, member, table, loaded, described⟩ := sound
          exact ⟨seen, kept seen member, table, call ▸ loaded, described⟩

theorem attempt_sound {call : PlanningCall} {during : List MemoryState} {α : Type}
    {result : LakeCatResult α} {next : α → PlanStage}
    (each : ∀ value, result = .ok value → PlanRun.Sound fuel ⟨call, next value, during⟩) :
    PlanRun.Sound fuel ⟨call, PlanStage.attempt result next, during⟩ := by
  cases result with
  | error error => trivial
  | ok value => exact each value rfl

omit [PlanCodec] [SailIo] [SailSpec] in
theorem authorizeTableScan_table {state : LakeCatState} {store : MemoryState}
    {identity : RequestIdentity} {ident : TableIdent} {now : Timestamp}
    {capability : TableScanCapability}
    (authorized : authorizeTableScan state store identity ident now = .ok capability) :
    capability.table = ident := by
  simp only [authorizeTableScan, bind_eq_ok] at authorized
  obtain ⟨receipt, _, made⟩ := authorized
  exact (fromReceipt_ok.mp made).2

/-- The plan of the second table is the plan of the first, if they have the same metadata. -/
theorem planAndIssue_madeFrom {catalogIdentity : String} {store : MemoryState}
    {capability : TableScanCapability} {table : TableRecord} {request : PlanTableScanRequest}
    {now : Timestamp} {planned : PlannedRequest} {scan : ScanPlan}
    {grant : Option GovernedScanGrant} (named : table.ident = capability.table)
    (reread : ∀ record, store.loadTable capability.table = .ok record →
      record.metadata = table.metadata ∧ record.metadataLocation = table.metadataLocation)
    (done : planAndIssue fuel catalogIdentity store capability table request now =
      .ok (planned, scan, grant)) :
    MadeFrom fuel capability table planned scan grant := by
  simp only [planAndIssue, bind_eq_ok, pure_eq, Except.ok.injEq, Prod.mk.injEq] at done
  obtain ⟨normalized, _, projection, _, record, loaded, _, made, _, issued, rfl, rfl, rfl⟩ := done
  obtain ⟨metadata, located⟩ := reread record loaded
  have owner := ((MemoryState.loadTable_ok _ _ _).mp loaded).2.2.2
  constructor
  · rw [← planTableScan_congr (owner.trans named.symm) metadata located]
    exact made
  · intro own same
    rw [same] at issued
    exact issueGovernedScanGrant_binds issued

theorem saved_described {capability : TableScanCapability} {table : TableRecord}
    {planned : PlannedRequest} {scan : ScanPlan} {grant : Option GovernedScanGrant}
    (made : MadeFrom fuel capability table planned scan grant) (now : Timestamp) :
    DescribesOne fuel table ⟨capability, planned, scan, grant,
      planned.event capability table scan grant now⟩ where
  planned := made.planned
  tasks := planTableScan_located made.planned
  granted := made.granted
  location := by
    rw [PlannedRequest.event, scanPlannedEvent_get (by decide), Json.get_object]
    rfl
  version := by
    rw [PlannedRequest.event, scanPlannedEvent_get (by decide), Json.get_object]
    intro value found
    cases found
  graph := by
    rw [PlannedRequest.event, scanPlannedEvent_get (by decide), Json.get_object]
    intro value found
    cases found

/-- One call of a request on the store keeps what holds of it. -/
theorem next_sound {state : LakeCatState} {run : PlanRun} {store : MemoryState} {now : Timestamp}
    (sound : run.Sound fuel) (watches : run.Watches store)
    (reread : ∀ capability table, run.stage = .loaded capability table → ∀ record,
      store.loadTable capability.table = .ok record →
        record.metadata = table.metadata ∧ record.metadataLocation = table.metadataLocation) :
    PlanRun.Sound fuel
      { run with stage := (run.stage.next fuel state run.call store now).1 } := by
  obtain ⟨call, stage, during⟩ := run
  cases stage with
  | asked =>
      refine attempt_sound fun capability authorized => ?_
      exact authorizeTableScan_table authorized
  | authorized capability =>
      have own : capability.table = call.ident := sound
      refine attempt_sound fun table loaded => ⟨own, store, watches rfl, ?_⟩
      exact own ▸ loaded
  | loaded capability table =>
      obtain ⟨own, seen, member, found⟩ := sound
      have named : table.ident = capability.table :=
        ((MemoryState.loadTable_ok _ _ _).mp found).2.2.2.trans own.symm
      refine attempt_sound fun result done => ⟨⟨own, seen, member, found⟩, ?_⟩
      exact planAndIssue_madeFrom named (reread capability table rfl) done
  | issued capability table planned scan grant =>
      cases grant with
      | none => exact sound
      | some grant =>
          simp only [PlanStage.next]
          cases saved : store.saveGovernedScanGrant grant with
          | error error => trivial
          | ok result =>
              obtain ⟨kept, next⟩ := result
              obtain ⟨_, _, _, _, same⟩ := MemoryState.saveGovernedScanGrant_ok _ _ _ _ saved
              obtain ⟨proof, digest⟩ := sameStableEvidence_binds same
              refine ⟨sound.1, sound.2.planned, fun own same => ?_⟩
              obtain rfl := Option.some.inj same
              rw [proof, digest]
              exact sound.2.granted grant rfl
  | saved capability table planned scan grant =>
      simp only [PlanStage.next]
      cases store.recordAuditEvent (planned.event capability table scan grant now) with
      | error error => trivial
      | ok result =>
          obtain ⟨⟨_, seen, member, found⟩, made⟩ := sound
          exact ⟨seen, member, table, found, saved_described made now⟩
  | finished answer => exact sound

/-- Every request is sound, and sees the store as it is while it runs. -/
structure PlanSystem.Sound (fuel : Nat) (system : PlanSystem) : Prop where
  sound : ∀ client run, system.requests client = some run → run.Sound fuel
  watches : ∀ client run, system.requests client = some run → run.Watches system.store

omit [External] [PlanCodec] [SailIo] [SailSpec] in
theorem update_cases {requests : Nat → Option PlanRun} {client other : Nat} {run held : PlanRun}
    (found : Function.update requests client (some run) other = some held) :
    other = client ∧ held = run ∨ requests other = some held := by
  by_cases same : other = client
  · subst same
    rw [Function.update_self] at found
    exact .inl ⟨rfl, (Option.some.inj found).symm⟩
  · rw [Function.update_of_ne same] at found
    exact .inr found

theorem seen_sound {store : MemoryState} {requests : Nat → Option PlanRun}
    (each : ∀ client run, requests client = some run → run.Sound fuel) :
    (PlanSystem.seen store requests).Sound fuel := by
  constructor
  · intro client run held
    obtain ⟨before, asked, rfl⟩ := Option.map_eq_some_iff.mp held
    exact (each client before asked).seeing store
  · intro client run held
    obtain ⟨before, _, rfl⟩ := Option.map_eq_some_iff.mp held
    exact seeing_watches before store

theorem planStep_sound (state : LakeCatState) (system : PlanSystem) (action : PlanStep)
    (sound : system.Sound fuel) (allowed : system.RereadsSameMetadata action) :
    (system.step fuel state action).Sound fuel := by
  cases action with
  | ask client call =>
      rw [PlanSystem.step]
      split
      · exact sound
      · constructor
        · intro other run held
          rcases update_cases held with ⟨_, rfl⟩ | before
          · trivial
          · exact sound.sound other run before
        · intro other run held
          rcases update_cases held with ⟨_, rfl⟩ | before
          · exact fun _ => List.mem_singleton.mpr rfl
          · exact sound.watches other run before
  | advance client now =>
      rw [PlanSystem.step]
      split
      · exact sound
      next run asked =>
        refine seen_sound fun other moved held => ?_
        rcases update_cases held with ⟨_, rfl⟩ | before
        · exact next_sound (sound.sound client run asked) (sound.watches client run asked)
            fun capability table stage => allowed run capability table asked stage
        · exact sound.sound other moved before
  | other op => exact seen_sound sound.sound

/-- Whenever a plan request succeeds, one table that was stored while it was handled is described
by its plan, its grant and its event, if each provider finds the metadata that its handler found. -/
theorem plans_describeOneState (fuel : Nat) (state : LakeCatState) (store : MemoryState)
    (steps : List PlanStep)
    (reread : Along (PlanSystem.step fuel state) PlanSystem.RereadsSameMetadata
      (PlanSystem.idle store) steps) (client : Nat) (run : PlanRun) (answer : PlanAnswer)
    (asked : ((PlanSystem.idle store).run fuel state steps).requests client = some run)
    (answered : run.stage = .finished (.ok answer)) : run.DescribesOneState fuel answer := by
  have initial : (PlanSystem.idle store).Sound fuel := by
    constructor
    · intro client run held
      cases held
    · intro client run held
      cases held
  have sound := (run_invariant_along (PlanSystem.step fuel state) PlanSystem.RereadsSameMetadata
    (PlanSystem.Sound fuel) (planStep_sound state) (PlanSystem.idle store) steps initial
    reread).sound client run asked
  rw [PlanRun.Sound, answered] at sound
  exact sound

omit [External] [PlanCodec] [SailIo] [SailSpec] in
instance (system : PlanSystem) (action : PlanStep) :
    Decidable (system.RereadsSameMetadata action) :=
  match action with
  | .ask .. | .other _ => isTrue trivial
  | .advance client now =>
      match held : system.requests client with
      | none => isTrue fun run _ _ asked => by
          rw [held] at asked
          cases asked
      | some run =>
          match stage : run.stage with
          | .loaded capability table =>
              match loaded : system.store.loadTable capability.table with
              | .error error => isTrue fun other capability' table' asked stage' record found => by
                  cases held.symm.trans asked
                  cases stage.symm.trans stage'
                  cases loaded.symm.trans found
              | .ok record =>
                  decidable_of_iff
                    (record.metadata = table.metadata ∧
                      record.metadataLocation = table.metadataLocation) (by
                    constructor
                    · intro same other capability' table' asked stage' found loaded'
                      cases held.symm.trans asked
                      cases stage.symm.trans stage'
                      cases loaded.symm.trans loaded'
                      exact same
                    · intro each
                      exact each run capability table held stage record loaded)
          | .asked | .authorized _ | .issued .. | .saved .. | .finished _ =>
              isTrue fun other capability table asked stage' => by
                cases held.symm.trans asked
                cases stage.symm.trans stage'

end Runs

section Samples

/-- A digest of the fifth character of a text, or, for an event, of what it records. -/
@[reducible] def placedExternal : External :=
  { lakeExternal with
    sha256 := fun text => markDigest (if text.toList.getD 4 ' ' = 'd' then
      if text.toList.getD 31 ' ' = 'a' then 't' else 'd' else text.toList.getD 4 ' ') }

@[reducible] def scanIo : @SailIo sampleSail :=
  let _ := sampleSail
  { StoreContext := Unit
    localFileUrlExists := fun _ => false
    isFileUrl := fun _ => true
    newStoreContext := fun _ => .ok ()
    loadManifestList := fun _ path => .error path
    loadManifest := fun _ path => .error path
    indexDelete := fun _ => .ok ()
    deleteApplies := fun _ _ _ => false
    positionDeleteFile := fun _ => .ok ()
    equalityDeleteFile := fun _ => .ok ()
    fetchScanTasksResult := fun _ => .ok ()
    planTableScanRequest := fun request => .ok ((request.get "snapshot-id").bind Json.asI64)
    planningResultFromValues := fun _ => .ok ()
    fetchResultFromValues := fun _ _ _ => .ok () }

/-- Tokens without a payload: nothing here reads them. -/
@[reducible] def scanCodec : PlanCodec where
  configuredKey := none
  hmacSha256 _ _ := []
  hexEncode _ := ""
  hexDecode _ := some []
  toVec _ := []
  fromSlice _ := .error "missing payload"

def ownedMetadata (owner : String) : Json :=
  .obj [("current-snapshot-id", .int 1), ("format-version", .int 4),
    ("properties", .obj [("owner", .str owner)]),
    ("snapshots", .arr [.obj [("manifest-list", .str "file:///lake/orders/metadata/snap-1.avro"),
      ("snapshot-id", .int 1)]])]

def ownedTable : TableRecord :=
  .new sampleIdent "file:///lake/orders" (some "file:///lake/orders/metadata/1.json")
    (ownedMetadata "ada") .anonymous 0

/-- A commit of a property, which keeps the snapshot. -/
def ownerCommit : TableCommit :=
  { sampleCommit with
    expectedPreviousMetadataLocation := some "file:///lake/orders/metadata/1.json"
    newMetadataLocation := some "file:///lake/orders/metadata/2.json"
    newMetadata := some (ownedMetadata "grace") }

def idRequest : PlanTableScanRequest where
  projection := []
  select := ["id"]
  filters := []
  filter := none
  limit := none
  snapshotId := none
  caseSensitive := none
  useSnapshotSchema := none
  startSnapshotId := none
  endSnapshotId := none
  statsFields := ["id"]

variable [External] [SailSpec] [SailIo] [PlanCodec]

/-- The table with these policies of its warehouse. -/
def ownedStore (policies : List PolicyBinding) : MemoryState :=
  MemoryState.empty.run ([.createNamespace sampleIdent.warehouse sampleIdent.ns .default,
    .createTable ownedTable] ++ policies.map .upsertPolicyBinding)

/-- One request up to the table that its handler loads, and on to its event. -/
def requestStart : List PlanStep :=
  [.ask 0 ⟨auditIdentity, sampleIdent, idRequest⟩, .advance 0 0, .advance 0 0]

def requestRest : List PlanStep := [.advance 0 0, .advance 0 0]

def oneRequest (between : List PlanStep) : List PlanStep :=
  requestStart ++ between ++ requestRest ++ [.advance 0 0]

def oneRun (policies : List PolicyBinding) (steps : List PlanStep) : Option PlanRun :=
  ((PlanSystem.idle (ownedStore policies)).run 0 (auditState .allowAll) steps).requests 0

/-- The request succeeds with a grant. -/
def grantedRun (run : PlanRun) : Bool :=
  match run.stage with
  | .finished (.ok answer) => answer.grant.isSome
  | _ => false

omit [External] [SailSpec] [SailIo] [PlanCodec] in
theorem grantedRun_answer {run : PlanRun} (granted : grantedRun run = true) :
    ∃ answer, run.stage = .finished (.ok answer) ∧ answer.grant.isSome = true := by
  rw [grantedRun] at granted
  split at granted
  next answer stage => exact ⟨answer, stage, granted⟩
  next => cases granted

omit [External] [SailSpec] [SailIo] [PlanCodec] in
theorem plans_describeOneState_undisturbed :
    ∃ (_ : External) (_ : SailSpec) (_ : SailIo) (_ : PlanCodec) (run : PlanRun)
      (answer : PlanAnswer),
      oneRun [auditBinding] (oneRequest []) = some run ∧
        run.stage = .finished (.ok answer) ∧ answer.grant.isSome = true ∧
        run.DescribesOneState 0 answer := by
  let _ := lakeExternal
  let _ := sampleSail
  let _ := scanIo
  let _ := scanCodec
  have passed : (oneRun [auditBinding] (oneRequest [])).any
      grantedRun = true := by decide +kernel
  obtain ⟨run, ran, granted⟩ := (Option.any_eq_true _ _).mp passed
  obtain ⟨answer, stage, grant⟩ := grantedRun_answer granted
  exact ⟨lakeExternal, sampleSail, scanIo, scanCodec, run, answer, ran, stage, grant,
    plans_describeOneState 0 (auditState .allowAll) (ownedStore [auditBinding])
      (oneRequest []) (by decide +kernel) 0 run answer ran stage⟩

end Samples

section Digests

/-- The digest of an event shows the digest of what it records. -/
theorem compact_recordedMark (mark : Char) (plain : Json.escapeChar mark = [mark])
    (rest : List (String × Json)) :
    (Json.obj (("audit-event-id", .str ("sha256:" ++ String.ofList (List.replicate 64 mark))) ::
      rest)).compact.toList.getD 31 ' ' = mark := by
  obtain ⟨more, joined⟩ := joinText_cons (Json.quote "audit-event-id" ++ ":" ++
    (Json.str ("sha256:" ++ String.ofList (List.replicate 64 mark))).compact)
    (Json.compactFields rest)
  have key : "audit-event-id".toList.flatMap Json.escapeChar = "audit-event-id".toList := by decide
  have label : "sha256:".toList.flatMap Json.escapeChar = "sha256:".toList := by decide
  have digits : (List.replicate 64 mark).flatMap Json.escapeChar = List.replicate 64 mark := by
    simp [plain]
  rw [Json.compact, Json.compactFields, String.toList_append, String.toList_append, joined,
    String.toList_append, String.toList_append, Json.compact, Json.quote, Json.quote]
  simp only [String.toList_append, String.toList_ofList, List.flatMap_append, key, label, digits]
  rfl

theorem placedExternal_plain {key : String} {first second third : Char} {others : List Char}
    (chars : key.toList = first :: second :: third :: others)
    (plain : [first, second, third].flatMap Json.escapeChar = [first, second, third])
    (other : third ≠ 'd') (value : Json) (rest : List (String × Json)) :
    @contentHashJson placedExternal (.obj ((key, value) :: rest)) =
      "sha256:" ++ (markDigest third).text := by
  change "sha256:" ++ (markDigest (if _ = 'd' then _ else _)).text = _
  rw [compact_mark chars plain, if_neg other]

theorem placedExternal_event (mark : Char) (plain : Json.escapeChar mark = [mark])
    (rest : List (String × Json)) :
    @contentHashJson placedExternal (.obj (("audit-event-id",
      .str ("sha256:" ++ String.ofList (List.replicate 64 mark))) :: rest)) =
      "sha256:" ++ (markDigest (if mark = 'a' then 't' else 'd')).text := by
  change "sha256:" ++ (markDigest (if _ = 'd' then _ else _)).text = _
  rw [compact_mark (by rfl : "audit-event-id".toList = 'a' :: 'u' :: 'd' :: _) (by decide),
    if_pos rfl, compact_recordedMark mark plain]

theorem commitAuditPayload_fields [External] (ident : TableIdent) (record : TableCommitRecord)
    (receipt : Option Json) : ∃ value rest, MemoryState.commitAuditPayload ident record receipt =
      .obj (("authorization-receipt", value) :: rest) := by
  have table : compare "table" "event-type" = .gt := by decide
  have commit : compare "commit" "event-type" = .lt := by decide
  have later : compare "authorization-receipt" "commit" = .lt := by decide
  simp [MemoryState.commitAuditPayload, Json.object, Json.insertField, table, commit, later]

theorem commitOutboxPayload_fields [External] (ident : TableIdent) (record : TableCommitRecord)
    (receipt : Option Json) : ∃ rest, MemoryState.commitOutboxPayload ident record receipt =
      .obj (("audit-event-id", .str (contentHashJson
        (MemoryState.commitAuditPayload ident record receipt))) :: rest) := by
  have eventType : compare "event-type" "audit-event-id" = .gt := by decide
  have table : compare "table" "audit-event-id" = .gt := by decide
  have commit : compare "commit" "audit-event-id" = .gt := by decide
  have authorization : compare "authorization-receipt" "audit-event-id" = .gt := by decide
  simp [MemoryState.commitOutboxPayload, Json.object, Json.insertField, eventType, table, commit,
    authorization]

/-- The digests of the event of a commit and of an event of a request differ. -/
theorem commit_request_distinct (ident : TableIdent) (record : TableCommitRecord)
    (receipt : Option Json) (event : CatalogAuditEvent) :
    @contentHashJson placedExternal
        (@MemoryState.commitOutboxPayload placedExternal ident record receipt) ≠
      @contentHashJson placedExternal (@auditOutboxPayload
        (@auditEventId placedExternal event) event) := by
  let _ := placedExternal
  obtain ⟨receiptValue, _, auditFields⟩ := commitAuditPayload_fields ident record receipt
  obtain ⟨created, _, documentFields⟩ := auditDocument_fields event
  obtain ⟨_, commitFields⟩ := commitOutboxPayload_fields ident record receipt
  obtain ⟨_, eventFields⟩ := auditOutboxPayload_fields (auditEventId event) event
  have audited := placedExternal_plain
    (by rfl : "authorization-receipt".toList = 'a' :: 'u' :: 't' :: _) (by decide) (by decide)
    receiptValue
  have documented := placedExternal_plain
    (by rfl : "created-at".toList = 'c' :: 'r' :: 'e' :: _) (by decide) (by decide) created
  rw [auditFields, audited] at commitFields
  have eventId : auditEventId event = "sha256:" ++ (markDigest 'e').text := by
    rw [← documented, ← documentFields]
    rfl
  rw [eventId] at eventFields
  rw [eventId, commitFields, eventFields]
  have committed := placedExternal_event 'a' (by decide)
  have requested := placedExternal_event 'c' (by decide)
  intro same
  exact absurd ((committed _).symm.trans (same.trans (requested _))) (by decide)

end Digests

section Disturbed

variable [External] [SailSpec] [SailIo] [PlanCodec]

omit [SailIo] [PlanCodec] [SailSpec] in
theorem saved_location (capability : TableScanCapability) (table : TableRecord)
    (planned : PlannedRequest) (scan : ScanPlan) (grant : Option GovernedScanGrant)
    (now : Timestamp) :
    (planned.event capability table scan grant now).payload.get "metadata-location" =
      some (ofOptionStr table.metadataLocation) := by
  rw [PlannedRequest.event, scanPlannedEvent_get (by decide), Json.get_object]
  rfl

omit [SailIo] [PlanCodec] [SailSpec] in
theorem plannedEvent_recordable {capability : TableScanCapability} {table : TableRecord}
    {planned : PlannedRequest} {scan : ScanPlan} {grant : Option GovernedScanGrant}
    {now : Timestamp} {event : CatalogAuditEvent}
    (made : event = planned.event capability table scan grant now)
    (principal : validateAuditPayloadAuthorizationPrincipal event.payload event.principal = .ok ())
    (identity : checkSome (validateAuditPayloadTableScope event.payload) event.table = .ok ()) :
    event.validateRecordable = .ok () := by
  have typed : event.payload.get "event-type" = some (.str "table.scan-planned") := by
    rw [made, PlannedRequest.event, scanPlannedEvent_get (by decide), Json.get_object]
    rfl
  have named : event.eventType = "table.scan-planned" := by rw [made]; rfl
  have hashed : event.requestHash = some (contentHashJson event.payload) := by rw [made]; rfl
  have same (text : String) : ¬text ≠ text := fun apart => apart rfl
  simp only [CatalogAuditEvent.validateRecordable, typed, named, hashed, principal, identity,
    Option.bind_some, Json.asStr, okOr, ok_bind, rejectIf_neg, same, not_false_eq_true]
  rfl

/-- The request has planned and holds an event that can be recorded. The tasks and the event do
not both have the metadata location of a stored table. -/
def savedApart (run : PlanRun) : Bool :=
  match run.stage with
  | .saved capability table planned scan grant =>
      let event := planned.event capability table scan grant 0
      validateAuditPayloadAuthorizationPrincipal event.payload event.principal = .ok () &&
        checkSome (validateAuditPayloadTableScope event.payload) event.table = .ok () &&
          run.during.all fun store =>
            match store.loadTable run.call.ident with
            | .ok own =>
                !(scan.scanTasks.all (fun task => task.metadataLocation = own.metadataLocation) &&
                  table.metadataLocation = own.metadataLocation)
            | .error _ => true
  | _ => false

theorem apart_undescribed {fuel : Nat} {run : PlanRun} {answer : PlanAnswer}
    {location : Option String}
    (event : answer.event.payload.get "metadata-location" = some (ofOptionStr location))
    (apart : (run.during.all fun store =>
      match store.loadTable run.call.ident with
      | .ok own =>
          !(answer.scan.scanTasks.all (fun task => task.metadataLocation = own.metadataLocation) &&
            location = own.metadataLocation)
      | .error _ => true) = true) :
    ¬run.DescribesOneState fuel answer := by
  rintro ⟨store, member, table, loaded, described⟩
  have here := List.all_eq_true.mp apart store member
  simp only [loaded, Bool.not_eq_true', Bool.and_eq_false_iff] at here
  rcases here with tasks | other
  · have all : answer.scan.scanTasks.all (fun task =>
        decide (task.metadataLocation = table.metadataLocation)) = true :=
      List.all_eq_true.mpr fun task own => decide_eq_true (described.tasks task own)
    rw [all] at tasks
    cases tasks
  · exact of_decide_eq_false other
      (ofOptionStr_injective (Option.some.inj (event.symm.trans described.location)))

/-- A step that leaves the store as it is. -/
def PlanSystem.reads (system : PlanSystem) : PlanStep → Bool
  | .ask .. => true
  | .advance client _ => (system.requests client).all fun run =>
      match run.stage with
      | .asked | .authorized _ | .loaded .. | .finished _ => true
      | .issued _ _ _ _ grant => grant.isNone
      | .saved .. => false
  | .other _ => false

theorem run_reads {fuel : Nat} {state : LakeCatState} (system : PlanSystem)
    (steps : List PlanStep)
    (reading : Along (PlanSystem.step fuel state) (fun system action => system.reads action = true)
      system steps) : (system.run fuel state steps).store = system.store := by
  refine run_invariant_along (PlanSystem.step fuel state) _
    (fun reached => reached.store = system.store) ?_ _ _ rfl reading
  intro reached action same reads
  rw [← same]
  cases action with
  | ask client call =>
      rw [PlanSystem.step]
      split <;> rfl
  | advance client now =>
      rw [PlanSystem.step]
      split
      · rfl
      next run held =>
        simp only [PlanSystem.reads, held, Option.all_some] at reads
        change (PlanStage.next _ _ _ _ _ run.stage).2 = _
        cases stage : run.stage with
        | issued capability table planned scan grant =>
            cases grant with
            | none => rfl
            | some grant =>
                rw [stage] at reads
                cases reads
        | saved capability table planned scan grant =>
            rw [stage] at reads
            cases reads
        | asked | authorized _ | loaded _ _ | finished _ => rfl
  | other op => cases reads

/-- Its last call succeeds if no earlier event has the digest of its event. -/
theorem savedApart_finishes {system : PlanSystem} {run : PlanRun}
    (held : system.requests 0 = some run) (apart : savedApart run = true)
    (fresh : ∀ event, ∀ other ∈ system.store.outboxEvents,
      other.eventId ≠ (MemoryState.auditOutbox event).eventId) :
    ∃ finished answer, (system.step 0 (auditState .allowAll) (.advance 0 0)).requests 0 =
      some finished ∧ finished.stage = .finished (.ok answer) ∧
        ¬finished.DescribesOneState 0 answer := by
  rw [savedApart] at apart
  split at apart
  next capability table planned scan grant stage =>
    rw [Bool.and_eq_true, Bool.and_eq_true, decide_eq_true_eq, decide_eq_true_eq] at apart
    obtain ⟨⟨principal, identity⟩, apart⟩ := apart
    have recordable := plannedEvent_recordable rfl principal identity
    have recorded := (MemoryState.recordAuditEvent_ok system.store _ _ ()).mpr
      ⟨recordable, fresh _, rfl⟩
    let answer : PlanAnswer := ⟨capability, planned, scan, grant,
      planned.event capability table scan grant 0⟩
    refine ⟨{ run with stage := .finished (.ok answer) }, answer, ?_, rfl,
      apart_undescribed (saved_location capability table planned scan grant 0) apart⟩
    simp only [PlanSystem.step, held, stage, PlanStage.next, recorded, PlanSystem.seen,
      Function.update_self, Option.map_some, PlanRun.seeing, PlanStage.isFinished, if_pos, answer]
  next => cases apart

end Disturbed

section Systems

variable [External] [SailSpec] [SailIo] [PlanCodec]

/-- The system after the handler's load, after a commit, and before the last call. -/
def loadedSystem : PlanSystem :=
  (PlanSystem.idle (ownedStore [])).run 0 (auditState .allowAll) requestStart

def disturbedSystem : PlanSystem :=
  PlanSystem.seen ((ownedStore []).committed sampleIdent ownerCommit 0 ownedTable)
    loadedSystem.requests

def plannedSystem : PlanSystem :=
  disturbedSystem.run 0 (auditState .allowAll) requestRest

end Systems

/-- The tasks and the event name different metadata after a commit between the two loads. -/
theorem commitBetweenLoads_undescribed :
    ∃ (_ : External) (_ : SailSpec) (_ : SailIo) (_ : PlanCodec) (run : PlanRun)
      (answer : PlanAnswer),
      oneRun [] (oneRequest [.other (.commitTable sampleIdent ownerCommit 0)]) = some run ∧
        run.stage = .finished (.ok answer) ∧ ¬run.DescribesOneState 0 answer := by
  let _ := placedExternal
  let _ := sampleSail
  let _ := scanIo
  let _ := scanCodec
  have saved : (plannedSystem.requests 0).any savedApart = true := by decide +kernel
  obtain ⟨before, held, apart⟩ := (Option.any_eq_true _ _).mp saved
  have kept : plannedSystem.store = disturbedSystem.store := by
    rw [plannedSystem]
    exact run_reads disturbedSystem requestRest (by decide +kernel)
  have undisturbed : loadedSystem.store = ownedStore [] := by
    rw [loadedSystem]
    exact run_reads (PlanSystem.idle (ownedStore [])) requestStart (by decide +kernel)
  have only : plannedSystem.store.outboxEvents = [outboxEvent "table.commit"
      (MemoryState.commitOutboxPayload sampleIdent
        (MemoryState.commitRecord sampleIdent ownedTable ownerCommit 0) none) 0] := by
    rw [kept]
    rfl
  obtain ⟨run, answer, ran, finished, undescribed⟩ := savedApart_finishes held apart
    fun event other member => by
      rw [only, List.mem_singleton] at member
      subst member
      exact commit_request_distinct _ _ _ event
  have plain (location : String)
      (listed : location ∈ ["file:///lake/orders/metadata/1.json",
        "file:///lake/orders/metadata/2.json"]) : MemoryState.isPlainLocation location = true := by
    revert location
    decide
  have accepted := MemoryState.commitTable_fresh 0
    ((TableCommit.validate_ok ownerCommit ()).mp rfl) rfl rfl
    (rfl : (ownedStore []).tables[tableKey sampleIdent]? = some ownedTable)
    ((TableRecord.validate_ok _ ()).mp rfl) rfl rfl ⟨by decide,
      fun _ same => plain _ (by simp [← Option.some.inj same]),
      fun _ same => plain _ (by simp [← Option.some.inj same]), by decide,
      fun _ given => nomatch given⟩
  have disturbed : loadedSystem.step 0 (auditState .allowAll)
      (.other (.commitTable sampleIdent ownerCommit 0)) = disturbedSystem := by
    rw [PlanSystem.step, undisturbed, MemoryState.step_commit accepted]
    rfl
  refine ⟨placedExternal, sampleSail, scanIo, scanCodec, run, answer, ?_, finished, undescribed⟩
  rw [← ran, plannedSystem, ← disturbed, loadedSystem, oneRun, oneRequest, PlanSystem.run,
    run_append, run_append, run_append]
  rfl

end LakeCat
