import LakeCat.AuthorizationNames
import LakeCat.BootstrapRequests
import LakeCat.BundleConstruction
import LakeCat.ViewLocking

/-!
What one bootstrap request returns while others change the store. The evidence
of a view that one store answers is that of the upsert of its listed version;
a bundle whose parts are read apart from each other is consistent when the
tables, the bindings and the views still read the same at the last read.
-/

namespace LakeCat

open Fallible Transition ViewVersionReceipt

section
variable [External] {state : LakeCatState} {store : MemoryState} {warehouse : WarehouseName}

/-- A view that is listed is filed under its own key, which names the warehouse. -/
theorem listWarehouseViews_filed {views : List ViewRecord}
    (listed : store.listWarehouseViews warehouse = .ok views) {view : ViewRecord}
    (member : view ∈ views) :
    store.views[viewKey view]? = some view ∧
      viewKeyMatchesWarehouse (viewKey view) warehouse = true := by
  simp only [MemoryState.listWarehouseViews, bind_eq_ok, pure_eq, Except.ok.injEq] at listed
  obtain ⟨rows, collected, rfl⟩ := listed
  obtain ⟨⟨key, row⟩, stored, checked⟩ :=
    (mem_collect collected view).mp ((List.mergeSort_perm rows _).mem_iff.mp member)
  obtain ⟨filed, own⟩ := List.mem_filter.mp stored
  simp only [validateViewRecordMapScope, validateScope, bind_unit_eq_ok, rejectIf_ok, not_not,
    Except.ok.injEq, ne_eq] at checked
  obtain ⟨⟨_, named⟩, rfl⟩ := checked
  subst named
  exact ⟨(OrderedMap.mem_toList _ _ _).mp filed, own⟩

/-- The receipts that the listing holds for a stored view are those filed under its key. -/
theorem listed_receiptsUnder {receipts : List ViewVersionReceipt} {view : ViewRecord}
    (history : store.ViewHistory (viewKey view))
    (listed : store.listWarehouseViewVersionReceipts warehouse = .ok receipts)
    (stored : store.views[viewKey view]? = some view)
    (own : viewKeyMatchesWarehouse (viewKey view) warehouse = true) :
    (receipts.filter fun receipt => receipt.warehouse = view.warehouse ∧ receipt.ns = view.ns ∧
      receipt.name = view.name) = store.receiptsUnder (viewKey view) := by
  have ofView := (history.stored view stored).2.2
  simp only [MemoryState.listWarehouseViewVersionReceipts, bind_eq_ok, exists_unit, pure_eq,
    Except.ok.injEq] at listed
  obtain ⟨rows, collected, _, rfl⟩ := listed
  have spec (record : MemoryViewVersionReceipt) (result : ViewVersionReceipt) : (do
      MemoryState.validateMemoryViewReceiptScope record warehouse record.receipt.ns
        (some record.receipt.name)
      return record.receipt : LakeCatResult ViewVersionReceipt) = .ok result ↔
        (record.viewKey = viewKeyParts record.receipt.warehouse record.receipt.ns
            record.receipt.name ∧
          record.receipt.IsOf warehouse record.receipt.ns record.receipt.name ∧
          record.receipt.validate = .ok ()) ∧ result = record.receipt := by
    rw [bind_unit_eq_ok, MemoryState.validateMemoryViewReceiptScope_ok, pure_eq, Except.ok.injEq]
    exact and_congr_right fun _ => eq_comm
  obtain ⟨filed, rfl⟩ := (collect_checked _ _ MemoryViewVersionReceipt.receipt spec _ _).mp collected
  have unsorted : (((store.viewVersionReceipts.filter fun record =>
      viewKeyMatchesWarehouse record.viewKey warehouse).map
        MemoryViewVersionReceipt.receipt).filter fun receipt =>
          receipt.warehouse = view.warehouse ∧ receipt.ns = view.ns ∧ receipt.name = view.name) =
      store.receiptsUnder (viewKey view) := by
    rw [List.filter_map, List.filter_filter, MemoryState.receiptsUnder]
    refine congrArg _ (List.filter_congr fun record member => ?_)
    rw [Bool.eq_iff_iff, Bool.and_eq_true, Function.comp_apply, decide_eq_true_eq,
      decide_eq_true_eq]
    constructor
    · rintro ⟨⟨sameWarehouse, sameNs, sameName⟩, ours⟩
      rw [(filed record (List.mem_filter.mpr ⟨member, ours⟩)).1, sameWarehouse, sameNs, sameName]
      rfl
    · intro keyed
      have under : record.receipt ∈ store.receiptsUnder (viewKey view) :=
        List.mem_map_of_mem (List.mem_filter.mpr ⟨member, decide_eq_true keyed⟩)
      exact ⟨ofView record.receipt under, keyed ▸ own⟩
  have inTime := history.inTime_of_kept stored
  have sorted : (store.receiptsUnder (viewKey view)).Pairwise fun earlier later =>
      listingLe earlier later = true := by
    refine (pairwise_receiptLe history.chain.follows inTime).imp_of_mem ?_
    intro earlier later earlierMember laterMember ordered
    obtain ⟨_, ns, name⟩ := ofView earlier earlierMember
    obtain ⟨_, laterNs, laterName⟩ := ofView later laterMember
    exact listingLe_of_receiptLe (ns.trans laterNs.symm) (name.trans laterName.symm) ordered
  rw [filter_mergeSort_of_pairwise listingLe listingLe_trans listingLe_total, unsorted]
  rw [unsorted]
  exact sorted

/-- The evidence that one store yields for a view is of the view's last receipt, an upsert. -/
theorem evidence_of_store {receipts : List ViewVersionReceipt} {view : ViewRecord}
    {views : List ViewRecord} {evidence : QueryGraphViewReceiptEvidence}
    (histories : ∀ key, store.ViewHistory key)
    (listedViews : store.listWarehouseViews warehouse = .ok views) (member : view ∈ views)
    (listed : store.listWarehouseViewVersionReceipts warehouse = .ok receipts)
    (made : querygraphViewVersionReceipt receipts view = .ok evidence) :
    EvidenceOf store view evidence := by
  obtain ⟨stored, own⟩ := listWarehouseViews_filed listedViews member
  have history := histories (viewKey view)
  obtain ⟨last, ends, written, version⟩ := history.lastReceipt stored
  obtain ⟨earlier, split⟩ : ∃ earlier, store.receiptsUnder (viewKey view) = earlier ++ [last] :=
    List.getLast?_eq_some_iff.mp ends
  have named : last.stableId = viewStableId view := by
    have under : last ∈ store.receiptsUnder (viewKey view) := List.mem_of_getLast? ends
    have valid := (validateViewReceipt_ok _ _).mp (history.chain.valid last under)
    obtain ⟨sameWarehouse, sameNs, sameName⟩ := (history.stored view stored).2.2 last under
    rw [valid.named, sameWarehouse, sameNs, sameName]
    rfl
  simp only [querygraphViewVersionReceipt, listed_receiptsUnder history listed stored own,
    bind_eq_ok, exists_unit, okOr_ok, pure_eq, Except.ok.injEq] at made
  obtain ⟨_, chainHash, hashed, receipt, found, rfl⟩ := made
  rw [split] at hashed
  rw [split, List.map_append, List.reverse_append] at found
  have first : viewVersionReceiptResponse last = receipt := by
    have matching : (viewVersionReceiptResponse last).viewVersion = view.viewVersion := version
    simpa [matching] using found
  subst first
  exact ⟨named, version, earlier, last, split, written, version, rfl, hashed⟩

/-- A bundle of what one store reads is consistent with that store. -/
theorem readFrom_store {reads : CatalogReads} {tenant : QueryGraphTenantProjection}
    {now : Timestamp} {bundle : QueryGraphBootstrap} {receipts : List ViewVersionReceipt}
    (histories : ∀ key, store.ViewHistory key)
    (tables : store.listTables warehouse = .ok reads.tables)
    (bindings : store.policyBindingsForTables (reads.tables.map TableRecord.ident) =
      .ok reads.bindings)
    (views : store.listWarehouseViews warehouse = .ok reads.views)
    (listed : store.listWarehouseViewVersionReceipts warehouse = .ok receipts)
    (built : reads.bundle warehouse tenant receipts now = .ok bundle) :
    ∃ contract, ReadFrom warehouse store bundle reads contract := by
  simp only [CatalogReads.bundle, bind_eq_ok] at built
  obtain ⟨evidence, gathered, constructed⟩ := built
  simp only [bootstrapFromCatalogSnapshot, QueryGraphBootstrap.withViewReceiptEvidence,
    QueryGraphBundleManifest.attachViewReceiptEvidence, bind_eq_ok, exists_unit, okOr_ok, pure_eq,
    Except.ok.injEq] at constructed
  obtain ⟨_, ⟨_, contract, _, rfl⟩, rfl⟩ := constructed
  have each := List.forall₂_iff_zip.mp ((collect_ok _ _ _).mp gathered)
  refine ⟨contract.withEvidence evidence, ?_⟩
  exact {
    listedTables := tables
    bindings := bindings
    listedViews := views
    tables := rfl
    views := rfl
    carried := rfl
    evidence := ⟨receipts, listed, gathered⟩
    upserts := List.forall₂_iff_zip.mpr ⟨each.1, fun paired =>
      evidence_of_store histories views (List.of_mem_zip paired).1 listed (each.2 paired)⟩
  }

/-! The runs. -/

/-- The bundle that a request holds or has returned. -/
def BootstrapStage.bundle? : BootstrapStage → Option QueryGraphBootstrap
  | .built _ _ bundle | .finished (.ok bundle) => some bundle
  | _ => none

/-- What holds of a request: a bundle that it has is consistent, and it sees the store. -/
structure BootstrapRun.Sound (state : LakeCatState) (store : MemoryState) (run : BootstrapRun) :
    Prop where
  consistent : ∀ bundle, run.stage.bundle? = some bundle → run.Consistent state bundle
  watches : run.stage.isFinished = false → store ∈ run.during

theorem BootstrapRun.Sound.seeing {run : BootstrapRun} (sound : ∀ bundle,
    run.stage.bundle? = some bundle → run.Consistent state bundle) (after : MemoryState) :
    (run.seeing after).Sound state after := by
  rw [BootstrapRun.seeing]
  split
  next finished =>
    refine ⟨sound, fun unfinished => ?_⟩
    rw [finished] at unfinished
    cases unfinished
  next =>
    refine ⟨fun bundle held => ?_, fun _ => List.mem_append_right _ (List.mem_singleton.mpr rfl)⟩
    obtain ⟨seen, member, answers⟩ := sound bundle held
    exact ⟨seen, List.mem_append_left _ member, answers⟩

omit [External] in
theorem attempt_bundle {result : LakeCatResult α} {next : α → BootstrapStage}
    {bundle : QueryGraphBootstrap}
    (held : (BootstrapStage.attempt result next).bundle? = some bundle) :
    ∃ value, result = .ok value ∧ (next value).bundle? = some bundle := by
  cases result with
  | error error => cases held
  | ok value => exact ⟨value, rfl, held⟩

/-- A call of a request leaves the views and their receipts as they are. -/
theorem next_histories (identity : RequestIdentity) (now : Timestamp) (stage : BootstrapStage)
    (histories : ∀ key, store.ViewHistory key) (key : String) :
    (stage.next state identity store now).2.ViewHistory key := by
  cases stage with
  | built receipt reads bundle =>
      rw [BootstrapStage.next]
      split
      · exact histories key
      next recorded =>
        obtain ⟨verification, _, audited⟩ := (bind_eq_ok _ _ _).mp recorded
        obtain ⟨_, _, rfl⟩ := (MemoryState.recordAuditEvent_ok _ _ _ _).mp audited
        exact (histories key).congr rfl rfl
  | _ => exact histories key

/-- The bundle that a call of a request makes or returns is consistent. -/
theorem next_consistent {run : BootstrapRun} {now : Timestamp}
    (histories : ∀ key, store.ViewHistory key) (sound : run.Sound state store)
    (reread : ∀ receipt reads tenant, run.stage = .loadedTenant receipt reads tenant →
      store.listTables state.warehouse = .ok reads.tables ∧
      store.policyBindingsForTables (reads.tables.map TableRecord.ident) = .ok reads.bindings ∧
      store.listWarehouseViews state.warehouse = .ok reads.views)
    {bundle : QueryGraphBootstrap}
    (held : (run.stage.next state run.identity store now).1.bundle? = some bundle) :
    run.Consistent state bundle := by
  cases stage : run.stage with
  | loadedTenant receipt reads tenant =>
      rw [stage, BootstrapStage.next] at held
      obtain ⟨made, succeeded, held⟩ := attempt_bundle held
      cases held
      obtain ⟨receipts, listed, built⟩ := (bind_eq_ok _ _ _).mp succeeded
      obtain ⟨tables, bindings, views⟩ := reread receipt reads tenant stage
      obtain ⟨contract, answers⟩ := readFrom_store histories tables bindings views listed built
      exact ⟨store, sound.watches (by rw [stage]; rfl), reads, contract, answers⟩
  | built receipt reads own =>
      rw [stage, BootstrapStage.next] at held
      refine sound.consistent bundle ?_
      rw [stage]
      split at held
      · cases held
      · exact held
  | finished answer =>
      rw [stage] at held
      exact sound.consistent bundle (stage ▸ held)
  | _ =>
      rw [stage, BootstrapStage.next] at held
      obtain ⟨_, _, held⟩ := attempt_bundle held
      cases held

structure BootstrapSystem.Sound (state : LakeCatState) (system : BootstrapSystem) : Prop where
  histories : ∀ key, system.store.ViewHistory key
  sound : ∀ client run, system.requests client = some run → run.Sound state system.store

omit [External] in
theorem updated_request {requests : Nat → Option BootstrapRun} {client other : Nat}
    {run held : BootstrapRun}
    (found : Function.update requests client (some run) other = some held) :
    held = run ∨ requests other = some held := by
  by_cases same : other = client
  · subst same
    rw [Function.update_self] at found
    exact .inl (Option.some.inj found).symm
  · rw [Function.update_of_ne same] at found
    exact .inr found

theorem seen_bootstraps {after : MemoryState} {requests : Nat → Option BootstrapRun}
    (histories : ∀ key, after.ViewHistory key)
    (each : ∀ client run, requests client = some run →
      ∀ bundle, run.stage.bundle? = some bundle → run.Consistent state bundle) :
    (BootstrapSystem.seen after requests).Sound state := by
  refine ⟨histories, fun client run held => ?_⟩
  obtain ⟨before, asked, rfl⟩ := Option.map_eq_some_iff.mp held
  exact .seeing (each client before asked) after

theorem bootstrapStep_sound (system : BootstrapSystem) (action : BootstrapStep)
    (sound : system.Sound state) (allowed : system.RereadsSame state action) :
    (system.step state action).Sound state := by
  cases action with
  | ask client identity =>
      rw [BootstrapSystem.step]
      split
      · exact sound
      · refine ⟨sound.histories, fun other run held => ?_⟩
        rcases updated_request held with rfl | before
        · refine ⟨fun bundle held => ?_, fun _ => List.mem_singleton.mpr rfl⟩
          cases held
        · exact sound.sound other run before
  | advance client now =>
      rw [BootstrapSystem.step]
      split
      · exact sound
      next run asked =>
        have own := sound.sound client run asked
        refine seen_bootstraps (next_histories _ _ _ sound.histories) fun other moved held => ?_
        rcases updated_request held with rfl | before
        · intro bundle made
          exact next_consistent sound.histories own (fun receipt reads tenant stage =>
            allowed run receipt reads tenant asked stage) made
        · exact (sound.sound other moved before).consistent
  | other op =>
      exact seen_bootstraps (MemoryState.step_viewHistory sound.histories op)
        fun client run held => (sound.sound client run held).consistent

/-! A request that no one disturbs. -/

/-- What a request has read so far is what the store answers. -/
def BootstrapStage.Current (state : LakeCatState) (store : MemoryState) : BootstrapStage → Prop
  | .listedTables _ tables => store.listTables state.warehouse = .ok tables
  | .boundTables _ tables bindings => store.listTables state.warehouse = .ok tables ∧
      store.policyBindingsForTables (tables.map TableRecord.ident) = .ok bindings
  | .listedViews _ reads | .loadedWarehouse _ reads _ | .loadedProject _ reads _ _
  | .loadedTenant _ reads _ => store.listTables state.warehouse = .ok reads.tables ∧
      store.policyBindingsForTables (reads.tables.map TableRecord.ident) = .ok reads.bindings ∧
      store.listWarehouseViews state.warehouse = .ok reads.views
  | .asked | .authorized _ | .built .. | .finished _ => True

theorem checkedBindings_ok {tables : List TableRecord} {bindings : List (List PolicyBinding)}
    (checked : BootstrapStage.checkedBindings store tables = .ok bindings) :
    store.policyBindingsForTables (tables.map TableRecord.ident) = .ok bindings := by
  simp only [BootstrapStage.checkedBindings, bind_eq_ok, exists_unit, rejectIf_ok, pure_eq,
    Except.ok.injEq] at checked
  obtain ⟨found, listed, _, rfl⟩ := checked
  exact listed

theorem attempt_current {result : LakeCatResult α} {next : α → BootstrapStage}
    (each : ∀ value, result = .ok value → (next value).Current state store) :
    (BootstrapStage.attempt result next).Current state store := by
  cases result with
  | error error => trivial
  | ok value => exact each value rfl

theorem next_current (identity : RequestIdentity) (now : Timestamp) {stage : BootstrapStage}
    (current : stage.Current state store) :
    (stage.next state identity store now).1.Current state
      (stage.next state identity store now).2 := by
  cases stage with
  | asked => exact attempt_current fun _ _ => trivial
  | authorized receipt => exact attempt_current fun _ listed => listed
  | listedTables receipt tables =>
      exact attempt_current fun bindings checked => ⟨current, checkedBindings_ok checked⟩
  | boundTables receipt tables bindings =>
      exact attempt_current fun views listed => ⟨current.1, current.2, listed⟩
  | listedViews receipt reads => exact attempt_current fun _ _ => current
  | loadedWarehouse receipt reads warehouse => exact attempt_current fun _ _ => current
  | loadedProject receipt reads warehouse project => exact attempt_current fun _ _ => current
  | loadedTenant receipt reads tenant => exact attempt_current fun _ _ => trivial
  | built receipt reads bundle =>
      rw [BootstrapStage.next]
      split <;> trivial
  | finished answer => trivial

/-- A call of one request changes nothing that another reads. -/
theorem Current.afterOther {stage other : BootstrapStage} (current : other.Current state store)
    (identity : RequestIdentity) (now : Timestamp) :
    other.Current state (stage.next state identity store now).2 := by
  cases stage with
  | built receipt reads bundle =>
      rw [BootstrapStage.next]
      split
      · exact current
      next recorded =>
        obtain ⟨verification, _, audited⟩ := (bind_eq_ok _ _ _).mp recorded
        obtain ⟨_, _, rfl⟩ := (MemoryState.recordAuditEvent_ok _ _ _ _).mp audited
        cases other <;> exact current
  | _ => exact current

def BootstrapStep.IsRequest : BootstrapStep → Prop
  | .ask .. | .advance .. => True
  | .other _ => False

theorem bootstrapStep_current (system : BootstrapSystem) (action : BootstrapStep)
    (each : ∀ client run, system.requests client = some run →
      run.stage.Current state system.store) (own : action.IsRequest) :
    ∀ client run, (system.step state action).requests client = some run →
      run.stage.Current state (system.step state action).store := by
  cases action with
  | ask client identity =>
      rw [BootstrapSystem.step]
      split
      · exact each
      · intro other run held
        rcases updated_request held with rfl | before
        · trivial
        · exact each other run before
  | advance client now =>
      rw [BootstrapSystem.step]
      split
      · exact each
      next run asked =>
        intro other moved held
        obtain ⟨before, seen, rfl⟩ := Option.map_eq_some_iff.mp held
        have stage (after : MemoryState) : (before.seeing after).stage = before.stage := by
          rw [BootstrapRun.seeing]
          split <;> rfl
        rw [stage]
        rcases updated_request seen with rfl | other
        · exact next_current run.identity now (each client run asked)
        · exact Current.afterOther (each _ before other) run.identity now
  | other op => exact own.elim

/-- Calls of others ask for no bundle. -/
theorem others_idle (system : BootstrapSystem) (before : List MemoryOp)
    (idle : ∀ client, system.requests client = none) (client : Nat) :
    (Transition.run (BootstrapSystem.step state) system
      (before.map .other)).requests client = none := by
  induction before generalizing system with
  | nil => exact idle client
  | cons op rest ih =>
      refine ih _ fun other => ?_
      exact Option.map_eq_none_iff.mpr (idle other)

/-- Requests that are alone with a store read the same again. -/
theorem undisturbed_rereads (before : List MemoryOp) (steps : List BootstrapStep)
    (own : ∀ action ∈ steps, action.IsRequest) :
    Along (BootstrapSystem.step state) (BootstrapSystem.RereadsSame state)
      (BootstrapSystem.idle MemoryState.empty) (before.map .other ++ steps) := by
  refine (along_append _ _ _).mpr ⟨?_, ?_⟩
  · have others : ∀ action ∈ before.map BootstrapStep.other, ∃ op, action = .other op := by
      intro action member
      obtain ⟨op, -, rfl⟩ := List.mem_map.mp member
      exact ⟨op, rfl⟩
    exact Along.imp (fun _ _ ⟨_, other⟩ => other ▸ trivial) _ _
      (along_of_forall _ _ _ others)
  · refine along_of_invariant (BootstrapSystem.step state) (fun _ action => action.IsRequest)
      (fun system => ∀ client run, system.requests client = some run →
        run.stage.Current state system.store) _ bootstrapStep_current ?_ _ _ ?_
      (along_of_forall _ _ _ own)
    · intro system action each _
      cases action with
      | advance client now =>
          intro run receipt reads tenant asked stage
          have current := each client run asked
          rw [stage] at current
          exact current
      | _ => trivial
    · intro client run held
      rw [others_idle _ before (fun _ => rfl)] at held
      cases held

/-- Whenever a request returns a bundle, one store that it has lived to see answers for all of it,
if at its last read everything still reads as it has read it. -/
theorem bootstraps_consistent (state : LakeCatState) (steps : List BootstrapStep)
    (reread : Along (BootstrapSystem.step state) (BootstrapSystem.RereadsSame state)
      (BootstrapSystem.idle MemoryState.empty) steps)
    (client : Nat) (run : BootstrapRun) (bundle : QueryGraphBootstrap)
    (asked : ((BootstrapSystem.idle MemoryState.empty).run state steps).requests client = some run)
    (answered : run.stage = .finished (.ok bundle)) : run.Consistent state bundle := by
  have initial : (BootstrapSystem.idle MemoryState.empty).Sound state :=
    ⟨fun key => (MemoryState.viewHistory_empty key).1, fun _ _ held => nomatch held⟩
  have sound := run_invariant_along (BootstrapSystem.step state)
    (BootstrapSystem.RereadsSame state) (BootstrapSystem.Sound state)
    (fun system action => bootstrapStep_sound system action) _ steps initial reread
  exact (sound.sound client run asked).consistent bundle (by rw [answered]; rfl)

end

/-- One request from its start to its answer. -/
def wholeRequest : List BootstrapStep :=
  .ask 0 anonymousIdentity :: List.replicate 9 (.advance 0 0)

/-- A catalog of one table and one view. -/
def smallCatalog : List MemoryOp :=
  sampleSetup ++ [.upsertView MemoryState.sampleView none 1]

def BootstrapRun.answer? (run : BootstrapRun) : Option QueryGraphBootstrap :=
  match run.stage with
  | .finished (.ok bundle) => some bundle
  | _ => none

theorem BootstrapRun.answered {run : BootstrapRun} {bundle : QueryGraphBootstrap}
    (answer : run.answer? = some bundle) : run.stage = .finished (.ok bundle) := by
  rw [answer?] at answer
  split at answer
  next own stage => rw [stage, Option.some.inj answer]
  next => cases answer

theorem bootstraps_consistent_sample : ∃ (_ : External) (run : BootstrapRun)
    (bundle : QueryGraphBootstrap), bundle.tables ≠ [] ∧ bundle.views ≠ [] ∧
    run.stage = .finished (.ok bundle) ∧ run.Consistent mainState bundle := by
  let _ := constantExternal
  have finishes : (((BootstrapSystem.idle MemoryState.empty).run mainState
      (smallCatalog.map .other ++ wholeRequest)).requests 0).any (fun run =>
        run.answer?.any fun bundle => !bundle.tables.isEmpty && !bundle.views.isEmpty) = true := by
    decide +kernel
  obtain ⟨run, asked, holds⟩ := (Option.any_eq_true _ _).mp finishes
  obtain ⟨bundle, answer, full⟩ := (Option.any_eq_true _ _).mp holds
  have own : ∀ action ∈ wholeRequest, action.IsRequest := by
    intro action member
    rcases List.mem_cons.mp member with rfl | later
    · trivial
    · rw [List.eq_of_mem_replicate later]
      trivial
  rw [Bool.and_eq_true, Bool.not_eq_true', Bool.not_eq_true', List.isEmpty_eq_false_iff,
    List.isEmpty_eq_false_iff] at full
  exact ⟨constantExternal, run, bundle, full.1, full.2, run.answered answer,
    bootstraps_consistent mainState _ (undisturbed_rereads smallCatalog wholeRequest own) 0 run
      bundle asked (run.answered answer)⟩

/-- A table and a view come in after the tables were listed and before the views are. -/
def racedRequest : List BootstrapStep :=
  [.other (.createNamespace sampleIdent.warehouse sampleIdent.ns .default),
    .ask 0 anonymousIdentity, .advance 0 0, .advance 0 0, .other (.createTable sampleTable),
    .other (.upsertView MemoryState.sampleView none 1)] ++ List.replicate 7 (.advance 0 0)

/-- The bundle has the view and not the table, though no store ever had the one without the
other. -/
theorem racedRequest_inconsistent : ∃ (_ : External) (run : BootstrapRun)
    (bundle : QueryGraphBootstrap),
    ((BootstrapSystem.idle MemoryState.empty).run mainState racedRequest).requests 0 = some run ∧
    run.stage = .finished (.ok bundle) ∧ ¬run.Consistent mainState bundle := by
  let _ := constantExternal
  have finishes : (((BootstrapSystem.idle MemoryState.empty).run mainState
      racedRequest).requests 0).any (fun run => (run.answer?.any fun bundle =>
        bundle.tables.isEmpty && !bundle.views.isEmpty) && run.during.all fun store =>
          !(store.listTables mainState.warehouse).toOption.any List.isEmpty ||
            (store.listWarehouseViews mainState.warehouse).toOption.all List.isEmpty) = true := by
    decide +kernel
  obtain ⟨run, asked, holds⟩ := (Option.any_eq_true _ _).mp finishes
  obtain ⟨holds, apart⟩ := (Bool.and_eq_true _ _).mp holds
  obtain ⟨bundle, answer, shape⟩ := (Option.any_eq_true _ _).mp holds
  rw [Bool.and_eq_true, List.isEmpty_iff, Bool.not_eq_true', List.isEmpty_eq_false_iff] at shape
  refine ⟨constantExternal, run, bundle, asked, run.answered answer, ?_⟩
  rintro ⟨store, member, reads, contract, answers⟩
  have noTables : reads.tables = [] := by
    have bound : reads.bindings.length = reads.tables.length := by
      have listed := answers.bindings
      simp only [MemoryState.policyBindingsForTables, bind_eq_ok, pure_eq,
        Except.ok.injEq] at listed
      obtain ⟨_, _, same⟩ := listed
      rw [← same, List.length_map, List.length_map]
    have shown := answers.tables
    rw [shape.1] at shown
    have lengths := congrArg List.length shown
    rw [List.length_map, List.length_zip, bound, min_self, List.length_nil] at lengths
    exact List.eq_nil_of_length_eq_zero lengths.symm
  have views : reads.views ≠ [] := by
    intro none
    have shown := answers.views
    rw [none] at shown
    exact shape.2 shown
  have each := List.all_eq_true.mp apart store member
  rw [answers.listedTables, answers.listedViews, noTables] at each
  exact views (List.isEmpty_iff.mp each)

end LakeCat
