import LakeCat.ViewCreation

/-!
Creates of one view that race. Between its lookup and its upsert a create may be
overtaken by another one, and then writes over the view that it did not find.
-/

namespace LakeCat

open Fallible Asking Transition MemoryState

section

variable [External] [SailCatalog]

/-! What the store does with a call of the callers. -/

omit [SailCatalog] in
/-- The version grows, so the stored view is not the one that was there. -/
theorem withNextVersionAfterHistory_ne {view previous next : ViewRecord} {latest : Option UInt64}
    (stepped : view.withNextVersionAfterHistory (some previous) latest = .ok next) :
    next ≠ previous := by
  have grown := withNextVersionAfterHistory_version stepped
  have least := baseVersion_le previous.viewVersion latest
  intro same
  rw [same] at grown
  simp only [Option.map_some] at grown
  omega

omit [SailCatalog] in
/-- A lookup that does not find the view finds that it is not there. -/
theorem loadView_missing {state : MemoryState} (histories : ∀ key, state.ViewHistory key)
    {warehouse : WarehouseName} {ns : Namespace} {name : TableName} {object missing : String}
    (lost : state.loadView warehouse ns name = .error (.notFound object missing)) :
    state.views[viewKeyParts warehouse ns name]? = none := by
  cases kept : state.views[viewKeyParts warehouse ns name]? with
  | none => rfl
  | some record =>
      obtain ⟨valid, filed, _⟩ := (histories _).stored record kept
      rw [loadView, kept, okOr_some, ok_bind, validateViewRecordMapScope, validateScope, valid,
        ok_bind, rejectIf_neg _ (not_not.mpr filed), ok_bind, validateViewRecordScope,
        validateScope, valid, ok_bind] at lost
      rw [rejectIf] at lost
      split at lost <;> cases lost

/-- The state after a call, by what the call did to the view. -/
structure Serves (state : MemoryState) (call : ProviderCall) (answer : call.Answer)
    (next : MemoryState) : Prop where
  histories : ∀ key, next.ViewHistory key
  stored : viewEvent ⟨call, answer⟩ = .stored → ∃ record kept, call = .upsertView record ∧
    next.views[viewKey record]? = some kept ∧ state.views[viewKey record]? ≠ some kept
  dropped : viewEvent ⟨call, answer⟩ = .dropped → ∃ warehouse ns name principal,
    call = .dropView warehouse ns name principal ∧
      next.views[viewKeyParts warehouse ns name]? = none
  other : viewEvent ⟨call, answer⟩ ≠ .stored → viewEvent ⟨call, answer⟩ ≠ .dropped → next = state
  missed : ∀ warehouse ns name object missing, (⟨call, answer⟩ : ProviderExchange) =
    ⟨.loadView warehouse ns name, .error (.notFound object missing)⟩ →
    state.views[viewKeyParts warehouse ns name]? = none

omit [SailCatalog] in
/-- A call that is not about views leaves the state as it is. -/
theorem Serves.idle {state : MemoryState} {call : ProviderCall} {answer : call.Answer}
    (histories : ∀ key, state.ViewHistory key) (event : viewEvent ⟨call, answer⟩ = .other) :
    Serves state call answer state where
  histories := histories
  stored stores := by rw [event] at stores; cases stores
  dropped drops := by rw [event] at drops; cases drops
  other _ _ := rfl
  missed warehouse ns name object missing lookup := by rw [lookup] at event; cases event

omit [SailCatalog] in
theorem serveViews_serves (caller : Nat) (turn : StoreTurn) {state : MemoryState}
    (histories : ∀ key, state.ViewHistory key) (call : ProviderCall) :
    Serves state call (serveViews caller turn state call).1
      (serveViews caller turn state call).2 := by
  cases call with
  | upsertView record =>
      have after := step_viewHistory histories (.upsertView record none turn.now)
      rcases atomic_cases state (state.upsertViewIfVersion record none turn.now) with
        ⟨next, stored⟩ | ⟨error, refused, same⟩
      · have answered : serveViews caller turn state (.upsertView record) =
            (.ok next, (atomic state (state.upsertViewIfVersion record none turn.now)).2) := by
          rw [serveViews, stored]
          rfl
        rw [answered]
        obtain ⟨latest, upsertable, left⟩ := (upsertViewIfVersion_ok _ _ _ _ _ _).mp stored
        refine ⟨after, ?_, (fun drops => by cases drops), fun unstored => absurd rfl unstored,
          fun _ _ _ _ _ lookup => by cases lookup⟩
        intro _
        refine ⟨record, next, rfl, ?_, ?_⟩
        · rw [left, OrderedMap.getElem?_insert, if_pos rfl]
        · intro before
          have stepped := upsertable.next
          rw [before] at stepped
          exact withNextVersionAfterHistory_ne stepped rfl
      · have answered : serveViews caller turn state (.upsertView record) =
            (.error error, state) := by
          rw [serveViews, refused]
          rfl
        rw [answered]
        exact .idle histories rfl
  | dropView warehouse ns name principal =>
      have after := step_viewHistory histories (.dropView warehouse ns name principal none turn.now)
      rcases dropViewIfVersion_cases state warehouse ns name principal none turn.now with
        ⟨error, refused, left⟩ | ⟨record, found, ⟨error, failed, _⟩ | ⟨receipt, made, left⟩⟩
      · rw [serveViews, left]
        exact .idle histories rfl
      · cases failed.symm.trans ((histories _).dropReceipt found principal turn.now)
      · rw [step, left] at after
        rw [serveViews, left]
        refine ⟨after, (fun stores => by cases stores), ?_, fun _ undropped => absurd rfl undropped,
          fun _ _ _ _ _ lookup => by cases lookup⟩
        intro _
        refine ⟨warehouse, ns, name, principal, rfl, ?_⟩
        simp only [withoutView, OrderedMap.getElem?_erase, if_true]
  | loadView warehouse ns name =>
      refine ⟨histories, (fun stores => by cases stores), (fun drops => by cases drops),
        fun _ _ => rfl, ?_⟩
      intro _ _ _ object missing lookup
      obtain ⟨same, lost⟩ := Sigma.mk.inj_iff.mp lookup
      cases same
      exact loadView_missing histories (eq_of_heq lost)
  | _ => exact .idle histories rfl

omit [SailCatalog] in
/-- Whether the view is there after a call of one of the callers. -/
theorem Serves.present {site : ViewSite} {history : ProviderHistory} {state next : MemoryState}
    {call : ProviderCall} {answer : call.Answer} (serves : Serves state call answer next)
    (rule : ViewRule site history call) {warehouse : WarehouseName} {ns : Namespace}
    {name : TableName} (located : site.IsAt warehouse ns name) :
    match viewEvent ⟨call, answer⟩ with
    | .stored => next.views[viewKeyParts warehouse ns name]?.isSome = true
    | .dropped => next.views[viewKeyParts warehouse ns name]?.isSome = false
    | .looked | .other => next = state := by
  cases event : viewEvent ⟨call, answer⟩ with
  | stored =>
      obtain ⟨record, kept, rfl, stored, _⟩ := serves.stored event
      rw [located.key rule.1]
      change next.views[viewKey record]?.isSome = true
      rw [stored]
      rfl
  | dropped =>
      obtain ⟨_, _, _, _, rfl, dropped⟩ := serves.dropped event
      rw [located.key rule]
      simp only [dropped, Option.isSome_none]
  | looked => exact serves.other (by rw [event]; nofun) (by rw [event]; nofun)
  | other => exact serves.other (by rw [event]; nofun) (by rw [event]; nofun)

/-- What the log of the callers says of the view. -/
structure ViewTracked (site : ViewSite) (callers : Nat → ViewCaller) (pool : ViewPool) : Prop where
  histories : ∀ key, pool.state.ViewHistory key
  follows : pool.Follows fun caller => (callers caller).program site
  missed : ∀ caller earlier warehouse ns name object missing, site.IsAt warehouse ns name →
    Pool.history caller pool.log =
      earlier ++ [⟨.loadView warehouse ns name, .error (.notFound object missing)⟩] →
    (overtaken caller pool.log = true ↔
      pool.state.views[viewKeyParts warehouse ns name]?.isSome = true)
  standing : ∀ warehouse ns name, site.IsAt warehouse ns name → standing pool.log = true →
    pool.state.views[viewKeyParts warehouse ns name]?.isSome = true

theorem ViewTracked.rule {site : ViewSite} {callers : Nat → ViewCaller} {pool : ViewPool}
    (tracked : ViewTracked site callers pool) {caller : Nat} {call : ProviderCall}
    {next : call.Answer → Program ProviderCall ProviderCall.Answer
      (CatalogResult ProviderResponse)}
    (asks : pool.programs caller = .ask call next) :
    ViewRule site (Pool.history caller pool.log) call := by
  have obeys := (program_follows site (callers caller)).reaches (tracked.follows caller)
  rw [asks] at obeys
  exact obeys.1

theorem start_tracked (site : ViewSite) (callers : Nat → ViewCaller) {state : MemoryState}
    (histories : ∀ key, state.ViewHistory key) :
    ViewTracked site callers (ViewPool.start site callers state) where
  histories := histories
  follows := Pool.start_follows state _
  missed caller earlier warehouse ns name object missing _ ends := by
    cases earlier <;> cases ends
  standing warehouse ns name _ stands := by cases stands

theorem ViewPool.step_cases (pool : ViewPool) (turn : Nat × StoreTurn) :
    pool.step turn = pool ∨
      ∃ call next, pool.programs turn.1 = .ask call next ∧
        pool.step turn = {
          state := (serveViews turn.1 turn.2 pool.state call).2
          programs := Function.update pool.programs turn.1
            (next (serveViews turn.1 turn.2 pool.state call).1)
          log := ⟨turn.1, pool.state, ⟨call, (serveViews turn.1 turn.2 pool.state call).1⟩⟩ ::
            pool.log } :=
  Pool.step_cases pool turn

theorem step_tracked {site : ViewSite} {callers : Nat → ViewCaller} {pool : ViewPool}
    (tracked : ViewTracked site callers pool) (turn : Nat × StoreTurn) :
    ViewTracked site callers (pool.step turn) := by
  have follows : (pool.step turn).Follows fun caller => (callers caller).program site :=
    Pool.step_follows tracked.follows turn
  rcases pool.step_cases turn with same | ⟨call, next, asks, stepped⟩
  · rw [same]
    exact tracked
  · have rule := tracked.rule asks
    have serves := serveViews_serves turn.1 turn.2 tracked.histories call
    refine ⟨?_, follows, ?_, ?_⟩
    all_goals
      rw [stepped]
      clear follows stepped
    · exact serves.histories
    · intro caller earlier warehouse ns name object missing located ends
      have present := serves.present rule located
      rw [overtaken]
      by_cases own : turn.1 = caller
      · subst own
        rw [Pool.history_cons_self] at ends
        obtain ⟨_, lookup⟩ := List.append_inj' ends rfl
        have looked := List.singleton_inj.mp lookup
        have absent := serves.missed _ _ _ _ _ looked
        simp only [looked, viewEvent] at present ⊢
        simp [present, absent]
      · rw [Pool.history_cons_other own] at ends
        have before := tracked.missed caller earlier _ _ _ _ _ located ends
        cases event : viewEvent ⟨call, (serveViews turn.1 turn.2 pool.state call).1⟩ with
        | stored =>
            rw [event] at present
            simp [present]
        | dropped =>
            rw [event] at present
            simp [present]
        | looked =>
            rw [event] at present
            simp [own, present, before]
        | other =>
            rw [event] at present
            simp [present, before]
    · intro warehouse ns name located stands
      have present := serves.present rule located
      have before := tracked.standing warehouse ns name located
      rw [standing] at stands
      cases event : viewEvent ⟨call, (serveViews turn.1 turn.2 pool.state call).1⟩ with
      | stored =>
          rw [event] at present
          exact present
      | dropped =>
          rw [event] at stands
          cases stands
      | looked =>
          rw [event] at present stands
          rw [present]
          exact before stands
      | other =>
          rw [event] at present stands
          rw [present]
          exact before stands

/-! What the log says comes apart, and what the store keeps. -/

omit [External] [SailCatalog] in
theorem standing_of_stored {between earlier : ViewLog}
    {first : Entry MemoryState ProviderCall ProviderCall.Answer}
    (stored : viewEvent first.exchange = .stored)
    (kept : ∀ entry ∈ between, viewEvent entry.exchange ≠ .dropped) :
    standing (between ++ first :: earlier) = true := by
  induction between with
  | nil =>
      rw [List.nil_append, standing, stored]
  | cons entry rest ih =>
      have others := ih fun other member => kept other (List.mem_cons_of_mem entry member)
      have undropped := kept entry List.mem_cons_self
      rw [List.cons_append, standing]
      cases event : viewEvent entry.exchange with
      | stored => rfl
      | dropped => exact absurd event undropped
      | looked => exact others
      | other => exact others

omit [External] [SailCatalog] in
theorem CreatesApart.cons {log : ViewLog} (apart : CreatesApart log)
    {entry : Entry MemoryState ProviderCall ProviderCall.Answer}
    (falls : viewEvent entry.exchange = .stored → standing log = false) :
    CreatesApart (entry :: log) := by
  intro later second between first earlier split secondStored firstStored
  cases later with
  | nil =>
      obtain ⟨rfl, rfl⟩ := List.cons.inj split
      have fallen := falls secondStored
      by_contra undropped
      push Not at undropped
      rw [standing_of_stored firstStored undropped] at fallen
      cases fallen
  | cons other later =>
      obtain ⟨_, rest⟩ := List.cons.inj split
      exact apart later second between first earlier rest secondStored firstStored

/-- The upsert of a create that was not overtaken finds no view. -/
theorem ViewTracked.upsert_absent {site : ViewSite} {callers : Nat → ViewCaller} {pool : ViewPool}
    (tracked : ViewTracked site callers pool) {caller : Nat} {record : ViewRecord}
    {next : LakeCatResult ViewRecord → Program ProviderCall ProviderCall.Answer
      (CatalogResult ProviderResponse)}
    (asks : pool.programs caller = .ask (.upsertView record) next) :
    site.IsAt record.warehouse record.ns record.name ∧
      (overtaken caller pool.log = true ↔ pool.state.views[viewKey record]?.isSome = true) := by
  obtain ⟨located, earlier, warehouse, ns, name, object, missing, looked, ends⟩ :=
    tracked.rule asks
  have missed := tracked.missed caller earlier _ _ _ _ _ looked ends
  rw [looked.key located] at missed
  exact ⟨located, missed⟩

omit [SailCatalog] in
/-- An upsert is answered well when the store takes it. -/
theorem serveViews_stored (caller : Nat) (turn : StoreTurn) (state : MemoryState)
    (record : ViewRecord) :
    viewEvent ⟨.upsertView record, (serveViews caller turn state (.upsertView record)).1⟩ =
        .stored ↔
      (state.upsertViewIfVersion record none turn.now).isOk = true := by
  rw [serveViews]
  cases state.upsertViewIfVersion record none turn.now with
  | ok stored => exact iff_of_true rfl rfl
  | error error => exact iff_of_false nofun nofun

theorem keepsView_iff {site : ViewSite} {callers : Nat → ViewCaller} {pool : ViewPool}
    (tracked : ViewTracked site callers pool) (turn : Nat × StoreTurn) :
    KeepsView pool turn ↔ ¬Overwrites pool turn := by
  have effect record next (asks : pool.programs turn.1 = .ask (.upsertView record) next) :
      (pool.step turn).state = (serveViews turn.1 turn.2 pool.state (.upsertView record)).2 := by
    rw [ViewPool.step, Pool.step, asks]
  constructor
  · rintro keeps ⟨record, next, asks, taken, passed⟩
    have present := (tracked.upsert_absent asks).2.mp passed
    obtain ⟨view, kept⟩ := Option.isSome_iff_exists.mp present
    have after := keeps record next asks view kept
    rw [effect record next asks] at after
    have serves := serveViews_serves turn.1 turn.2 tracked.histories (.upsertView record)
    have stored := (serveViews_stored turn.1 turn.2 pool.state record).mpr taken
    obtain ⟨_, changed, same, now, before⟩ := serves.stored stored
    cases same
    rw [after] at now
    exact before (kept.trans now)
  · intro careful record next asks view present
    rw [effect record next asks]
    have serves := serveViews_serves turn.1 turn.2 tracked.histories (.upsertView record)
    have refused : viewEvent ⟨.upsertView record,
        (serveViews turn.1 turn.2 pool.state (.upsertView record)).1⟩ ≠ .stored := by
      rw [ne_eq, serveViews_stored]
      intro taken
      apply careful
      refine ⟨record, next, asks, taken, (tracked.upsert_absent asks).2.mpr ?_⟩
      rw [present]
      rfl
    rw [serves.other refused ?_]
    · exact present
    · intro dropped
      obtain ⟨_, _, _, _, same, _⟩ := serves.dropped dropped
      cases same

/-- What a run of creates and drops keeps. -/
structure CreatesOnce (site : ViewSite) (callers : Nat → ViewCaller) (pool : ViewPool)
    (turns : List (Nat × StoreTurn)) : Prop where
  kept : Along ViewPool.step KeepsView pool turns
  apart : CreatesApart (pool.run turns).log
  ends : ∀ caller result, (pool.run turns).programs caller = .done result →
    CallEnds site (callers caller) (Pool.history caller (pool.run turns).log) result

theorem step_apart {site : ViewSite} {callers : Nat → ViewCaller} {pool : ViewPool}
    (tracked : ViewTracked site callers pool) (turn : Nat × StoreTurn)
    (apart : CreatesApart pool.log) (careful : ¬Overwrites pool turn) :
    CreatesApart (pool.step turn).log := by
  rcases pool.step_cases turn with same | ⟨call, next, asks, stepped⟩
  · rw [same]
    exact apart
  · rw [stepped]
    apply apart.cons
    intro stored
    have serves := serveViews_serves turn.1 turn.2 tracked.histories call
    obtain ⟨record, _, rfl, _⟩ := serves.stored stored
    obtain ⟨located, overtakenIff⟩ := tracked.upsert_absent asks
    have taken := (serveViews_stored turn.1 turn.2 pool.state record).mp stored
    rw [Bool.eq_false_iff]
    intro stands
    have present := tracked.standing _ _ _ located stands
    exact careful ⟨record, next, asks, taken, overtakenIff.mpr present⟩

/-- Creates of a view without `replace` are exclusive exactly when none of them is overtaken by
another create between its lookup and its upsert. -/
theorem viewCreation_once (site : ViewSite) (callers : Nat → ViewCaller) (ops : List MemoryOp)
    (turns : List (Nat × StoreTurn)) :
    CreatesOnce site callers (ViewPool.start site callers (empty.run ops)) turns ↔
      Along ViewPool.step (fun pool turn => ¬Overwrites pool turn)
        (ViewPool.start site callers (empty.run ops)) turns := by
  have histories := run_viewHistory (fun key => (viewHistory_empty key).1) ops
  have tracked := start_tracked site callers histories
  have same := along_congr ViewPool.step KeepsView (fun pool turn => ¬Overwrites pool turn)
    (ViewTracked site callers) (fun _ turn tracked _ => step_tracked tracked turn)
    (fun _ turn tracked => keepsView_iff tracked turn) _ turns tracked
  constructor
  · intro once
    exact same.mp once.kept
  · intro careful
    have invariant := run_invariant_along ViewPool.step (fun pool turn => ¬Overwrites pool turn)
      (fun pool => ViewTracked site callers pool ∧ CreatesApart pool.log)
      (fun _ turn sound careful =>
        ⟨step_tracked sound.1 turn, step_apart sound.1 turn sound.2 careful⟩)
      _ turns ⟨tracked, ?_⟩ careful
    · refine ⟨same.mpr careful, invariant.2, ?_⟩
      intro caller result finished
      have obeys := program_follows site (callers caller)
      apply obeys.runs
      rw [Program.Runs, ← finished]
      exact invariant.1.follows caller
    · intro later second between first earlier split
      simp [ViewPool.start, Pool.start] at split

end

section Samples

def salesViews : ViewSite := ⟨⟨"main"⟩, ["sales"], "recent"⟩

/-- An engine that allows everything. -/
def allowingTurn (now : Timestamp) : StoreTurn where
  now := now
  others
    | .authorize request => .ok {
        principal := request.principal
        action := request.action
        table := request.table
        allowed := true
        engine := "allow-all"
        policyHash := none
        context := .object []
        checkedAt := now }
    | .policyBindingsForTable _ | .createNamespace .. | .listNamespaces _ | .loadNamespace ..
    | .dropNamespace .. | .createTable _ | .loadTable _ | .listTables _ | .softDeleteTable ..
    | .commitTable .. | .tableCommitRecords .. | .loadView .. | .listViews .. | .upsertView _
    | .dropView .. | .prepareCommit _ | .planScan .. | .fetchScanTasks .. =>
        .error (.internal "not asked")

/-- Two creates of one view that both look before either of them stores it. -/
def crossedTurns : List (Nat × StoreTurn) :=
  [0, 0, 0, 1, 1, 1, 0, 1].map fun caller => (caller, allowingTurn 5)

def plainCreate (definition : String) :
    letI := plainCatalog
    ViewCaller :=
  letI := plainCatalog
  ⟨"lake", ⟨"user:ada", .human⟩, .create 3 {
    columns := ()
    definition := definition
    ifNotExists := false
    replace := false
    comment := none
    properties := [] } rfl⟩

/-- The second upsert stores the view again, with the first one still there. -/
theorem viewCreation_crossed :
    ¬∀ (_ : External) (_ : SailCatalog) (site : ViewSite) (callers : Nat → ViewCaller)
      (ops : List MemoryOp) (turns : List (Nat × StoreTurn)),
      CreatesOnce site callers (ViewPool.start site callers (empty.run ops)) turns := by
  intro always
  let _ := constantExternal
  let _ := plainCatalog
  let callers : Nat → ViewCaller := fun caller => plainCreate (if caller = 0 then "a" else "b")
  let pool := ViewPool.start salesViews callers (empty.run sampleSetup)
  have apart := (always _ _ salesViews callers sampleSetup crossedTurns).apart
  have events : (pool.run crossedTurns).log.map (fun entry => viewEvent entry.exchange) =
      [.stored, .stored, .looked, .other, .other, .looked, .other, .other] := by
    decide +kernel
  obtain ⟨second, rest, log, secondStored, others⟩ := List.map_eq_cons_iff.mp events
  obtain ⟨first, earlier, split, firstStored, _⟩ := List.map_eq_cons_iff.mp others
  rw [split] at log
  obtain ⟨entry, member, _⟩ := apart [] second [] first earlier log secondStored firstStored
  cases member

end Samples

end LakeCat
