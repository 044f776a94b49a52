import LakeCat.ChangeEvents
import LakeCat.EventKinds
import LakeCat.PoliciesRestrict

/-!
Requests that change the catalog and record the change with a second call, any
number of them under way at once. A request that stops between its two calls, or
whose second call fails, leaves a change that no event describes.
-/

namespace LakeCat

open Fallible Transition

/-- The other calls of the service: each writes its own event, or changes nothing described here. -/
def MemoryOp.RecordsItself : MemoryOp → Prop
  | .renameTable .. | .commitTable .. | .softDeleteTable .. | .restoreTable ..
  | .saveGovernedScanGrant .. | .publishModel .. | .markOutboxDelivered .. => True
  | .recordAuditEvent event => event.eventType ∉ changeEventTypes
  | _ => False

/-- A store, the events that requests between their two calls have yet to record, and the events
of all changes so far. -/
structure ChangeSystem where
  store : MemoryState
  pending : List CatalogAuditEvent
  changes : List CatalogAuditEvent

inductive ChangeStep where
  | change (request : ChangeRequest) (receipt : AuthorizationReceipt) (now recorded : Timestamp)
  /-- The second call of the request at this place among those under way. -/
  | record (place : Nat)
  | stop (place : Nat)
  | other (op : MemoryOp) (itself : op.RecordsItself)

namespace MemoryState

/-- The audit events of changes that are recorded by a second call. -/
def changeEvents (store : MemoryState) : List CatalogAuditEvent :=
  store.auditEvents.filter fun event => event.eventType ∈ changeEventTypes

/-- The payloads of their outbox events. -/
def changeOutbox (store : MemoryState) : List Json :=
  (store.outboxEvents.filter fun event => event.eventType ∈ changeEventTypes).map
    OutboxEvent.payload

end MemoryState

namespace ChangeSystem
variable [External]

def idle : ChangeSystem := ⟨.empty, [], []⟩

def step (system : ChangeSystem) : ChangeStep → ChangeSystem
  | .change request receipt now recorded =>
      let store := system.store.step (request.change receipt now)
      match request.event system.store receipt now recorded with
      | .ok event => ⟨store, system.pending ++ [event], system.changes ++ [event]⟩
      | .error _ => { system with store := store }
  | .record place =>
      match system.pending[place]? with
      | some event => {
          system with
          store := system.store.step (.recordAuditEvent event)
          pending := system.pending.eraseIdx place
        }
      | none => system
  | .stop place => { system with pending := system.pending.eraseIdx place }
  | .other op _ => { system with store := system.store.step op }

def run (system : ChangeSystem) (steps : List ChangeStep) : ChangeSystem :=
  Transition.run step system steps

/-- Each change is described by one audit event and one outbox event, and they describe nothing
else. -/
structure EventsMatch (system : ChangeSystem) : Prop where
  audit : system.store.changeEvents.Perm system.changes
  outbox : system.store.changeOutbox.Perm
    (system.changes.map fun event => auditOutboxPayload (auditEventId event) event)

/-- The store has no use for the event: it is not well formed, or one like it is there. -/
def Refuses (store : MemoryState) (event : CatalogAuditEvent) : Prop :=
  event.validateRecordable ≠ .ok () ∨
    ∃ other ∈ store.outboxEvents, other.eventId = (MemoryState.auditOutbox event).eventId

/-- A request ends between its two calls, or with a second call that fails. -/
def LosesEvent (system : ChangeSystem) : ChangeStep → Prop
  | .record place => ∃ event, system.pending[place]? = some event ∧ Refuses system.store event
  | .stop place => place < system.pending.length
  | _ => False

end ChangeSystem

namespace MemoryState
variable [External]

omit [External] in
theorem changeEvents_append {state next : MemoryState} {event : CatalogAuditEvent}
    {outbox : OutboxEvent} (audit : next.auditEvents = state.auditEvents ++ [event])
    (written : next.outboxEvents = state.outboxEvents ++ [outbox])
    (typed : outbox.eventType = event.eventType) :
    next.changeEvents = state.changeEvents ++
        (if event.eventType ∈ changeEventTypes then [event] else []) ∧
      next.changeOutbox = state.changeOutbox ++
        (if event.eventType ∈ changeEventTypes then [outbox.payload] else []) := by
  rw [changeEvents, changeOutbox, audit, written, List.filter_append, List.filter_append,
    List.map_append, changeEvents, changeOutbox]
  by_cases change : event.eventType ∈ changeEventTypes <;> simp [change, typed]

/-- Only the second call of a change adds to the events of changes. -/
theorem step_changeEvents (state : MemoryState) (op : MemoryOp)
    (quiet : ∀ event, op = .recordAuditEvent event → event.eventType ∉ changeEventTypes) :
    (state.step op).changeEvents = state.changeEvents ∧
      (state.step op).changeOutbox = state.changeOutbox := by
  have other : ∀ kind ∈ op.eventKind, decide (kind ∈ changeEventTypes) = false := by
    intro kind member
    cases op with
    | recordAuditEvent event =>
        obtain rfl := Option.some.inj member
        exact decide_eq_false (quiet event rfl)
    | renameTable | commitTable | softDeleteTable | restoreTable | publishModel =>
        obtain rfl := Option.some.inj member
        decide
    | _ => cases member
  have events : (state.step op).auditOfKind _ = _ ∧ _ := step_eventsOfKind op other
  obtain ⟨audit, outbox⟩ := events
  have payloads := congrArg (List.map OutboxEvent.payload) outbox
  rw [outboxOfKind, outboxOfKind, List.map_map, List.map_map] at payloads
  exact ⟨audit, payloads⟩

/-- The second call of a change adds its event, or fails and leaves the store. -/
theorem step_recordChange (state : MemoryState) {event : CatalogAuditEvent}
    (change : event.eventType ∈ changeEventTypes) :
    (ChangeSystem.Refuses state event ∧ state.step (.recordAuditEvent event) = state) ∨
      ¬ChangeSystem.Refuses state event ∧
        (state.step (.recordAuditEvent event)).changeEvents = state.changeEvents ++ [event] ∧
        (state.step (.recordAuditEvent event)).changeOutbox =
          state.changeOutbox ++ [auditOutboxPayload (auditEventId event) event] := by
  have accepted : ¬ChangeSystem.Refuses state event ↔ event.validateRecordable = .ok () ∧
      ∀ other ∈ state.outboxEvents, other.eventId ≠ (auditOutbox event).eventId := by
    simp only [ChangeSystem.Refuses, not_or, not_not, ne_eq, not_exists, not_and]
  rcases atomic_cases state (state.recordAuditEvent event) with ⟨done, recorded⟩ | ⟨error, failed, same⟩
  · obtain ⟨recordable, fresh, next⟩ := (recordAuditEvent_ok _ _ _ _).mp recorded
    refine .inr ⟨accepted.mpr ⟨recordable, fresh⟩, ?_⟩
    have audit : (state.step (.recordAuditEvent event)).auditEvents =
        state.auditEvents ++ [event] := congrArg auditEvents next
    have written : (state.step (.recordAuditEvent event)).outboxEvents =
        state.outboxEvents ++ [auditOutbox event] := congrArg outboxEvents next
    have appended := changeEvents_append audit written rfl
    rw [if_pos change, if_pos change] at appended
    exact appended
  · refine .inl ⟨?_, same⟩
    by_contra accepts
    obtain ⟨recordable, fresh⟩ := accepted.mp accepts
    cases failed.symm.trans ((recordAuditEvent_ok state _ event ()).mpr ⟨recordable, fresh, rfl⟩)

end MemoryState

namespace ChangeSystem
variable [External]

/-- All changes are recorded, waiting for their second call, or lost. -/
structure Accounted (system : ChangeSystem) (lost : List CatalogAuditEvent) : Prop where
  changes : system.changes.Perm (system.store.changeEvents ++ (system.pending ++ lost))
  outbox : system.store.changeOutbox =
    system.store.changeEvents.map fun event => auditOutboxPayload (auditEventId event) event
  typed : ∀ event ∈ system.pending, event.eventType ∈ changeEventTypes

theorem event_type {request : ChangeRequest} {store : MemoryState}
    {receipt : AuthorizationReceipt} {now recorded : Timestamp} {event : CatalogAuditEvent}
    (made : request.event store receipt now recorded = .ok event) :
    event.eventType ∈ changeEventTypes := by
  simp only [ChangeRequest.event, bind_eq_ok, pure_eq, Except.ok.injEq] at made
  obtain ⟨described, found, rfl⟩ := made
  exact describe_type found

omit [External] in
theorem change_quiet (request : ChangeRequest) (receipt : AuthorizationReceipt) (now : Timestamp)
    (event : CatalogAuditEvent) : request.change receipt now ≠ .recordAuditEvent event := by
  cases request <;> exact nofun

omit [External] in
theorem pending_perm {pending : List CatalogAuditEvent} {place : Nat} {event : CatalogAuditEvent}
    (found : pending[place]? = some event) :
    pending.Perm (event :: pending.eraseIdx place) := by
  obtain ⟨inside, rfl⟩ := List.getElem?_eq_some_iff.mp found
  exact (List.getElem_cons_eraseIdx_perm inside).symm

/-- What the events of changes are made of once the request at a place goes on or stops. -/
theorem Accounted.taken {system : ChangeSystem} {lost : List CatalogAuditEvent}
    (accounted : system.Accounted lost) {place : Nat} {event : CatalogAuditEvent}
    (found : system.pending[place]? = some event) :
    system.changes.Perm (system.store.changeEvents ++
      (event :: (system.pending.eraseIdx place ++ lost))) :=
  accounted.changes.trans (((pending_perm found).append_right lost).append_left _)

theorem Accounted.loses {system : ChangeSystem} {lost : List CatalogAuditEvent}
    (accounted : system.Accounted lost) {place : Nat} {event : CatalogAuditEvent}
    (found : system.pending[place]? = some event) :
    Accounted { system with pending := system.pending.eraseIdx place } (lost ++ [event]) := by
  refine ⟨(accounted.taken found).trans (List.Perm.append_left _ ?_), accounted.outbox,
    fun other member => accounted.typed other (List.mem_of_mem_eraseIdx member)⟩
  rw [← List.append_assoc]
  exact (List.perm_append_singleton _ _).symm

theorem step_accounted {system : ChangeSystem} {lost : List CatalogAuditEvent}
    (accounted : system.Accounted lost) (action : ChangeStep) :
    ∃ more, (system.step action).Accounted (lost ++ more) ∧
      (more = [] ↔ ¬system.LosesEvent action) := by
  have quiet (op : MemoryOp)
      (other : ∀ event, op = .recordAuditEvent event → event.eventType ∉ changeEventTypes) :
      Accounted { system with store := system.store.step op } lost := by
    obtain ⟨events, payloads⟩ := system.store.step_changeEvents op other
    refine ⟨?_, ?_, accounted.typed⟩
    · rw [events]
      exact accounted.changes
    · rw [events, payloads]
      exact accounted.outbox
  cases action with
  | change request receipt now recorded =>
      have changed := quiet (request.change receipt now) fun event same =>
        absurd same (change_quiet request receipt now event)
      refine ⟨[], ?_, iff_of_true rfl id⟩
      rw [List.append_nil, step]
      cases made : request.event system.store receipt now recorded with
      | error error => exact changed
      | ok event =>
          refine ⟨(changed.changes.append_right [event]).trans ?_, changed.outbox, ?_⟩
          · rw [List.append_assoc, List.append_assoc, List.append_assoc]
            exact (List.perm_append_comm.append_left _).append_left _
          · intro other member
            rcases List.mem_append.mp member with old | new
            · exact accounted.typed other old
            · rw [List.mem_singleton.mp new]
              exact event_type made
  | record place =>
      cases found : system.pending[place]? with
      | none =>
          refine ⟨[], ?_, iff_of_true rfl ?_⟩
          · rw [List.append_nil, step, found]
            exact accounted
          · rintro ⟨event, present, _⟩
            cases found.symm.trans present
      | some event =>
          have change := accounted.typed event (List.mem_of_getElem? found)
          rw [step, found]
          rcases system.store.step_recordChange change with
            ⟨refused, same⟩ | ⟨accepted, events, payloads⟩
          · refine ⟨[event], ?_, iff_of_false (List.cons_ne_nil _ _) ?_⟩
            · simp only [same]
              exact accounted.loses found
            · exact fun kept => kept ⟨event, found, refused⟩
          · refine ⟨[], ⟨?_, ?_, ?_⟩, iff_of_true rfl ?_⟩
            · rw [events, List.append_nil, List.append_assoc]
              exact accounted.taken found
            · rw [events, payloads, List.map_append, accounted.outbox]
              rfl
            · exact fun other member => accounted.typed other (List.mem_of_mem_eraseIdx member)
            · rintro ⟨other, present, refused⟩
              cases found.symm.trans present
              exact accepted refused
  | stop place =>
      by_cases inside : place < system.pending.length
      · have found := List.getElem?_eq_getElem inside
        exact ⟨[system.pending[place]], accounted.loses found,
          iff_of_false (List.cons_ne_nil _ _) fun kept => kept inside⟩
      · refine ⟨[], ?_, iff_of_true rfl inside⟩
        rw [List.append_nil, step, List.eraseIdx_of_length_le (Nat.le_of_not_lt inside)]
        exact accounted
  | other op itself =>
      refine ⟨[], ?_, iff_of_true rfl id⟩
      rw [List.append_nil]
      refine quiet op fun event same => ?_
      subst same
      exact itself

theorem run_accounted {system : ChangeSystem} {lost : List CatalogAuditEvent}
    (accounted : system.Accounted lost) (steps : List ChangeStep) :
    ∃ more, (system.run steps).Accounted (lost ++ more) ∧
      (more = [] ↔ Along step (fun system action => ¬system.LosesEvent action) system steps) := by
  induction steps generalizing system lost with
  | nil => exact ⟨[], by rw [List.append_nil]; exact accounted, iff_of_true rfl trivial⟩
  | cons action rest ih =>
      obtain ⟨first, stepped, loses⟩ := step_accounted accounted action
      obtain ⟨others, finished, later⟩ := ih stepped
      refine ⟨first ++ others, ?_, ?_⟩
      · rw [← List.append_assoc]
        exact finished
      · rw [List.append_eq_nil_iff, Along, loses, later]

/-- The events match the changes exactly when no event was lost and none is outstanding. -/
theorem eventsMatch_iff_noneLost (steps : List ChangeStep) :
    (idle.run steps).EventsMatch ↔
      Along step (fun system action => ¬system.LosesEvent action) idle steps ∧
        (idle.run steps).pending = [] := by
  have initial : idle.Accounted [] := ⟨.nil, rfl, by simp [idle]⟩
  obtain ⟨lost, accounted, none⟩ := run_accounted initial steps
  rw [List.nil_append] at accounted
  rw [← none]
  generalize idle.run steps = system at accounted
  constructor
  · intro matched
    have same := (matched.audit.trans accounted.changes).length_eq
    rw [List.length_append, List.length_append] at same
    constructor
    · exact List.length_eq_zero_iff.mp (by omega)
    · exact List.length_eq_zero_iff.mp (by omega)
  · rintro ⟨rfl, idle⟩
    have changes := accounted.changes
    rw [idle, List.append_nil, List.append_nil] at changes
    refine ⟨changes.symm, ?_⟩
    rw [accounted.outbox]
    exact changes.symm.map _

omit [External] in
/-- A namespace that was created by a request that stopped before its second call. -/
theorem createNamespace_unrecorded : ∃ (_ : External) (steps : List ChangeStep),
    (idle.run steps).store.namespaceExists sampleIdent.warehouse sampleIdent.ns = true ∧
      (idle.run steps).store.auditEvents = [] ∧ ¬(idle.run steps).EventsMatch := by
  let _ := constantExternal
  let receipt : AuthorizationReceipt :=
    ⟨.anonymous, .namespaceCreate, none, true, "allow-all", none, .null, 1⟩
  let steps : List ChangeStep :=
    [.change (.createNamespace sampleIdent.warehouse sampleIdent.ns .default) receipt 1 1, .stop 0]
  have changed : (idle.run steps).changes.length = 1 := by decide +kernel
  have recorded : (idle.run steps).store.auditEvents.length = 0 := by decide +kernel
  have created : (idle.run steps).store.namespaceExists sampleIdent.warehouse sampleIdent.ns =
      true := by decide +kernel
  have none := List.length_eq_zero_iff.mp recorded
  refine ⟨constantExternal, steps, created, none, fun matched => ?_⟩
  have same := matched.audit.length_eq
  rw [MemoryState.changeEvents, none, changed] at same
  cases same

end ChangeSystem

end LakeCat
