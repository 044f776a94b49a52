import LakeCat.DrainRuns
import LakeCat.PoliciesRestrict

/-!
Runs of the drain beside each other and beside the requests that record events.
-/

namespace LakeCat

open Fallible Transition

/-- The store and the runs that have read their batch and not yet marked it. -/
structure DrainSystem where
  store : MemoryState
  running : Nat → Option DrainCall

inductive DrainStep where
  | record (events : List OutboxEvent) (pending : ∀ event ∈ events, event.deliveredAt = none)
  | start (client limit : Nat) (readFault : Option LakeCatError) (sinks : Sinks)
  | finish (client : Nat) (markFault : Option LakeCatError) (clock : Timestamp)

namespace DrainSystem

def recorded (store : MemoryState) (events : List OutboxEvent) : MemoryState :=
  { store with outboxEvents := store.outboxEvents ++ events }

def idle (store : MemoryState) : DrainSystem := ⟨store, fun _ => none⟩

/-- Each batch that is marked stands alone in the outbox by then. -/
def AcknowledgesAlone (system : DrainSystem) : DrainStep → Prop
  | .finish client _ _ => ∀ call, system.running client = some call →
      call.StandsAlone system.store
  | _ => True

section
variable [External] [OutboxEvidence]

def step (defaultWarehouse : WarehouseName) (system : DrainSystem) : DrainStep → DrainSystem
  | .record events _ => { system with store := recorded system.store events }
  | .start client limit readFault sinks =>
      match system.running client with
      | some _ => system
      | none => {
          system with
          running := Function.update system.running client
            (some ⟨system.store, limit, readFault, sinks⟩)
        }
  | .finish client markFault clock =>
      match system.running client with
      | none => system
      | some call => {
          store := (call.finish defaultWarehouse system.store markFault clock).2
          running := Function.update system.running client none
        }

def run (defaultWarehouse : WarehouseName) (system : DrainSystem) (steps : List DrainStep) :
    DrainSystem :=
  Transition.run (step defaultWarehouse) system steps

/-- A run finishes here and marks this event. -/
structure Marks (defaultWarehouse : WarehouseName) (system : DrainSystem) (client : Nat)
    (markFault : Option LakeCatError) (clock : Timestamp) (call : DrainCall) (position : Nat)
    (event : OutboxEvent) : Prop where
  running : system.running client = some call
  marked : MarkedAt system.store (call.finish defaultWarehouse system.store markFault clock).2
    clock position event

/-- What a step leaves at a place of the outbox was there before, recorded by it or marked. -/
theorem step_stands (defaultWarehouse : WarehouseName) (system : DrainSystem) (action : DrainStep)
    {position : Nat} {later : OutboxEvent} (delivered : later.deliveredAt ≠ none)
    (stands : (step defaultWarehouse system action).store.outboxEvents[position]? = some later) :
    system.store.outboxEvents[position]? = some later ∨
      ∃ client markFault clock call event, action = .finish client markFault clock ∧
        Marks defaultWarehouse system client markFault clock call position event ∧
        later = { event with deliveredAt := some clock } := by
  cases action with
  | record events pending =>
      left
      by_cases bound : position < system.store.outboxEvents.length
      · exact (List.getElem?_append_left bound).symm.trans stands
      · have added : events[position - system.store.outboxEvents.length]? = some later :=
          (List.getElem?_append_right (Nat.le_of_not_lt bound)).symm.trans stands
        exact absurd (pending later (List.mem_of_getElem? added)) delivered
  | start client limit readFault sinks =>
      left
      rw [step] at stands
      split at stands <;> exact stands
  | finish client markFault clock =>
      rw [step] at stands
      split at stands
      next => exact .inl stands
      next call running =>
        obtain ⟨event, stood, rfl | ⟨marked, same⟩⟩ := finish_stands _ _ _ _ _ stands
        · exact .inl stood
        · exact .inr ⟨client, markFault, clock, call, event, rfl, ⟨running, marked⟩, same⟩

/-- Once delivered, an event stays as it is. -/
theorem step_keeps (defaultWarehouse : WarehouseName) (system : DrainSystem) (action : DrainStep)
    {position : Nat} {event : OutboxEvent} (delivered : event.deliveredAt ≠ none)
    (stood : system.store.outboxEvents[position]? = some event) :
    (step defaultWarehouse system action).store.outboxEvents[position]? = some event := by
  cases action with
  | record events pending =>
      exact (List.getElem?_append_left (List.getElem?_eq_some_iff.mp stood).1).trans stood
  | start client limit readFault sinks =>
      rw [step]
      split <;> exact stood
  | finish client markFault clock =>
      rw [step]
      split
      next => exact stood
      next call running =>
        rcases finish_kept call defaultWarehouse system.store markFault clock stood with
          kept | marked
        · exact kept
        · exact absurd marked.pending delivered

theorem run_keeps (defaultWarehouse : WarehouseName) (system : DrainSystem)
    (steps : List DrainStep) {position : Nat} {event : OutboxEvent}
    (delivered : event.deliveredAt ≠ none)
    (stood : system.store.outboxEvents[position]? = some event) :
    (run defaultWarehouse system steps).store.outboxEvents[position]? = some event :=
  run_invariant (step defaultWarehouse)
    (fun system => system.store.outboxEvents[position]? = some event)
    (fun system action => step_keeps defaultWarehouse system action delivered) system steps stood

/-- An event that is delivered in the end was so from the start, or some run marked it. -/
theorem run_traced (defaultWarehouse : WarehouseName) (system : DrainSystem)
    (steps : List DrainStep) {position : Nat} {later : OutboxEvent}
    (delivered : later.deliveredAt ≠ none)
    (stands : (run defaultWarehouse system steps).store.outboxEvents[position]? = some later) :
    system.store.outboxEvents[position]? = some later ∨
      ∃ done rest client markFault clock call event,
        steps = done ++ .finish client markFault clock :: rest ∧
        Marks defaultWarehouse (run defaultWarehouse system done) client markFault clock call
          position event ∧
        later = { event with deliveredAt := some clock } := by
  induction steps generalizing system with
  | nil => exact .inl stands
  | cons action others ih =>
      rcases ih (step defaultWarehouse system action) stands with stood | found
      · rcases step_stands defaultWarehouse system action delivered stood with
          before | ⟨client, markFault, clock, call, event, rfl, marks, same⟩
        · exact .inl before
        · exact .inr ⟨[], others, client, markFault, clock, call, event, rfl, marks, same⟩
      · obtain ⟨done, rest, client, markFault, clock, call, event, rfl, marks, same⟩ := found
        exact .inr ⟨action :: done, rest, client, markFault, clock, call, event, rfl, marks, same⟩

/-- Every run of the drain delivers its batch completely or leaves the outbox as it was, and what is
delivered in the end was marked once, after its projections. -/
theorem drains_deliverOrRetry (defaultWarehouse : WarehouseName) (store : MemoryState)
    (steps : List DrainStep)
    (alone : Along (step defaultWarehouse) AcknowledgesAlone (idle store) steps) :
    Along (step defaultWarehouse) (fun system action =>
        ∀ client markFault clock call, action = .finish client markFault clock →
          system.running client = some call →
            DeliversOrRetries call defaultWarehouse system.store markFault clock)
        (idle store) steps ∧
      (∀ position later,
        (run defaultWarehouse (idle store) steps).store.outboxEvents[position]? = some later →
          later.deliveredAt ≠ none → store.outboxEvents[position]? = some later ∨
            ∃ done rest client markFault clock call event,
              steps = done ++ .finish client markFault clock :: rest ∧
              Marks defaultWarehouse (run defaultWarehouse (idle store) done) client markFault
                clock call position event ∧
              ProjectedInTurn call defaultWarehouse event ∧
              later = { event with deliveredAt := some clock }) ∧
      ∀ done between rest client other markFault otherFault clock otherClock call otherCall
          position event otherEvent,
        steps = done ++ .finish client markFault clock ::
            (between ++ .finish other otherFault otherClock :: rest) →
        Marks defaultWarehouse (run defaultWarehouse (idle store) done) client markFault clock
          call position event →
        ¬Marks defaultWarehouse (run defaultWarehouse (idle store)
            (done ++ .finish client markFault clock :: between)) other otherFault otherClock
          otherCall position otherEvent := by
  have each : Along (step defaultWarehouse) (fun system action =>
      ∀ client markFault clock call, action = .finish client markFault clock →
        system.running client = some call →
          DeliversOrRetries call defaultWarehouse system.store markFault clock)
      (idle store) steps := by
    refine Along.imp ?_ _ _ alone
    rintro system action allowed client markFault clock call rfl running
    exact finish_deliversOrRetries call defaultWarehouse system.store markFault clock
      (allowed call running)
  refine ⟨each, ?_, ?_⟩
  · intro position later stands delivered
    refine (run_traced defaultWarehouse (idle store) steps delivered stands).imp_right ?_
    rintro ⟨done, rest, client, markFault, clock, call, event, rfl, marks, same⟩
    have here := ((along_append _ _ _).mp each).2.1 client markFault clock call rfl marks.running
    exact ⟨done, rest, client, markFault, clock, call, event, rfl, marks,
      here.projected position event marks.marked, same⟩
  · intro done between rest client other markFault otherFault clock otherClock call otherCall
      position event otherEvent _ marks twice
    have left : (step defaultWarehouse (run defaultWarehouse (idle store) done)
        (.finish client markFault clock)).store.outboxEvents[position]? =
          some { event with deliveredAt := some clock } := by
      rw [step, marks.running]
      exact marks.marked.delivered
    have stays := run_keeps defaultWarehouse _ between (Option.some_ne_none clock) left
    have stood := twice.marked.stood
    rw [run, Transition.run_append, Transition.run_cons] at stood
    have pending := twice.marked.pending
    rw [← Option.some.inj (stays.symm.trans stood)] at pending
    cases pending

end

end DrainSystem

section
variable [External]

/-- Sinks that take every event. -/
def acceptingSinks : Sinks where
  graph _ _ := .ok ()
  lineage _ _ := .ok ⟨contentHashBytes "", contentHashBytes ""⟩

/-- A publication as `record_audit_event` files it. -/
def publishedEvent (modelId : String) (now : Timestamp) : OutboxEvent :=
  let audit := CatalogAuditEvent.new "model.published" none .anonymous
    (.object [("event-type", .str "model.published"), ("warehouse", .str "main"),
      ("model-id", .str modelId)]) now
  outboxEvent "model.published" (auditOutboxPayload (auditEventId audit) audit) now

theorem publishedEvent_sound (modelId : String) (now : Timestamp) :
    MemoryState.SoundEvent (publishedEvent modelId now) where
  id := rfl
  sink := (by decide : isBlank "lakecat.lineage-and-graph" = false)
  eventType := (by decide : isBlank "model.published" = false)
  typed := MemoryState.auditOutboxPayload_typed _ _

variable [OutboxEvidence]

/-- The validations let this event through, whatever its receipt. -/
def PassesEvidence (event : OutboxEvent) : Prop :=
  OutboxEvidence.validateOutboxEventEvidence event = .ok () ∧
    ∀ receipt, OutboxEvidence.validateLineageSummary event receipt = .ok ()

theorem projectOne_accepted {event : OutboxEvent} {defaultWarehouse : WarehouseName}
    {graph : GraphEvent} {lineage : LineageEvent} (passes : PassesEvidence event)
    (plan : event.projectOutboxEvent defaultWarehouse [] =
      (.ok (), [.graph graph, .lineage lineage])) (made : List Emission) :
    ∃ entry, projectOne acceptingSinks defaultWarehouse event made =
      (.ok entry, made ++ [.graph graph, .lineage lineage]) := by
  let receipt : OutboxProjectionReceipt := ⟨1, 1, [contentHashBytes ""], [contentHashBytes ""]⟩
  have emitted : event.project acceptingSinks defaultWarehouse made =
      (.ok receipt, made ++ [.graph graph, .lineage lineage]) := by
    simp only [OutboxEvent.project, plan, Projection.bind_eq_ok, Projection.reading_eq_ok,
      Projection.pure_eq_ok, Sinks.emitAll]
    refine ⟨receipt, made ++ [.graph graph, .lineage lineage], ?_, (), _, ⟨trivial, rfl⟩, rfl, rfl⟩
    refine ⟨⟨1, 0, [], []⟩, made ++ [.graph graph], rfl, receipt, _, ?_, rfl, rfl⟩
    simp [Sinks.emit, acceptingSinks, receipt, OutboxProjectionReceipt.recordLineage]
  have checked : validateProjectionReceiptEvidence event receipt = .ok () := by
    simp [validateProjectionReceiptEvidence, validateProjectionReceiptHashArray, receipt,
      rejectIf]
  have summarized : lineageDrainEventSummary event receipt =
      .ok ⟨event.eventId, event.eventType, 1, 1⟩ := by
    rw [lineageDrainEventSummary, passes.2, ok_bind]
    rfl
  refine ⟨(receipt, ⟨event.eventId, event.eventType, 1, 1⟩), ?_⟩
  simp only [projectOne, Projection.bind_eq_ok, Projection.reading_eq_ok, Projection.pure_eq_ok]
  exact ⟨(), made, ⟨passes.1, rfl⟩, receipt, _, emitted, (), _, ⟨checked, rfl⟩, _, _,
    ⟨summarized, rfl⟩, rfl, rfl⟩

theorem projectBatch_accepted {defaultWarehouse : WarehouseName} {events : List OutboxEvent}
    (passes : ∀ event ∈ events, PassesEvidence event)
    (plans : ∀ event ∈ events, ∃ graph lineage, event.projectOutboxEvent defaultWarehouse [] =
      (.ok (), [.graph graph, .lineage lineage])) (made : List Emission) :
    ∃ entries after, projectBatch acceptingSinks defaultWarehouse events made =
      (.ok entries, after) := by
  induction events generalizing made with
  | nil => exact ⟨[], made, rfl⟩
  | cons event rest ih =>
      obtain ⟨graph, lineage, plan⟩ := plans event (by simp)
      obtain ⟨entry, first⟩ := projectOne_accepted (passes event (by simp)) plan made
      obtain ⟨entries, after, others⟩ := ih (fun other member => passes other (by simp [member]))
        (fun other member => plans other (by simp [member]))
        (made ++ [.graph graph, .lineage lineage])
      refine ⟨entry :: entries, after, ?_⟩
      simp only [projectBatch, Projection.bind_eq_ok, Projection.pure_eq_ok]
      exact ⟨entry, _, first, entries, after, others, rfl, rfl⟩

omit [OutboxEvidence] in
/-- A publication that names no principal makes one call of each sink. -/
theorem projectOutboxEvent_published {event : OutboxEvent} {modelId : String}
    (typed : event.eventType = "model.published")
    (payload : event.payload.get "payload" = some (.object [("event-type", .str "model.published"),
      ("warehouse", .str "main"), ("model-id", .str modelId)]))
    (noTable : event.payload.get "table" = none)
    (noReceipt : event.payload.get "authorization-receipt" = none)
    (noCommit : event.payload.get "commit" = none) (named : isBlank modelId = false)
    (defaultWarehouse : WarehouseName) :
    ∃ graph lineage, event.projectOutboxEvent defaultWarehouse [] =
      (.ok (), [.graph graph, .lineage lineage]) := by
  have table : event.outboxTable = .ok none := by
    rw [OutboxEvent.outboxTable, noTable]
    rfl
  have principal : event.outboxPrincipal = .ok .anonymous := by
    have absent : (Json.object [("event-type", .str "model.published"),
        ("warehouse", .str "main"), ("model-id", .str modelId)]).get "authorization-receipt" =
          none := by
      rw [Json.get_object]
      rfl
    have nested : event.payload.getPath ["payload", "authorization-receipt", "principal"] =
        none := by
      simp only [Json.getPath, List.foldlM_cons, payload, Option.bind_eq_bind, Option.bind_some,
        absent, Option.bind_none]
    have outer : event.payload.getPath ["authorization-receipt", "principal"] = none := by
      simp [Json.getPath, noReceipt]
    have committed : event.payload.getPath ["commit", "principal"] = none := by
      simp [Json.getPath, noCommit]
    rw [OutboxEvent.outboxPrincipal, nested, outer, committed]
    rfl
  have warehouse : event.outboxWarehouse defaultWarehouse = .ok ⟨"main"⟩ := by
    rw [OutboxEvent.outboxWarehouse, OutboxEvent.carried, payload, Option.bind_some,
      Json.get_object]
    rfl
  have model : event.outboxModel = .ok modelId := by
    rw [OutboxEvent.outboxModel, OutboxEvent.inner, payload, Option.getD_some, Json.get_object]
    simp [Json.asStr, named]
  have start : event.projectOutboxEvent defaultWarehouse [] =
      event.projectByType defaultWarehouse .anonymous none event.inner [] := by
    rw [OutboxEvent.projectOutboxEvent, Projection.reading_bind, table]
    dsimp only
    rw [Projection.reading_bind, principal]
    dsimp only
    rw [typed]
    rfl
  have branch : event.projectByType defaultWarehouse .anonymous none event.inner = (do
      let warehouse ← Projection.reading (event.outboxWarehouse defaultWarehouse)
      let modelId ← Projection.reading event.outboxModel
      event.projectBoth (.querygraphModel .upserted warehouse modelId event.inner) .modelPublished
        .anonymous none event.inner) := by
    rw [OutboxEvent.projectByType, typed]
    rfl
  rw [start, branch, Projection.reading_bind, warehouse]
  dsimp only
  rw [Projection.reading_bind, model]
  exact ⟨_, _, rfl⟩

omit [OutboxEvidence] in
theorem publishedEvent_plan (modelId : String) (named : isBlank modelId = false)
    (now : Timestamp) (defaultWarehouse : WarehouseName) :
    ∃ graph lineage, (publishedEvent modelId now).projectOutboxEvent defaultWarehouse [] =
      (.ok (), [.graph graph, .lineage lineage]) := by
  have fields : (publishedEvent modelId now).payload.get "payload" =
        some (.object [("event-type", .str "model.published"), ("warehouse", .str "main"),
          ("model-id", .str modelId)]) ∧
      (publishedEvent modelId now).payload.get "table" = none ∧
      (publishedEvent modelId now).payload.get "authorization-receipt" = none ∧
      (publishedEvent modelId now).payload.get "commit" = none := by
    simp [publishedEvent, outboxEvent, auditOutboxPayload, CatalogAuditEvent.new,
      Json.presentField, List.lookup]
  obtain ⟨payload, noTable, noReceipt, noCommit⟩ := fields
  exact projectOutboxEvent_published rfl payload noTable noReceipt noCommit named defaultWarehouse

/-- A call whose batch the sinks and the validations accept. -/
structure DrainCall.Accepted (call : DrainCall) (defaultWarehouse : WarehouseName) : Prop where
  fault : call.readFault = none
  sinks : call.sinks = acceptingSinks
  sound : ∀ event ∈ call.read.outboxEvents, MemoryState.SoundEvent event
  distinct : (call.batch.map OutboxEvent.eventId).Nodup
  passes : ∀ event ∈ call.batch, PassesEvidence event
  plans : ∀ event ∈ call.batch, ∃ graph lineage,
    event.projectOutboxEvent defaultWarehouse [] = (.ok (), [.graph graph, .lineage lineage])

namespace DrainCall.Accepted

variable {call : DrainCall} {defaultWarehouse : WarehouseName}

theorem projects (accepted : call.Accepted defaultWarehouse) :
    ∃ projected emissions,
      call.projectPending defaultWarehouse [] = (.ok projected, emissions) := by
  have valid : ∀ event ∈ call.batch, event.validatePending = .ok () := fun event member =>
    (accepted.sound event (MemoryState.mem_outboxBatch member).1).pending
      (MemoryState.mem_outboxBatch member).2.1
  have pending : call.read.pendingOutboxEvents (some drainSink) call.limit = .ok call.batch := by
    simp only [MemoryState.pendingOutboxEvents, bind_eq_ok, exists_unit, checkEach_ok, pure_eq,
      Except.ok.injEq]
    exact ⟨valid, rfl⟩
  have unrepeated : rejectRepeatedIds [] call.batch = .ok () :=
    (rejectRepeatedIds_ok [] call.batch).mpr ⟨accepted.distinct, fun _ _ => List.not_mem_nil⟩
  have sorted : call.batch.mergeSort outboxLe = call.batch :=
    List.mergeSort_of_pairwise (call.read.outboxBatch_sorted _ _)
  obtain ⟨entries, after, made⟩ := projectBatch_accepted accepted.passes accepted.plans []
  refine ⟨call.batch.zip entries, after, ?_⟩
  simp only [DrainCall.projectPending, Projection.bind_eq_ok, Projection.reading_eq_ok,
    Projection.pure_eq_ok, accepted.fault, accepted.sinks, orFault, pending]
  refine ⟨call.batch, _, ⟨rfl, rfl⟩, (), _, ⟨?_, rfl⟩, entries, after, ?_, ?_, rfl⟩
  · rw [sorted, unrepeated]
  · rw [sorted, made]
  · rw [sorted]

/-- It marks the ids of its batch, whatever the store is by then. -/
theorem finishes (accepted : call.Accepted defaultWarehouse) {store : MemoryState}
    (sound : ∀ event ∈ store.outboxEvents, MemoryState.SoundEvent event) (clock : Timestamp) :
    (call.finish defaultWarehouse store none clock).2.outboxEvents =
        store.outboxEvents.map (·.markIf (call.batch.map OutboxEvent.eventId) clock) ∧
      ∃ projected, projected.length = call.batch.length ∧
        (call.finish defaultWarehouse store none clock).1 = acknowledge projected
          (store.outboxEvents.filter
            (MemoryState.isDeliverable (call.batch.map OutboxEvent.eventId))).length := by
  obtain ⟨projected, emissions, done⟩ := accepted.projects
  have projects := projectPending_ok done
  have shapes : ∀ eventId ∈ call.batch.map OutboxEvent.eventId,
      validateOutboxEventIdShape eventId = .ok () := by
    intro eventId member
    obtain ⟨event, listed, rfl⟩ := List.mem_map.mp member
    rw [validateOutboxEventIdShape,
      (accepted.sound event (MemoryState.mem_outboxBatch listed).1).id]
    simp
  have due : ∀ event ∈ store.outboxEvents.filter
      (MemoryState.isDeliverable (call.batch.map OutboxEvent.eventId)),
        event.validatePending = .ok () := by
    intro event member
    obtain ⟨stood, due⟩ := List.mem_filter.mp member
    exact (sound event stood).pending ((MemoryState.isDeliverable_iff _ _).mp due).1
  obtain ⟨⟨count, marked⟩, marking⟩ : ∃ answer, store.markOutboxDelivered
      (call.batch.map OutboxEvent.eventId) clock = .ok answer := by
    rw [MemoryState.markOutboxDelivered]
    split
    · exact ⟨_, rfl⟩
    · dsimp only
      rw [(checkEach_ok _ _ ()).mpr shapes, ok_bind, (checkEach_ok _ _ ()).mpr due]
      exact ⟨_, rfl⟩
  obtain ⟨left, counted⟩ := MemoryState.markOutboxDelivered_marks marking
  have finished : call.finish defaultWarehouse store none clock =
      (acknowledge projected count, marked) := by
    simp only [DrainCall.finish, done, acknowledgeBatch, projects.ids, orFault, marking]
  rw [finished]
  refine ⟨left, projected, ?_, by rw [counted]⟩
  rw [← projects.batch, List.length_map]

end DrainCall.Accepted

omit [OutboxEvidence] in
/-- Two publications, one after the other. -/
def publishedOutbox : MemoryState :=
  { MemoryState.empty with outboxEvents := [publishedEvent "sales" 1, publishedEvent "orders" 2] }

omit [OutboxEvidence] in
theorem publishedOutbox_batch (limit : Nat) :
    publishedOutbox.outboxBatch (some drainSink) limit =
      [publishedEvent "sales" 1, publishedEvent "orders" 2].take limit := by
  have earlier : (publishedEvent "sales" 1).createdAt < (publishedEvent "orders" 2).createdAt :=
    (by decide : (1 : Int) < 2)
  have sorted : [publishedEvent "sales" 1, publishedEvent "orders" 2].Pairwise
      fun earlier later => outboxLe earlier later = true :=
    List.pairwise_pair.mpr (outboxLe_of_earlier earlier)
  have pending : (publishedOutbox.outboxEvents.filter fun event => event.deliveredAt.isNone).filter
      (fun event => (some drainSink).all (event.sink = ·)) =
        [publishedEvent "sales" 1, publishedEvent "orders" 2] := rfl
  rw [MemoryState.outboxBatch, pending, List.mergeSort_of_pairwise sorted]

/-- A run that asks for some of the two publications, with sinks that take every event. -/
def publishedCall (limit : Nat) : DrainCall := ⟨publishedOutbox, limit, none, acceptingSinks⟩

theorem publishedCall_accepted
    (apart : (publishedEvent "sales" 1).eventId ≠ (publishedEvent "orders" 2).eventId)
    (passes : ∀ event ∈ publishedOutbox.outboxEvents, PassesEvidence event) (limit : Nat)
    (defaultWarehouse : WarehouseName) :
    (publishedCall limit).Accepted defaultWarehouse := by
  have batch : (publishedCall limit).batch =
      [publishedEvent "sales" 1, publishedEvent "orders" 2].take limit :=
    publishedOutbox_batch limit
  have listed : ∀ event ∈ (publishedCall limit).batch,
      event = publishedEvent "sales" 1 ∨ event = publishedEvent "orders" 2 := by
    intro event member
    exact List.mem_pair.mp (List.mem_of_mem_take (batch ▸ member))
  refine ⟨rfl, rfl, ?_, ?_, ?_, ?_⟩
  · intro event member
    rcases List.mem_pair.mp member with rfl | rfl <;> exact publishedEvent_sound _ _
  · rw [batch]
    refine List.Nodup.sublist ((List.take_sublist limit _).map _) ?_
    simpa using apart
  · intro event member
    exact passes event (MemoryState.mem_outboxBatch member).1
  · intro event member
    rcases listed event member with rfl | rfl
    · exact publishedEvent_plan "sales" (by decide) 1 defaultWarehouse
    · exact publishedEvent_plan "orders" (by decide) 2 defaultWarehouse

end

/-- One publication, drained while nothing else happens. -/
theorem drains_deliverOrRetry_publication : ∃ (_ : External) (_ : OutboxEvidence),
    Along (DrainSystem.step ⟨"main"⟩) (fun system action =>
        ∀ client markFault clock call, action = .finish client markFault clock →
          system.running client = some call →
            DeliversOrRetries call ⟨"main"⟩ system.store markFault clock)
      (DrainSystem.idle { MemoryState.empty with outboxEvents := [publishedEvent "sales" 1] })
      [.start 0 1 none acceptingSinks, .finish 0 none 2] := by
  let _ := constantExternal
  let _ : OutboxEvidence := ⟨fun _ => .ok (), fun _ _ => .ok ()⟩
  refine ⟨constantExternal, inferInstance, (DrainSystem.drains_deliverOrRetry _ _ _ ?_).1⟩
  refine ⟨trivial, ?_, trivial⟩
  intro call running event member
  obtain rfl := Option.some.inj running
  obtain rfl := List.mem_singleton.mp (MemoryState.mem_outboxBatch member).1
  change [publishedEvent "sales" 1].filter
    (MemoryState.isDeliverable [(publishedEvent "sales" 1).eventId]) = _
  simp [MemoryState.isDeliverable, publishedEvent, outboxEvent]

/-- Two runs overlap, and the longer one fails although it has marked an event. -/
theorem overlappingDrains_marksAndFails :
    ∃ (defaultWarehouse : WarehouseName) (shorter longer : Nat), ∀ [External] [OutboxEvidence],
      (publishedEvent "sales" 1).eventId ≠ (publishedEvent "orders" 2).eventId →
      (∀ event ∈ publishedOutbox.outboxEvents, PassesEvidence event) →
      ¬Along (DrainSystem.step defaultWarehouse) (fun system action =>
          ∀ client markFault clock call, action = .finish client markFault clock →
            system.running client = some call →
              DeliversOrRetries call defaultWarehouse system.store markFault clock)
        (DrainSystem.idle publishedOutbox)
        [.start 0 longer none acceptingSinks, .start 1 shorter none acceptingSinks,
          .finish 1 none 3, .finish 0 none 4] := by
  refine ⟨⟨"main"⟩, 1, 2, ?_⟩
  intro _ _ apart passes along
  have first := publishedCall_accepted apart passes 2 ⟨"main"⟩
  have second := publishedCall_accepted apart passes 1 ⟨"main"⟩
  have sound : ∀ event ∈ publishedOutbox.outboxEvents, MemoryState.SoundEvent event := first.sound
  have promise : DeliversOrRetries (publishedCall 2) ⟨"main"⟩
      ((publishedCall 1).finish ⟨"main"⟩ publishedOutbox none 3).2 none 4 :=
    along.2.2.2.1 0 none 4 (publishedCall 2) rfl rfl
  obtain ⟨shorterLeft, _⟩ := second.finishes sound 3
  have shorterBatch : (publishedCall 1).batch = [publishedEvent "sales" 1] :=
    publishedOutbox_batch 1
  have left : ((publishedCall 1).finish ⟨"main"⟩ publishedOutbox none 3).2.outboxEvents =
      [{ publishedEvent "sales" 1 with deliveredAt := some 3 }, publishedEvent "orders" 2] := by
    rw [shorterLeft, shorterBatch]
    simp only [publishedOutbox, List.map_cons, List.map_nil, OutboxEvent.markIf,
      MemoryState.isDeliverable, List.contains_cons, List.contains_nil, Bool.or_false]
    rw [if_pos (by simp [publishedEvent, outboxEvent]), if_neg (by simp [apart.symm])]
  have longerBatch : (publishedCall 2).batch =
      [publishedEvent "sales" 1, publishedEvent "orders" 2] := publishedOutbox_batch 2
  have leftSound : ∀ event ∈
      ((publishedCall 1).finish ⟨"main"⟩ publishedOutbox none 3).2.outboxEvents,
        MemoryState.SoundEvent event := by
    intro event member
    rw [left] at member
    rcases List.mem_pair.mp member with rfl | rfl
    · exact ⟨rfl, (publishedEvent_sound "sales" 1).sink, (publishedEvent_sound "sales" 1).eventType,
        (publishedEvent_sound "sales" 1).typed⟩
    · exact publishedEvent_sound _ _
  obtain ⟨longerLeft, projected, length, result⟩ := first.finishes leftSound 4
  have due : ((publishedCall 1).finish ⟨"main"⟩ publishedOutbox none 3).2.outboxEvents.filter
      (MemoryState.isDeliverable ((publishedCall 2).batch.map OutboxEvent.eventId)) =
        [publishedEvent "orders" 2] := by
    rw [left, longerBatch]
    simp [MemoryState.isDeliverable, publishedEvent, outboxEvent]
  rw [due, List.length_singleton] at result
  rw [longerBatch] at length
  rw [acknowledge, rejectIf_pos _ (by simp [length]), error_bind] at result
  have unchanged := congrArg MemoryState.outboxEvents (promise.retried _ result)
  rw [longerLeft, left, longerBatch] at unchanged
  have marked := congrArg (fun events => events.map OutboxEvent.deliveredAt) unchanged
  simp [OutboxEvent.markIf, MemoryState.isDeliverable, publishedEvent, outboxEvent] at marked

end LakeCat
