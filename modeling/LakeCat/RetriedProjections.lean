import LakeCat.GraphEventIds
import LakeCat.LineageSinks
import LakeCat.PoliciesRestrict
import LakeCat.RepeatedDelivery

/-!
Projections that are made again after they failed. The clock dates the graph
events, and a sink may fail at any call, before or after it has taken the event.
-/

namespace LakeCat

open Fallible RepeatedDelivery

/-- A sink that fails, and whether it had taken the event by then. -/
structure SinkFault where
  error : LakeCatError
  landed : Bool

/-- What one attempt meets: the clock at each call, and the calls that fail. -/
structure Attempt where
  now : Nat → Timestamp
  fault : Nat → Option SinkFault

/-- An event as a sink takes it. Graph events are dated when they are made. -/
inductive Delivered where
  | graph (emittedAt : Timestamp) (event : GraphEvent)
  | lineage (event : LineageEvent)

namespace Delivered

/-- The event without the time at which it was made. -/
def emission : Delivered → Emission
  | graph _ event => .graph event
  | lineage event => .lineage event

def stamp (emittedAt : Timestamp) : Emission → Delivered
  | .graph event => graph emittedAt event
  | .lineage event => lineage event

@[simp] theorem emission_stamp (emittedAt : Timestamp) (emission : Emission) :
    (stamp emittedAt emission).emission = emission := by
  cases emission <;> rfl

end Delivered

section
variable [External]

def OutboxProjectionReceipt.count (receipt : OutboxProjectionReceipt) :
    Emission → OutboxProjectionReceipt
  | .graph _ => { receipt with graphEvents := receipt.graphEvents + 1 }
  | .lineage event => receipt.recordLineage event.hashOnly

namespace Attempt

variable (attempt : Attempt)

def emitAll (receipt : OutboxProjectionReceipt) :
    Nat → List Emission → LakeCatResult OutboxProjectionReceipt × List Delivered
  | _, [] => (.ok receipt, [])
  | position, emission :: rest =>
      let delivered := Delivered.stamp (attempt.now position) emission
      match attempt.fault position with
      | some fault => (.error fault.error, if fault.landed then [delivered] else [])
      | none =>
          let (result, others) := emitAll (receipt.count emission) (position + 1) rest
          (result, delivered :: others)

/-- `project_outbox_event`, with what the sinks have taken when it returns. -/
def project (event : OutboxEvent) (defaultWarehouse : WarehouseName) :
    LakeCatResult OutboxProjectionReceipt × List Delivered :=
  let (result, taken) := attempt.emitAll {} 0 (event.calls defaultWarehouse)
  (result.bind fun receipt =>
    (event.projectOutboxEvent defaultWarehouse []).1.map fun _ => receipt, taken)

/-- The same faults, as sinks that answer by the number of calls before. -/
def sinks : Sinks where
  graph made _ :=
    match attempt.fault made.length with
    | some fault => .error fault.error
    | none => .ok ()
  lineage made event :=
    match attempt.fault made.length with
    | some fault => .error fault.error
    | none => .ok event.hashOnly

/-- Up to the time of the graph events, what the sinks have taken. -/
def sent (event : OutboxEvent) (defaultWarehouse : WarehouseName) : List Emission :=
  (attempt.project event defaultWarehouse).2.map Delivered.emission

theorem emitAll_sinks (receipt : OutboxProjectionReceipt) (calls made : List Emission) :
    (attempt.sinks.emitAll receipt calls made).1 =
      (attempt.emitAll receipt made.length calls).1 := by
  induction calls generalizing receipt made with
  | nil => rfl
  | cons emission rest ih =>
      have later := ih (receipt.count emission) (made ++ [emission])
      rw [List.length_append, List.length_singleton] at later
      rw [emitAll, Sinks.emitAll]
      dsimp only [bind]
      cases emission with
      | graph event =>
          cases fails : attempt.fault made.length with
          | some fault => simp [Sinks.emit, sinks, fails]
          | none =>
              simp only [Sinks.emit, sinks, fails]
              exact later
      | lineage event =>
          cases fails : attempt.fault made.length with
          | some fault => simp [Sinks.emit, sinks, fails]
          | none =>
              simp only [Sinks.emit, sinks, fails]
              exact later

/-- An attempt answers as the projection does through sinks with its faults. -/
theorem project_sinks (event : OutboxEvent) (defaultWarehouse : WarehouseName) :
    (event.project attempt.sinks defaultWarehouse []).1 =
      (attempt.project event defaultWarehouse).1 := by
  have emitted := attempt.emitAll_sinks {} (event.calls defaultWarehouse) []
  rw [OutboxEvent.project, project]
  dsimp only [bind]
  rw [OutboxEvent.calls] at emitted ⊢
  rcases made : attempt.sinks.emitAll {} (event.projectOutboxEvent defaultWarehouse []).2 [] with
    ⟨result, calls⟩
  rw [made] at emitted
  dsimp only [List.length_nil] at emitted ⊢
  rw [← emitted]
  cases result with
  | error error => rfl
  | ok receipt =>
      dsimp only [Projection.reading, Except.bind]
      cases (event.projectOutboxEvent defaultWarehouse []).1 <;> rfl

theorem emitAll_begins (receipt : OutboxProjectionReceipt) (position : Nat)
    (calls : List Emission) :
    (attempt.emitAll receipt position calls).2.map Delivered.emission <+: calls := by
  induction calls generalizing receipt position with
  | nil => exact List.prefix_rfl
  | cons emission rest ih =>
      rw [emitAll]
      cases attempt.fault position with
      | some fault =>
          dsimp only
          split <;> simp
      | none =>
          rw [List.map_cons, Delivered.emission_stamp]
          exact (List.prefix_cons_inj emission).mpr (ih _ _)

theorem emitAll_finished {receipt result : OutboxProjectionReceipt} {position : Nat}
    {calls : List Emission} (finished : (attempt.emitAll receipt position calls).1 = .ok result) :
    (attempt.emitAll receipt position calls).2.map Delivered.emission = calls ∧
      result = calls.foldl OutboxProjectionReceipt.count receipt := by
  induction calls generalizing receipt position with
  | nil => exact ⟨rfl, (Except.ok.inj finished).symm⟩
  | cons emission rest ih =>
      rw [emitAll] at finished ⊢
      cases fails : attempt.fault position with
      | some fault =>
          rw [fails] at finished
          cases finished
      | none =>
          rw [fails] at finished
          obtain ⟨sent, counted⟩ := ih finished
          exact ⟨by rw [List.map_cons, Delivered.emission_stamp, sent], counted⟩

theorem sent_begins (event : OutboxEvent) (defaultWarehouse : WarehouseName) :
    attempt.sent event defaultWarehouse <+: event.calls defaultWarehouse :=
  attempt.emitAll_begins {} 0 _

/-- An attempt that goes through has sent everything, and its receipt is that of the calls. -/
theorem project_finished {event : OutboxEvent} {defaultWarehouse : WarehouseName}
    {receipt : OutboxProjectionReceipt}
    (finished : (attempt.project event defaultWarehouse).1 = .ok receipt) :
    attempt.sent event defaultWarehouse = event.calls defaultWarehouse ∧
      receipt = (event.calls defaultWarehouse).foldl OutboxProjectionReceipt.count {} := by
  rw [project] at finished
  dsimp only at finished
  cases emitted : (attempt.emitAll {} 0 (event.calls defaultWarehouse)).1 with
  | error error =>
      rw [emitted] at finished
      cases finished
  | ok result =>
      obtain ⟨sent, counted⟩ := attempt.emitAll_finished emitted
      refine ⟨sent, ?_⟩
      rw [emitted] at finished
      dsimp only [Except.bind] at finished
      cases read : (event.projectOutboxEvent defaultWarehouse []).1 with
      | error error =>
          rw [read] at finished
          cases finished
      | ok done =>
          rw [read] at finished
          exact (Except.ok.inj finished).symm.trans counted

end Attempt

theorem count_hashes (receipt : OutboxProjectionReceipt) (calls : List Emission) :
    (calls.foldl OutboxProjectionReceipt.count receipt).lineageEventHashes =
        receipt.lineageEventHashes ++ (lineageEvents calls).map (·.hashOnly.eventHash) ∧
      (calls.foldl OutboxProjectionReceipt.count receipt).openLineageHashes =
        receipt.openLineageHashes ++ (lineageEvents calls).map (·.hashOnly.openLineageHash) := by
  induction calls generalizing receipt with
  | nil => simp [lineageEvents]
  | cons emission rest ih =>
      obtain ⟨hashes, open_hashes⟩ := ih (receipt.count emission)
      rw [List.foldl_cons, hashes, open_hashes]
      cases emission with
      | graph event => exact ⟨rfl, rfl⟩
      | lineage event =>
          simp [OutboxProjectionReceipt.count, OutboxProjectionReceipt.recordLineage,
            lineageEvents, Emission.lineageEvent]

/-- However often an event is projected, and whatever the clock shows and the sinks do: the
attempts send the same, as far as each of them gets. -/
structure Repeats (event : OutboxEvent) (defaultWarehouse : WarehouseName) : Prop where
  agree : ∀ (one other : Attempt) (position : Nat) (first second : Delivered),
    (one.project event defaultWarehouse).2[position]? = some first →
      (other.project event defaultWarehouse).2[position]? = some second →
        first.emission = second.emission
  finished : ∀ (attempt : Attempt) (receipt : OutboxProjectionReceipt),
    (attempt.project event defaultWarehouse).1 = .ok receipt →
      (∀ other : Attempt, other.sent event defaultWarehouse <+:
        attempt.sent event defaultWarehouse) ∧
      receipt.lineageEventHashes =
        (lineageEvents (attempt.sent event defaultWarehouse)).map (·.hashOnly.eventHash) ∧
      receipt.openLineageHashes =
        (lineageEvents (attempt.sent event defaultWarehouse)).map (·.hashOnly.openLineageHash)

theorem OutboxEvent.repeats (event : OutboxEvent) (defaultWarehouse : WarehouseName) :
    Repeats event defaultWarehouse := by
  refine ⟨?_, ?_⟩
  · intro one other position first second here there
    have sentAt (attempt : Attempt) {taken : Delivered}
        (found : (attempt.project event defaultWarehouse).2[position]? = some taken) :
        (event.calls defaultWarehouse)[position]? = some taken.emission := by
      have sent : (attempt.sent event defaultWarehouse)[position]? = some taken.emission := by
        rw [Attempt.sent, List.getElem?_map, found]
        rfl
      obtain ⟨rest, whole⟩ := attempt.sent_begins event defaultWarehouse
      rw [← whole, List.getElem?_append_left (List.getElem?_eq_some_iff.mp sent).1, sent]
    have same := (sentAt one here).symm.trans (sentAt other there)
    exact Option.some.inj same
  · intro attempt receipt finished
    obtain ⟨sent, rfl⟩ := attempt.project_finished finished
    obtain ⟨hashes, openHashes⟩ := count_hashes {} (event.calls defaultWarehouse)
    rw [sent]
    exact ⟨fun other => other.sent_begins event defaultWarehouse, hashes, openHashes⟩

/-! The sink of graph events as a store that keeps one event for each id. -/

def Delivered.graphEvent : Delivered → Option (Timestamp × GraphEvent)
  | graph emittedAt event => some (emittedAt, event)
  | lineage _ => none

/-- The graph events that a sink has taken after some attempts, each of one event. -/
def takenGraphEvents (defaultWarehouse : WarehouseName) (attempts : List (OutboxEvent × Attempt)) :
    List (Timestamp × GraphEvent) :=
  attempts.flatMap fun entry =>
    (entry.2.project entry.1 defaultWarehouse).2.filterMap Delivered.graphEvent

def storedGraphEvents (defaultWarehouse : WarehouseName) (attempts : List (OutboxEvent × Attempt)) :
    List GraphEvent :=
  (keepFirst (GraphEvent.eventId ∘ Prod.snd) []
    (takenGraphEvents defaultWarehouse attempts)).map Prod.snd

/-- The events are attempted until each has been sent as a whole. -/
structure SentWhole (defaultWarehouse : WarehouseName) (events : List OutboxEvent)
    (attempts : List (OutboxEvent × Attempt)) : Prop where
  recorded : ∀ entry ∈ attempts, entry.1 ∈ events
  whole : ∀ event ∈ events, ∃ attempt, (event, attempt) ∈ attempts ∧
    attempt.sent event defaultWarehouse = event.calls defaultWarehouse

def projectedGraphEvents (defaultWarehouse : WarehouseName) (events : List OutboxEvent) :
    List GraphEvent :=
  events.flatMap fun event => graphEvents (event.calls defaultWarehouse)

theorem graphEvents_sent (attempt : Attempt) (event : OutboxEvent)
    (defaultWarehouse : WarehouseName) :
    ((attempt.project event defaultWarehouse).2.filterMap Delivered.graphEvent).map Prod.snd =
      graphEvents (attempt.sent event defaultWarehouse) := by
  rw [graphEvents, Attempt.sent, List.filterMap_map, List.map_filterMap]
  congr 1
  funext delivered
  cases delivered <;> rfl

theorem SentWhole.arrived {defaultWarehouse : WarehouseName} {events : List OutboxEvent}
    {attempts : List (OutboxEvent × Attempt)}
    (sent : SentWhole defaultWarehouse events attempts) :
    Arrived Prod.snd (projectedGraphEvents defaultWarehouse events)
      (takenGraphEvents defaultWarehouse attempts) := by
  intro graphEvent
  have taken : (∃ wrapped ∈ takenGraphEvents defaultWarehouse attempts,
      wrapped.2 = graphEvent) ↔ ∃ entry ∈ attempts,
        graphEvent ∈ graphEvents (entry.2.sent entry.1 defaultWarehouse) := by
    rw [takenGraphEvents, ← List.mem_map, List.map_flatMap]
    simp only [List.mem_flatMap, graphEvents_sent]
  rw [taken, projectedGraphEvents, List.mem_flatMap]
  constructor
  · rintro ⟨event, member, projected⟩
    obtain ⟨attempt, listed, whole⟩ := sent.whole event member
    exact ⟨(event, attempt), listed, by rw [whole]; exact projected⟩
  · rintro ⟨⟨event, attempt⟩, listed, taken⟩
    refine ⟨event, sent.recorded _ listed, ?_⟩
    have begins := (attempt.sent_begins event defaultWarehouse).filterMap Emission.graphEvent
    exact begins.subset taken

/-- The events that the store hands out go by digests. -/
theorem pendingOutboxEvents_hashed {state : MemoryState} {sink : Option String} {limit : Nat}
    {events : List OutboxEvent} (read : state.pendingOutboxEvents sink limit = .ok events) :
    ∀ event ∈ events, isSha256Evidence event.eventId = true := by
  simp only [MemoryState.pendingOutboxEvents, bind_eq_ok, exists_unit, checkEach_ok, pure_eq,
    Except.ok.injEq] at read
  obtain ⟨valid, rfl⟩ := read
  intro event member
  have checked := valid event member
  simp only [OutboxEvent.validatePending, bind_eq_ok, exists_unit, rejectIf_ok, okOr_ok,
    not_not] at checked
  obtain ⟨_, _, _, _, _, _, _, hashed⟩ := checked
  rw [hashed]
  exact contentHashJson_evidence _

/-- Attempts at the events are as good as one: they agree, no two of their graph events have one
id, and a sink that keeps one event for each id ends with all of them. -/
structure IdempotentProjections (defaultWarehouse : WarehouseName) (events : List OutboxEvent) :
    Prop where
  repeats : ∀ event ∈ events, Repeats event defaultWarehouse
  distinct : ((projectedGraphEvents defaultWarehouse events).map GraphEvent.eventId).Nodup
  stored : ∀ attempts, SentWhole defaultWarehouse events attempts →
    (storedGraphEvents defaultWarehouse attempts).Perm
      (projectedGraphEvents defaultWarehouse events)

variable [TimestampParser] [EvidenceValidators]

/-- Accepted events that go by digests of their own are projected idempotently exactly if each of
them shows columns with stable ids of their own. -/
theorem projections_idempotent (defaultWarehouse : WarehouseName) {events : List OutboxEvent}
    (accepted : ∀ event ∈ events, validateOutboxEventEvidence event = .ok ())
    (hashed : ∀ event ∈ events, isSha256Evidence event.eventId = true)
    (named : (events.map OutboxEvent.eventId).Nodup) :
    IdempotentProjections defaultWarehouse events ↔ ∀ event ∈ events, event.columnIds.Nodup := by
  have ids : (projectedGraphEvents defaultWarehouse events).map GraphEvent.eventId =
      events.flatMap fun event => event.graphIds defaultWarehouse := by
    rw [projectedGraphEvents, List.map_flatMap]
    rfl
  rw [← graphIds_nodup_iff defaultWarehouse accepted hashed named, ← ids]
  constructor
  · exact fun idempotent => idempotent.distinct
  · intro distinct
    exact ⟨fun event _ => event.repeats defaultWarehouse, distinct, fun attempts sent =>
      (keepFirst_perm_iff sent.arrived).mpr distinct⟩

end

@[reducible] def anyTime : TimestampParser := ⟨fun _ => .ok 0⟩

/-- The checks of the other types of events, when they all pass. -/
@[reducible] def passingValidators : EvidenceValidators where
  scanPlanned _ _ := .ok ()
  scanTasksFetched _ _ := .ok ()
  credentialVend _ _ := .ok ()
  storageProfileUpsert _ _ := .ok ()
  policyBindingUpsert _ _ := .ok ()
  projectUpsert _ _ := .ok ()
  serverUpsert _ _ := .ok ()
  warehouseUpsert _ _ := .ok ()
  catalogConfigRead _ _ := .ok ()
  namespaceList _ _ := .ok ()
  viewList _ _ := .ok ()
  viewLifecycle _ _ := .ok ()
  managementList _ _ := .ok ()
  namespaceLifecycle _ _ := .ok ()
  viewReceiptList _ _ := .ok ()
  viewReceiptChain _ _ := .ok ()
  querygraphBootstrap _ _ := .ok ()

def namedColumn (id : Int) (name : String) : Json := .object [("id", .int id), ("name", .str name)]

/-- A table that was loaded, with the fields of its schema. -/
def loadedEvent (fields : List Json) : OutboxEvent where
  eventId := "sha256:" ++ String.ofList (List.replicate 64 '0')
  sink := drainSink
  eventType := "table.loaded"
  payload := .object [("event-type", .str "table.loaded"), ("table", sampleIdent.toJson),
    ("payload", .object [("event-type", .str "table.loaded"), ("table", sampleIdent.toJson),
      ("authorization-receipt", .object [("principal", Principal.toJson ⟨"ada", .human⟩),
        ("action", .str "table-load"), ("allowed", .bool true), ("engine", .str "local"),
        ("checked_at", .str "2026-01-01T00:00:00Z")]),
      ("format-version", .int 2), ("version", .int 0),
      ("metadata-graph", .object [("fields", .arr fields)])])]
  createdAt := 1
  deliveredAt := none

theorem projections_idempotent_columns : ∃ (_ : External) (_ : TimestampParser)
    (_ : EvidenceValidators),
    IdempotentProjections ⟨"main"⟩ [loadedEvent [namedColumn 1 "id", namedColumn 2 "total"]] := by
  let _ := constantExternal
  let _ := anyTime
  let _ := passingValidators
  have named : ([loadedEvent [namedColumn 1 "id", namedColumn 2 "total"]].map
      OutboxEvent.eventId).Nodup := List.nodup_singleton _
  refine ⟨constantExternal, anyTime, passingValidators,
    (projections_idempotent ⟨"main"⟩ ?_ ?_ named).mpr ?_⟩
  all_goals intro event member
  all_goals obtain rfl := List.mem_singleton.mp member
  · decide +kernel
  · decide +kernel
  · decide +kernel

/-- Two columns have one field id, and so the second is sent under the id of the first. -/
theorem repeatedColumns_overwrite : ∃ (_ : External) (_ : TimestampParser)
    (_ : EvidenceValidators) (events : List OutboxEvent),
    (∀ event ∈ events, validateOutboxEventEvidence event = .ok ()) ∧
      (∀ event ∈ events, isSha256Evidence event.eventId = true) ∧
      (events.map OutboxEvent.eventId).Nodup ∧ ¬IdempotentProjections ⟨"main"⟩ events := by
  let _ := constantExternal
  let _ := anyTime
  let _ := passingValidators
  refine ⟨constantExternal, anyTime, passingValidators,
    [loadedEvent [namedColumn 1 "id", namedColumn 1 "total"]], ?_, ?_, List.nodup_singleton _, ?_⟩
  · intro event member
    obtain rfl := List.mem_singleton.mp member
    decide +kernel
  · intro event member
    obtain rfl := List.mem_singleton.mp member
    decide +kernel
  · intro idempotent
    have repeated : ¬(projectedGraphEvents ⟨"main"⟩
        [loadedEvent [namedColumn 1 "id", namedColumn 1 "total"]] |>.map
          GraphEvent.eventId).Nodup := by
      decide +kernel
    exact repeated idempotent.distinct

end LakeCat
