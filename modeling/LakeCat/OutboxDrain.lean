import LakeCat.MemoryStoreRecords
import LakeCat.OutboxProjection

/-!
`drain_outbox_once`: the oldest pending events are projected one by one, and
are acknowledged together once all of them went through. The sinks and the
calls of the store may fail at any point.
-/

namespace LakeCat

open Fallible

structure OutboxProjectionReceipt where
  graphEvents : Nat := 0
  lineageEvents : Nat := 0
  lineageEventHashes : List String := []
  openLineageHashes : List String := []

def OutboxProjectionReceipt.recordLineage (receipt : OutboxProjectionReceipt)
    (answer : LineageReceipt) : OutboxProjectionReceipt :=
  { receipt with
    lineageEvents := receipt.lineageEvents + 1
    lineageEventHashes := receipt.lineageEventHashes ++ [answer.eventHash]
    openLineageHashes := receipt.openLineageHashes ++ [answer.openLineageHash] }

/-- The two sinks. What a sink answers may depend on the calls that went through before. -/
structure Sinks where
  graph : List Emission → GraphEvent → LakeCatResult Unit
  lineage : List Emission → LineageEvent → LakeCatResult LineageReceipt

namespace Sinks

def emit (sinks : Sinks) (receipt : OutboxProjectionReceipt) (emission : Emission) :
    Projection OutboxProjectionReceipt := fun made =>
  match emission with
  | .graph event =>
      match sinks.graph made event with
      | .error error => (.error error, made)
      | .ok () => (.ok { receipt with graphEvents := receipt.graphEvents + 1 }, made ++ [emission])
  | .lineage event =>
      match sinks.lineage made event with
      | .error error => (.error error, made)
      | .ok answer => (.ok (receipt.recordLineage answer), made ++ [emission])

def emitAll (sinks : Sinks) (receipt : OutboxProjectionReceipt) :
    List Emission → Projection OutboxProjectionReceipt
  | [] => pure receipt
  | emission :: rest => do
      let receipt ← sinks.emit receipt emission
      emitAll sinks receipt rest

end Sinks

structure LineageDrainEventSummary where
  eventId : String
  eventType : String
  graphEvents : Nat
  lineageEvents : Nat

structure LineageDrainResponse where
  delivered : Nat
  eventTypes : List String
  graphEvents : Nat
  lineageEvents : Nat
  events : List LineageDrainEventSummary

/-- The two validations of what an event records, each a function of the event. -/
class OutboxEvidence where
  validateOutboxEventEvidence : OutboxEvent → LakeCatResult Unit
  validateLineageSummary : OutboxEvent → OutboxProjectionReceipt → LakeCatResult Unit

section
variable [External]

def outboxEvidenceError (event : OutboxEvent) (message : String) : LakeCatError :=
  .invalidArgument ("outbox event " ++ event.eventType ++ " (" ++ event.sink ++
    ") has invalid " ++ message ++ "; event-id-hash=" ++ contentHashBytes event.eventId)

def validateProjectionReceiptHashArray (event : OutboxEvent) (label : String) :
    List String → List String → LakeCatResult Unit
  | _, [] => .ok ()
  | seen, hash :: rest => do
      rejectIf (¬isSha256Evidence hash) (outboxEvidenceError event
        ("projection receipt " ++ label ++ " must contain full SHA-256 hashes"))
      rejectIf (hash ∈ seen) (outboxEvidenceError event
        ("projection receipt " ++ label ++ " must be duplicate-free"))
      validateProjectionReceiptHashArray event label (hash :: seen) rest

def validateProjectionReceiptEvidence (event : OutboxEvent) (receipt : OutboxProjectionReceipt) :
    LakeCatResult Unit := do
  rejectIf (receipt.lineageEventHashes.length ≠ receipt.lineageEvents ∨
      receipt.openLineageHashes.length ≠ receipt.lineageEvents)
    (outboxEvidenceError event "projection receipt hash counts must match lineage event count")
  validateProjectionReceiptHashArray event "replay event hashes" [] receipt.lineageEventHashes
  validateProjectionReceiptHashArray event "OpenLineage hashes" [] receipt.openLineageHashes

/-- The calls of one event made through the sinks, up to the one that fails. -/
def OutboxEvent.project (event : OutboxEvent) (sinks : Sinks) (defaultWarehouse : WarehouseName) :
    Projection OutboxProjectionReceipt := do
  let planned := event.projectOutboxEvent defaultWarehouse []
  let receipt ← sinks.emitAll {} planned.2
  Projection.reading planned.1
  return receipt

section
variable [OutboxEvidence]

def lineageDrainEventSummary (event : OutboxEvent) (receipt : OutboxProjectionReceipt) :
    LakeCatResult LineageDrainEventSummary := do
  OutboxEvidence.validateLineageSummary event receipt
  return ⟨event.eventId, event.eventType, receipt.graphEvents, receipt.lineageEvents⟩

/-- The body of the loop over the batch. -/
def projectOne (sinks : Sinks) (defaultWarehouse : WarehouseName) (event : OutboxEvent) :
    Projection (OutboxProjectionReceipt × LineageDrainEventSummary) := do
  Projection.reading (OutboxEvidence.validateOutboxEventEvidence event)
  let receipt ← event.project sinks defaultWarehouse
  Projection.reading (validateProjectionReceiptEvidence event receipt)
  let summary ← Projection.reading (lineageDrainEventSummary event receipt)
  return (receipt, summary)

def projectBatch (sinks : Sinks) (defaultWarehouse : WarehouseName) :
    List OutboxEvent → Projection (List (OutboxProjectionReceipt × LineageDrainEventSummary))
  | [] => pure []
  | event :: rest => do
      let first ← projectOne sinks defaultWarehouse event
      let others ← projectBatch sinks defaultWarehouse rest
      return first :: others

end

/-- The comparison of both sorts: the time of the event, then its id. -/
def outboxOrder : OutboxEvent → OutboxEvent → Ordering :=
  compareLex (compareOn OutboxEvent.createdAt) (compareOn OutboxEvent.eventId)

def outboxLe (left right : OutboxEvent) : Bool :=
  (outboxOrder left right).isLE

/-- The events that `pending_outbox_events` returns when all of them are valid. -/
def MemoryState.outboxBatch (state : MemoryState) (sink : Option String) (limit : Nat) :
    List OutboxEvent :=
  (((state.outboxEvents.filter fun event => event.deliveredAt.isNone).filter fun event =>
    sink.all (event.sink = ·)).mergeSort outboxLe).take limit

def MemoryState.pendingOutboxEvents (state : MemoryState) (sink : Option String) (limit : Nat) :
    LakeCatResult (List OutboxEvent) := do
  checkEach OutboxEvent.validatePending (state.outboxBatch sink limit)
  return state.outboxBatch sink limit

def drainSink : String := "lakecat.lineage-and-graph"

/-- No event of the batch has the id of one before it. -/
def rejectRepeatedIds : List String → List OutboxEvent → LakeCatResult Unit
  | _, [] => .ok ()
  | seen, event :: rest => do
      rejectIf (event.eventId ∈ seen)
        (.conflict ("outbox pending batch contained duplicate event id hash " ++
          contentHashBytes event.eventId))
      rejectRepeatedIds (event.eventId :: seen) rest

def validateSummaryIds : Nat → List String → List LineageDrainEventSummary → LakeCatResult Unit
  | _, _, [] => .ok ()
  | index, seen, summary :: rest => do
      rejectIf (isBlank summary.eventId) (.conflict
        s!"lineage drain response events[{index}].event_id must be non-empty")
      rejectIf (summary.eventId ∈ seen) (.conflict
        s!"lineage drain response events[{index}].event_id must be duplicate-free")
      validateSummaryIds (index + 1) (summary.eventId :: seen) rest

def validateSummaryTypes : Nat → List (String × LineageDrainEventSummary) → LakeCatResult Unit
  | _, [] => .ok ()
  | index, (eventType, summary) :: rest => do
      rejectIf (eventType ≠ summary.eventType) (.conflict
        (s!"lineage drain response event_types[{index}] {eventType} did not match " ++
          s!"events[{index}].event_type {summary.eventType}"))
      validateSummaryTypes (index + 1) rest

def validateLineageDrainResponseManifest (response : LineageDrainResponse) :
    LakeCatResult Unit := do
  let count := response.events.length
  rejectIf (response.delivered ≠ count) (.conflict
    (s!"lineage drain response delivered count {response.delivered} did not match " ++
      s!"replay summary count {count}"))
  rejectIf (response.eventTypes.length ≠ count) (.conflict
    (s!"lineage drain response event_types count {response.eventTypes.length} did not match " ++
      s!"replay summary count {count}"))
  validateSummaryIds 0 [] response.events
  validateSummaryTypes 0 (response.eventTypes.zip response.events)
  let graphEvents := (response.events.map LineageDrainEventSummary.graphEvents).sum
  rejectIf (response.graphEvents ≠ graphEvents) (.conflict
    (s!"lineage drain response graph_events {response.graphEvents} did not match " ++
      s!"replay summary graph_events {graphEvents}"))
  let lineageEvents := (response.events.map LineageDrainEventSummary.lineageEvents).sum
  rejectIf (response.lineageEvents ≠ lineageEvents) (.conflict
    (s!"lineage drain response lineage_events {response.lineageEvents} did not match " ++
      s!"replay summary lineage_events {lineageEvents}"))

def orFault (fault : Option LakeCatError) (call : LakeCatResult α) : LakeCatResult α :=
  match fault with
  | some error => .error error
  | none => call

/-- A run of the drain when it calls the store first: what it finds there, how much of it it asks
for, whether the call fails, and the sinks that it then calls. -/
structure DrainCall where
  read : MemoryState
  limit : Nat
  readFault : Option LakeCatError
  sinks : Sinks

abbrev ProjectedEvent := OutboxEvent × OutboxProjectionReceipt × LineageDrainEventSummary

def drainResponse (projected : List ProjectedEvent) (delivered : Nat) : LineageDrainResponse where
  delivered := delivered
  eventTypes := projected.map fun entry => entry.1.eventType
  graphEvents := (projected.map fun entry => entry.2.1.graphEvents).sum
  lineageEvents := (projected.map fun entry => entry.2.1.lineageEvents).sum
  events := projected.map fun entry => entry.2.2

/-- What is checked once the batch is marked. -/
def acknowledge (projected : List ProjectedEvent) (delivered : Nat) :
    LakeCatResult LineageDrainResponse := do
  rejectIf (delivered ≠ projected.length) (.conflict
    (s!"outbox drain acknowledgement mismatch: projected {projected.length} event(s) but " ++
      s!"marked {delivered} delivered"))
  validateLineageDrainResponseManifest (drainResponse projected delivered)
  return drainResponse projected delivered

/-- The last call of the store, with the ids of the events that were projected. -/
def acknowledgeBatch (store : MemoryState) (projected : List ProjectedEvent)
    (markFault : Option LakeCatError) (clock : Timestamp) :
    LakeCatResult LineageDrainResponse × MemoryState :=
  let delivered := projected.map fun entry => entry.1.eventId
  match orFault markFault (store.markOutboxDelivered delivered clock) with
  | .error error => (.error error, store)
  | .ok (count, marked) => (acknowledge projected count, marked)

section
variable [OutboxEvidence]

namespace DrainCall

/-- The part of the run before the batch is marked. -/
def projectPending (call : DrainCall) (defaultWarehouse : WarehouseName) :
    Projection (List ProjectedEvent) := do
  let events ← Projection.reading
    (orFault call.readFault (call.read.pendingOutboxEvents (some drainSink) call.limit))
  let events := events.mergeSort outboxLe
  Projection.reading (rejectRepeatedIds [] events)
  let receipts ← projectBatch call.sinks defaultWarehouse events
  return events.zip receipts

/-- The rest of the run, on the store as it is by then. -/
def finish (call : DrainCall) (defaultWarehouse : WarehouseName) (store : MemoryState)
    (markFault : Option LakeCatError) (clock : Timestamp) :
    LakeCatResult LineageDrainResponse × MemoryState :=
  match (call.projectPending defaultWarehouse []).1 with
  | .error error => (.error error, store)
  | .ok projected => acknowledgeBatch store projected markFault clock

end DrainCall

/-- A run in which nothing else happens to the store. -/
def drainOutboxOnce (call : DrainCall) (defaultWarehouse : WarehouseName)
    (markFault : Option LakeCatError) (clock : Timestamp) :
    LakeCatResult LineageDrainResponse × MemoryState :=
  call.finish defaultWarehouse call.read markFault clock

end

end

end LakeCat
