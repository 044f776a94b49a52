import LakeCat.CommitHistoryEvidence

/-!
`validate_outbox_event_evidence`: what every event must show, and after that
what the events of its type must show.
-/

namespace LakeCat

open Fallible

/-- The checks of the events that are not about the life of one table. Each is a function of the
event, and is asked only about what it is named after. -/
class EvidenceValidators where
  scanPlanned : OutboxEvent → Json → LakeCatResult Unit
  scanTasksFetched : OutboxEvent → Json → LakeCatResult Unit
  credentialVend : OutboxEvent → Json → LakeCatResult Unit
  storageProfileUpsert : OutboxEvent → Json → LakeCatResult Unit
  policyBindingUpsert : OutboxEvent → Json → LakeCatResult Unit
  projectUpsert : OutboxEvent → Json → LakeCatResult Unit
  serverUpsert : OutboxEvent → Json → LakeCatResult Unit
  warehouseUpsert : OutboxEvent → Json → LakeCatResult Unit
  catalogConfigRead : OutboxEvent → Json → LakeCatResult Unit
  namespaceList : OutboxEvent → Json → LakeCatResult Unit
  viewList : OutboxEvent → Json → LakeCatResult Unit
  viewLifecycle : OutboxEvent → Json → LakeCatResult Unit
  managementList : OutboxEvent → Json → LakeCatResult Unit
  namespaceLifecycle : OutboxEvent → Json → LakeCatResult Unit
  viewReceiptList : OutboxEvent → Json → LakeCatResult Unit
  viewReceiptChain : OutboxEvent → Json → LakeCatResult Unit
  querygraphBootstrap : OutboxEvent → Json → LakeCatResult Unit

def knownOutboxEventTypes : List String :=
  ["catalog.config-read", "credentials.vend-attempted", "model.published", "namespace.created",
    "namespace.dropped", "namespace.listed", "namespace.loaded", "namespace.properties-updated",
    "policy-binding.listed", "policy-binding.upserted", "project.listed", "project.upserted",
    "querygraph.bootstrap", "server.listed", "server.upserted", "storage-profile.listed",
    "storage-profile.upserted", "table.commit", "table.commits-listed", "table.created",
    "table.registered", "table.renamed", "table.deleted", "table.loaded", "table.restored",
    "table.scan-planned", "table.scan-tasks-fetched", "view.dropped", "view.listed",
    "view.loaded", "view.upserted", "view.version-receipt-chains-listed",
    "view.version-receipts-listed", "warehouse.listed", "warehouse.upserted"]

def isKnownOutboxEventType (eventType : String) : Bool :=
  knownOutboxEventTypes.contains eventType

def tableLifecycleEventTypes : List String :=
  ["table.created", "table.registered", "table.loaded", "table.deleted", "table.restored"]

def viewLifecycleEventTypes : List String :=
  ["view.upserted", "view.loaded", "view.dropped"]

def managementListEventTypes : List String :=
  ["policy-binding.listed", "project.listed", "server.listed", "storage-profile.listed",
    "warehouse.listed"]

def namespaceLifecycleEventTypes : List String :=
  ["namespace.created", "namespace.dropped", "namespace.loaded", "namespace.properties-updated"]

section
variable [External]

/-- `outbox_event_id_matches_payload_hash`. -/
def OutboxEvent.idMatchesPayloadHash (event : OutboxEvent) : Bool :=
  contentHashJson event.payload = event.eventId

def validateEventTypeField (event : OutboxEvent) (label : String) (eventType : Json) :
    LakeCatResult Unit := do
  let eventType ← okOr (eventType.asStr.filter fun text => !isBlank text)
    (outboxEvidenceError event (label ++ " event-type must be a non-empty string when present"))
  rejectIf (eventType ≠ event.eventType)
    (outboxEvidenceError event (label ++ " event-type must match outbox event type"))

def validateOutboxEventTypeBinding (event : OutboxEvent) (payload : Json) (label : String)
    (required : Bool) : LakeCatResult Unit := do
  rejectIf ((payload.get "event-type").isNone ∧ required)
    (outboxEvidenceError event (label ++ " missing event-type"))
  checkSome (validateEventTypeField event label) (payload.get "event-type")

variable [TimestampParser] [EvidenceValidators]

/-- The checks of the type of the event. At most one of them applies. -/
def validateEventFamily (event : OutboxEvent) (payload : Json) : LakeCatResult Unit := do
  checkWhen (event.eventType = "table.commit") (validateTableCommitHashEvidence event)
  checkWhen (event.eventType = "table.commits-listed")
    (validateTableCommitHistoryEventEvidence event payload)
  checkWhen (event.eventType = "table.scan-planned") (EvidenceValidators.scanPlanned event payload)
  checkWhen (event.eventType = "table.scan-tasks-fetched")
    (EvidenceValidators.scanTasksFetched event payload)
  checkWhen (event.eventType ∈ tableLifecycleEventTypes)
    (validateTableLifecycleEventEvidence event payload)
  checkWhen (event.eventType = "table.renamed") (validateTableRenameEventEvidence event payload)
  checkWhen (event.eventType = "credentials.vend-attempted")
    (EvidenceValidators.credentialVend event payload)
  checkWhen (event.eventType = "storage-profile.upserted")
    (EvidenceValidators.storageProfileUpsert event payload)
  checkWhen (event.eventType = "policy-binding.upserted")
    (EvidenceValidators.policyBindingUpsert event payload)
  checkWhen (event.eventType = "project.upserted") (EvidenceValidators.projectUpsert event payload)
  checkWhen (event.eventType = "server.upserted") (EvidenceValidators.serverUpsert event payload)
  checkWhen (event.eventType = "warehouse.upserted")
    (EvidenceValidators.warehouseUpsert event payload)
  checkWhen (event.eventType = "catalog.config-read")
    (EvidenceValidators.catalogConfigRead event payload)
  checkWhen (event.eventType = "namespace.listed") (EvidenceValidators.namespaceList event payload)
  checkWhen (event.eventType = "view.listed") (EvidenceValidators.viewList event payload)
  checkWhen (event.eventType ∈ viewLifecycleEventTypes)
    (EvidenceValidators.viewLifecycle event payload)
  checkWhen (event.eventType ∈ managementListEventTypes)
    (EvidenceValidators.managementList event payload)
  checkWhen (event.eventType ∈ namespaceLifecycleEventTypes)
    (EvidenceValidators.namespaceLifecycle event payload)
  checkWhen (event.eventType = "view.version-receipts-listed")
    (EvidenceValidators.viewReceiptList event payload)
  checkWhen (event.eventType = "view.version-receipt-chains-listed")
    (EvidenceValidators.viewReceiptChain event payload)
  checkWhen (event.eventType = "querygraph.bootstrap")
    (EvidenceValidators.querygraphBootstrap event payload)

def validateOutboxEventEvidence (event : OutboxEvent) : LakeCatResult Unit := do
  let payload := event.inner
  rejectIf (isKnownOutboxEventType event.eventType = false)
    (outboxEvidenceError event "outbox event type is not supported for projection")
  validateOutboxEventTypeBinding event event.payload "outbox payload" true
  checkWhen ((event.payload.get "payload").isSome)
    (validateOutboxEventTypeBinding event payload "outbox inner payload"
      event.idMatchesPayloadHash)
  validateReadRestrictionPolicyHashes event (payload.get "read-restriction") "read restriction"
  validateReadRestrictionPolicyHashes event (authorizationReceiptReadRestriction payload)
    "authorization receipt read restriction"
  validateEventFamily event payload

/-- The parts of the document of an event that are checked whatever its type. -/
structure DocumentShown (event : OutboxEvent) : Prop where
  known : isKnownOutboxEventType event.eventType = true
  named : isBlank event.eventType = false
  outer : event.payload.get "event-type" = some (.str event.eventType)
  inner : event.inner.get "event-type" = some (.str event.eventType)
  unrestricted : event.inner.get "read-restriction" = none
  receipt : authorizationReceiptReadRestriction event.inner = none

omit [TimestampParser] [EvidenceValidators] in
theorem validateOutboxEventTypeBinding_typed {event : OutboxEvent} {payload : Json}
    (label : String) (required : Bool) (named : isBlank event.eventType = false)
    (typed : payload.get "event-type" = some (.str event.eventType)) :
    validateOutboxEventTypeBinding event payload label required = .ok () := by
  simp only [validateOutboxEventTypeBinding, typed, checkSome, validateEventTypeField, Json.asStr,
    Option.filter_some, named, Option.isNone_some, Bool.not_false, if_true, okOr_some, ok_bind,
    Bool.false_eq_true, false_and, rejectIf_bind, rejectIf_ok, ne_eq, not_true, not_false_eq_true,
    and_self]

/-- An event that shows what every event must passes as the events of its type do. -/
theorem validateOutboxEventEvidence_shown {event : OutboxEvent} (shown : DocumentShown event) :
    validateOutboxEventEvidence event = validateEventFamily event event.inner := by
  have outer := validateOutboxEventTypeBinding_typed "outbox payload" true shown.named shown.outer
  have inner : checkWhen ((event.payload.get "payload").isSome)
      (validateOutboxEventTypeBinding event event.inner "outbox inner payload"
        event.idMatchesPayloadHash) = .ok () := by
    rw [checkWhen_ok]
    intro _
    exact validateOutboxEventTypeBinding_typed _ _ shown.named shown.inner
  have own : validateReadRestrictionPolicyHashes event (event.inner.get "read-restriction")
      "read restriction" = .ok () := by
    rw [shown.unrestricted]
    rfl
  have carried : validateReadRestrictionPolicyHashes event
      (authorizationReceiptReadRestriction event.inner) "authorization receipt read restriction" =
        .ok () := by
    rw [shown.receipt]
    rfl
  simp only [validateOutboxEventEvidence]
  rw [rejectIf_neg _ (by rw [shown.known]; exact Bool.noConfusion), ok_bind, outer, ok_bind, inner,
    ok_bind, own, ok_bind, carried, ok_bind]

theorem validateEventFamily_lifecycle {event : OutboxEvent} (payload : Json)
    (typed : event.eventType ∈ tableLifecycleEventTypes) :
    validateEventFamily event payload = validateTableLifecycleEventEvidence event payload := by
  simp only [tableLifecycleEventTypes, List.mem_cons, List.not_mem_nil, or_false] at typed
  rcases typed with named | named | named | named | named <;>
    simp [validateEventFamily, named, checkWhen, tableLifecycleEventTypes, viewLifecycleEventTypes,
      managementListEventTypes, namespaceLifecycleEventTypes, check_done]

theorem validateEventFamily_commit {event : OutboxEvent} (payload : Json)
    (named : event.eventType = "table.commit") :
    validateEventFamily event payload = validateTableCommitHashEvidence event := by
  simp [validateEventFamily, named, checkWhen, tableLifecycleEventTypes, viewLifecycleEventTypes,
    managementListEventTypes, namespaceLifecycleEventTypes, check_done]

theorem validateEventFamily_history {event : OutboxEvent} (payload : Json)
    (named : event.eventType = "table.commits-listed") :
    validateEventFamily event payload = validateTableCommitHistoryEventEvidence event payload := by
  simp [validateEventFamily, named, checkWhen, tableLifecycleEventTypes, viewLifecycleEventTypes,
    managementListEventTypes, namespaceLifecycleEventTypes, check_done]

/-- Whatever else it shows, an accepted event has passed the checks of its type. -/
theorem validateOutboxEventEvidence_family {event : OutboxEvent}
    (accepted : validateOutboxEventEvidence event = .ok ()) :
    validateEventFamily event event.inner = .ok () := by
  simp only [validateOutboxEventEvidence, bind_unit_eq_ok] at accepted
  obtain ⟨_, _, _, _, _, family⟩ := accepted
  exact family

theorem validateEventFamily_renamed {event : OutboxEvent} (payload : Json)
    (named : event.eventType = "table.renamed") :
    validateEventFamily event payload = validateTableRenameEventEvidence event payload := by
  simp [validateEventFamily, named, checkWhen, tableLifecycleEventTypes, viewLifecycleEventTypes,
    managementListEventTypes, namespaceLifecycleEventTypes, check_done]

end

end LakeCat
