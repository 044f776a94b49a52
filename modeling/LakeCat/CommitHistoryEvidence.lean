import LakeCat.TableEvidence

/-!
What the evidence asks of the events that record a reading of commits: among the
rest, sequence numbers that are positive and in strictly increasing order.
-/

namespace LakeCat

open Fallible

def tableCommitHistoryOutboxPayloadFields : List String :=
  ["audit-event-id", "event-type", "table", "payload"]

def tableCommitHistoryEvidenceFields : List String :=
  ["event-type", "authorization-receipt", "warehouse", "namespace", "table", "commit-count",
    "commit-hashes", "sequence-numbers", "principal-subject", "principal-kind"]

section
variable [External]

def validateRequiredOutboxTableIdentity (event : OutboxEvent) (label : String) :
    LakeCatResult TableIdent := do
  let table ← okOr (event.payload.get "table")
    (outboxEvidenceError event (label ++ " evidence must contain table identity"))
  decodeTableLifecycleIdentity event table label

def validateRequiredPayloadTableHint (event : OutboxEvent) (payload : Json) (table : TableIdent)
    (label : String) : LakeCatResult Unit := do
  let payloadTable ← okOr (payload.get "table")
    (outboxEvidenceError event (label ++ " evidence must contain payload table identity"))
  validateTableLifecycleTableHint event payloadTable table (label ++ " payload table")

def validateRequiredFullHashArrayField (event : OutboxEvent) (object : Json) (field : String) :
    LakeCatResult (List String) := do
  let values ← okOr (object.get field) (outboxEvidenceError event (field ++ " must be present"))
  let values ← okOr values.asArray (outboxEvidenceError event (field ++ " must be an array"))
  collect (fun value => okOr (value.asStr.filter isSha256Evidence)
    (outboxEvidenceError event (field ++ " must contain full SHA-256 digest evidence"))) values

def validateUniqueHashArray (event : OutboxEvent) (hashes : List String) (label : String) :
    LakeCatResult Unit :=
  rejectIf (¬hashes.Nodup)
    (outboxEvidenceError event (label ++ " must not contain duplicate hashes"))

def validateStringFieldEquals (event : OutboxEvent) (object : Json)
    (field expected label : String) : LakeCatResult Unit := do
  let actual ← requiredStringField event object field label
  rejectIf (actual ≠ expected)
    (outboxEvidenceError event (label ++ " " ++ field ++ " must match catalog evidence"))

/-- The loop over the sequence numbers, with the one before. -/
def validateSequenceNumbers (event : OutboxEvent) : Option Nat → List Json → LakeCatResult Unit
  | _, [] => .ok ()
  | previous, value :: rest => do
      let sequenceNumber ← okOr value.asU64 (outboxEvidenceError event
        "table commit-history sequence-numbers must be unsigned integers")
      rejectIf (sequenceNumber = 0) (outboxEvidenceError event
        "table commit-history sequence-numbers must be positive")
      rejectIf (previous.any (sequenceNumber ≤ ·)) (outboxEvidenceError event
        "table commit-history sequence-numbers must be strictly increasing")
      validateSequenceNumbers event (some sequenceNumber) rest

theorem validateSequenceNumbers_increasing {event : OutboxEvent} {previous : Option Nat}
    {values : List Json} (passed : validateSequenceNumbers event previous values = .ok ()) :
    ∃ numbers : List Nat, values.map Json.asU64 = numbers.map some ∧
      numbers.Pairwise (· < ·) ∧
      ∀ number ∈ numbers, ∀ before, previous = some before → before < number := by
  induction values generalizing previous with
  | nil => exact ⟨[], rfl, .nil, by simp⟩
  | cons value rest ih =>
      simp only [validateSequenceNumbers, bind_eq_ok, okOr_ok, rejectIf_ok, exists_unit] at passed
      obtain ⟨sequenceNumber, read, _, increasing, others⟩ := passed
      obtain ⟨numbers, same, ordered, later⟩ := ih others
      have above : ∀ before, previous = some before → before < sequenceNumber := by
        rintro before rfl
        simpa using increasing
      refine ⟨sequenceNumber :: numbers, ?_, ?_, ?_⟩
      · rw [List.map_cons, read, same, List.map_cons]
      · exact .cons (fun number member => later number member sequenceNumber rfl) ordered
      · intro number member before stood
        rcases List.mem_cons.mp member with rfl | listed
        · exact above before stood
        · have first := above before stood
          have second := later number listed sequenceNumber rfl
          omega

def validateCommitCounts (event : OutboxEvent) (payload : Json) (commitHashes : List String)
    (sequenceNumbers : List Json) : LakeCatResult Unit := do
  let expectedCommitCount ← okOr ((payload.get "commit-count").bind Json.asU64)
    (outboxEvidenceError event "table commit-history evidence must contain commit-count")
  rejectIf (commitHashes.length ≠ expectedCommitCount) (outboxEvidenceError event
    "table commit-history commit-count does not match commit-hashes")
  rejectIf (sequenceNumbers.length ≠ expectedCommitCount) (outboxEvidenceError event
    "table commit-history commit-count does not match sequence-numbers")

variable [TimestampParser]

def validateTableCommitHistoryEventEvidence (event : OutboxEvent) (payload : Json) :
    LakeCatResult Unit := do
  checkWhen ((event.payload.get "payload").isSome)
    (validateObjectEvidenceSchema event event.payload "table commit-history outbox payload"
      tableCommitHistoryOutboxPayloadFields)
  validateObjectEvidenceSchema event payload "table commit-history"
    tableCommitHistoryEvidenceFields
  let table ← validateRequiredOutboxTableIdentity event "table commit-history"
  validateTableLifecyclePayloadScope event payload table "table commit-history"
  validateRequiredPayloadTableHint event payload table "table commit-history"
  let receiptPrincipal ← authorizationReceiptPrincipal event payload "table commit-history"
  validateAuthorizationReceiptDecision event payload "table commit-history"
  let commitHashes ← validateRequiredFullHashArrayField event payload "commit-hashes"
  validateUniqueHashArray event commitHashes "table commit-history commit-hashes"
  let sequenceNumbers ← okOr ((payload.get "sequence-numbers").bind Json.asArray)
    (outboxEvidenceError event "table commit-history evidence must contain sequence-numbers")
  validateSequenceNumbers event none sequenceNumbers
  validateCommitCounts event payload commitHashes sequenceNumbers
  validateStringFieldEquals event payload "principal-subject" receiptPrincipal.subject
    "table commit-history"
  validateStringFieldEquals event payload "principal-kind" receiptPrincipal.kind.asStr
    "table commit-history"

/-- The sequence numbers of an accepted reading of commits. -/
theorem validateTableCommitHistoryEventEvidence_numbers {event : OutboxEvent} {payload : Json}
    (passed : validateTableCommitHistoryEventEvidence event payload = .ok ()) :
    ∃ (values : List Json) (numbers : List Nat),
      (payload.get "sequence-numbers").bind Json.asArray = some values ∧
        values.map Json.asU64 = numbers.map some ∧ numbers.Pairwise (· < ·) := by
  simp only [validateTableCommitHistoryEventEvidence, bind_eq_ok, okOr_ok, exists_unit] at passed
  obtain ⟨_, _, _, _, _, _, _, _, _, _, _, _, values, found, increasing, _⟩ := passed
  obtain ⟨numbers, same, ordered, _⟩ := validateSequenceNumbers_increasing increasing
  exact ⟨values, numbers, found, same, ordered⟩

end

end LakeCat
