import LakeCat.ReceiptEvidence

/-!
What the evidence asks of the events of tables: the events of their life, of
their commits and of their renames.
-/

namespace LakeCat

open Fallible

def tableCommitPayloadEvidenceFields : List String :=
  ["audit-event-id", "event-type", "authorization-receipt", "warehouse", "namespace", "table",
    "commit"]

def tableCommitOutboxPayloadFields : List String :=
  ["audit-event-id", "event-type", "table", "payload"]

def tableCommitEvidenceFields : List String :=
  ["table", "previous_metadata_location", "previous-metadata-location", "new_metadata_location",
    "new-metadata-location", "sequence_number", "sequence-number", "principal", "format_version",
    "format-version", "snapshot_id", "snapshot-id", "policy_hash", "policy-hash", "request_hash",
    "request-hash", "response_hash", "response-hash", "idempotency_key_sha256",
    "idempotency-key-sha256", "committed_at", "committed-at"]

def tableLifecycleEvidenceFields : List String :=
  ["audit-event-id", "event-type", "authorization-receipt", "warehouse", "namespace", "table",
    "metadata-location", "location", "format-version", "version", "soft-delete", "metadata-graph"]

def tableLifecycleOutboxPayloadFields : List String :=
  ["audit-event-id", "event-type", "table", "soft-delete", "payload"]

def tableMetadataGraphEvidenceFields : List String :=
  ["current-schema-id", "fields", "current-snapshot-id", "current-snapshot"]

def tableLifecycleSoftDeleteEvidenceFields : List String :=
  ["table", "metadata-location", "version", "format-version", "format_version", "principal",
    "authorization-receipt", "deleted-at"]

def tableRenameEvidenceFields : List String :=
  ["event-type", "table", "source", "destination", "authorization-receipt", "metadata-location",
    "format-version", "version"]

def tableRenameOutboxPayloadFields : List String :=
  ["audit-event-id", "event-type", "table", "payload"]

section
variable [External]

def decodeTableLifecycleIdentity (event : OutboxEvent) (table : Json) (label : String) :
    LakeCatResult TableIdent := do
  checkWhen (table.isObject = true)
    (validateObjectEvidenceSchema event table (label ++ " table identity")
      tableIdentityEvidenceFields)
  okOr (OutboxEvent.tableFromValue table)
    (outboxEvidenceError event (label ++ " evidence has invalid table identity"))

theorem decodeTableLifecycleIdentity_toJson (event : OutboxEvent) (ident : TableIdent)
    (label : String) : decodeTableLifecycleIdentity event ident.toJson label = .ok ident := by
  have schema : checkWhen (ident.toJson.isObject = true)
      (validateObjectEvidenceSchema event ident.toJson (label ++ " table identity")
        tableIdentityEvidenceFields) = .ok () := by
    rw [checkWhen_ok, validateObjectEvidenceSchema_ok]
    intro _
    exact Json.hasOnly_object (by simp [tableIdentityEvidenceFields])
  have read : OutboxEvent.tableFromValue ident.toJson = some ident :=
    tableIdentFromJson_toJson ident
  rw [decodeTableLifecycleIdentity, schema, ok_bind, read, okOr_some]

def tableLifecycleNamespaceFromValue (event : OutboxEvent) (label : String) :
    Json → LakeCatResult Namespace
  | .arr parts => do
      let parts ← collect (fun part =>
        okOr (part.asStr.filter fun text => text ≠ "") (outboxEvidenceError event
          (label ++ " namespace components must be non-empty strings"))) parts
      (Namespace.new parts).mapError fun _ =>
        outboxEvidenceError event (label ++ " evidence has invalid namespace")
  | .str path => do
      rejectIf (path = "") (outboxEvidenceError event
        (label ++ " namespace must be a non-empty string or array"))
      (Namespace.fromStr path).mapError fun _ =>
        outboxEvidenceError event (label ++ " evidence has invalid namespace")
  | _ => .error (outboxEvidenceError event
      (label ++ " namespace must be a non-empty string or array"))

def validatePayloadWarehouse (event : OutboxEvent) (table : TableIdent) (label : String)
    (warehouse : Json) : LakeCatResult Unit := do
  let warehouse ← okOr (warehouse.asStr.filter fun text => text ≠ "")
    (outboxEvidenceError event (label ++ " warehouse must be a non-empty string when present"))
  rejectIf (warehouse ≠ table.warehouse.value)
    (outboxEvidenceError event (label ++ " warehouse does not match table identity"))

def validatePayloadNamespace (event : OutboxEvent) (table : TableIdent) (label : String)
    (ns : Json) : LakeCatResult Unit := do
  let ns ← tableLifecycleNamespaceFromValue event label ns
  rejectIf (ns ≠ table.ns)
    (outboxEvidenceError event (label ++ " namespace does not match table identity"))

def validatePayloadTableName (event : OutboxEvent) (table : TableIdent) (label : String)
    (tableName : Json) : LakeCatResult Unit :=
  checkWhen (tableName.isObject = false) (do
    let tableName ← okOr (tableName.asStr.filter fun text => text ≠ "")
      (outboxEvidenceError event (label ++ " table must be a non-empty string when present"))
    rejectIf (tableName ≠ table.name.value)
      (outboxEvidenceError event (label ++ " table name does not match table identity")))

def validateTableLifecyclePayloadScope (event : OutboxEvent) (payload : Json) (table : TableIdent)
    (label : String) : LakeCatResult Unit := do
  checkSome (validatePayloadWarehouse event table label) (payload.get "warehouse")
  checkSome (validatePayloadNamespace event table label) (payload.get "namespace")
  checkSome (validatePayloadTableName event table label) (payload.get "table")

def validateTableLifecycleTableHint (event : OutboxEvent) (tableHint : Json) (table : TableIdent)
    (label : String) : LakeCatResult Unit :=
  if tableHint.isObject then do
    let hinted ← decodeTableLifecycleIdentity event tableHint label
    rejectIf (hinted ≠ table)
      (outboxEvidenceError event (label ++ " does not match table identity"))
  else do
    let tableName ← okOr (tableHint.asStr.filter fun text => text ≠ "")
      (outboxEvidenceError event
        (label ++ " must be a table identity object or non-empty table name"))
    rejectIf (tableName ≠ table.name.value)
      (outboxEvidenceError event (label ++ " name does not match table identity"))

theorem validateTableLifecycleTableHint_toJson (event : OutboxEvent) (ident : TableIdent)
    (label : String) :
    validateTableLifecycleTableHint event ident.toJson ident label = .ok () := by
  have object : ident.toJson.isObject = true := rfl
  rw [validateTableLifecycleTableHint, if_pos object, decodeTableLifecycleIdentity_toJson, ok_bind]
  exact rejectIf_neg _ (fun different => different rfl)

/-- A payload with the identity of its table and nothing else of its scope. -/
theorem validateTableLifecyclePayloadScope_table {event : OutboxEvent} {payload : Json}
    {ident : TableIdent} (label : String) (warehouse : payload.get "warehouse" = none)
    (ns : payload.get "namespace" = none) (table : payload.get "table" = some ident.toJson) :
    validateTableLifecyclePayloadScope event payload ident label = .ok () := by
  simp only [validateTableLifecyclePayloadScope, warehouse, ns, table, checkSome, ok_bind,
    validatePayloadTableName, checkWhen_ok]
  intro scalar
  cases scalar

def validateSoftDeleteEvidence (event : OutboxEvent) (table : TableIdent) (softDelete : Json) :
    LakeCatResult Unit := do
  validateObjectEvidenceSchema event softDelete "table lifecycle soft-delete"
    tableLifecycleSoftDeleteEvidenceFields
  let softDeleteTable ← okOr (softDelete.get "table") (outboxEvidenceError event
    "table lifecycle soft-delete evidence must contain table identity")
  validateTableLifecycleTableHint event softDeleteTable table "table lifecycle soft-delete table"
  rejectIf (((softDelete.get "version").bind Json.asU64).isNone) (outboxEvidenceError event
    "table lifecycle soft-delete evidence must contain unsigned version")
  let _ ← requirePositiveI64Field event softDelete "format-version" "table lifecycle soft-delete"
  let _ ← optionalNonEmptyStringField event softDelete "metadata-location"
    "table lifecycle soft-delete"
  validateOptionalLocationEvidence event (softDelete.get "metadata-location")
    "table lifecycle soft-delete metadata-location"

def validateLifecycleVersions (event : OutboxEvent) (payload : Json) : LakeCatResult Unit := do
  let _ ← requirePositiveI64Field event payload "format-version" "table lifecycle"
  rejectIf (((payload.get "version").bind Json.asU64).isNone)
    (outboxEvidenceError event "table lifecycle evidence must contain unsigned version")

def validateLifecycleLocations (event : OutboxEvent) (payload : Json) : LakeCatResult Unit := do
  let _ ← optionalNonEmptyStringField event payload "metadata-location" "table lifecycle"
  let _ ← optionalNonEmptyStringField event payload "location" "table lifecycle"
  validateOptionalLocationEvidence event (payload.get "metadata-location")
    "table lifecycle metadata-location"
  validateOptionalLocationEvidence event (payload.get "location") "table lifecycle location"

variable [TimestampParser]

def validateTableLifecycleEventEvidence (event : OutboxEvent) (payload : Json) :
    LakeCatResult Unit := do
  checkWhen ((event.payload.get "payload").isSome)
    (validateObjectEvidenceSchema event event.payload "table lifecycle outbox payload"
      tableLifecycleOutboxPayloadFields)
  validateObjectEvidenceSchema event payload "table lifecycle" tableLifecycleEvidenceFields
  let tableValue ← okOr (event.payload.get "table")
    (outboxEvidenceError event "table lifecycle evidence must contain table identity")
  let table ← decodeTableLifecycleIdentity event tableValue "table lifecycle"
  validateAuthorizationReceiptPrincipal event payload "table lifecycle"
  validateTableLifecyclePayloadScope event payload table "table lifecycle"
  checkWhen (event.eventType ∈
      ["table.created", "table.registered", "table.loaded", "table.restored"])
    (validateLifecycleVersions event payload)
  checkSome (fun payloadTable => validateTableLifecycleTableHint event payloadTable table
    "table lifecycle payload table") (payload.get "table")
  let softDelete := (payload.get "soft-delete").or (event.payload.get "soft-delete")
  rejectIf (event.eventType = "table.deleted" ∧ softDelete.isNone)
    (outboxEvidenceError event "table lifecycle delete evidence must contain soft-delete")
  checkSome (validateSoftDeleteEvidence event table) softDelete
  checkSome (fun metadataGraph => validateObjectEvidenceSchema event metadataGraph
    "table lifecycle metadata-graph" tableMetadataGraphEvidenceFields)
    (payload.get "metadata-graph")
  validateLifecycleLocations event payload

def requiredTableIdentity (event : OutboxEvent) (value : Option Json) (label : String) :
    LakeCatResult TableIdent := do
  let value ← okOr value (outboxEvidenceError event (label ++ " must contain table identity"))
  decodeTableLifecycleIdentity event value label

def validateTableRenameEventEvidence (event : OutboxEvent) (payload : Json) :
    LakeCatResult Unit := do
  checkWhen ((event.payload.get "payload").isSome)
    (validateObjectEvidenceSchema event event.payload "table rename outbox payload"
      tableRenameOutboxPayloadFields)
  validateObjectEvidenceSchema event payload "table rename" tableRenameEvidenceFields
  let outerTable ← requiredTableIdentity event (event.payload.get "table")
    "table rename outbox table"
  let payloadTable ← requiredTableIdentity event (payload.get "table") "table rename payload table"
  let source ← requiredTableIdentity event (payload.get "source") "table rename source"
  let destination ← requiredTableIdentity event (payload.get "destination")
    "table rename destination"
  rejectIf (outerTable ≠ destination ∨ payloadTable ≠ destination)
    (outboxEvidenceError event "table rename table scope must match destination")
  rejectIf (source = destination)
    (outboxEvidenceError event "table rename source and destination must differ")
  rejectIf (source.warehouse ≠ destination.warehouse)
    (outboxEvidenceError event "table rename source and destination warehouses must match")
  validateAuthorizationReceiptPrincipal event payload "table rename"
  let receipt ← okOr (payload.get "authorization-receipt")
    (outboxEvidenceError event "table rename receipt is required")
  let receiptSource ← requiredTableIdentity event (receipt.get "table")
    "table rename receipt source"
  rejectIf (receiptSource ≠ source)
    (outboxEvidenceError event "table rename receipt source must match event source")
  let receiptDestination ← requiredTableIdentity event
    (receipt.getPath ["context", "destination-table"]) "table rename receipt destination"
  rejectIf (receiptDestination ≠ destination)
    (outboxEvidenceError event "table rename receipt destination must match event destination")
  let _ ← requirePositiveI64Field event payload "format-version" "table rename"
  rejectIf (((payload.get "version").bind Json.asU64).isNone)
    (outboxEvidenceError event "table rename version must be unsigned")
  let _ ← optionalNonEmptyStringField event payload "metadata-location" "table rename"
  validateOptionalLocationEvidence event (payload.get "metadata-location")
    "table rename metadata-location"

omit [TimestampParser] in
def aliasedEvidenceField (event : OutboxEvent) (object : Json) (snakeCase kebabCase label : String) :
    LakeCatResult (Option Json) := do
  let snakeValue := object.get snakeCase
  let kebabValue := object.get kebabCase
  rejectIf (snakeValue.isSome ∧ kebabValue.isSome) (outboxEvidenceError event
    (label ++ " must not carry both " ++ snakeCase ++ " and " ++ kebabCase ++ " evidence fields"))
  return snakeValue.or kebabValue

def validateRequiredAliasedFullHashField (event : OutboxEvent) (object : Json)
    (snakeCase kebabCase : String) : LakeCatResult Unit := do
  let value ← aliasedEvidenceField event object snakeCase kebabCase "table commit"
  rejectIf ((value.bind Json.asStr).any isSha256Evidence = false) (outboxEvidenceError event
    (snakeCase ++ "/" ++ kebabCase ++ " must contain full SHA-256 digest evidence"))

def validateOptionalAliasedFullHashField (event : OutboxEvent) (object : Json)
    (snakeCase kebabCase : String) : LakeCatResult Unit := do
  let value ← aliasedEvidenceField event object snakeCase kebabCase "table commit"
  checkSome (fun value =>
      rejectIf (value.isNull = false ∧ value.asStr.any isSha256Evidence = false)
        (outboxEvidenceError event
          (snakeCase ++ "/" ++ kebabCase ++ " must contain full SHA-256 digest evidence")))
    value

def validateRequiredAliasedRfc3339String (event : OutboxEvent) (object : Json)
    (snakeCase kebabCase label : String) : LakeCatResult Unit := do
  let value ← aliasedEvidenceField event object snakeCase kebabCase "table commit"
  let timestamp ← okOr (value.bind Json.asStr)
    (outboxEvidenceError event (label ++ " must be present"))
  validateRfc3339Text event label timestamp

def validateCommitNumbers (event : OutboxEvent) (commit : Json) : LakeCatResult Unit := do
  let sequenceField ← aliasedEvidenceField event commit "sequence_number" "sequence-number"
    "table commit"
  let sequenceNumber ← okOr (sequenceField.bind Json.asU64) (outboxEvidenceError event
    "table commit evidence must contain unsigned sequence number")
  rejectIf (sequenceNumber = 0)
    (outboxEvidenceError event "table commit evidence sequence number must be positive")
  let formatField ← aliasedEvidenceField event commit "format_version" "format-version"
    "table commit"
  let formatVersion ← okOr (formatField.bind Json.asU64) (outboxEvidenceError event
    "table commit evidence must contain unsigned format version")
  rejectIf (formatVersion = 0)
    (outboxEvidenceError event "table commit evidence format version must be positive")
  let snapshotField ← aliasedEvidenceField event commit "snapshot_id" "snapshot-id" "table commit"
  let snapshotId ← okOr (snapshotField.bind Json.asI64) (outboxEvidenceError event
    "table commit evidence must contain signed snapshot id")
  rejectIf (snapshotId < 0)
    (outboxEvidenceError event "table commit evidence snapshot id must be non-negative")

def validateCommitLocations (event : OutboxEvent) (commit : Json) : LakeCatResult Unit := do
  let newLocation ← aliasedEvidenceField event commit "new_metadata_location"
    "new-metadata-location" "table commit"
  rejectIf (((newLocation.bind Json.asStr).filter fun text => !isBlank text).isNone)
    (outboxEvidenceError event
      "table commit evidence must contain non-empty new metadata location")
  validateOptionalLocationEvidence event newLocation "table commit new metadata location"
  let previousLocation ← aliasedEvidenceField event commit "previous_metadata_location"
    "previous-metadata-location" "table commit"
  rejectIf (previousLocation.any fun location =>
      (location.asStr.filter fun text => !isBlank text).isNone)
    (outboxEvidenceError event
      "table commit evidence previous metadata location must be non-empty when present")
  validateOptionalLocationEvidence event previousLocation
    "table commit previous metadata location"

def validateCommitHashes (event : OutboxEvent) (commit : Json) : LakeCatResult Unit := do
  validateRequiredAliasedFullHashField event commit "request_hash" "request-hash"
  validateRequiredAliasedFullHashField event commit "response_hash" "response-hash"
  validateOptionalAliasedFullHashField event commit "idempotency_key_sha256"
    "idempotency-key-sha256"
  validateOptionalAliasedFullHashField event commit "policy_hash" "policy-hash"

/-- The parts of the evidence of a commit that are about the receipt. -/
def validateCommitPrincipals (event : OutboxEvent) (payload commit : Json) :
    LakeCatResult Unit := do
  let commitPrincipal ← okOr (commit.get "principal")
    (outboxEvidenceError event "table commit evidence must contain commit principal")
  let commitPrincipal ← decodeOutboxPrincipalValue event commitPrincipal "table commit principal"
  let receiptPrincipal ← authorizationReceiptPrincipal event payload "table commit"
  validateAuthorizationReceiptDecision event payload "table commit"
  rejectIf (commitPrincipal ≠ receiptPrincipal) (outboxEvidenceError event
    "table commit principal does not match authorization receipt principal")

def validateTableCommitHashEvidence (event : OutboxEvent) : LakeCatResult Unit := do
  let payload := event.inner
  checkWhen ((event.payload.get "payload").isSome)
    (validateObjectEvidenceSchema event event.payload "table commit outbox payload"
      tableCommitOutboxPayloadFields)
  validateObjectEvidenceSchema event payload "table commit payload"
    tableCommitPayloadEvidenceFields
  let commit ← okOr ((payload.get "commit").or (event.payload.get "commit"))
    (outboxEvidenceError event "table commit evidence must contain commit")
  validateObjectEvidenceSchema event commit "table commit" tableCommitEvidenceFields
  let rootTable ← okOr (event.payload.get "table")
    (outboxEvidenceError event "table commit evidence must contain table identity")
  let rootTable ← decodeTableLifecycleIdentity event rootTable "table commit"
  validateTableLifecyclePayloadScope event payload rootTable "table commit"
  checkSome (fun commitTable => validateTableLifecycleTableHint event commitTable rootTable
    "table commit table") (commit.get "table")
  validateCommitPrincipals event payload commit
  validateCommitNumbers event commit
  validateRequiredAliasedRfc3339String event commit "committed_at" "committed-at"
    "table commit evidence committed_at timestamp"
  validateCommitLocations event commit
  validateCommitHashes event commit

end

end LakeCat
