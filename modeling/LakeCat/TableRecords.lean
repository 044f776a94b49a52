import LakeCat.StoreChecks

/-!
The records of a table: its current registration, the commit a client asks
for, the evidence kept of each accepted commit, and the receipt of a soft
deletion.
-/

namespace LakeCat

open Fallible

def ofU64 (value : UInt64) : Json := .int value.toNat

def ofOptionStr (text : Option String) : Json := Json.ofOption .str text

theorem ofOptionStr_injective {one another : Option String}
    (same : ofOptionStr one = ofOptionStr another) : one = another := by
  cases one <;> cases another <;> simp_all [ofOptionStr, Json.ofOption]

structure TableRecord where
  ident : TableIdent
  location : String
  metadataLocation : Option String
  metadata : Json
  created : AuditStamp
  updatedAt : Timestamp
  version : UInt64
  staged : Bool

/-- The `i64` under `format-version`, when it is an `i32`. -/
def tableMetadataFormatVersion (metadata : Json) : Option Int := do
  let value ← (← metadata.get "format-version").asI64
  if -2 ^ 31 ≤ value ∧ value < 2 ^ 31 then some value else none

def validateTableMetadataFormatVersion (metadata : Json) (label : String) : LakeCatResult Unit := do
  let formatVersion ← okOr (tableMetadataFormatVersion metadata)
    (.invalidArgument s!"{label} format-version must be present")
  rejectIf (formatVersion ≤ 0) (.invalidArgument s!"{label} format-version must be positive")

namespace TableRecord

def new (ident : TableIdent) (location : String) (metadataLocation : Option String)
    (metadata : Json) (principal : Principal) (now : Timestamp) : TableRecord where
  ident := ident
  location := location
  metadataLocation := metadataLocation
  metadata := metadata
  created := ⟨principal, now⟩
  updatedAt := now
  version := 0
  staged := false

def validate (table : TableRecord) : LakeCatResult Unit := do
  rejectIf (isBlank table.location) (.invalidArgument "table location must not be empty")
  rejectIf (table.metadataLocation.any isBlank)
    (.invalidArgument "table metadata location must not be empty when present")
  rejectIf (¬table.metadata.isObject) (.invalidArgument "table metadata must be a JSON object")
  validateTableMetadataFormatVersion table.metadata "table metadata"

def toJson [External] (table : TableRecord) : Json :=
  .object [("ident", table.ident.toJson), ("location", .str table.location),
    ("metadata_location", ofOptionStr table.metadataLocation), ("metadata", table.metadata),
    ("created", table.created.toJson), ("updated_at", serializeTimestamp table.updatedAt),
    ("version", ofU64 table.version), ("staged", .bool table.staged)]

end TableRecord

def tableResponseHash [External] (table : TableRecord) : String :=
  contentHashJson table.toJson

def tableCommitFormatVersion (table : TableRecord) : Option Int :=
  tableMetadataFormatVersion table.metadata

/-- Iceberg writes -1 for a table without a snapshot; the evidence says 0. -/
def normalizeTableCommitSnapshotId (snapshotId : Option Int) : Option Int :=
  if snapshotId = some (-1) then some 0 else snapshotId

def tableCommitSnapshotId (table : TableRecord) : Option Int :=
  normalizeTableCommitSnapshotId
    (some (((table.metadata.get "current-snapshot-id").bind Json.asI64).getD 0))

def tableCommitPolicyHash (authorizationReceipt : Option Json) : Option String := do
  (← (← authorizationReceipt).get "policy_hash").asStr

/-- The fields of a validated read that an optimistic commit is checked against. -/
structure TableCommitSnapshot where
  ident : TableIdent
  location : String
  metadataLocation : Option String
  created : AuditStamp
  updatedAt : Timestamp
  version : UInt64
  staged : Bool

def TableCommitSnapshot.tryFromTable (table : TableRecord) : LakeCatResult TableCommitSnapshot := do
  table.validate
  return {
    ident := table.ident
    location := table.location
    metadataLocation := table.metadataLocation
    created := table.created
    updatedAt := table.updatedAt
    version := table.version
    staged := table.staged
  }

structure TableCommit where
  requirements : List Json
  updates : List Json
  expectedPreviousMetadataLocation : Option String
  newMetadataLocation : Option String
  newMetadata : Option Json
  idempotencyKey : Option String
  idempotencyRequestHash : Option String
  principal : Principal
  authorizationReceipt : Option Json

def TableCommit.validate (commit : TableCommit) : LakeCatResult Unit := do
  checkSome validateIdempotencyKeyShape commit.idempotencyKey
  rejectIf (commit.idempotencyKey.isNone ∧ commit.idempotencyRequestHash.isSome)
    (.invalidArgument "table commit idempotency request hash requires an idempotency key")
  checkSome validateIdempotencyRequestHashShape commit.idempotencyRequestHash
  rejectIf (commit.expectedPreviousMetadataLocation.any isBlank)
    (.invalidArgument "expected table metadata location must not be empty when present")
  rejectIf (commit.newMetadataLocation.any isBlank)
    (.invalidArgument "new table metadata location must not be empty when present")
  rejectIf (commit.newMetadata.any fun metadata => !metadata.isObject)
    (.invalidArgument "new table metadata must be a JSON object")
  checkSome (fun metadata => validateTableMetadataFormatVersion metadata "new table metadata")
    commit.newMetadata

structure TableCommitRecord where
  table : TableIdent
  previousMetadataLocation : Option String
  newMetadataLocation : Option String
  sequenceNumber : UInt64
  principal : Principal
  formatVersion : Option Int
  snapshotId : Option Int
  policyHash : Option String
  requestHash : String
  responseHash : String
  idempotencyKeySha256 : Option String
  committedAt : Timestamp

namespace TableCommitRecord

def toJson [External] (record : TableCommitRecord) : Json :=
  .object ([("table", record.table.toJson),
    ("previous_metadata_location", ofOptionStr record.previousMetadataLocation),
    ("new_metadata_location", ofOptionStr record.newMetadataLocation),
    ("sequence_number", ofU64 record.sequenceNumber), ("principal", record.principal.toJson)] ++
    Json.presentField "format_version" .int record.formatVersion ++
    Json.presentField "snapshot_id" .int record.snapshotId ++
    Json.presentField "policy_hash" .str record.policyHash ++
    [("request_hash", .str record.requestHash), ("response_hash", .str record.responseHash)] ++
    Json.presentField "idempotency_key_sha256" .str record.idempotencyKeySha256 ++
    [("committed_at", serializeTimestamp record.committedAt)])

def validateForTable [External] (record : TableCommitRecord) (ident : TableIdent) :
    LakeCatResult Unit := do
  rejectIf (record.table ≠ ident)
    (.internal "table commit record table does not match requested table")
  rejectIf (record.sequenceNumber = 0)
    (.internal "table commit record sequence number must be positive")
  rejectIf (record.previousMetadataLocation.any isBlank)
    (.internal "table commit record previous metadata location must not be empty when present")
  rejectIf (record.newMetadataLocation.any isBlank)
    (.internal "table commit record new metadata location must not be empty when present")
  validateCommitRecordMetadataLocation record.previousMetadataLocation "previous"
  validateCommitRecordMetadataLocation record.newMetadataLocation "new"
  let formatVersion ← okOr record.formatVersion
    (.internal "table commit record format version must be present")
  rejectIf (formatVersion ≤ 0)
    (.internal "table commit record format version must be positive")
  let snapshotId ← okOr record.snapshotId
    (.internal "table commit record snapshot id must be present")
  rejectIf (snapshotId < 0)
    (.internal "table commit record snapshot id must be non-negative")
  validateSha256Evidence record.requestHash
    "table commit record request hash must be full SHA-256 evidence"
  validateSha256Evidence record.responseHash
    "table commit record response hash must be full SHA-256 evidence"
  checkSome (fun digest => validateSha256Evidence digest
    "table commit record idempotency key hash must be full SHA-256 evidence")
    record.idempotencyKeySha256
  checkSome (fun digest => validateSha256Evidence digest
    "table commit record policy hash must be full SHA-256 evidence") record.policyHash

end TableCommitRecord

structure SoftDeleteRecord where
  table : TableIdent
  metadataLocation : Option String
  version : UInt64
  formatVersion : Option Int
  principal : Principal
  authorizationReceipt : Option Json
  deletedAt : Timestamp

namespace SoftDeleteRecord

def toJson [External] (record : SoftDeleteRecord) : Json :=
  .object ([("table", record.table.toJson),
    ("metadata-location", ofOptionStr record.metadataLocation),
    ("version", ofU64 record.version)] ++
    Json.presentField "format-version" .int record.formatVersion ++
    [("principal", record.principal.toJson),
      ("authorization-receipt", Json.ofOption id record.authorizationReceipt),
      ("deleted-at", serializeTimestamp record.deletedAt)])

def validateForTable (record : SoftDeleteRecord) (ident : TableIdent) (table : TableRecord) :
    LakeCatResult Unit := do
  table.validate
  rejectIf (record.table ≠ ident)
    (.invalidArgument "soft-delete record table does not match requested table")
  rejectIf (table.ident ≠ ident)
    (.invalidArgument "soft-delete table record does not match requested table")
  rejectIf (record.metadataLocation.any isBlank)
    (.invalidArgument "soft-delete metadata location must not be empty when present")
  rejectIf (record.metadataLocation ≠ table.metadataLocation)
    (.invalidArgument "soft-delete metadata location does not match table record")
  rejectIf (record.version ≠ table.version)
    (.invalidArgument "soft-delete version does not match table record")
  let formatVersion ← okOr record.formatVersion
    (.invalidArgument "soft-delete format version must be present")
  rejectIf (formatVersion ≤ 0)
    (.invalidArgument "soft-delete format version must be positive")
  rejectIf (record.formatVersion ≠ tableCommitFormatVersion table)
    (.invalidArgument "soft-delete format version does not match table record")
  rejectIf (record.authorizationReceipt.any fun receipt => !receipt.isObject)
    (.invalidArgument
      "soft-delete authorization receipt must be a JSON object when present")

end SoftDeleteRecord

/-- What `TableRecord.validate` admits. -/
structure TableRecord.Valid (table : TableRecord) : Prop where
  location : isBlank table.location = false
  pointer : ∀ location, table.metadataLocation = some location → isBlank location = false
  object : table.metadata.isObject = true
  format : ∃ version, tableMetadataFormatVersion table.metadata = some version ∧ 0 < version

theorem validateTableMetadataFormatVersion_ok (metadata : Json) (label : String) (done : Unit) :
    validateTableMetadataFormatVersion metadata label = .ok done ↔
      ∃ version, tableMetadataFormatVersion metadata = some version ∧ 0 < version := by
  simp only [validateTableMetadataFormatVersion, bind_eq_ok, okOr_ok, rejectIf_ok, not_le]

theorem TableRecord.validate_ok (table : TableRecord) (done : Unit) :
    table.validate = .ok done ↔ table.Valid := by
  simp only [TableRecord.validate, rejectIf_bind, Bool.not_eq_true, Bool.not_eq_false,
    any_eq_false_iff, validateTableMetadataFormatVersion_ok]
  constructor
  · rintro ⟨location, pointer, object, format⟩
    exact ⟨location, pointer, object, format⟩
  · rintro ⟨location, pointer, object, format⟩
    exact ⟨location, pointer, object, format⟩

/-- What `TableCommit.validate` admits. -/
structure TableCommit.Valid (commit : TableCommit) : Prop where
  key : ∀ key, commit.idempotencyKey = some key → validateIdempotencyKeyShape key = .ok ()
  keyed : commit.idempotencyKey = none → commit.idempotencyRequestHash = none
  requestHash : ∀ digest, commit.idempotencyRequestHash = some digest →
    isSha256Evidence digest = true
  expected : ∀ location, commit.expectedPreviousMetadataLocation = some location →
    isBlank location = false
  pointer : ∀ location, commit.newMetadataLocation = some location → isBlank location = false
  object : ∀ metadata, commit.newMetadata = some metadata → metadata.isObject = true
  format : ∀ metadata, commit.newMetadata = some metadata →
    ∃ version, tableMetadataFormatVersion metadata = some version ∧ 0 < version

theorem validateIdempotencyRequestHashShape_ok (digest : String) (done : Unit) :
    validateIdempotencyRequestHashShape digest = .ok done ↔ isSha256Evidence digest = true := by
  simp [validateIdempotencyRequestHashShape]

theorem TableCommit.validate_ok (commit : TableCommit) (done : Unit) :
    commit.validate = .ok done ↔ commit.Valid := by
  simp only [TableCommit.validate, bind_eq_ok, exists_unit, rejectIf_ok, checkSome_ok,
    validateIdempotencyRequestHashShape_ok, validateTableMetadataFormatVersion_ok,
    Bool.not_eq_true, any_eq_false_iff, Bool.not_eq_false', not_and, Option.isNone_iff_eq_none,
    Option.isSome_eq_false_iff]
  constructor
  · rintro ⟨key, keyed, requestHash, expected, pointer, object, format⟩
    exact ⟨key, keyed, requestHash, expected, pointer, object, format⟩
  · rintro ⟨key, keyed, requestHash, expected, pointer, object, format⟩
    exact ⟨key, keyed, requestHash, expected, pointer, object, format⟩

/-- What `TableCommitRecord.validate_for_table` admits. -/
structure TableCommitRecord.ValidFor [External] (record : TableCommitRecord)
    (ident : TableIdent) : Prop where
  table : record.table = ident
  positive : record.sequenceNumber ≠ 0
  previousShown : ∀ location, record.previousMetadataLocation = some location →
    isBlank location = false
  newShown : ∀ location, record.newMetadataLocation = some location → isBlank location = false
  previousPlain : validateCommitRecordMetadataLocation record.previousMetadataLocation "previous" =
    .ok ()
  newPlain : validateCommitRecordMetadataLocation record.newMetadataLocation "new" = .ok ()
  format : ∃ version, record.formatVersion = some version ∧ 0 < version
  snapshot : ∃ snapshot, record.snapshotId = some snapshot ∧ 0 ≤ snapshot
  requestHash : isSha256Evidence record.requestHash = true
  responseHash : isSha256Evidence record.responseHash = true
  keyHash : ∀ digest, record.idempotencyKeySha256 = some digest → isSha256Evidence digest = true
  policyHash : ∀ digest, record.policyHash = some digest → isSha256Evidence digest = true

theorem validateSha256Evidence_ok (value message : String) (done : Unit) :
    validateSha256Evidence value message = .ok done ↔ isSha256Evidence value = true := by
  simp [validateSha256Evidence]

theorem TableCommitRecord.validateForTable_ok [External] (record : TableCommitRecord)
    (ident : TableIdent) (done : Unit) :
    record.validateForTable ident = .ok done ↔ record.ValidFor ident := by
  simp only [TableCommitRecord.validateForTable, bind_eq_ok, exists_unit, rejectIf_ok, okOr_ok,
    validateSha256Evidence_ok, checkSome_ok, Bool.not_eq_true, any_eq_false_iff, ne_eq, not_not,
    not_le, not_lt]
  constructor
  · rintro ⟨table, positive, previousShown, newShown, previousPlain, newPlain, version, format,
      above, snapshot, found, atLeast, requestHash, responseHash, keyHash, policyHash⟩
    exact ⟨table, positive, previousShown, newShown, previousPlain, newPlain,
      ⟨version, format, above⟩, ⟨snapshot, found, atLeast⟩, requestHash, responseHash, keyHash,
      policyHash⟩
  · rintro ⟨table, positive, previousShown, newShown, previousPlain, newPlain,
      ⟨version, format, above⟩, ⟨snapshot, found, atLeast⟩, requestHash, responseHash, keyHash,
      policyHash⟩
    exact ⟨table, positive, previousShown, newShown, previousPlain, newPlain, version, format,
      above, snapshot, found, atLeast, requestHash, responseHash, keyHash, policyHash⟩

/-- What `SoftDeleteRecord.validate_for_table` admits. -/
structure SoftDeleteRecord.ValidFor (record : SoftDeleteRecord) (ident : TableIdent)
    (table : TableRecord) : Prop where
  valid : table.Valid
  recorded : record.table = ident
  owner : table.ident = ident
  pointer : record.metadataLocation = table.metadataLocation
  version : record.version = table.version
  format : record.formatVersion = tableCommitFormatVersion table
  receipt : ∀ receipt, record.authorizationReceipt = some receipt → receipt.isObject = true

theorem SoftDeleteRecord.validateForTable_ok (record : SoftDeleteRecord) (ident : TableIdent)
    (table : TableRecord) (done : Unit) :
    record.validateForTable ident table = .ok done ↔ record.ValidFor ident table := by
  simp only [SoftDeleteRecord.validateForTable, bind_eq_ok, exists_unit, rejectIf_ok, okOr_ok,
    TableRecord.validate_ok, Bool.not_eq_true, any_eq_false_iff, ne_eq, not_not, not_le,
    Bool.not_eq_false']
  constructor
  · rintro ⟨valid, recorded, owner, _, pointer, version, _, _, _, format, receipt⟩
    exact ⟨valid, recorded, owner, pointer, version, format, receipt⟩
  · rintro ⟨valid, recorded, owner, pointer, version, format, receipt⟩
    obtain ⟨formatVersion, found, positive⟩ := valid.format
    exact ⟨valid, recorded, owner, pointer ▸ valid.pointer, pointer, version, formatVersion,
      format.trans found, positive, format, receipt⟩

end LakeCat
