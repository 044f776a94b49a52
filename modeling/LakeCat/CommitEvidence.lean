import LakeCat.MemoryStoreChecks

/-!
The registration a commit leaves and the evidence recorded of it: which
metadata document is stored, and when the record passes its own validation.
-/

namespace LakeCat

open Fallible

namespace MemoryState
variable [External]

/-- The document a commit stores before the store adds its own two keys. -/
def baseMetadata (current : TableRecord) (commit : TableCommit) : Json :=
  commit.newMetadata.getD current.metadata

omit [External] in
theorem baseMetadata_valid {current : TableRecord} {commit : TableCommit} (valid : commit.Valid)
    (table : current.Valid) : (baseMetadata current commit).isObject = true ∧
      ∃ version, tableMetadataFormatVersion (baseMetadata current commit) = some version ∧
        0 < version := by
  unfold baseMetadata
  cases given : commit.newMetadata with
  | none => exact ⟨table.object, table.format⟩
  | some metadata => exact ⟨valid.object metadata given, valid.format metadata given⟩

theorem committedTable_metadata (current : TableRecord) (commit : TableCommit) (now : Timestamp) :
    (committedTable current commit now).metadata =
      ((baseMetadata current commit).set "lakecat:version" (ofU64 (current.version + 1))).set
        "lakecat:last-request-hash" (.str (commitRequestHash commit)) := rfl

/-- The two keys of the store hide no other key of the document. -/
theorem committedTable_get {current : TableRecord} {commit : TableCommit} (now : Timestamp)
    (shape : (baseMetadata current commit).isObject = true) (key : String)
    (notVersion : key ≠ "lakecat:version") (notHash : key ≠ "lakecat:last-request-hash") :
    (committedTable current commit now).metadata.get key = (baseMetadata current commit).get key := by
  rw [committedTable_metadata, Json.get_set _ _ _ _ (Json.isObject_set _ _ _ shape),
    if_neg notHash, Json.get_set _ _ _ _ shape, if_neg notVersion]

theorem committedTable_format {current : TableRecord} {commit : TableCommit} (now : Timestamp)
    (shape : (baseMetadata current commit).isObject = true) :
    tableCommitFormatVersion (committedTable current commit now) =
      tableMetadataFormatVersion (baseMetadata current commit) := by
  simp only [tableCommitFormatVersion, tableMetadataFormatVersion,
    committedTable_get now shape "format-version" (by decide) (by decide)]

theorem committedTable_valid {current : TableRecord} {commit : TableCommit} (now : Timestamp)
    (valid : commit.Valid) (table : current.Valid) : (committedTable current commit now).Valid := by
  obtain ⟨shape, version, format, positive⟩ := baseMetadata_valid valid table
  refine ⟨table.location, valid.pointer, ?_, version, ?_, positive⟩
  · exact Json.isObject_set _ _ _ (Json.isObject_set _ _ _ shape)
  · exact (committedTable_format now shape).trans format

omit [External] in
/-- The snapshot id a record reads from a document, with no snapshot read as zero. -/
def currentSnapshotId (metadata : Json) : Int :=
  ((metadata.get "current-snapshot-id").bind Json.asI64).getD 0

theorem committedTable_currentSnapshotId {current : TableRecord} {commit : TableCommit}
    (now : Timestamp) (shape : (baseMetadata current commit).isObject = true) :
    currentSnapshotId (committedTable current commit now).metadata =
      currentSnapshotId (baseMetadata current commit) := by
  rw [currentSnapshotId, committedTable_get now shape _ (by decide) (by decide)]
  rfl

omit [External] in
theorem tableCommitSnapshotId_eq (table : TableRecord) :
    tableCommitSnapshotId table =
      some (if currentSnapshotId table.metadata = -1 then 0 else currentSnapshotId table.metadata) := by
  unfold tableCommitSnapshotId normalizeTableCommitSnapshotId currentSnapshotId
  split <;> simp_all

/-- A location that may stand in a commit record. -/
def isPlainLocation (location : String) : Bool :=
  !locationHasQueryFragmentOrUserinfo location && !embedsRawSecretMaterial location

theorem validateCommitRecordMetadataLocation_ok (location : Option String) (label : String)
    (done : Unit) :
    validateCommitRecordMetadataLocation location label = .ok done ↔
      ∀ text, location = some text → isPlainLocation text = true := by
  simp only [validateCommitRecordMetadataLocation, checkSome_ok, rejectIf_bind, rejectIf_ok,
    Bool.not_eq_true, isPlainLocation, Bool.and_eq_true, Bool.not_eq_true']

/-- What must hold beside the checks of `TableCommit.validate` for a commit to be recorded. -/
structure Recordable (current : TableRecord) (commit : TableCommit) : Prop where
  version : current.version + 1 ≠ 0
  previous : ∀ location, current.metadataLocation = some location → isPlainLocation location = true
  pointer : ∀ location, commit.newMetadataLocation = some location → isPlainLocation location = true
  snapshot : -1 ≤ currentSnapshotId (baseMetadata current commit)
  policy : ∀ digest, tableCommitPolicyHash commit.authorizationReceipt = some digest →
    isSha256Evidence digest = true

theorem commitRecord_validFor (ident : TableIdent) {current : TableRecord} {commit : TableCommit}
    (now : Timestamp) (valid : commit.Valid) (table : current.Valid) :
    (commitRecord ident current commit now).ValidFor ident ↔ Recordable current commit := by
  obtain ⟨shape, version, format, positive⟩ := baseMetadata_valid valid table
  have snapshotId : (commitRecord ident current commit now).snapshotId =
      some (if currentSnapshotId (baseMetadata current commit) = -1 then 0
        else currentSnapshotId (baseMetadata current commit)) := by
    rw [← committedTable_currentSnapshotId now shape]
    exact tableCommitSnapshotId_eq (committedTable current commit now)
  constructor
  · intro recorded
    refine ⟨recorded.positive, (validateCommitRecordMetadataLocation_ok _ _ _).mp
      recorded.previousPlain, (validateCommitRecordMetadataLocation_ok _ _ _).mp
      recorded.newPlain, ?_, recorded.policyHash⟩
    obtain ⟨snapshot, found, atLeast⟩ := recorded.snapshot
    obtain rfl := Option.some.inj (snapshotId.symm.trans found)
    split at atLeast <;> omega
  · intro recordable
    refine ⟨rfl, recordable.version, table.pointer, valid.pointer, ?_, ?_, ?_, ?_, ?_, ?_, ?_, ?_⟩
    · exact (validateCommitRecordMetadataLocation_ok _ _ _).mpr recordable.previous
    · exact (validateCommitRecordMetadataLocation_ok _ _ _).mpr recordable.pointer
    · exact ⟨version, (committedTable_format now shape).trans format, positive⟩
    · refine ⟨_, snapshotId, ?_⟩
      have atLeast := recordable.snapshot
      split <;> omega
    · exact contentHashJson_evidence _
    · exact contentHashJson_evidence _
    · intro digest given
      obtain ⟨key, _, rfl⟩ := Option.map_eq_some_iff.mp given
      exact contentHashBytes_evidence key
    · exact recordable.policy

theorem commitTable_fresh {state : MemoryState} {ident : TableIdent} {commit : TableCommit}
    {current : TableRecord} (now : Timestamp) (valid : commit.Valid)
    (live : state.softDeletes.contains (tableKey ident) = false)
    (fresh : state.storedReplay ident commit.idempotencyKey = none)
    (stored : state.tables[tableKey ident]? = some current) (table : current.Valid)
    (owner : current.ident = ident)
    (pointer : current.metadataLocation = commit.expectedPreviousMetadataLocation)
    (recordable : Recordable current commit) :
    state.commitTable ident commit now =
      .ok (committedTable current commit now, state.committed ident commit now current) :=
  (commitTable_ok _ _ _ _ _ _).mpr ⟨valid, live, .advanced current fresh
    ⟨stored, table, owner, pointer, (commitRecord_validFor ident now valid table).mpr recordable⟩⟩

theorem step_commit {state next : MemoryState} {ident : TableIdent} {commit : TableCommit}
    {now : Timestamp} {table : TableRecord}
    (accepted : state.commitTable ident commit now = .ok (table, next)) :
    state.step (.commitTable ident commit now) = next := by
  rw [step, accepted]
  rfl

theorem sampleTable_committed :
    (MemoryState.empty.run sampleSetup).commitTable sampleIdent sampleCommit 1 =
      .ok (committedTable sampleTable sampleCommit 1,
        (MemoryState.empty.run sampleSetup).committed sampleIdent sampleCommit 1 sampleTable) := by
  refine commitTable_fresh 1 ((TableCommit.validate_ok _ ()).mp rfl) rfl rfl rfl
    ((TableRecord.validate_ok _ ()).mp rfl) rfl rfl ⟨by decide, ?_, ?_, by decide, ?_⟩
  all_goals exact fun _ given => nomatch given

end MemoryState

end LakeCat
