import LakeCat.StoreHelpers

/-!
The state of the memory store and its operations on namespaces and tables.
Every call holds the store's one lock, so an operation is a function of the
state; an operation that fails before its first write returns no state.
-/

namespace LakeCat

open Fallible

structure IdempotencyReplay where
  tableKey : String
  requestHash : String
  response : TableRecord

structure MemoryCommitRecord where
  tableKey : String
  record : TableCommitRecord

structure MemoryViewVersionReceipt where
  viewKey : String
  receipt : ViewVersionReceipt

abbrev NamespaceMap := Std.ExtTreeMap Namespace NamespaceProperties

structure MemoryState where
  servers : BTreeMap ServerRecord := ∅
  projects : BTreeMap ProjectRecord := ∅
  warehouses : BTreeMap WarehouseRecord := ∅
  namespaces : BTreeMap NamespaceMap := ∅
  tables : BTreeMap TableRecord := ∅
  commits : List MemoryCommitRecord := []
  auditEvents : List CatalogAuditEvent := []
  outboxEvents : List OutboxEvent := []
  idempotency : BTreeMap IdempotencyReplay := ∅
  storageProfiles : BTreeMap StorageProfile := ∅
  views : BTreeMap ViewRecord := ∅
  viewVersionReceipts : List MemoryViewVersionReceipt := []
  policyBindings : BTreeMap PolicyBinding := ∅
  modelPublications : BTreeMap (List ModelPublication) := ∅
  softDeletes : BTreeMap SoftDeleteRecord := ∅
  governedScanGrants : BTreeMap GovernedScanGrant := ∅

/-- `MemoryCatalogStore::default`. -/
def MemoryState.empty : MemoryState := {}

namespace MemoryState

def namespacesOf (state : MemoryState) (warehouse : WarehouseName) : NamespaceMap :=
  (state.namespaces[warehouse.value]?).getD ∅

def namespaceExists (state : MemoryState) (warehouse : WarehouseName) (ns : Namespace) : Bool :=
  (state.namespacesOf warehouse).contains ns

def createNamespaceWithProperties (state : MemoryState) (warehouse : WarehouseName)
    (ns : Namespace) (properties : NamespaceProperties) : LakeCatResult (Unit × MemoryState) := do
  let namespaces := state.namespacesOf warehouse
  rejectIf (namespaces.contains ns) (.alreadyExists "namespace" ns.path)
  return ((), {
    state with
    namespaces := state.namespaces.insert warehouse.value (namespaces.insert ns properties)
  })

def createNamespace (state : MemoryState) (warehouse : WarehouseName) (ns : Namespace) :
    LakeCatResult (Unit × MemoryState) :=
  state.createNamespaceWithProperties warehouse ns .default

def listNamespaces (state : MemoryState) (warehouse : WarehouseName) :
    LakeCatResult (List Namespace) :=
  return (state.namespacesOf warehouse).keys

def loadNamespace (state : MemoryState) (warehouse : WarehouseName) (ns : Namespace) :
    LakeCatResult Namespace := do
  rejectIf (¬state.namespaceExists warehouse ns) (namespaceNotFound ns)
  return ns

def loadNamespaceProperties (state : MemoryState) (warehouse : WarehouseName) (ns : Namespace) :
    LakeCatResult NamespaceProperties :=
  okOr (state.namespacesOf warehouse)[ns]? (namespaceNotFound ns)

def updateNamespaceProperties (state : MemoryState) (warehouse : WarehouseName) (ns : Namespace)
    (update : NamespacePropertyUpdate) :
    LakeCatResult (NamespacePropertyUpdateResult × MemoryState) := do
  let namespaces := state.namespacesOf warehouse
  let properties ← okOr namespaces[ns]? (namespaceNotFound ns)
  let (updatedProperties, result) := properties.apply update
  return (result, {
    state with
    namespaces := state.namespaces.insert warehouse.value (namespaces.insert ns updatedProperties)
  })

/-- The tables of a namespace that is dropped: all of them must be soft-deleted. -/
def retiredTableKeys (state : MemoryState) (warehouse : WarehouseName) (ns : Namespace) :
    List (String × TableRecord) → LakeCatResult (List String)
  | [] => .ok []
  | (key, table) :: rest => do
      validateTableRecordMapScope table key
      if table.ident.warehouse ≠ warehouse ∨ table.ident.ns ≠ ns then
        retiredTableKeys state warehouse ns rest
      else do
        let softDelete ← okOr state.softDeletes[key]? (namespaceNotEmpty ns "tables")
        validateSoftDeleteRecordMapScope softDelete key
        softDelete.validateForTable table.ident table
        let others ← retiredTableKeys state warehouse ns rest
        return key :: others

def dropNamespace [External] (state : MemoryState) (warehouse : WarehouseName) (ns : Namespace) :
    LakeCatResult (Namespace × MemoryState) := do
  let namespaces := state.namespacesOf warehouse
  rejectIf (¬namespaces.contains ns) (namespaceNotFound ns)
  rejectIf (namespaces.keys.any fun candidate => namespaceIsDescendant candidate ns)
    (namespaceNotEmpty ns "child namespaces")
  let retired ← state.retiredTableKeys warehouse ns state.tables.toList
  checkEach (fun (key, softDelete) => do
      validateSoftDeleteRecordMapScope softDelete key
      rejectIf (softDelete.table.warehouse = warehouse ∧ softDelete.table.ns = ns ∧ key ∉ retired)
        (.internal "soft-delete row has no matching table registration"))
    state.softDeletes.toList
  checkEach (fun (viewKey, view) => validateViewRecordMapScope view viewKey) state.views.toList
  rejectIf (state.views.toList.any fun (_, view) => view.warehouse = warehouse && view.ns = ns)
    (namespaceNotEmpty ns "views")
  checkEach (fun (bindingKey, binding) => validatePolicyBindingMapScope binding bindingKey)
    state.policyBindings.toList
  rejectIf (state.policyBindings.toList.any fun (_, binding) =>
      binding.warehouse = warehouse && binding.ns = some ns)
    (namespaceNotEmpty ns "policy bindings")
  return (ns, {
    state with
    namespaces := state.namespaces.insert warehouse.value (namespaces.erase ns)
    tables := state.tables.filter fun key _ => key ∉ retired
    softDeletes := state.softDeletes.filter fun key _ => key ∉ retired
    commits := state.commits.filter fun commit => commit.tableKey ∉ retired
    idempotency := state.idempotency.filter fun _ replay => replay.tableKey ∉ retired
  })

def listTables (state : MemoryState) (warehouse : WarehouseName) :
    LakeCatResult (List TableRecord) := do
  let tables ← collect (fun (tableKey, table) => do
      validateTableRecordMapScope table tableKey
      return table) state.tables.toList
  return (tables.filter fun table => table.ident.warehouse = warehouse).filter fun table =>
    !state.softDeletes.contains (tableKey table.ident)

def createTable (state : MemoryState) (table : TableRecord) :
    LakeCatResult (TableRecord × MemoryState) := do
  table.validate
  rejectIf (¬state.namespaceExists table.ident.warehouse table.ident.ns)
    (namespaceNotFound table.ident.ns)
  let key := tableKey table.ident
  rejectIf (state.tables.contains key) (tableAlreadyExists table.ident)
  return (table, { state with tables := state.tables.insert key table })

/-- The registration under a key, unless it is soft-deleted. -/
def liveTable (state : MemoryState) (key : String) : Option TableRecord :=
  if state.softDeletes.contains key then none else state.tables[key]?

def loadTable (state : MemoryState) (ident : TableIdent) : LakeCatResult TableRecord := do
  let table ← okOr (state.liveTable (tableKey ident)) (tableNotFound ident)
  validateTableRecordMapScope table (tableKey ident)
  validateTableRecordIdentity table ident
  return table

section
variable [External]

def validateTableCommitRecordMemoryScope (commit : MemoryCommitRecord) (ident : TableIdent) :
    LakeCatResult Unit := do
  rejectIf (commit.tableKey ≠ tableKey ident)
    (.internal "table commit record row scope does not match requested table")
  commit.record.validateForTable ident

/-- The records of the source table move to the destination and keep their places. -/
def renameCommits (source destination : TableIdent) :
    List MemoryCommitRecord → LakeCatResult (List MemoryCommitRecord)
  | [] => .ok []
  | commit :: rest => do
      if commit.tableKey ≠ tableKey source then do
        let others ← renameCommits source destination rest
        return commit :: others
      else do
        validateTableCommitRecordMemoryScope commit source
        let renamed : MemoryCommitRecord :=
          ⟨tableKey destination, { commit.record with table := destination }⟩
        validateTableCommitRecordMemoryScope renamed destination
        let others ← renameCommits source destination rest
        return renamed :: others

omit [External] in
def validateSourceReplay (source : TableIdent) (replay : IdempotencyReplay) :
    LakeCatResult Unit := do
  validateIdempotencyRecordTableKey replay.tableKey source
  validateIdempotencyRecordRequestHash replay.requestHash
  validateTableRecordIdentity replay.response source

omit [External] in
/-- The replays of the source table, which a rename retires. -/
def retiredIdempotencyKeys (source destination : TableIdent) :
    List (String × IdempotencyReplay) → LakeCatResult (List String)
  | [] => .ok []
  | (key, replay) :: rest => do
      let keyedToSource := startsWith key (idempotencyPrefix source)
      let scopedToSource : Bool := replay.tableKey = tableKey source
      rejectIf (keyedToSource ≠ scopedToSource)
        (.internal "table rename found inconsistent source idempotency scope")
      checkWhen keyedToSource (validateSourceReplay source replay)
      rejectIf (startsWith key (idempotencyPrefix destination) ∨
          replay.tableKey = tableKey destination)
        (.internal "table rename destination has orphaned idempotency state")
      let others ← retiredIdempotencyKeys source destination rest
      return if keyedToSource then key :: others else others

/-- The table-scoped policy bindings follow the table. -/
def renamedBindings (source destination : TableIdent) (renamedAt : Timestamp) :
    List (String × PolicyBinding) → LakeCatResult (List (String × PolicyBinding))
  | [] => .ok []
  | (key, binding) :: rest => do
      validatePolicyBindingMapScope binding key
      if binding.warehouse = source.warehouse ∧ binding.ns = some source.ns ∧
          binding.table = some source.name then do
        let renamed := {
          binding with
          ns := some destination.ns
          table := some destination.name
          updatedAt := renamedAt
        }
        renamed.validate
        let others ← renamedBindings source destination renamedAt rest
        return (key, renamed) :: others
      else
        renamedBindings source destination renamedAt rest

def renameTable (state : MemoryState) (source destination : TableIdent) (principal : Principal)
    (authorizationReceipt : Option Json) (now : Timestamp) :
    LakeCatResult (TableRecord × MemoryState) := do
  rejectIf (source.warehouse ≠ destination.warehouse)
    (.invalidArgument "table rename cannot cross warehouses")
  rejectIf (¬state.namespaceExists destination.warehouse destination.ns)
    (namespaceNotFound destination.ns)
  let sourceKey := tableKey source
  let destinationKey := tableKey destination
  rejectIf (state.softDeletes.contains sourceKey) (tableNotFound source)
  let sourceTable ← okOr state.tables[sourceKey]? (tableNotFound source)
  validateTableRecordMapScope sourceTable sourceKey
  validateTableRecordIdentity sourceTable source
  rejectIf (state.tables.contains destinationKey ∨ state.softDeletes.contains destinationKey)
    (tableAlreadyExists destination)
  rejectIf (state.commits.any fun commit => commit.tableKey = destinationKey)
    (.internal "table rename destination has orphaned commit history")
  let renamedTable := { sourceTable with ident := destination, updatedAt := now }
  renamedTable.validate
  let commits ← renameCommits source destination state.commits
  let retired ← retiredIdempotencyKeys source destination state.idempotency.toList
  let bindings ← renamedBindings source destination now state.policyBindings.toList
  let (auditEvent, outboxEvent) ←
    tableRenameEvents source renamedTable principal authorizationReceipt now
  return (renamedTable, {
    state with
    tables := (state.tables.erase sourceKey).insert destinationKey renamedTable
    commits := commits
    idempotency := retired.foldl (fun replays key => replays.erase key) state.idempotency
    policyBindings := bindings.foldl (fun map entry => map.insert entry.1 entry.2)
      state.policyBindings
    auditEvents := state.auditEvents ++ [auditEvent]
    outboxEvents := state.outboxEvents ++ [outboxEvent]
  })

def commitRequestHash (commit : TableCommit) : String :=
  contentHashJson (.object [("requirements", .arr commit.requirements),
    ("updates", .arr commit.updates),
    ("expected_previous_metadata_location", ofOptionStr commit.expectedPreviousMetadataLocation),
    ("new_metadata_location", ofOptionStr commit.newMetadataLocation),
    ("new_metadata", Json.ofOption id commit.newMetadata)])

/-- The registration that an accepted commit leaves. -/
def committedTable (current : TableRecord) (commit : TableCommit) (now : Timestamp) :
    TableRecord :=
  let version := current.version + 1
  {
    current with
    metadataLocation := commit.newMetadataLocation
    staged := false
    metadata := ((commit.newMetadata.getD current.metadata).set "lakecat:version"
      (ofU64 version)).set "lakecat:last-request-hash" (.str (commitRequestHash commit))
    version := version
    updatedAt := now
  }

def commitRecord (ident : TableIdent) (current : TableRecord) (commit : TableCommit)
    (now : Timestamp) : TableCommitRecord :=
  let table := committedTable current commit now
  {
    table := ident
    previousMetadataLocation := current.metadataLocation
    newMetadataLocation := commit.newMetadataLocation
    sequenceNumber := table.version
    principal := commit.principal
    formatVersion := tableCommitFormatVersion table
    snapshotId := tableCommitSnapshotId table
    policyHash := tableCommitPolicyHash commit.authorizationReceipt
    requestHash := commitRequestHash commit
    responseHash := tableResponseHash table
    idempotencyKeySha256 := commit.idempotencyKey.map contentHashBytes
    committedAt := now
  }

def commitAuditPayload (ident : TableIdent) (record : TableCommitRecord)
    (authorizationReceipt : Option Json) : Json :=
  .object [("event-type", .str "table.commit"), ("table", ident.toJson),
    ("commit", record.toJson),
    ("authorization-receipt", Json.ofOption id authorizationReceipt)]

def commitOutboxPayload (ident : TableIdent) (record : TableCommitRecord)
    (authorizationReceipt : Option Json) : Json :=
  .object [("audit-event-id",
      .str (contentHashJson (commitAuditPayload ident record authorizationReceipt))),
    ("event-type", .str "table.commit"), ("table", ident.toJson), ("commit", record.toJson),
    ("authorization-receipt", Json.ofOption id authorizationReceipt)]

/-- What `commit_table` does once no stored replay answers the call. -/
def commitFresh (state : MemoryState) (ident : TableIdent) (commit : TableCommit)
    (now : Timestamp) : LakeCatResult (TableRecord × MemoryState) := do
  let key := tableKey ident
  let current ← okOr state.tables[key]? (tableNotFound ident)
  validateTableRecordMapScope current key
  validateTableRecordIdentity current ident
  rejectIf (current.metadataLocation ≠ commit.expectedPreviousMetadataLocation)
    (metadataPointerConflict ident commit.expectedPreviousMetadataLocation
      current.metadataLocation)
  let table := committedTable current commit now
  let record := commitRecord ident current commit now
  record.validateForTable ident
  let auditEvent := CatalogAuditEvent.new "table.commit" (some ident) commit.principal
    (commitAuditPayload ident record commit.authorizationReceipt) now
  let outboxEvent ← outboxEventFromPayload
    (commitOutboxPayload ident record commit.authorizationReceipt) now
  let replay : IdempotencyReplay :=
    ⟨key, commit.idempotencyRequestHash.getD record.requestHash, table⟩
  return (table, {
    state with
    tables := state.tables.insert key table
    auditEvents := state.auditEvents ++ [auditEvent]
    outboxEvents := state.outboxEvents ++ [outboxEvent]
    commits := state.commits ++ [⟨key, record⟩]
    idempotency := match commit.idempotencyKey with
      | some idempotencyKey =>
          state.idempotency.insert (idempotencyRecordKey ident idempotencyKey) replay
      | none => state.idempotency
  })

def storedReplay (state : MemoryState) (ident : TableIdent) (idempotencyKey : Option String) :
    Option IdempotencyReplay := do
  state.idempotency[idempotencyRecordKey ident (← idempotencyKey)]?

omit [External] in
/-- A stored replay answers only the request it was recorded for. -/
def answerReplay (ident : TableIdent) (replay : IdempotencyReplay) (requestHash : String) :
    LakeCatResult TableRecord := do
  validateIdempotencyRecordTableKey replay.tableKey ident
  validateIdempotencyRecordRequestHash replay.requestHash
  rejectIf (replay.requestHash ≠ requestHash) (idempotencyConflict ident)
  validateTableRecordIdentity replay.response ident
  return replay.response

def commitTable (state : MemoryState) (ident : TableIdent) (commit : TableCommit)
    (now : Timestamp) : LakeCatResult (TableRecord × MemoryState) := do
  commit.validate
  rejectIf (state.softDeletes.contains (tableKey ident)) (tableNotFound ident)
  match state.storedReplay ident commit.idempotencyKey with
  | some replay => do
      let requestHash := commit.idempotencyRequestHash.getD (commitRequestHash commit)
      let response ← answerReplay ident replay requestHash
      return (response, state)
  | none => state.commitFresh ident commit now

/-- The trait's default: of the snapshot, only the identifier is used. -/
def commitTableWithSnapshot (state : MemoryState) (snapshot : TableCommitSnapshot)
    (commit : TableCommit) (now : Timestamp) : LakeCatResult (TableRecord × MemoryState) :=
  state.commitTable snapshot.ident commit now

omit [External] in
def replayTableCommit (state : MemoryState) (ident : TableIdent)
    (idempotencyKey idempotencyRequestHash : String) : LakeCatResult (Option TableRecord) := do
  validateIdempotencyKeyShape idempotencyKey
  validateIdempotencyRequestHashShape idempotencyRequestHash
  match state.idempotency[idempotencyRecordKey ident idempotencyKey]? with
  | none => return none
  | some replay => do
      let response ← answerReplay ident replay idempotencyRequestHash
      return some response

/-- The records under a key with a sequence number in the range. -/
def commitsInRange (state : MemoryState) (key : String) (startVersion : UInt64)
    (endVersion : Option UInt64) : List MemoryCommitRecord :=
  ((state.commits.filter fun commit => commit.tableKey = key).filter fun commit =>
    startVersion ≤ commit.record.sequenceNumber).filter fun commit =>
    endVersion.all fun last => commit.record.sequenceNumber ≤ last

def tableCommitRecords (state : MemoryState) (ident : TableIdent) (startVersion : UInt64)
    (endVersion : Option UInt64) : LakeCatResult (List TableCommitRecord) :=
  collect (fun commit => do
      validateTableCommitRecordMemoryScope commit ident
      return commit.record)
    (state.commitsInRange (tableKey ident) startVersion endVersion)

/-- The receipt of the deletion. -/
def softDeleteRecord (ident : TableIdent) (table : TableRecord) (principal : Principal)
    (authorizationReceipt : Option Json) (now : Timestamp) : SoftDeleteRecord where
  table := ident
  metadataLocation := table.metadataLocation
  version := table.version
  formatVersion := tableCommitFormatVersion table
  principal := principal
  authorizationReceipt := authorizationReceipt
  deletedAt := now

def softDeleteAuditPayload (ident : TableIdent) (record : SoftDeleteRecord) : Json :=
  .object [("event-type", .str "table.deleted"), ("table", ident.toJson),
    ("soft-delete", record.toJson),
    ("authorization-receipt", Json.ofOption id record.authorizationReceipt)]

def softDeleteOutboxPayload (ident : TableIdent) (record : SoftDeleteRecord) : Json :=
  .object [("audit-event-id", .str (contentHashJson (softDeleteAuditPayload ident record))),
    ("event-type", .str "table.deleted"), ("table", ident.toJson),
    ("soft-delete", record.toJson),
    ("authorization-receipt", Json.ofOption id record.authorizationReceipt)]

def softDeleteTable (state : MemoryState) (ident : TableIdent) (principal : Principal)
    (authorizationReceipt : Option Json) (now : Timestamp) :
    LakeCatResult (TableRecord × MemoryState) := do
  rejectIf (¬state.namespaceExists ident.warehouse ident.ns) (namespaceNotFound ident.ns)
  let key := tableKey ident
  rejectIf (state.softDeletes.contains key) (tableNotFound ident)
  let table ← okOr state.tables[key]? (tableNotFound ident)
  validateTableRecordMapScope table key
  validateTableRecordIdentity table ident
  let record := softDeleteRecord ident table principal authorizationReceipt now
  record.validateForTable ident table
  let auditEvent := CatalogAuditEvent.new "table.deleted" (some ident) principal
    (softDeleteAuditPayload ident record) now
  let outboxEvent ← outboxEventFromPayload (softDeleteOutboxPayload ident record) now
  return (table, {
    state with
    softDeletes := state.softDeletes.insert key record
    auditEvents := state.auditEvents ++ [auditEvent]
    outboxEvents := state.outboxEvents ++ [outboxEvent]
  })

def restoreAuditPayload (ident : TableIdent) (table : TableRecord)
    (authorizationReceipt : Option Json) : Json :=
  .object [("event-type", .str "table.restored"), ("table", ident.toJson),
    ("authorization-receipt", Json.ofOption id authorizationReceipt),
    ("metadata-location", ofOptionStr table.metadataLocation),
    ("format-version", Json.ofOption .int (tableCommitFormatVersion table)),
    ("version", ofU64 table.version)]

def restoreOutboxPayload (ident : TableIdent) (table : TableRecord)
    (authorizationReceipt : Option Json) : Json :=
  let auditPayload := restoreAuditPayload ident table authorizationReceipt
  .object [("audit-event-id", .str (contentHashJson auditPayload)),
    ("event-type", .str "table.restored"), ("table", ident.toJson), ("payload", auditPayload),
    ("authorization-receipt", Json.ofOption id authorizationReceipt)]

def restoreTable (state : MemoryState) (ident : TableIdent) (principal : Principal)
    (authorizationReceipt : Option Json) (now : Timestamp) :
    LakeCatResult (TableRecord × MemoryState) := do
  rejectIf (¬state.namespaceExists ident.warehouse ident.ns) (namespaceNotFound ident.ns)
  let key := tableKey ident
  let record ← okOr state.softDeletes[key]? (.notFound "soft-deleted table" ident.stableId)
  validateSoftDeleteRecordMapScope record key
  let table ← okOr state.tables[key]? (tableNotFound ident)
  validateTableRecordMapScope table key
  validateTableRecordIdentity table ident
  record.validateForTable ident table
  let auditEvent := CatalogAuditEvent.new "table.restored" (some ident) principal
    (restoreAuditPayload ident table authorizationReceipt) now
  let outboxEvent ← outboxEventFromPayload
    (restoreOutboxPayload ident table authorizationReceipt) now
  return (table, {
    state with
    softDeletes := state.softDeletes.erase key
    auditEvents := state.auditEvents ++ [auditEvent]
    outboxEvents := state.outboxEvents ++ [outboxEvent]
  })

end

end MemoryState

end LakeCat
