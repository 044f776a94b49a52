import LakeCat.MetadataObjects
import LakeCat.Programs

/-!
The handlers that create, register and commit tables, as programs that ask the
store and the object store. Each question is one step; other requests come
between any two of them.
-/

namespace LakeCat

open Fallible Asking

structure CommitTableRequest where
  requirements : List Json
  updates : List Json
  metadataLocation : Option String
  metadata : Option Json

structure RegisterTableRequest where
  name : String
  metadataLocation : String
  overwrite : Bool

/-- What a handler asks. The last one is asked by the handlers that write no object. -/
inductive LakeCall [MetadataFiles] where
  | warehouse (catalogPrefix : CatalogPrefix)
  | authorize (access : Access) (identity : RequestIdentity)
  | draw
  | replayTableCommit (table : TableIdent) (idempotencyKey requestHash : String)
  | loadTable (table : TableIdent)
  | loadNamespace (warehouse : WarehouseName) (ns : Namespace)
  | storageProfileForTable (table : TableRecord)
  | put (place : Place) (metadata : Json)
  | get (place : Place)
  | delete (place : Place)
  | createTable (table : TableRecord)
  | commitTable (snapshot : TableCommitSnapshot) (commit : TableCommit)
  | recordAuditEvent (event : CatalogAuditEvent)
  | store (op : MemoryOp)

/-- The clock, and what a planner draws. -/
structure Drawn where
  now : Timestamp
  plan : PlanDraw

section

variable [MetadataFiles]

@[reducible] def LakeCall.Answer : LakeCall → Type
  | .warehouse _ => LakeCatResult WarehouseName
  | .authorize .. => LakeCatResult AuthorizationReceipt
  | .draw => Drawn
  | .replayTableCommit .. => LakeCatResult (Option TableRecord)
  | .loadTable _ => LakeCatResult TableRecord
  | .loadNamespace .. => LakeCatResult Namespace
  | .storageProfileForTable _ => LakeCatResult StorageProfile
  | .put .. => PutAnswer
  | .get _ => Except String File
  | .delete _ => DeleteAnswer
  | .createTable _ | .commitTable .. => LakeCatResult TableRecord
  | .recordAuditEvent _ | .store _ => LakeCatResult Unit

abbrev TableHandler := Method LakeCall LakeCall.Answer LakeCatError

abbrev LakeExchange := Exchange LakeCall LakeCall.Answer

abbrev ask (call : LakeCall) : TableHandler call.Answer := Method.request call

end

section Handlers

variable [External] [LocationUrls] [ObjectStores] [MetadataFiles]

omit [LocationUrls] [ObjectStores] in
def authorizeTable (action : CatalogAction) (description : String) (identity : RequestIdentity)
    (ident : TableIdent) : TableHandler AuthorizationReceipt := do
  let receipt ← ask (.authorize (.onTable action ident) identity)
  let receipt ← Method.ofExcept receipt
  Method.ofExcept (validateTableAuthorizationReceipt receipt ident action description)
  return receipt

def writeMetadataObject (location : String) (metadata : Json) :
    TableHandler PlannedMetadataWrite := do
  let place ← Method.ofExcept (objectPlace location)
  let answer ← ask (.put place metadata)
  Method.ofExcept (answer.result location)

def writePlannedMetadata (plan : CommitPlan) : TableHandler (Option PlannedMetadataWrite) :=
  match plan.object with
  | none => return none
  | some object => do
      let write ← writeMetadataObject object.1 object.2
      return some write

def readMetadataObject (location : String) : TableHandler Json := do
  Method.ofExcept (validateMetadataObjectLocationShape location)
  let place ← Method.ofExcept (objectPlace location)
  let answer ← ask (.get place)
  let file ← Method.ofExcept (answer.mapError (metadataObjectReadError location))
  Method.ofExcept (MetadataFiles.decode location file)

/-- A failed deletion is tried again. -/
def deleteMetadataObject (location : String) (place : Place) : Nat → TableHandler (LakeCatResult Unit)
  | 0 => do
      let answer ← ask (.delete place)
      match answer with
      | .deleted => return .ok ()
      | .failed detail => return .error (metadataCleanupError location detail)
  | retries + 1 => do
      let answer ← ask (.delete place)
      match answer with
      | .deleted => return .ok ()
      | .failed _ => deleteMetadataObject location place retries

def metadataCleanupDeleteAttempts : Nat := 3

def cleanupPlannedMetadata (write : Option PlannedMetadataWrite)
    (previousMetadataLocation : Option String) : TableHandler (LakeCatResult Unit) :=
  match write with
  | none => return .ok ()
  | some write =>
      if previousMetadataLocation = some write.location then return .ok ()
      else
        match objectPlace write.location with
        | .error error => return .error error
        | .ok place => deleteMetadataObject write.location place (metadataCleanupDeleteAttempts - 1)

/-- The answer of the store, with the written object taken back when it is an error. -/
def answerOrCleanUp (answer : LakeCatResult TableRecord) (write : Option PlannedMetadataWrite)
    (previousMetadataLocation : Option String) : TableHandler TableRecord :=
  match answer with
  | .ok table => return table
  | .error error => do
      let cleaned ← cleanupPlannedMetadata write previousMetadataLocation
      match cleaned with
      | .ok _ => Method.fail error
      | .error cleanupError => Method.fail (commitErrorWithCleanupFailure error cleanupError)

omit [LocationUrls] [ObjectStores] in
def recordTableEvent (eventType : String) (receipt : AuthorizationReceipt) (table : TableRecord) :
    TableHandler TableRecord := do
  let drawn ← ask .draw
  let recorded ← ask (.recordAuditEvent (CatalogAuditEvent.new eventType
    (some table.ident) receipt.principal (tableEventPayload eventType receipt table) drawn.now))
  Method.ofExcept recorded
  return table

omit [LocationUrls] [ObjectStores] in
/-- What a retry is recognised by. -/
def CommitTableRequest.hash (request : CommitTableRequest) : String :=
  contentHashJson (.object [("requirements", .arr request.requirements),
    ("updates", .arr request.updates),
    ("metadata-location", ofOptionStr request.metadataLocation),
    ("metadata", Json.ofOption id request.metadata)])

omit [LocationUrls] [ObjectStores] in
def replayedCommit (ident : TableIdent) (idempotencyKey : Option String)
    (request : CommitTableRequest) : TableHandler (Option TableRecord) :=
  match idempotencyKey with
  | none => return none
  | some key => do
      let replayed ← ask (.replayTableCommit ident key request.hash)
      Method.ofExcept replayed

/-- A staged table exists, and its first commit asserts that it does not. -/
def checkedRequirements (current : TableRecord) (requirements : List Json) : List Json :=
  if current.staged then
    requirements.filter fun requirement =>
      (requirement.get "type").bind Json.asStr ≠ some "assert-create"
  else requirements

def CommitTableRequest.preparation (request : CommitTableRequest) (ident : TableIdent)
    (principal : Principal) (current : TableRecord) : CommitPreparationRequest where
  table := ident
  principal := principal
  currentMetadataLocation := current.metadataLocation
  newMetadataLocation := request.metadataLocation
  currentMetadata := current.metadata
  newMetadata := request.metadata
  requirements := checkedRequirements current request.requirements
  updates := request.updates

omit [LocationUrls] [ObjectStores] [MetadataFiles] in
def CommitPlan.commit (plan : CommitPlan) (current : TableRecord) (receipt : AuthorizationReceipt)
    (idempotencyKey idempotencyRequestHash : Option String) : TableCommit where
  requirements := plan.requirements
  updates := plan.updates
  expectedPreviousMetadataLocation := current.metadataLocation
  newMetadataLocation := plan.newMetadataLocation
  newMetadata := some plan.newMetadata
  idempotencyKey := idempotencyKey
  idempotencyRequestHash := idempotencyRequestHash
  principal := receipt.principal
  authorizationReceipt := some receipt.toJson

variable [SailRequirements] [SailTables]

/-- A commit that no stored answer answers. -/
def plannedCommit (engine : SailEngine) (ident : TableIdent) (receipt : AuthorizationReceipt)
    (idempotencyKey : Option String) (request : CommitTableRequest) : TableHandler TableRecord := do
  let current ← ask (.loadTable ident)
  let current ← Method.ofExcept current
  let storageProfile ← ask (.storageProfileForTable current)
  let storageProfile ← Method.ofExcept storageProfile
  let snapshot ← Method.ofExcept (TableCommitSnapshot.tryFromTable current)
  let drawn ← ask .draw
  let plan ← Method.ofExcept (engine.prepareCommit drawn.plan
    (request.preparation ident receipt.principal current))
  Method.ofExcept (validatePlannedMetadataLocation plan current.metadataLocation storageProfile)
  let write ← writePlannedMetadata plan
  let answer ← ask (.commitTable snapshot
    (plan.commit current receipt idempotencyKey (idempotencyKey.map fun _ => request.hash)))
  answerOrCleanUp answer write current.metadataLocation

def commitTableInWarehouse (engine : SailEngine) (warehouse : WarehouseName) (ns table : String)
    (headers : HeaderMap) (identity : LakeCatResult RequestIdentity)
    (request : CommitTableRequest) : TableHandler TableRecord := do
  let idempotencyKey ← Method.ofExcept (requestIdempotencyKey headers)
  let identity ← Method.ofExcept identity
  let ident ← Method.ofExcept (restTableIdent warehouse ns table)
  let receipt ← authorizeTable .tableCommit "commit table" identity ident
  let replayed ← replayedCommit ident idempotencyKey request
  match replayed with
  | some table => return table
  | none => plannedCommit engine ident receipt idempotencyKey request

omit [SailRequirements] [SailTables] in
/-- The document that the catalog makes of a schema is written before the table is created. -/
def writeInitialMetadata (planned : PlannedTable) (table : TableRecord) :
    TableHandler (Option PlannedMetadataWrite) :=
  if planned.persistInitialMetadata then do
    let storageProfile ← ask (.storageProfileForTable table)
    let storageProfile ← Method.ofExcept storageProfile
    let location ← Method.ofExcept (okOr table.metadataLocation
      (.internal "generated table metadata must have a metadata location"))
    Method.ofExcept (validateMetadataObjectLocation location none storageProfile)
    let write ← writeMetadataObject location table.metadata
    return some write
  else return none

omit [SailRequirements] [SailTables] in
def createTableInWarehouse (tableLocationRoot : Option String) (warehouse : WarehouseName)
    (ns : String) (identity : LakeCatResult RequestIdentity) (request : CreateTableRequest) :
    TableHandler TableRecord := do
  let identity ← Method.ofExcept identity
  let name ← Method.ofExcept (TableName.new request.name)
  let ident ← Method.ofExcept (restTableIdent warehouse ns name.value)
  let receipt ← authorizeTable .tableCreate "create table" identity ident
  let drawn ← ask .draw
  let planned ← Method.ofExcept (request.plan tableLocationRoot ident
    ⟨.ok identity, drawn.now, drawn.now, drawn.plan.nowMs, drawn.plan.token, .ok ()⟩)
  let table := {
    TableRecord.new ident planned.location planned.metadataLocation planned.metadata
      receipt.principal drawn.now with
    staged := request.stageCreate.getD false
  }
  let write ← writeInitialMetadata planned table
  let answer ← ask (.createTable table)
  let created ← answerOrCleanUp answer write none
  recordTableEvent "table.created" receipt created

omit [SailRequirements] [SailTables] in
def registerTableInWarehouse (warehouse : WarehouseName) (ns : String)
    (identity : LakeCatResult RequestIdentity) (request : RegisterTableRequest) :
    TableHandler TableRecord := do
  let name ← Method.ofExcept (TableName.new request.name)
  let ident ← Method.ofExcept (restTableIdent warehouse ns name.value)
  let identity ← Method.ofExcept identity
  let receipt ← authorizeTable .tableRegister "register table" identity ident
  Method.ofExcept (rejectIf (request.overwrite = true)
    (.invalidArgument "register table does not permit overwrite=true"))
  let found ← ask (.loadNamespace ident.warehouse ident.ns)
  let _ ← Method.ofExcept found
  let metadata ← readMetadataObject request.metadataLocation
  let location ← Method.ofExcept (registeredTableLocation metadata)
  let drawn ← ask .draw
  let table := TableRecord.new ident location (some request.metadataLocation) metadata
    receipt.principal drawn.now
  Method.ofExcept table.validate
  let storageProfile ← ask (.storageProfileForTable table)
  let storageProfile ← Method.ofExcept storageProfile
  Method.ofExcept (validateMetadataObjectLocation request.metadataLocation none storageProfile)
  let answer ← ask (.createTable table)
  let created ← Method.ofExcept answer
  recordTableEvent "table.registered" receipt created

/-- The requests about tables; whatever else the store is asked is the last one. -/
inductive TableRequest where
  | create (catalogPrefix : CatalogPrefix) (ns : String)
      (identity : LakeCatResult RequestIdentity) (request : CreateTableRequest)
  | register (catalogPrefix : CatalogPrefix) (ns : String)
      (identity : LakeCatResult RequestIdentity) (request : RegisterTableRequest)
  | commit (catalogPrefix : CatalogPrefix) (ns table : String) (headers : HeaderMap)
      (identity : LakeCatResult RequestIdentity) (request : CommitTableRequest)
  | store (op : MemoryOp)

structure TableService where
  state : LakeCatState
  engine : SailEngine
  tableLocationRoot : Option String

omit [External] [LocationUrls] [ObjectStores] [SailRequirements] [SailTables] in
def onWarehouse (catalogPrefix : CatalogPrefix)
    (handler : WarehouseName → TableHandler TableRecord) : TableHandler (Option TableRecord) := do
  let warehouse ← ask (.warehouse catalogPrefix)
  let warehouse ← Method.ofExcept warehouse
  let table ← handler warehouse
  return some table

def TableService.handler (service : TableService) : TableRequest → TableHandler (Option TableRecord)
  | .create catalogPrefix ns identity request => onWarehouse catalogPrefix fun warehouse =>
      createTableInWarehouse service.tableLocationRoot warehouse ns identity request
  | .register catalogPrefix ns identity request => onWarehouse catalogPrefix fun warehouse =>
      registerTableInWarehouse warehouse ns identity request
  | .commit catalogPrefix ns table headers identity request => onWarehouse catalogPrefix
      fun warehouse =>
        commitTableInWarehouse service.engine warehouse ns table headers identity request
  | .store op => do
      let answer ← ask (.store op)
      Method.ofExcept answer
      return none

end Handlers

/-! The store and the objects, as one caller's question finds them. -/

/-- The store and the objects. -/
structure Lake [MetadataFiles] where
  store : MemoryState
  files : Place → Option File

/-- The clock of a step, what is drawn at it, and whether the object store or the store is out of
reach; a call that fails so does nothing. -/
structure Moment where
  drawn : Drawn
  objectFault : Option String
  storeFault : Option LakeCatError

section Serving

variable [External] [MetadataFiles]

def Moment.reach (moment : Moment) (result : LakeCatResult α) : LakeCatResult α :=
  match moment.storeFault with
  | some error => .error error
  | none => result

namespace Lake

/-- A call that changes the store. -/
def change (lake : Lake) (moment : Moment) (result : LakeCatResult (α × MemoryState)) :
    LakeCatResult α × Lake :=
  match moment.reach result with
  | .ok (value, next) => (.ok value, { lake with store := next })
  | .error error => (.error error, lake)

def put (lake : Lake) (moment : Moment) (place : Place) (metadata : Json) : PutAnswer × Lake :=
  match moment.objectFault with
  | some detail => (.failed detail, lake)
  | none =>
      match lake.files place with
      | some _ => (.alreadyExists, lake)
      | none => (.stored, { lake with
          files := Function.update lake.files place (some (MetadataFiles.encode metadata)) })

def get (lake : Lake) (moment : Moment) (place : Place) : Except String File :=
  match moment.objectFault with
  | some detail => .error detail
  | none => okOr (lake.files place) "not found"

def delete (lake : Lake) (moment : Moment) (place : Place) : DeleteAnswer × Lake :=
  match moment.objectFault with
  | some detail => (.failed detail, lake)
  | none => (.deleted, { lake with files := Function.update lake.files place none })

variable (state : LakeCatState)

def serve (_caller : Nat) (moment : Moment) (lake : Lake) :
    (call : LakeCall) → call.Answer × Lake
  | .warehouse catalogPrefix => (moment.reach (catalogPrefix.warehouse state lake.store), lake)
  | .authorize access identity =>
      (moment.reach (access.authorize state lake.store identity moment.drawn.now), lake)
  | .draw => (moment.drawn, lake)
  | .replayTableCommit table idempotencyKey requestHash =>
      (moment.reach (lake.store.replayTableCommit table idempotencyKey requestHash), lake)
  | .loadTable table => (moment.reach (lake.store.loadTable table), lake)
  | .loadNamespace warehouse ns => (moment.reach (lake.store.loadNamespace warehouse ns), lake)
  | .storageProfileForTable table =>
      (moment.reach (lake.store.storageProfileForTable table), lake)
  | .put place metadata => lake.put moment place metadata
  | .get place => (lake.get moment place, lake)
  | .delete place => lake.delete moment place
  | .createTable table => lake.change moment (lake.store.createTable table)
  | .commitTable snapshot commit => lake.change moment
      (lake.store.commitTableWithSnapshot snapshot commit moment.drawn.now)
  | .recordAuditEvent event => lake.change moment (lake.store.recordAuditEvent event)
  | .store op =>
      match moment.storeFault with
      | some error => (.error error, lake)
      | none => (.ok (), { lake with store := lake.store.step op })

end Lake

end Serving

/-! A table that is created from a schema, and its first commit. -/

/-- Files as documents, under the names of their paths. -/
@[reducible] def documentFiles : MetadataFiles where
  Place := List (List UInt8)
  File := Json
  samePlace := inferInstance
  place _ path := path
  encode := id
  decode _ := .ok

/-- Tables that no engine reads. -/
@[reducible] def untypedTables : let _ := textUuids; SailTables :=
  let _ := textUuids
  { Table := Unit
    Update := Unit
    deserialize := fun _ => .error "untyped"
    location := fun _ => ""
    checked := fun _ => ⟨none, none, [], 0, 0, 0, 0, none⟩
    parseRequirements := fun _ => .error "untyped"
    restModel := fun _ _ => .ok ()
    readUpdate := fun _ => .ok ()
    applyTableUpdates := fun _ _ _ => .error "untyped"
    serialize := fun _ => .error "untyped"
    summary := id }

def deferredService : TableService := ⟨mainState, .deferred, none⟩

def ordersTable : TableIdent := ⟨⟨"main"⟩, ⟨["sales"]⟩, ⟨"orders"⟩⟩

/-- The path of the first document. -/
def createdOrders : String := "/tmp/lakecat/main/sales/orders/metadata/00000-1.metadata.json"

def movedOrders : String := "file:///tmp/lakecat/main/sales/orders/metadata/1.json"

def ordersRequests : Nat → TableRequest
  | 0 => .store (.createNamespace ⟨"main"⟩ ⟨["sales"]⟩ .default)
  | 1 => .create .default "sales" (.ok anonymousIdentity)
      ⟨"orders", none, some (.object []), none, none, none, none, none, .null⟩
  | _ => .commit .default "sales" "orders" (fun _ => []) (.ok anonymousIdentity)
      ⟨[], [], some movedOrders, none⟩

def calmTurn (caller : Nat) : Nat × Moment := (caller, ⟨⟨0, 0, "1"⟩, none, none⟩)

def calmTurns (caller count : Nat) : List (Nat × Moment) :=
  List.replicate count (calmTurn caller)

end LakeCat
