import LakeCat.MetadataGraph
import LakeCat.ServiceRequests

/-!
The events that the catalog sends to its graph sink and to its lineage sink,
and what it reads of a recorded event to make them.
-/

namespace LakeCat

open Fallible

inductive GraphNodeLabel where
  | server
  | project
  | warehouse
  | namespace
  | table
  | view
  | column
  | snapshot
  | policy
  | storageProfile
  | principal
  | scanPlan
  | commit
  | queryGraphModel
  deriving DecidableEq

inductive GraphAction where
  | created
  | upserted
  | loaded
  | plannedScan
  | committed
  | renamed
  | deleted
  deriving DecidableEq

structure GraphEvent where
  eventId : Option String
  subject : String
  label : GraphNodeLabel
  action : GraphAction
  table : Option TableIdent
  properties : Json

inductive LineageEventType where
  | catalogConfigRead
  | namespaceCreated
  | namespaceDropped
  | namespaceListed
  | namespaceLoaded
  | namespacePropertiesUpdated
  | policyBindingListed
  | policyBindingUpserted
  | projectListed
  | projectUpserted
  | serverListed
  | serverUpserted
  | storageProfileListed
  | storageProfileUpserted
  | tableCreated
  | tableLoaded
  | tableCommitRecordsListed
  | tableScanPlanned
  | tableCommitted
  | tableRenamed
  | tableDeleted
  | tableRestored
  | viewDropped
  | viewLoaded
  | viewListed
  | viewVersionReceiptChainsListed
  | viewVersionReceiptsListed
  | viewUpserted
  | warehouseListed
  | warehouseUpserted
  | credentialsVendAttempted
  | queryGraphBootstrap
  | modelPublished
  deriving DecidableEq

structure LineageEvent where
  eventType : LineageEventType
  principal : Principal
  table : Option TableIdent
  payload : Json
  emittedAt : Timestamp

structure LineageReceipt where
  eventHash : String
  openLineageHash : String

namespace GraphEvent

def tableScopedStableId (kind : String) (table : TableIdent) (localId : String) : String :=
  "lakecat:" ++ kind ++ ":" ++ table.stableId ++ ":" ++ localId

def warehouseStableId (warehouse : WarehouseName) : String :=
  "lakecat:warehouse:" ++ warehouse.value

def server (action : GraphAction) (serverId : String) (properties : Json) : GraphEvent :=
  ⟨none, "lakecat:server:" ++ serverId, .server, action, none, properties⟩

def project (action : GraphAction) (projectId : String) (properties : Json) : GraphEvent :=
  ⟨none, "lakecat:project:" ++ projectId, .project, action, none, properties⟩

def ofTable (action : GraphAction) (table : TableIdent) (properties : Json) : GraphEvent :=
  ⟨none, table.stableId, .table, action, some table, properties⟩

def ofNamespace (action : GraphAction) (warehouse : WarehouseName) (ns : Namespace)
    (properties : Json) : GraphEvent :=
  ⟨none, warehouseStableId warehouse ++ ":namespace:" ++ ns.path, .namespace, action, none,
    properties⟩

def warehouse (action : GraphAction) (warehouse : WarehouseName) (properties : Json) : GraphEvent :=
  ⟨none, warehouseStableId warehouse, .warehouse, action, none, properties⟩

def view (action : GraphAction) (warehouse : WarehouseName) (ns : Namespace) (name : String)
    (properties : Json) : GraphEvent :=
  ⟨none, warehouseStableId warehouse ++ ":namespace:" ++ ns.path ++ ":view:" ++ name, .view,
    action, none, properties⟩

def policy (action : GraphAction) (warehouse : WarehouseName) (policyId : String)
    (properties : Json) : GraphEvent :=
  ⟨none, warehouseStableId warehouse ++ ":policy:" ++ policyId, .policy, action, none, properties⟩

def querygraphModel (action : GraphAction) (warehouse : WarehouseName) (modelId : String)
    (properties : Json) : GraphEvent :=
  ⟨none, warehouseStableId warehouse ++ ":querygraph-model:" ++ modelId, .queryGraphModel, action,
    none, properties⟩

def storageProfile (action : GraphAction) (warehouse : WarehouseName) (profileId : String)
    (properties : Json) : GraphEvent :=
  ⟨none, warehouseStableId warehouse ++ ":storage-profile:" ++ profileId, .storageProfile, action,
    none, properties⟩

def scanPlan (action : GraphAction) (planId : String) (properties : Json) : GraphEvent :=
  ⟨none, "lakecat:scan-plan:" ++ planId, .scanPlan, action, none, properties⟩

def commit (action : GraphAction) (table : TableIdent) (sequenceNumber : Nat)
    (properties : Json) : GraphEvent :=
  ⟨none, tableScopedStableId "commit" table (toString sequenceNumber), .commit, action, some table,
    properties⟩

def column (action : GraphAction) (table : TableIdent) (columnId : String)
    (properties : Json) : GraphEvent :=
  ⟨none, tableScopedStableId "column" table columnId, .column, action, some table, properties⟩

def snapshot (action : GraphAction) (table : TableIdent) (snapshotId : String)
    (properties : Json) : GraphEvent :=
  ⟨none, tableScopedStableId "snapshot" table snapshotId, .snapshot, action, some table,
    properties⟩

def principal (action : GraphAction) (principal : Principal) (properties : Json) : GraphEvent :=
  ⟨none, "lakecat:principal:" ++ principal.subject, .principal, action, none, properties⟩

def withEventId (event : GraphEvent) (eventId : String) : GraphEvent :=
  { event with eventId := some eventId }

end GraphEvent

/-- One call of a sink. -/
inductive Emission where
  | graph (event : GraphEvent)
  | lineage (event : LineageEvent)

namespace OutboxEvent

/-- The payload of the audit event, or the whole document when it carries none. -/
def inner (event : OutboxEvent) : Json :=
  (event.payload.get "payload").getD event.payload

/-- A field of the payload, or else of the document around it. -/
def carried (event : OutboxEvent) (key : String) : Option Json :=
  ((event.payload.get "payload").bind (Json.get · key)).or (event.payload.get key)

section
variable [External]

def hash (event : OutboxEvent) : String :=
  contentHashBytes event.eventId

/-- `outbox event hash {..} {message}`. -/
def malformed (event : OutboxEvent) (message : String) : LakeCatError :=
  .internal ("outbox event hash " ++ event.hash ++ " " ++ message)

/-- `serde_json::from_value::<TableIdent>`, of an object or of an array of the fields. -/
def tableFromValue : Json → Option TableIdent
  | .arr [warehouse, ns, name] =>
      tableIdentFromJson (.object [("warehouse", warehouse), ("namespace", ns), ("name", name)])
  | value => tableIdentFromJson value

def outboxTable (event : OutboxEvent) : LakeCatResult (Option TableIdent) :=
  match (event.payload.get "table").filter fun table => !table.isNull with
  | none => .ok none
  | some table =>
      some <$> okOr (tableFromValue table)
        (.internal ("failed to decode outbox table for event hash " ++ event.hash))

/-- The warehouse that a value names, or the one the service was started with. -/
def warehouseNamed (named : Option Json) (defaultWarehouse : WarehouseName) :
    LakeCatResult WarehouseName :=
  match named.bind Json.asStr with
  | none => .ok defaultWarehouse
  | some warehouse => WarehouseName.new warehouse

def outboxWarehouse (event : OutboxEvent) (defaultWarehouse : WarehouseName) :
    LakeCatResult WarehouseName :=
  warehouseNamed (event.carried "warehouse") defaultWarehouse

/-- A namespace written as its components or as a path. -/
def namespaceFromValue (event : OutboxEvent) (components shape : String) :
    Json → LakeCatResult Namespace
  | .arr parts => do
      let parts ← collect (fun part => okOr (Json.asStr part) (event.malformed components)) parts
      Namespace.new parts
  | .str path => Namespace.fromStr path
  | _ => .error (event.malformed shape)

def outboxNamespace (event : OutboxEvent) (defaultWarehouse : WarehouseName) :
    LakeCatResult (WarehouseName × Namespace) := do
  let warehouse ← event.outboxWarehouse defaultWarehouse
  let ns ← okOr (event.carried "namespace") (event.malformed "is missing namespace payload")
  let ns ← event.namespaceFromValue "namespace components must be strings"
    "namespace payload must be an array or string" ns
  return (warehouse, ns)

/-- A text field that must be there and not empty. -/
def requiredText (value : Option Json) (error : LakeCatError) : LakeCatResult String :=
  okOr ((value.bind Json.asStr).filter fun text => text ≠ "") error

def outboxPolicyBinding (event : OutboxEvent) (defaultWarehouse : WarehouseName) :
    LakeCatResult (WarehouseName × String) := do
  let payload := event.inner
  let policy ← okOr (payload.get "policy") (event.malformed "is missing policy payload")
  let warehouse ← warehouseNamed ((policy.get "warehouse").or (payload.get "warehouse"))
    defaultWarehouse
  let policyId ← requiredText (policy.get "policy-id")
    (event.malformed "policy payload is missing policy-id")
  return (warehouse, policyId)

/-- The id of a record, which the payload names beside the record or inside it. -/
def recordId (event : OutboxEvent) (field record missing : String) : LakeCatResult String :=
  let payload := event.inner
  requiredText ((payload.get field).or ((payload.get record).bind (Json.get · field)))
    (event.malformed missing)

def outboxProject (event : OutboxEvent) : LakeCatResult String :=
  event.recordId "project-id" "project-record" "is missing project payload"

def outboxServer (event : OutboxEvent) : LakeCatResult String :=
  event.recordId "server-id" "server-record" "is missing server payload"

def outboxStorageProfile (event : OutboxEvent) (defaultWarehouse : WarehouseName) :
    LakeCatResult (WarehouseName × String) := do
  let payload := event.inner
  let missing := event.malformed "is missing storage profile payload"
  let storageProfile ← okOr (payload.get "storage-profile") missing
  let warehouse ← warehouseNamed ((storageProfile.get "warehouse").or (payload.get "warehouse"))
    defaultWarehouse
  let profileId ← requiredText (storageProfile.get "profile-id") missing
  return (warehouse, profileId)

def outboxOptionalStorageProfile (event : OutboxEvent) (defaultWarehouse : WarehouseName) :
    LakeCatResult (Option (WarehouseName × String)) :=
  let payload := event.inner
  let storageProfile := payload.get "storage-profile"
  let profileId := (storageProfile.bind (Json.get · "profile-id")).or
    (payload.get "storage-profile-id")
  match (profileId.bind Json.asStr).filter fun profileId => profileId ≠ "" with
  | none => .ok none
  | some profileId => do
      let warehouse ← warehouseNamed
        (((storageProfile.bind (Json.get · "warehouse")).or (payload.get "warehouse")).or
          ((payload.get "table").bind (Json.get · "warehouse")))
        defaultWarehouse
      return some (warehouse, profileId)

def outboxView (event : OutboxEvent) (defaultWarehouse : WarehouseName) :
    LakeCatResult (WarehouseName × Namespace × String) := do
  let payload := event.inner
  let view ← okOr (payload.get "view") (event.malformed "is missing view payload")
  let warehouse ← warehouseNamed ((view.get "warehouse").or (payload.get "warehouse"))
    defaultWarehouse
  let ns ← okOr ((view.get "namespace").or (payload.get "namespace"))
    (event.malformed "view payload is missing namespace")
  let ns ← event.namespaceFromValue "view namespace components must be strings"
    "view namespace must be an array or string" ns
  let name ← requiredText (view.get "name") (event.malformed "view payload is missing name")
  return (warehouse, ns, name)

def outboxModel (event : OutboxEvent) : LakeCatResult String :=
  okOr (((event.inner.get "model-id").bind Json.asStr).filter fun modelId => !isBlank modelId)
    (.invalidArgument "model publication outbox event must contain a non-blank model-id")

def outboxCommitSequenceNumber (event : OutboxEvent) : LakeCatResult Nat := do
  let commit ← okOr (event.carried "commit") (event.malformed "is missing commit payload")
  okOr (((commit.get "sequence_number").or (commit.get "sequence-number")).bind Json.asU64)
    (event.malformed "commit payload is missing sequence number")

def outboxCommitHistoryEntries (event : OutboxEvent) : LakeCatResult (List (Nat × String)) := do
  let payload := event.inner
  let sequenceNumbers ← okOr ((payload.get "sequence-numbers").bind Json.asArray)
    (event.malformed "commit history payload is missing sequence numbers")
  let commitHashes ← okOr ((payload.get "commit-hashes").bind Json.asArray)
    (event.malformed "commit history payload is missing commit hashes")
  rejectIf (commitHashes.length ≠ sequenceNumbers.length)
    (event.malformed
      "commit history payload commit hash count does not match sequence numbers")
  collect (fun entry => do
      let sequenceNumber ← okOr (Json.asU64 entry.1)
        (event.malformed "commit history payload has a non-numeric sequence number")
      let commitHash ← okOr (Json.asStr entry.2)
        (event.malformed "commit history payload has a non-string commit hash")
      return (sequenceNumber, commitHash))
    (sequenceNumbers.zip commitHashes)

/-- The first principal that the document names, or the anonymous one. -/
def outboxPrincipal (event : OutboxEvent) : LakeCatResult Principal :=
  let named := ((event.payload.getPath ["payload", "authorization-receipt", "principal"]).or
    (event.payload.getPath ["authorization-receipt", "principal"])).or
      (event.payload.getPath ["commit", "principal"])
  match named with
  | none => .ok .anonymous
  | some principal =>
      okOr (Principal.fromJson principal)
        (.internal ("failed to decode outbox principal for event hash " ++ event.hash))

end

end OutboxEvent

end LakeCat
