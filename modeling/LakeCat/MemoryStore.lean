import LakeCat.MemoryStoreRecords
import LakeCat.Transition

/-!
The memory store as a state machine: one step is one call, with the clock read
it makes, and a run is any sequence of calls from the empty store.
-/

namespace LakeCat

/-- The calls that may write. -/
inductive MemoryOp where
  | createNamespace (warehouse : WarehouseName) (ns : Namespace)
      (properties : NamespaceProperties)
  | updateNamespaceProperties (warehouse : WarehouseName) (ns : Namespace)
      (update : NamespacePropertyUpdate)
  | dropNamespace (warehouse : WarehouseName) (ns : Namespace)
  | createTable (table : TableRecord)
  | renameTable (source destination : TableIdent) (principal : Principal)
      (authorizationReceipt : Option Json) (now : Timestamp)
  | commitTable (ident : TableIdent) (commit : TableCommit) (now : Timestamp)
  | softDeleteTable (ident : TableIdent) (principal : Principal)
      (authorizationReceipt : Option Json) (now : Timestamp)
  | restoreTable (ident : TableIdent) (principal : Principal)
      (authorizationReceipt : Option Json) (now : Timestamp)
  | saveGovernedScanGrant (grant : GovernedScanGrant)
  | upsertServer (server : ServerRecord)
  | upsertProject (project : ProjectRecord)
  | upsertWarehouse (warehouse : WarehouseRecord)
  | upsertStorageProfile (profile : StorageProfile)
  | upsertView (view : ViewRecord) (expectedViewVersion : Option UInt64) (now : Timestamp)
  | dropView (warehouse : WarehouseName) (ns : Namespace) (view : TableName)
      (principal : Principal) (expectedViewVersion : Option UInt64) (now : Timestamp)
  | upsertPolicyBinding (binding : PolicyBinding)
  | publishModel (publication : ModelPublication) (expectedCurrentVersion : Option UInt64)
      (now : Timestamp)
  | recordAuditEvent (event : CatalogAuditEvent)
  | markOutboxDelivered (eventIds : List String) (now : Timestamp)

namespace MemoryState
variable [External]

/-- The state a call leaves, whether it succeeds or fails. -/
def step (state : MemoryState) : MemoryOp → MemoryState
  | .createNamespace warehouse ns properties =>
      (atomic state (state.createNamespaceWithProperties warehouse ns properties)).2
  | .updateNamespaceProperties warehouse ns update =>
      (atomic state (state.updateNamespaceProperties warehouse ns update)).2
  | .dropNamespace warehouse ns => (atomic state (state.dropNamespace warehouse ns)).2
  | .createTable table => (atomic state (state.createTable table)).2
  | .renameTable source destination principal receipt now =>
      (atomic state (state.renameTable source destination principal receipt now)).2
  | .commitTable ident commit now => (atomic state (state.commitTable ident commit now)).2
  | .softDeleteTable ident principal receipt now =>
      (atomic state (state.softDeleteTable ident principal receipt now)).2
  | .restoreTable ident principal receipt now =>
      (atomic state (state.restoreTable ident principal receipt now)).2
  | .saveGovernedScanGrant grant => (atomic state (state.saveGovernedScanGrant grant)).2
  | .upsertServer server => (atomic state (state.upsertServer server)).2
  | .upsertProject project => (atomic state (state.upsertProject project)).2
  | .upsertWarehouse warehouse => (atomic state (state.upsertWarehouse warehouse)).2
  | .upsertStorageProfile profile => (atomic state (state.upsertStorageProfile profile)).2
  | .upsertView view expected now =>
      (atomic state (state.upsertViewIfVersion view expected now)).2
  | .dropView warehouse ns view principal expected now =>
      (state.dropViewIfVersion warehouse ns view principal expected now).2
  | .upsertPolicyBinding binding => (atomic state (state.upsertPolicyBinding binding)).2
  | .publishModel publication expected now => (state.publishModel publication expected now).2
  | .recordAuditEvent event => (atomic state (state.recordAuditEvent event)).2
  | .markOutboxDelivered eventIds now =>
      (atomic state (state.markOutboxDelivered eventIds now)).2

/-- The state after a sequence of calls. -/
def run (state : MemoryState) (ops : List MemoryOp) : MemoryState :=
  Transition.run step state ops

theorem run_snoc (state : MemoryState) (ops : List MemoryOp) (op : MemoryOp) :
    state.run (ops ++ [op]) = (state.run ops).step op :=
  Transition.run_append state ops [op]

end MemoryState

/-! One table in one namespace, and a commit that asks for nothing. -/

def sampleIdent : TableIdent := ⟨⟨"main"⟩, ⟨["sales"]⟩, ⟨"orders"⟩⟩

def sampleTable : TableRecord :=
  .new sampleIdent "s3://lake/orders" none (.object [("format-version", .int 2)])
    .anonymous 0

def sampleSetup : List MemoryOp :=
  [.createNamespace sampleIdent.warehouse sampleIdent.ns .default, .createTable sampleTable]

def sampleCommit : TableCommit where
  requirements := []
  updates := []
  expectedPreviousMetadataLocation := none
  newMetadataLocation := none
  newMetadata := none
  idempotencyKey := none
  idempotencyRequestHash := none
  principal := .anonymous
  authorizationReceipt := none

end LakeCat
