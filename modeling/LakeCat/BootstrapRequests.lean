import LakeCat.BundleSerialization
import LakeCat.ReceiptChains
import LakeCat.ServiceRequests
import LakeCat.Transition
import LakeCat.ViewListing

/-!
Bootstrap requests that the service handles beside the other calls on its
store. A request lists the tables, their policy bindings, the views, the
records of the tenant and the view receipts with one call each; between two of
them the store may be changed by anyone.
-/

namespace LakeCat

open Fallible Transition

/-! The reads of the store. -/

namespace MemoryState
variable [External]

def policyBindingsForTables (state : MemoryState) (tables : List TableIdent) :
    LakeCatResult (List (List PolicyBinding)) := do
  let bindings ← collect (fun (key, binding) => do
      validatePolicyBindingMapScope binding key
      return binding) state.policyBindings.toList
  return tables.map fun table =>
    (bindings.filter fun binding => binding.enforced && binding.appliesToTable table).mergeSort
      fun left right => (compare left.policyId right.policyId).isLE

/-- The order of the listing: namespace, then name. -/
def viewLe (left right : ViewRecord) : Bool :=
  ((compare left.ns right.ns).then (compare left.name.value right.name.value)).isLE

def listWarehouseViews (state : MemoryState) (warehouse : WarehouseName) :
    LakeCatResult (List ViewRecord) := do
  let views ← collect (fun (viewKey, view) => do
      validateViewRecordMapScope view viewKey
      return view)
    (state.views.toList.filter fun entry => viewKeyMatchesWarehouse entry.1 warehouse)
  return views.mergeSort viewLe

def loadServer (state : MemoryState) (serverId : String) : LakeCatResult ServerRecord := do
  validateProjectId serverId
  let server ← okOr state.servers[serverId]? (.notFound "server" serverId)
  validateServerRecordMapScope server serverId
  return server

def loadProject (state : MemoryState) (projectId : String) : LakeCatResult ProjectRecord := do
  validateProjectId projectId
  let project ← okOr state.projects[projectId]? (.notFound "project" projectId)
  validateProjectRecordMapScope project projectId
  return project

end MemoryState

def optionalManagementRecord (result : LakeCatResult α) (object : String) :
    LakeCatResult (Option α) :=
  match result with
  | .ok record => .ok (some record)
  | .error (.notFound missing name) =>
      if missing = object then .ok none else .error (.notFound missing name)
  | .error error => .error error

section
variable [External]

/-- The evidence of one view: its whole chain, and the last receipt of its version. -/
def querygraphViewVersionReceipt (receipts : List ViewVersionReceipt) (view : ViewRecord) :
    LakeCatResult QueryGraphViewReceiptEvidence := do
  let responses := (receipts.filter fun receipt => receipt.warehouse = view.warehouse ∧
    receipt.ns = view.ns ∧ receipt.name = view.name).map viewVersionReceiptResponse
  rejectIf (viewVersionReceiptChainVerified responses = false) (.internal
    (s!"querygraph bootstrap view {view.ns.path}.{view.name.value} has an unverified " ++
      "receipt chain"))
  let receiptChainHash ← viewVersionReceiptChainHash responses
  let receipt ← okOr (responses.reverse.find? fun receipt => receipt.viewVersion = view.viewVersion)
    (.internal (s!"querygraph bootstrap view {view.ns.path}.{view.name.value} is missing " ++
      s!"receipt evidence for version {view.viewVersion}"))
  return ⟨receipt.stableId, receipt.viewVersion, receipt.receiptHash, receiptChainHash⟩

def querygraphViewVersionReceipts (views : List ViewRecord) (receipts : List ViewVersionReceipt) :
    LakeCatResult (List QueryGraphViewReceiptEvidence) :=
  collect (querygraphViewVersionReceipt receipts) views

/-- The debug text of the receipt's action is left out of the second error. -/
def catalogCapabilityFromReceipt (receipt : AuthorizationReceipt) (expected : CatalogAction)
    (description : String) : LakeCatResult AuthorizationReceipt := do
  rejectIf (receipt.allowed = false) (.conflict "authorization receipt is not allowed")
  rejectIf (receipt.action ≠ expected)
    (.invalidArgument s!"authorization receipt action cannot {description}")
  rejectIf receipt.table.isSome
    (.invalidArgument "catalog authorization receipt must not be table-scoped")
  return receipt

def authorizeGraphRead (state : LakeCatState) (store : MemoryState) (identity : RequestIdentity)
    (now : Timestamp) : LakeCatResult AuthorizationReceipt := do
  let receipt ← authorize state store identity .graphRead none now
  catalogCapabilityFromReceipt receipt .graphRead "read catalog graph"

def viewReceiptRecord (verification : QueryGraphBootstrapVerification)
    (entry : String × String) : Json :=
  .object [("stable-id", .str entry.1),
    ("view-version", ofU64 ((verification.verifiedViewVersions[entry.1]?).getD 0)),
    ("receipt-hash", .str entry.2),
    ("receipt-chain-hash", ofOptionStr verification.verifiedViewReceiptChainHashes[entry.1]?)]

def bootstrapEventPayload (receipt : AuthorizationReceipt) (warehouse : WarehouseName)
    (policyBindingCount : Nat) (bundle : QueryGraphBootstrap)
    (verification : QueryGraphBootstrapVerification) : Json :=
  .object [("event-type", .str "querygraph.bootstrap"),
    ("authorization-receipt", receipt.toJson), ("warehouse", .str warehouse.value),
    ("table-count", .int verification.tableCount), ("view-count", .int verification.viewCount),
    ("policy-binding-count", .int policyBindingCount),
    ("verified-tables", strings verification.verifiedTables),
    ("verified-views", strings verification.verifiedViews),
    ("verified-view-versions", .object
      (verification.verifiedViewVersions.toList.map fun entry => (entry.1, ofU64 entry.2))),
    ("view-version-receipts", .arr
      (verification.verifiedViewReceiptHashes.toList.map (viewReceiptRecord verification))),
    ("bundle-hash", .str verification.bundleHash), ("graph-hash", .str verification.graphHash),
    ("open-lineage-hash", .str verification.openLineageHash),
    ("querygraph-import-hash", .str verification.querygraphImportHash),
    ("table-artifacts",
      .arr (bundle.manifest.tableArtifacts.map QueryGraphTableArtifactHashes.toJson)),
    ("view-artifacts",
      .arr (bundle.manifest.viewArtifacts.map QueryGraphViewArtifactHashes.toJson)),
    ("standards", strings verification.standards)]

/-! The request, one call on the store after the other. -/

/-- What a request has read of the tables and views. -/
structure CatalogReads where
  tables : List TableRecord
  bindings : List (List PolicyBinding)
  views : List ViewRecord

/-- The bundle of what was read; a release build does not verify it again. -/
def CatalogReads.bundle (reads : CatalogReads) (warehouse : WarehouseName)
    (tenant : QueryGraphTenantProjection) (receipts : List ViewVersionReceipt)
    (now : Timestamp) : LakeCatResult QueryGraphBootstrap := do
  let evidence ← querygraphViewVersionReceipts reads.views receipts
  bootstrapFromCatalogSnapshot now warehouse (reads.tables.zip reads.bindings) reads.views tenant
    evidence

inductive BootstrapStage where
  | asked
  | authorized (receipt : AuthorizationReceipt)
  | listedTables (receipt : AuthorizationReceipt) (tables : List TableRecord)
  | boundTables (receipt : AuthorizationReceipt) (tables : List TableRecord)
      (bindings : List (List PolicyBinding))
  | listedViews (receipt : AuthorizationReceipt) (reads : CatalogReads)
  | loadedWarehouse (receipt : AuthorizationReceipt) (reads : CatalogReads)
      (warehouse : Option WarehouseRecord)
  | loadedProject (receipt : AuthorizationReceipt) (reads : CatalogReads)
      (warehouse : Option WarehouseRecord) (project : Option ProjectRecord)
  | loadedTenant (receipt : AuthorizationReceipt) (reads : CatalogReads)
      (tenant : QueryGraphTenantProjection)
  | built (receipt : AuthorizationReceipt) (reads : CatalogReads) (bundle : QueryGraphBootstrap)
  | finished (answer : LakeCatResult QueryGraphBootstrap)

namespace BootstrapStage

def isFinished : BootstrapStage → Bool
  | finished _ => true
  | asked | authorized _ | listedTables .. | boundTables .. | listedViews .. | loadedWarehouse ..
  | loadedProject .. | loadedTenant .. | built .. => false

/-- A failure ends the request. -/
def attempt (result : LakeCatResult α) (next : α → BootstrapStage) : BootstrapStage :=
  match result with
  | .ok value => next value
  | .error error => finished (.error error)

def projectOf (store : MemoryState) : Option WarehouseRecord → LakeCatResult (Option ProjectRecord)
  | some warehouse => optionalManagementRecord (store.loadProject warehouse.projectId) "project"
  | none => .ok none

def serverOf (store : MemoryState) (project : Option ProjectRecord) :
    LakeCatResult (Option ServerRecord) :=
  match project.bind ProjectRecord.serverId with
  | some serverId => optionalManagementRecord (store.loadServer serverId) "server"
  | none => .ok none

def checkedBindings (store : MemoryState) (tables : List TableRecord) :
    LakeCatResult (List (List PolicyBinding)) := do
  let bindings ← store.policyBindingsForTables (tables.map TableRecord.ident)
  rejectIf (bindings.length ≠ tables.length)
    (.internal "bulk policy lookup returned the wrong number of table scopes")
  return bindings

/-- The next call of a request on the store, and what it leaves there. -/
def next (state : LakeCatState) (identity : RequestIdentity) (store : MemoryState)
    (now : Timestamp) : BootstrapStage → BootstrapStage × MemoryState
  | asked => (attempt (authorizeGraphRead state store identity now) authorized, store)
  | authorized receipt => (attempt (store.listTables state.warehouse) (listedTables receipt), store)
  | listedTables receipt tables =>
      (attempt (checkedBindings store tables) (boundTables receipt tables), store)
  | boundTables receipt tables bindings =>
      (attempt (store.listWarehouseViews state.warehouse)
        fun views => listedViews receipt ⟨tables, bindings, views⟩, store)
  | listedViews receipt reads =>
      (attempt (optionalManagementRecord (store.loadWarehouse state.warehouse) "warehouse")
        (loadedWarehouse receipt reads), store)
  | loadedWarehouse receipt reads warehouse =>
      (attempt (projectOf store warehouse) (loadedProject receipt reads warehouse), store)
  | loadedProject receipt reads warehouse project =>
      (attempt (serverOf store project) fun server => loadedTenant receipt reads
        (tenantProjectionFromRecords state.warehouse warehouse project server), store)
  | loadedTenant receipt reads tenant =>
      (attempt (do
        let receipts ← store.listWarehouseViewVersionReceipts state.warehouse
        reads.bundle state.warehouse tenant receipts now) (built receipt reads), store)
  | built receipt reads bundle =>
      let recorded : LakeCatResult (Unit × MemoryState) := do
        let verification ← bundle.constructionSummary
        let policyBindingCount := (reads.bindings.map List.length).sum
        store.recordAuditEvent (.new "querygraph.bootstrap" none receipt.principal
          (bootstrapEventPayload receipt state.warehouse policyBindingCount bundle verification)
          now)
      match recorded with
      | .error error => (finished (.error error), store)
      | .ok (_, after) => (finished (.ok bundle), after)
  | finished answer => (finished answer, store)

end BootstrapStage

/-- A request with the stores that it has lived to see. -/
structure BootstrapRun where
  identity : RequestIdentity
  stage : BootstrapStage
  during : List MemoryState

structure BootstrapSystem where
  store : MemoryState
  requests : Nat → Option BootstrapRun

inductive BootstrapStep where
  | ask (client : Nat) (identity : RequestIdentity)
  | advance (client : Nat) (now : Timestamp)
  | other (op : MemoryOp)

def BootstrapRun.seeing (run : BootstrapRun) (store : MemoryState) : BootstrapRun :=
  if run.stage.isFinished then run else { run with during := run.during ++ [store] }

namespace BootstrapSystem

def idle (store : MemoryState) : BootstrapSystem := ⟨store, fun _ => none⟩

/-- The store after a step, and the requests that see it. -/
def seen (store : MemoryState) (requests : Nat → Option BootstrapRun) : BootstrapSystem :=
  ⟨store, fun client => (requests client).map fun run => run.seeing store⟩

def step (state : LakeCatState) (system : BootstrapSystem) : BootstrapStep → BootstrapSystem
  | .ask client identity =>
      match system.requests client with
      | some _ => system
      | none => {
          system with
          requests := Function.update system.requests client
            (some ⟨identity, .asked, [system.store]⟩) }
  | .advance client now =>
      match system.requests client with
      | none => system
      | some run =>
          let next := run.stage.next state run.identity system.store now
          seen next.2
            (Function.update system.requests client (some { run with stage := next.1 }))
  | .other op => seen (system.store.step op) system.requests

def run (state : LakeCatState) (system : BootstrapSystem) (steps : List BootstrapStep) :
    BootstrapSystem :=
  Transition.run (step state) system steps

end BootstrapSystem

/-! What a consistent bundle is. -/

/-- The evidence of a view in a store: the last receipt of the view is the upsert of the version
that is listed, and the chain hash is taken of the receipts up to it. -/
structure EvidenceOf (store : MemoryState) (view : ViewRecord)
    (evidence : QueryGraphViewReceiptEvidence) : Prop where
  stableId : evidence.stableId = viewStableId view
  viewVersion : evidence.viewVersion = view.viewVersion
  receipts : ∃ earlier last, store.receiptsUnder (viewKey view) = earlier ++ [last] ∧
    last.operation = .upsert ∧ last.viewVersion = view.viewVersion ∧
    evidence.receiptHash = viewReceiptHash last ∧
    viewVersionReceiptChainHash ((earlier ++ [last]).map viewVersionReceiptResponse) =
      .ok evidence.receiptChainHash

/-- All parts of the bundle are what one store answers. -/
structure ReadFrom (warehouse : WarehouseName) (store : MemoryState)
    (bundle : QueryGraphBootstrap) (reads : CatalogReads)
    (contract : QueryGraphImportCompatibility) : Prop where
  listedTables : store.listTables warehouse = .ok reads.tables
  bindings : store.policyBindingsForTables (reads.tables.map TableRecord.ident) = .ok reads.bindings
  listedViews : store.listWarehouseViews warehouse = .ok reads.views
  tables : bundle.tables = (reads.tables.zip reads.bindings).map fun entry =>
    tableProjectionFromTableWithPolicies entry.1 entry.2
  views : bundle.views = reads.views.map viewProjectionFromView
  carried : bundle.manifest.querygraphImport = some contract
  evidence : ∃ receipts, store.listWarehouseViewVersionReceipts warehouse = .ok receipts ∧
    querygraphViewVersionReceipts reads.views receipts = .ok contract.viewReceiptEvidence
  upserts : List.Forall₂ (EvidenceOf store) reads.views contract.viewReceiptEvidence

/-- One store that the request has lived to see answers for the whole bundle. -/
def BootstrapRun.Consistent (state : LakeCatState) (run : BootstrapRun)
    (bundle : QueryGraphBootstrap) : Prop :=
  ∃ store ∈ run.during, ∃ reads contract, ReadFrom state.warehouse store bundle reads contract

/-- Where a request lists the receipts, what it has read before still reads the same. -/
def BootstrapSystem.RereadsSame (state : LakeCatState) (system : BootstrapSystem) :
    BootstrapStep → Prop
  | .advance client _ => ∀ run receipt reads tenant, system.requests client = some run →
      run.stage = .loadedTenant receipt reads tenant →
        system.store.listTables state.warehouse = .ok reads.tables ∧
        system.store.policyBindingsForTables (reads.tables.map TableRecord.ident) =
          .ok reads.bindings ∧
        system.store.listWarehouseViews state.warehouse = .ok reads.views
  | .ask .. | .other _ => True

end

end LakeCat
