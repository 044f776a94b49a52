import LakeCat.MemoryStoreChecks

/-!
The state that a call of the memory store leaves, call by call, with what the
call has checked before it writes. What a run can do is proved from this list.
-/

namespace LakeCat

open Fallible

/-- An atomic operation either succeeds or leaves the state. -/
theorem atomic_cases (state : MemoryState) (result : LakeCatResult (α × MemoryState)) :
    (∃ value, result = .ok (value, (atomic state result).2)) ∨
      ∃ error, result = .error error ∧ (atomic state result).2 = state := by
  cases result with
  | ok outcome => exact .inl ⟨outcome.1, rfl⟩
  | error error => exact .inr ⟨error, rfl, rfl⟩

namespace MemoryState

/-- The receipts filed under a key, oldest first. -/
def receiptsUnder (state : MemoryState) (key : String) : List ViewVersionReceipt :=
  (state.viewVersionReceipts.filter fun record => record.viewKey = key).map
    MemoryViewVersionReceipt.receipt

variable [External]

/-- The call registers a table under a name it did not have. -/
def registers (state : MemoryState) : MemoryOp → Bool
  | .createTable table => (state.createTable table).isOk
  | .renameTable source destination principal receipt now =>
      (state.renameTable source destination principal receipt now).isOk
  | _ => false

theorem saveGovernedScanGrant_ok (state next : MemoryState) (grant result : GovernedScanGrant)
    (saved : state.saveGovernedScanGrant grant = .ok (result, next)) :
    ∃ grants, next = { state with governedScanGrants := grants } ∧
      (∀ (grantId : String) other, state.governedScanGrants[grantId]? = some other →
        grants[grantId]? = some other) ∧
      grants[grant.proof.grantId]? = some result ∧
      (result = grant ∨ result.hasSameStableEvidence grant = true) := by
  simp only [saveGovernedScanGrant, bind_unit_eq_ok] at saved
  obtain ⟨_, saved⟩ := saved
  split at saved
  next existing found =>
    simp only [bind_unit_eq_ok, rejectIf_ok, pure_eq, return_eq_ok, not_not] at saved
    obtain ⟨same, rfl, rfl⟩ := saved
    exact ⟨_, rfl, fun _ _ held => held, found, .inr same⟩
  next absent =>
    simp only [pure_eq, return_eq_ok] at saved
    obtain ⟨rfl, rfl⟩ := saved
    refine ⟨_, rfl, ?_, Std.ExtTreeMap.getElem?_insert_self, .inl rfl⟩
    intro grantId other held
    have different : result.proof.grantId ≠ grantId := by
      rintro rfl
      rw [absent] at held
      cases held
    rw [Std.ExtTreeMap.getElem?_insert]
    simpa [different] using held

theorem upsertServer_ok (state next : MemoryState) (server result : ServerRecord)
    (stored : state.upsertServer server = .ok (result, next)) :
    ∃ servers, next = { state with servers := servers } := by
  simp only [upsertServer, bind_eq_ok, exists_unit, pure_eq, return_eq_ok] at stored
  obtain ⟨_, _, _, rfl⟩ := stored
  exact ⟨_, rfl⟩

theorem upsertProject_ok (state next : MemoryState) (project result : ProjectRecord)
    (stored : state.upsertProject project = .ok (result, next)) :
    ∃ projects, next = { state with projects := projects } := by
  simp only [upsertProject, bind_eq_ok, exists_unit, pure_eq, return_eq_ok] at stored
  obtain ⟨_, _, _, _, rfl⟩ := stored
  exact ⟨_, rfl⟩

theorem upsertWarehouse_ok (state next : MemoryState) (warehouse result : WarehouseRecord)
    (stored : state.upsertWarehouse warehouse = .ok (result, next)) :
    ∃ warehouses, next = { state with warehouses := warehouses } := by
  simp only [upsertWarehouse, bind_eq_ok, exists_unit, pure_eq, return_eq_ok] at stored
  obtain ⟨_, _, _, _, _, _, rfl⟩ := stored
  exact ⟨_, rfl⟩

theorem upsertStorageProfile_ok (state next : MemoryState) (profile result : StorageProfile)
    (stored : state.upsertStorageProfile profile = .ok (result, next)) :
    ∃ profiles, next = { state with storageProfiles := profiles } := by
  simp only [upsertStorageProfile, bind_eq_ok, exists_unit, pure_eq, return_eq_ok] at stored
  obtain ⟨_, _, _, rfl⟩ := stored
  exact ⟨_, rfl⟩

theorem upsertPolicyBinding_ok (state next : MemoryState) (binding result : PolicyBinding) :
    state.upsertPolicyBinding binding = .ok (result, next) ↔
      binding.validate = .ok () ∧
        (∀ existing, state.policyBindings[policyBindingKey binding.warehouse binding.policyId]? =
          some existing → validatePolicyBindingMapScope existing
            (policyBindingKey binding.warehouse binding.policyId) = .ok ()) ∧
        result = binding ∧ next = {
          state with
          policyBindings := state.policyBindings.insert
            (policyBindingKey binding.warehouse binding.policyId) binding
        } := by
  simp only [upsertPolicyBinding, bind_eq_ok, exists_unit, checkSome_ok, pure_eq, return_eq_ok]

theorem withNextVersionAfterHistory_ok (view next : ViewRecord) (previous : Option ViewRecord)
    (latest : Option UInt64)
    (stepped : view.withNextVersionAfterHistory previous latest = .ok next) :
    next.validate = .ok () ∧ next.warehouse = view.warehouse ∧ next.ns = view.ns ∧
      next.name = view.name := by
  simp only [ViewRecord.withNextVersionAfterHistory, bind_eq_ok, okOr_ok, exists_unit, pure_eq,
    Except.ok.injEq] at stepped
  obtain ⟨version, _, valid, rfl⟩ := stepped
  exact ⟨valid, rfl, rfl, rfl⟩

/-- The receipt of an upsert, after the latest receipt of the view. -/
def upsertReceipt (state : MemoryState) (view next : ViewRecord)
    (latest : Option (UInt64 × String)) (now : Timestamp) : ViewVersionReceipt :=
  let previous := state.views[viewKey view]?
  .upsert ((previous.map ViewRecord.viewVersion).or (latest.map Prod.fst)) (latest.map Prod.snd)
    next view.created.principal now

/-- What an upsert of a view has read and checked. -/
structure Upsertable (state : MemoryState) (view : ViewRecord) (expected : Option UInt64)
    (latest : Option (UInt64 × String)) (next : ViewRecord) : Prop where
  valid : view.validate = .ok ()
  asked : checkSome validateExpectedViewVersion expected = .ok ()
  scope : checkSome (fun previous => validateViewRecordMapScope previous (viewKey view))
    state.views[viewKey view]? = .ok ()
  matching : checkSome (requireExpectedViewVersion state.views[viewKey view]?) expected = .ok ()
  history : ∃ receipts, state.receiptsOfView view.warehouse view.ns view.name = .ok receipts ∧
    latestViewReceiptEvidence receipts = .ok latest
  next : view.withNextVersionAfterHistory state.views[viewKey view]? (latest.map Prod.fst) =
    .ok next

theorem upsertViewIfVersion_ok (state next : MemoryState) (view result : ViewRecord)
    (expected : Option UInt64) (now : Timestamp) :
    state.upsertViewIfVersion view expected now = .ok (result, next) ↔
      ∃ latest, state.Upsertable view expected latest result ∧ next = {
        state with
        views := state.views.insert (viewKey view) result
        viewVersionReceipts := state.viewVersionReceipts ++
          [⟨viewKey view, state.upsertReceipt view result latest now⟩]
      } := by
  simp only [upsertViewIfVersion, bind_eq_ok, exists_unit, pure_eq, return_eq_ok]
  constructor
  · rintro ⟨valid, asked, scope, matching, receipts, read, latest, found, _, versioned, rfl, rfl⟩
    exact ⟨latest, ⟨valid, asked, scope, matching, ⟨receipts, read, found⟩, versioned⟩, rfl⟩
  · rintro ⟨latest, ⟨valid, asked, scope, matching, ⟨receipts, read, found⟩, versioned⟩, rfl⟩
    exact ⟨valid, asked, scope, matching, receipts, read, latest, found, result, versioned, rfl, rfl⟩

/-- The audit event of a publication, and the outbox event that carries it. -/
def publishAudit (publication : ModelPublication) (now : Timestamp) : CatalogAuditEvent :=
  .new "model.published" none publication.publisher (publishPayload publication) now

def auditOutbox (event : CatalogAuditEvent) : OutboxEvent :=
  outboxEvent event.eventType (auditOutboxPayload (auditEventId event) event) event.createdAt

theorem outboxEventFromPayload_audit (event : CatalogAuditEvent) (now : Timestamp) :
    outboxEventFromPayload (auditOutboxPayload (auditEventId event) event) now =
      .ok (outboxEvent event.eventType (auditOutboxPayload (auditEventId event) event) now) :=
  outboxEventFromPayload_object _ now _ (by
    cases event.table <;> simp [Json.presentField, List.lookup])

/-- What a publication has checked before the entry of its model is touched. -/
structure Publishable (state : MemoryState) (publication : ModelPublication) : Prop where
  valid : publication.validate = .ok ()
  bound : ∀ policyId ∈ publication.policyBindingIds,
    state.policyBindings.contains (policyBindingKey publication.warehouse policyId) = true

def publicationsOf (state : MemoryState) (publication : ModelPublication) :
    List ModelPublication :=
  (state.modelPublications[modelPublicationKey publication.warehouse publication.modelId]?).getD []

/-- The version that `publish_model` compares does not match. -/
def Mismatched (state : MemoryState) (publication : ModelPublication) (expected : Option UInt64) :
    Prop :=
  let current := (state.publicationsOf publication).getLast?.map ModelPublication.version
  current ≠ expected ∨ publication.version ≠ current.getD 0 + 1

instance (state : MemoryState) (publication : ModelPublication) (expected : Option UInt64) :
    Decidable (state.Mismatched publication expected) :=
  inferInstanceAs (Decidable (_ ∨ _))

def withPublications (state : MemoryState) (publication : ModelPublication)
    (publications : List ModelPublication) : MemoryState :=
  {
    state with
    modelPublications := state.modelPublications.insert
      (modelPublicationKey publication.warehouse publication.modelId) publications
  }

def published (state : MemoryState) (publication : ModelPublication) (now : Timestamp) :
    MemoryState :=
  {
    state.withPublications publication (state.publicationsOf publication ++ [publication]) with
    auditEvents := state.auditEvents ++ [publishAudit publication now]
    outboxEvents := state.outboxEvents ++ [auditOutbox (publishAudit publication now)]
  }

/-- The three ways in which a publication ends. -/
theorem publishModel_cases (state : MemoryState) (publication : ModelPublication)
    (expected : Option UInt64) (now : Timestamp) :
    (¬state.Publishable publication ∧
      ∃ error, state.publishModel publication expected now = (.error error, state)) ∨
    (state.Publishable publication ∧ state.Mismatched publication expected ∧
      ∃ error, state.publishModel publication expected now =
        (.error error, state.withPublications publication (state.publicationsOf publication))) ∨
    (state.Publishable publication ∧ ¬state.Mismatched publication expected ∧
      state.publishModel publication expected now =
        (.ok publication, state.published publication now)) := by
  have prepared (outbox : OutboxEvent) : (do
      publication.validate
      let outbox ← outboxEventFromPayload (auditOutboxPayload
        (auditEventId (publishAudit publication now)) (publishAudit publication now)) now
      checkEach (fun policyId =>
          rejectIf (¬state.policyBindings.contains
              (policyBindingKey publication.warehouse policyId))
            (.notFound "policy binding" (contentHashBytes policyId)))
        publication.policyBindingIds
      return outbox : LakeCatResult OutboxEvent) = .ok outbox ↔
        state.Publishable publication ∧ outbox = auditOutbox (publishAudit publication now) := by
    simp only [outboxEventFromPayload_audit, bind_eq_ok, exists_unit, ok_bind, checkEach_ok,
      rejectIf_ok, Bool.not_eq_true, Bool.not_eq_false, pure_eq, Except.ok.injEq]
    constructor
    · rintro ⟨valid, bound, rfl⟩
      exact ⟨⟨valid, bound⟩, rfl⟩
    · rintro ⟨⟨valid, bound⟩, rfl⟩
      exact ⟨valid, bound, rfl⟩
  rw [publishModel]
  split
  next error failed =>
    refine .inl ⟨fun publishable => ?_, error, rfl⟩
    have accepted := (prepared _).mpr ⟨publishable, rfl⟩
    cases failed.symm.trans accepted
  next outbox passed =>
    obtain ⟨publishable, rfl⟩ := (prepared outbox).mp passed
    by_cases mismatched : state.Mismatched publication expected
    · exact .inr (.inl ⟨publishable, mismatched, _, if_pos mismatched⟩)
    · exact .inr (.inr ⟨publishable, mismatched, if_neg mismatched⟩)

theorem recordAuditEvent_ok (state next : MemoryState) (event : CatalogAuditEvent) (done : Unit) :
    state.recordAuditEvent event = .ok (done, next) ↔
      event.validateRecordable = .ok () ∧
        (∀ other ∈ state.outboxEvents, other.eventId ≠ (auditOutbox event).eventId) ∧
        next = {
          state with
          auditEvents := state.auditEvents ++ [event]
          outboxEvents := state.outboxEvents ++ [auditOutbox event]
        } := by
  simp only [recordAuditEvent, bind_eq_ok, exists_unit, outboxEventFromPayload_audit, ok_bind,
    rejectIf_ok, pure_eq, return_eq_ok, Bool.not_eq_true, List.any_eq_false, decide_eq_true_eq]
  constructor
  · rintro ⟨recordable, fresh, _, rfl⟩
    exact ⟨recordable, fresh, rfl⟩
  · rintro ⟨recordable, fresh, rfl⟩
    exact ⟨recordable, fresh, trivial, rfl⟩

/-- The outbox once the pending events with these ids are delivered. -/
def delivered (state : MemoryState) (eventIds : List String) (now : Timestamp) : MemoryState :=
  {
    state with
    outboxEvents := state.outboxEvents.map fun event =>
      if isDeliverable eventIds event then { event with deliveredAt := some now } else event
  }

theorem markOutboxDelivered_ok (state next : MemoryState) (eventIds : List String)
    (now : Timestamp) (count : Nat)
    (marked : state.markOutboxDelivered eventIds now = .ok (count, next)) :
    next = state ∨ next = state.delivered eventIds now := by
  simp only [markOutboxDelivered] at marked
  split at marked
  · simp only [pure_eq, return_eq_ok] at marked
    exact .inl marked.2
  · simp only [bind_eq_ok, exists_unit, pure_eq, return_eq_ok] at marked
    obtain ⟨_, _, _, rfl⟩ := marked
    exact .inr rfl

/-- The store without the view that a drop removes. -/
def withoutView (state : MemoryState) (warehouse : WarehouseName) (ns : Namespace)
    (view : TableName) : MemoryState :=
  { state with views := state.views.erase (viewKeyParts warehouse ns view) }

/-- The three ways in which a drop ends. -/
theorem dropViewIfVersion_cases (state : MemoryState) (warehouse : WarehouseName)
    (ns : Namespace) (view : TableName) (principal : Principal) (expected : Option UInt64)
    (now : Timestamp) :
    (∃ error, state.viewToDrop warehouse ns view expected = .error error ∧
      state.dropViewIfVersion warehouse ns view principal expected now = (.error error, state)) ∨
    ∃ record, state.viewToDrop warehouse ns view expected = .ok record ∧
      ((∃ error, state.dropReceipt record warehouse ns view principal now = .error error ∧
        state.dropViewIfVersion warehouse ns view principal expected now =
          (.error error, state.withoutView warehouse ns view)) ∨
      ∃ receipt, state.dropReceipt record warehouse ns view principal now = .ok receipt ∧
        state.dropViewIfVersion warehouse ns view principal expected now = (.ok record, {
          state.withoutView warehouse ns view with
          viewVersionReceipts := state.viewVersionReceipts ++
            [⟨viewKeyParts warehouse ns view, receipt⟩]
        })) := by
  have kept (record : ViewRecord) :
      (state.withoutView warehouse ns view).dropReceipt record warehouse ns view principal now =
        state.dropReceipt record warehouse ns view principal now := rfl
  simp only [withoutView] at kept
  rw [dropViewIfVersion]
  split
  next error failed => exact .inl ⟨error, failed, rfl⟩
  next record found =>
    refine .inr ⟨record, found, ?_⟩
    dsimp only
    rw [kept]
    split
    next error failed => exact .inl ⟨error, failed, rfl⟩
    next receipt made => exact .inr ⟨receipt, made, rfl⟩

/-- What a call leaves, with everything it checked before. -/
inductive Successor (state : MemoryState) : MemoryOp → MemoryState → Prop
  | unchanged (op : MemoryOp) (idle : state.registers op = false) : Successor state op state
  | namespaceCreated (warehouse : WarehouseName) (ns : Namespace)
      (properties : NamespaceProperties) (absent : state.namespaceExists warehouse ns = false) :
      Successor state (.createNamespace warehouse ns properties) {
        state with
        namespaces := state.namespaces.insert warehouse.value
          ((state.namespacesOf warehouse).insert ns properties)
      }
  | namespaceUpdated (warehouse : WarehouseName) (ns : Namespace)
      (update : NamespacePropertyUpdate) (properties : NamespaceProperties)
      (present : state.namespaceExists warehouse ns = true) :
      Successor state (.updateNamespaceProperties warehouse ns update) {
        state with
        namespaces := state.namespaces.insert warehouse.value
          ((state.namespacesOf warehouse).insert ns properties)
      }
  | namespaceDropped (warehouse : WarehouseName) (ns : Namespace)
      (droppable : state.Droppable warehouse ns) :
      Successor state (.dropNamespace warehouse ns) (state.withoutNamespace warehouse ns)
  | tableCreated (table : TableRecord) (valid : table.Valid)
      (ns : state.namespaceExists table.ident.warehouse table.ident.ns = true)
      (vacant : state.tables.contains (tableKey table.ident) = false) :
      Successor state (.createTable table)
        { state with tables := state.tables.insert (tableKey table.ident) table }
  | tableRenamed (source destination : TableIdent) (principal : Principal) (receipt : Option Json)
      (now : Timestamp) (table : TableRecord)
      (renamable : state.Renamable source destination principal receipt table) :
      Successor state (.renameTable source destination principal receipt now)
        (state.renamed source destination principal receipt now table)
  | tableCommitted (ident : TableIdent) (commit : TableCommit) (now : Timestamp)
      (current : TableRecord) (valid : commit.Valid)
      (live : state.softDeletes.contains (tableKey ident) = false)
      (fresh : state.storedReplay ident commit.idempotencyKey = none)
      (committable : state.Committable ident commit now current) :
      Successor state (.commitTable ident commit now)
        (state.committed ident commit now current)
  | tableDeleted (ident : TableIdent) (table : TableRecord) (principal : Principal)
      (receipt : Option Json) (now : Timestamp) (registered : state.Registered ident table)
      (live : state.softDeletes.contains (tableKey ident) = false)
      (shape : ∀ document, receipt = some document → document.isObject = true) :
      Successor state (.softDeleteTable ident principal receipt now)
        (state.softDeleted ident table principal receipt now)
  | tableRestored (ident : TableIdent) (table : TableRecord) (principal : Principal)
      (receipt : Option Json) (now : Timestamp) (registered : state.Registered ident table)
      (deleted : ∃ record, state.softDeletes[tableKey ident]? = some record ∧
        record.ValidFor ident table) :
      Successor state (.restoreTable ident principal receipt now)
        (state.restored ident table principal receipt now)
  | administered (op : MemoryOp) (servers : BTreeMap ServerRecord)
      (projects : BTreeMap ProjectRecord) (warehouses : BTreeMap WarehouseRecord)
      (profiles : BTreeMap StorageProfile) (grants : BTreeMap GovernedScanGrant)
      (idle : state.registers op = false)
      (kept : ∀ (grantId : String) grant, state.governedScanGrants[grantId]? = some grant →
        grants[grantId]? = some grant) :
      Successor state op {
        state with
        servers := servers
        projects := projects
        warehouses := warehouses
        storageProfiles := profiles
        governedScanGrants := grants
      }
  | viewStored (view next : ViewRecord) (expected : Option UInt64)
      (latest : Option (UInt64 × String)) (now : Timestamp)
      (upsertable : state.Upsertable view expected latest next) :
      Successor state (.upsertView view expected now) {
        state with
        views := state.views.insert (viewKey view) next
        viewVersionReceipts := state.viewVersionReceipts ++
          [⟨viewKey view, state.upsertReceipt view next latest now⟩]
      }
  | viewDropped (warehouse : WarehouseName) (ns : Namespace) (view : TableName)
      (principal : Principal) (expected : Option UInt64) (now : Timestamp) (record : ViewRecord)
      (receipt : ViewVersionReceipt)
      (found : state.viewToDrop warehouse ns view expected = .ok record)
      (made : state.dropReceipt record warehouse ns view principal now = .ok receipt) :
      Successor state (.dropView warehouse ns view principal expected now) {
        state.withoutView warehouse ns view with
        viewVersionReceipts := state.viewVersionReceipts ++
          [⟨viewKeyParts warehouse ns view, receipt⟩]
      }
  | viewLost (warehouse : WarehouseName) (ns : Namespace) (view : TableName)
      (principal : Principal) (expected : Option UInt64) (now : Timestamp) (record : ViewRecord)
      (error : LakeCatError)
      (found : state.viewToDrop warehouse ns view expected = .ok record)
      (failed : state.dropReceipt record warehouse ns view principal now = .error error) :
      Successor state (.dropView warehouse ns view principal expected now)
        (state.withoutView warehouse ns view)
  | bindingStored (binding : PolicyBinding) (valid : binding.validate = .ok ()) :
      Successor state (.upsertPolicyBinding binding) {
        state with
        policyBindings := state.policyBindings.insert
          (policyBindingKey binding.warehouse binding.policyId) binding
      }
  | modelEntered (publication : ModelPublication) (expected : Option UInt64) (now : Timestamp)
      (publishable : state.Publishable publication)
      (mismatched : state.Mismatched publication expected) :
      Successor state (.publishModel publication expected now)
        (state.withPublications publication (state.publicationsOf publication))
  | modelPublished (publication : ModelPublication) (expected : Option UInt64) (now : Timestamp)
      (publishable : state.Publishable publication)
      (matching : ¬state.Mismatched publication expected) :
      Successor state (.publishModel publication expected now) (state.published publication now)
  | auditRecorded (event : CatalogAuditEvent) (recordable : event.validateRecordable = .ok ())
      (fresh : ∀ other ∈ state.outboxEvents, other.eventId ≠ (auditOutbox event).eventId) :
      Successor state (.recordAuditEvent event) {
        state with
        auditEvents := state.auditEvents ++ [event]
        outboxEvents := state.outboxEvents ++ [auditOutbox event]
      }
  | outboxDelivered (eventIds : List String) (now : Timestamp) :
      Successor state (.markOutboxDelivered eventIds now) (state.delivered eventIds now)

/-- Every call is one of these. -/
theorem step_successor (state : MemoryState) (op : MemoryOp) :
    Successor state op (state.step op) := by
  cases op with
  | createNamespace warehouse ns properties =>
      rcases atomic_cases state (state.createNamespaceWithProperties warehouse ns properties) with
        ⟨done, created⟩ | ⟨_, _, same⟩
      · obtain ⟨absent, next⟩ := (createNamespace_ok _ _ _ _ _ _).mp created
        rw [step, next]
        exact .namespaceCreated warehouse ns properties absent
      · rw [step, same]
        exact .unchanged _ rfl
  | updateNamespaceProperties warehouse ns update =>
      rcases atomic_cases state (state.updateNamespaceProperties warehouse ns update) with
        ⟨result, updated⟩ | ⟨_, _, same⟩
      · obtain ⟨present, properties, next⟩ := updateNamespaceProperties_ok _ _ _ _ _ _ updated
        rw [step, next]
        exact .namespaceUpdated warehouse ns update properties present
      · rw [step, same]
        exact .unchanged _ rfl
  | dropNamespace warehouse ns =>
      rcases atomic_cases state (state.dropNamespace warehouse ns) with
        ⟨dropped, accepted⟩ | ⟨_, _, same⟩
      · obtain ⟨droppable, _, next⟩ := (dropNamespace_ok _ _ _ _ _).mp accepted
        rw [step, next]
        exact .namespaceDropped warehouse ns droppable
      · rw [step, same]
        exact .unchanged _ rfl
  | createTable table =>
      rcases atomic_cases state (state.createTable table) with
        ⟨result, created⟩ | ⟨_, failed, same⟩
      · obtain ⟨valid, ns, vacant, _, next⟩ := (createTable_ok _ _ _ _).mp created
        rw [step, next]
        exact .tableCreated table valid ns vacant
      · rw [step, same]
        exact .unchanged _ (by rw [registers, failed]; rfl)
  | renameTable source destination principal receipt now =>
      rcases atomic_cases state (state.renameTable source destination principal receipt now) with
        ⟨result, accepted⟩ | ⟨_, failed, same⟩
      · obtain ⟨table, renamable, _, next⟩ := (renameTable_ok _ _ _ _ _ _ _ _).mp accepted
        rw [step, next]
        exact .tableRenamed source destination principal receipt now table renamable
      · rw [step, same]
        exact .unchanged _ (by rw [registers, failed]; rfl)
  | commitTable ident commit now =>
      rcases atomic_cases state (state.commitTable ident commit now) with
        ⟨result, accepted⟩ | ⟨_, _, same⟩
      · obtain ⟨valid, live, answer⟩ := (commitTable_ok _ _ _ _ _ _).mp accepted
        rw [step]
        generalize (atomic state (state.commitTable ident commit now)).2 = next at answer
        cases answer with
        | replayed => exact .unchanged _ rfl
        | advanced current fresh committable =>
            exact .tableCommitted ident commit now current valid live fresh committable
      · rw [step, same]
        exact .unchanged _ rfl
  | softDeleteTable ident principal receipt now =>
      rcases atomic_cases state (state.softDeleteTable ident principal receipt now) with
        ⟨table, accepted⟩ | ⟨_, _, same⟩
      · obtain ⟨registered, live, shape, next⟩ := (softDeleteTable_ok _ _ _ _ _ _ _).mp accepted
        rw [step, next]
        exact .tableDeleted ident table principal receipt now registered live shape
      · rw [step, same]
        exact .unchanged _ rfl
  | restoreTable ident principal receipt now =>
      rcases atomic_cases state (state.restoreTable ident principal receipt now) with
        ⟨table, accepted⟩ | ⟨_, _, same⟩
      · obtain ⟨registered, deleted, next⟩ := (restoreTable_ok _ _ _ _ _ _ _).mp accepted
        rw [step, next]
        exact .tableRestored ident table principal receipt now registered deleted
      · rw [step, same]
        exact .unchanged _ rfl
  | saveGovernedScanGrant grant =>
      rcases atomic_cases state (state.saveGovernedScanGrant grant) with
        ⟨_, saved⟩ | ⟨_, _, same⟩
      · obtain ⟨_, next, kept, -, -⟩ := saveGovernedScanGrant_ok _ _ _ _ saved
        rw [step, next]
        exact .administered _ _ _ _ _ _ rfl kept
      · rw [step, same]
        exact .unchanged _ rfl
  | upsertServer server =>
      rcases atomic_cases state (state.upsertServer server) with ⟨_, stored⟩ | ⟨_, _, same⟩
      · obtain ⟨_, next⟩ := upsertServer_ok _ _ _ _ stored
        rw [step, next]
        exact .administered _ _ _ _ _ _ rfl fun _ _ held => held
      · rw [step, same]
        exact .unchanged _ rfl
  | upsertProject project =>
      rcases atomic_cases state (state.upsertProject project) with ⟨_, stored⟩ | ⟨_, _, same⟩
      · obtain ⟨_, next⟩ := upsertProject_ok _ _ _ _ stored
        rw [step, next]
        exact .administered _ _ _ _ _ _ rfl fun _ _ held => held
      · rw [step, same]
        exact .unchanged _ rfl
  | upsertWarehouse warehouse =>
      rcases atomic_cases state (state.upsertWarehouse warehouse) with ⟨_, stored⟩ | ⟨_, _, same⟩
      · obtain ⟨_, next⟩ := upsertWarehouse_ok _ _ _ _ stored
        rw [step, next]
        exact .administered _ _ _ _ _ _ rfl fun _ _ held => held
      · rw [step, same]
        exact .unchanged _ rfl
  | upsertStorageProfile profile =>
      rcases atomic_cases state (state.upsertStorageProfile profile) with
        ⟨_, stored⟩ | ⟨_, _, same⟩
      · obtain ⟨_, next⟩ := upsertStorageProfile_ok _ _ _ _ stored
        rw [step, next]
        exact .administered _ _ _ _ _ _ rfl fun _ _ held => held
      · rw [step, same]
        exact .unchanged _ rfl
  | upsertView view expected now =>
      rcases atomic_cases state (state.upsertViewIfVersion view expected now) with
        ⟨next, stored⟩ | ⟨_, _, same⟩
      · obtain ⟨latest, upsertable, left⟩ := (upsertViewIfVersion_ok _ _ _ _ _ _).mp stored
        rw [step, left]
        exact .viewStored view next expected latest now upsertable
      · rw [step, same]
        exact .unchanged _ rfl
  | dropView warehouse ns view principal expected now =>
      rw [step]
      rcases dropViewIfVersion_cases state warehouse ns view principal expected now with
        ⟨_, _, same⟩ | ⟨record, found, ⟨error, failed, left⟩ | ⟨receipt, made, left⟩⟩
      · rw [same]
        exact .unchanged _ rfl
      · rw [left]
        exact .viewLost warehouse ns view principal expected now record error found failed
      · rw [left]
        exact .viewDropped warehouse ns view principal expected now record receipt found made
  | upsertPolicyBinding binding =>
      rcases atomic_cases state (state.upsertPolicyBinding binding) with
        ⟨result, stored⟩ | ⟨_, _, same⟩
      · obtain ⟨valid, _, _, next⟩ := (upsertPolicyBinding_ok _ _ _ _).mp stored
        rw [step, next]
        exact .bindingStored binding valid
      · rw [step, same]
        exact .unchanged _ rfl
  | publishModel publication expected now =>
      rw [step]
      rcases publishModel_cases state publication expected now with
        ⟨_, _, same⟩ | ⟨publishable, mismatched, _, left⟩ | ⟨publishable, matching, left⟩
      · rw [same]
        exact .unchanged _ rfl
      · rw [left]
        exact .modelEntered publication expected now publishable mismatched
      · rw [left]
        exact .modelPublished publication expected now publishable matching
  | recordAuditEvent event =>
      rcases atomic_cases state (state.recordAuditEvent event) with ⟨_, recorded⟩ | ⟨_, _, same⟩
      · obtain ⟨recordable, fresh, next⟩ := (recordAuditEvent_ok _ _ _ _).mp recorded
        rw [step, next]
        exact .auditRecorded event recordable fresh
      · rw [step, same]
        exact .unchanged _ rfl
  | markOutboxDelivered eventIds now =>
      rcases atomic_cases state (state.markOutboxDelivered eventIds now) with
        ⟨count, marked⟩ | ⟨_, _, same⟩
      · rcases markOutboxDelivered_ok _ _ _ _ _ marked with same | next
        · rw [step, same]
          exact .unchanged _ rfl
        · rw [step, next]
          exact .outboxDelivered eventIds now
      · rw [step, same]
        exact .unchanged _ rfl

end MemoryState

end LakeCat
