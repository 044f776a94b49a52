import LakeCat.EventIds
import LakeCat.GraphEventIds
import LakeCat.GraphSubjects
import LakeCat.ReadEvents
import LakeCat.ScanEvents

/-!
The object that a handler acts on, and the objects that the graph events of its
record are about.
-/

namespace LakeCat

open Fallible

/-- The object of the request, which its main graph event is about. -/
def ReadRequest.object : ReadRequest → Option GraphObject
  | getConfig warehouse _ | listNamespaces warehouse _ => some (.warehouse warehouse)
  | loadNamespace warehouse ns | listViews warehouse ns _ | catalogListViews warehouse ns _ =>
      some (.ns warehouse ns)
  | catalogLoadView warehouse ns view => some (.view warehouse ns view.value)
  | loadTable ident _ | listTableCommits ident _ => some (.table ident)
  | listed .. => none

def ChangeRequest.object : ChangeRequest → GraphObject
  | createNamespace warehouse ns _ | updateNamespaceProperties warehouse ns _
  | dropNamespace warehouse ns => .ns warehouse ns
  | createTable table | registerTable table => .table table.ident
  | upsertView view _ | catalogUpsertView view _ => .view view.warehouse view.ns view.name.value
  | dropView warehouse ns view _ | catalogDropView warehouse ns view _ =>
      .view warehouse ns view.value
  | upsertPolicyBinding binding => .policy binding.warehouse binding.policyId
  | upsertStorageProfile profile => .storageProfile profile.warehouse profile.profileId
  | upsertProject project => .project project.projectId
  | upsertServer server => .server server.serverId
  | upsertWarehouse warehouse | upsertProjectWarehouse warehouse =>
      .warehouse warehouse.warehouse

section
variable [External]

/-- The outbox events of the handlers, each with the one who asks and the object. -/
inductive Recorded : Principal → Option GraphObject → OutboxEvent → Prop where
  | read {request : ReadRequest} {store : MemoryState} {receipt : AuthorizationReceipt}
      {recorded : Timestamp} {audit : CatalogAuditEvent}
      (made : request.event store receipt recorded = .ok audit) :
      Recorded receipt.principal request.object (MemoryState.auditOutbox audit)
  | change {request : ChangeRequest} {store : MemoryState} {receipt : AuthorizationReceipt}
      {now recorded : Timestamp} {audit : CatalogAuditEvent}
      (made : request.event store receipt now recorded = .ok audit) :
      Recorded receipt.principal (some request.object) (MemoryState.auditOutbox audit)
  | scanPlanned (table : TableRecord) (capability : TableScanCapability) (scan : ScanPlan)
      (extensions : Json) (proof : Option GovernedScanProof) (now : Timestamp) :
      Recorded capability.receipt.principal (some (.table capability.table))
        (MemoryState.auditOutbox (scanPlannedEvent table capability scan extensions proof now))
  | scanTasksFetched (table : TableRecord) (capability : TableScanCapability)
      (fetched : FetchScanTasksPlan) (extensions : Json) (now : Timestamp) :
      Recorded capability.receipt.principal (some (.table capability.table))
        (MemoryState.auditOutbox (scanTasksFetchedEvent table capability fetched extensions now))
  | credentials (capability : CredentialsVendCapability) (table : TableRecord)
      (storageProfile : StorageProfile) (storageCredentials : List StorageCredential)
      (now : Timestamp) :
      Recorded capability.receipt.principal
        (some (.storageProfile storageProfile.warehouse storageProfile.profileId))
        (MemoryState.auditOutbox
          (vendAuditEvent capability table storageProfile storageCredentials now))
  | published (publication : ModelPublication) (now : Timestamp) :
      Recorded publication.publisher (some (.model publication.warehouse publication.modelId))
        (MemoryState.auditOutbox (MemoryState.publishAudit publication now))
  | renamed (source : TableIdent) (table : TableRecord) (receipt : AuthorizationReceipt)
      (now : Timestamp) :
      Recorded receipt.principal (some (.table table.ident)) (MemoryState.auditOutbox
        (renameAuditEvent source table receipt.principal (some receipt.toJson) now))
  | committed (ident : TableIdent) (record : TableCommitRecord) (receipt : AuthorizationReceipt) :
      Recorded receipt.principal (some (.table ident)) (outboxEvent "table.commit"
        (MemoryState.commitOutboxPayload ident record (some receipt.toJson)) record.committedAt)
  | deleted (ident : TableIdent) (table : TableRecord) (receipt : AuthorizationReceipt)
      (now : Timestamp) :
      Recorded receipt.principal (some (.table ident)) (outboxEvent "table.deleted"
        (MemoryState.softDeleteOutboxPayload ident (MemoryState.softDeleteRecord ident table
          receipt.principal (some receipt.toJson) now)) now)
  | restored (ident : TableIdent) (table : TableRecord) (receipt : AuthorizationReceipt)
      (now : Timestamp) :
      Recorded receipt.principal (some (.table ident)) (outboxEvent "table.restored"
        (MemoryState.restoreOutboxPayload ident table (some receipt.toJson)) now)

/-- What a graph event of a record may be about: the one who asks, the object, or a part of the
table that the record shows. -/
inductive ActedOn (event : OutboxEvent) (principal : Principal) :
    Option GraphObject → GraphObject → Prop where
  | principal (object : Option GraphObject) : ActedOn event principal object (.principal principal)
  | main (object : GraphObject) : ActedOn event principal (some object) object
  | column (ident : TableIdent) {columnId : String}
      (shown : columnId ∈ metadataColumnIds event.inner) :
      ActedOn event principal (some (.table ident)) (.column ident columnId)
  | snapshot (ident : TableIdent) {snapshotId : String}
      (shown : metadataSnapshotId event.inner = some snapshotId) :
      ActedOn event principal (some (.table ident)) (.snapshot ident snapshotId)
  | commit (ident : TableIdent) {sequenceNumber : Nat}
      (shown : event.outboxCommitSequenceNumber = .ok sequenceNumber) :
      ActedOn event principal (some (.table ident)) (.commit ident sequenceNumber)
  | listed (ident : TableIdent) {entries : List (Nat × String)} {entry : Nat × String}
      (shown : event.outboxCommitHistoryEntries = .ok entries) (member : entry ∈ entries) :
      ActedOn event principal (some (.table ident)) (.commit ident entry.1)
  | scanPlan (ident : TableIdent) :
      ActedOn event principal (some (.table ident)) (.scanPlan event.eventId)

/-- What a document says of who asked and of the object, as it is read for the graph. -/
structure Presents (event : OutboxEvent) (principal : Principal) (object : Option GraphObject) :
    Prop where
  principal : ∀ found, event.outboxPrincipal = .ok found →
    found = principal ∨ found.kind = .anonymous
  table : event.eventType ≠ "credentials.vend-attempted" →
    ∀ ident, event.outboxTable = .ok (some ident) → object = some (.table ident)
  credentials : event.eventType = "credentials.vend-attempted" →
    ∀ defaultWarehouse owner profileId,
      event.outboxOptionalStorageProfile defaultWarehouse = .ok (some (owner, profileId)) →
      object = some (.storageProfile owner profileId)
  named : ∀ defaultWarehouse other, event.Names defaultWarehouse other →
    outboxWholeLabel event.eventType = some other.label → object = some other

theorem Presents.actedOn {event : OutboxEvent} {principal : Principal}
    {object : Option GraphObject} (presents : Presents event principal object)
    {defaultWarehouse : WarehouseName} {tags : List GraphTag}
    (shown : event.ProjectedTags defaultWarehouse tags) :
    ∀ tag ∈ tags, ActedOn event principal object tag.2 := by
  have table {ident : TableIdent} (other : event.eventType ≠ "credentials.vend-attempted")
      (found : event.outboxTable = .ok (some ident)) : object = some (.table ident) :=
    presents.table other ident found
  cases shown with
  | unread _ => exact nofun
  | @read _ asked tags _ named main =>
      intro tag member
      rcases List.mem_append.mp member with who | what
      · rw [principalTags] at who
        split at who
        · cases who
        next known =>
          rw [List.mem_singleton.mp who]
          rcases presents.principal asked named with rfl | anonymous
          · exact .principal object
          · exact absurd anonymous known
      · cases main with
        | silent _ => cases what
        | whole _ labelled named =>
            rw [List.mem_singleton.mp what, presents.named _ _ named labelled]
            exact .main _
        | profile typed read =>
            rw [List.mem_singleton.mp what, presents.credentials typed _ _ _ read]
            exact .main _
        | history typed found read =>
            obtain ⟨entry, among, rfl⟩ := List.mem_map.mp what
            rw [table (by rw [typed]; decide) found]
            exact .listed _ read among
        | @table ident typed found =>
            have other : event.eventType ≠ "credentials.vend-attempted" := by
              intro same
              rw [same] at typed
              exact typed rfl
            rw [table other found]
            rcases List.mem_append.mp what with early | committed
            · rcases List.mem_append.mp early with shown | scan
              · rcases List.mem_cons.mp shown with rfl | shown
                · exact .main _
                · rcases List.mem_append.mp shown with column | snapshot
                  · obtain ⟨columnId, among, rfl⟩ := List.mem_map.mp column
                    exact .column _ among
                  · obtain ⟨snapshotId, current, rfl⟩ := List.mem_map.mp snapshot
                    exact .snapshot _ (Option.mem_toList.mp current)
              · rw [OutboxEvent.scanTags] at scan
                split at scan
                · rw [List.mem_singleton.mp scan]
                  exact .scanPlan _
                · cases scan
            · rw [OutboxEvent.commitTags] at committed
              split at committed
              · split at committed
                next read =>
                  rw [List.mem_singleton.mp committed]
                  exact .commit _ read
                next => cases committed
              · cases committed

/-! How the documents are read. -/

theorem AuthorizationReceipt.toJson_principal (receipt : AuthorizationReceipt) :
    receipt.toJson.get "principal" = some receipt.principal.toJson := by
  rw [AuthorizationReceipt.toJson, Json.get_object]
  rfl

theorem outboxTable_named {event : OutboxEvent} {ident : TableIdent}
    (shown : event.payload.get "table" = some ident.toJson) :
    event.outboxTable = .ok (some ident) := by
  have present : (some ident.toJson).filter (fun table => !table.isNull) =
      some ident.toJson := rfl
  have read : OutboxEvent.tableFromValue ident.toJson = some ident :=
    tableIdentFromJson_toJson ident
  rw [OutboxEvent.outboxTable, shown, present]
  dsimp only
  rw [read]
  rfl

section Audit

variable {audit : CatalogAuditEvent}

theorem auditOutbox_payload (audit : CatalogAuditEvent) :
    (MemoryState.auditOutbox audit).payload.get "payload" = some audit.payload := by
  rw [MemoryState.auditOutbox, outboxEvent, auditOutboxPayload]
  cases audit.table <;> (rw [Json.get_object]; rfl)

theorem auditOutbox_inner (audit : CatalogAuditEvent) :
    (MemoryState.auditOutbox audit).inner = audit.payload := by
  rw [OutboxEvent.inner, auditOutbox_payload]
  rfl

theorem auditOutbox_table (audit : CatalogAuditEvent) :
    (MemoryState.auditOutbox audit).outboxTable = .ok audit.table := by
  have found : (MemoryState.auditOutbox audit).payload.get "table" =
      audit.table.map TableIdent.toJson := by
    rw [MemoryState.auditOutbox, outboxEvent, auditOutboxPayload]
    cases audit.table <;> (rw [Json.get_object]; rfl)
  cases named : audit.table with
  | none =>
      rw [OutboxEvent.outboxTable, found, named]
      rfl
  | some ident => exact outboxTable_named (by rw [found, named]; rfl)

theorem auditOutbox_carried {key : String} {value : Json}
    (shown : audit.payload.get key = some value) :
    (MemoryState.auditOutbox audit).carried key = some value := by
  rw [OutboxEvent.carried, auditOutbox_payload, Option.bind_some, shown]
  rfl

theorem auditOutbox_principal {receipt : AuthorizationReceipt}
    (carried : audit.payload.get "authorization-receipt" = some receipt.toJson) :
    (MemoryState.auditOutbox audit).outboxPrincipal = .ok receipt.principal := by
  have nested : (MemoryState.auditOutbox audit).payload.getPath
      ["payload", "authorization-receipt", "principal"] = some receipt.principal.toJson := by
    simp only [Json.getPath, List.foldlM_cons, List.foldlM_nil, auditOutbox_payload,
      Option.bind_eq_bind, Option.bind_some, carried, receipt.toJson_principal, Option.pure_def]
  rw [OutboxEvent.outboxPrincipal, nested]
  dsimp only [Option.or]
  rw [Principal.fromJson_toJson]
  rfl

end Audit

/-- An event about a table whose document names it and carries the receipt. -/
theorem presents_table {event : OutboxEvent} {ident : TableIdent} {principal : Principal}
    (named : event.outboxPrincipal = .ok principal)
    (found : event.outboxTable = .ok (some ident))
    (other : event.eventType ≠ "credentials.vend-attempted")
    (labelled : outboxWholeLabel event.eventType = none ∨
      outboxWholeLabel event.eventType = some .table) :
    Presents event principal (some (.table ident)) where
  principal asked read := .inl (Except.ok.inj (read.symm.trans named))
  table _ another read := by
    rw [Option.some.inj (Except.ok.inj (read.symm.trans found))]
  credentials typed := absurd typed other
  named _ another names label := by
    rcases labelled with none | table
    · rw [none] at label
      cases label
    · rw [table] at label
      cases names with
      | table read => rw [Option.some.inj (Except.ok.inj (read.symm.trans found))]
      | _ => cases label

/-- An event about no table that carries the receipt. -/
theorem presents_untabled {audit : CatalogAuditEvent} {receipt : AuthorizationReceipt}
    {object : Option GraphObject}
    (carried : audit.payload.get "authorization-receipt" = some receipt.toJson)
    (untabled : audit.table = none) (other : audit.eventType ≠ "credentials.vend-attempted")
    (named : ∀ defaultWarehouse another,
      (MemoryState.auditOutbox audit).Names defaultWarehouse another →
      outboxWholeLabel audit.eventType = some another.label → object = some another) :
    Presents (MemoryState.auditOutbox audit) receipt.principal object where
  principal asked read :=
    .inl (Except.ok.inj (read.symm.trans (auditOutbox_principal carried)))
  table _ ident read := by
    rw [auditOutbox_table, untabled] at read
    cases read
  credentials typed := absurd typed other
  named := named

section Reading

variable {event : OutboxEvent} {defaultWarehouse : WarehouseName} {other : GraphObject}

omit [External] in
theorem warehouseNamed_text {value : String} {owner : WarehouseName}
    (read : OutboxEvent.warehouseNamed (some (.str value)) defaultWarehouse = .ok owner) :
    owner = ⟨value⟩ := by
  have made : WarehouseName.new value = .ok owner := read
  simp only [WarehouseName.new, bind_eq_ok, exists_unit, pure_eq, Except.ok.injEq] at made
  exact made.2.symm

omit [External] in
theorem requiredText_text {value found : String} {error : LakeCatError}
    (read : OutboxEvent.requiredText (some (.str value)) error = .ok found) : found = value := by
  rw [OutboxEvent.requiredText, okOr_ok, Option.filter_eq_some_iff] at read
  exact (Option.some.inj read.1).symm

theorem namespaceFromValue_parts {components shape : String} {ns found : Namespace}
    (read : event.namespaceFromValue components shape ns.toJson = .ok found) : found = ns := by
  have collected (texts : List String) (error : LakeCatError) :
      collect (fun part => okOr (Json.asStr part) error) (texts.map Json.str) = .ok texts := by
    induction texts with
    | nil => rfl
    | cons text rest ih =>
        rw [List.map_cons, collect, ih]
        rfl
  rw [Namespace.toJson, OutboxEvent.namespaceFromValue, collected, ok_bind] at read
  simp only [Namespace.new, bind_eq_ok, exists_unit, pure_eq, Except.ok.injEq] at read
  obtain ⟨_, _, rfl⟩ := read
  rfl

theorem names_warehouse {owner : WarehouseName}
    (owned : event.carried "warehouse" = some (.str owner.value))
    (named : event.Names defaultWarehouse other) (label : other.label = .warehouse) :
    other = .warehouse owner := by
  cases named with
  | warehouse read =>
      rw [OutboxEvent.outboxWarehouse, owned] at read
      rw [warehouseNamed_text read]
  | _ => cases label

theorem names_ns {owner : WarehouseName} {ns : Namespace}
    (owned : event.carried "warehouse" = some (.str owner.value))
    (within : event.carried "namespace" = some ns.toJson)
    (named : event.Names defaultWarehouse other) (label : other.label = .namespace) :
    other = .ns owner ns := by
  cases named with
  | ns read =>
      simp only [OutboxEvent.outboxNamespace, OutboxEvent.outboxWarehouse, owned, within,
        okOr_some, ok_bind, bind_eq_ok, pure_eq, Except.ok.injEq, Prod.mk.injEq] at read
      obtain ⟨_, warehouse, _, path, rfl, rfl⟩ := read
      rw [warehouseNamed_text warehouse, namespaceFromValue_parts path]
  | _ => cases label

theorem names_view {owner : WarehouseName} {ns : Namespace} {name : String} {view : Json}
    (shown : event.inner.get "view" = some view)
    (owned : view.get "warehouse" = some (.str owner.value))
    (within : view.get "namespace" = some ns.toJson) (called : view.get "name" = some (.str name))
    (named : event.Names defaultWarehouse other) (label : other.label = .view) :
    other = .view owner ns name := by
  cases named with
  | view read =>
      simp only [OutboxEvent.outboxView, shown, owned, within, called, Option.some_or, okOr_some,
        ok_bind, bind_eq_ok, pure_eq, Except.ok.injEq, Prod.mk.injEq] at read
      obtain ⟨_, warehouse, _, path, _, text, rfl, rfl, rfl⟩ := read
      rw [warehouseNamed_text warehouse, namespaceFromValue_parts path, requiredText_text text]
  | _ => cases label

theorem names_policy {owner : WarehouseName} {policyId : String} {policy : Json}
    (shown : event.inner.get "policy" = some policy)
    (owned : policy.get "warehouse" = some (.str owner.value))
    (called : policy.get "policy-id" = some (.str policyId))
    (named : event.Names defaultWarehouse other) (label : other.label = .policy) :
    other = .policy owner policyId := by
  cases named with
  | policy read =>
      simp only [OutboxEvent.outboxPolicyBinding, shown, owned, called, Option.some_or, okOr_some,
        ok_bind, bind_eq_ok, pure_eq, Except.ok.injEq, Prod.mk.injEq] at read
      obtain ⟨_, warehouse, _, text, rfl, rfl⟩ := read
      rw [warehouseNamed_text warehouse, requiredText_text text]
  | _ => cases label

theorem names_storageProfile {owner : WarehouseName} {profileId : String} {profile : Json}
    (shown : event.inner.get "storage-profile" = some profile)
    (owned : profile.get "warehouse" = some (.str owner.value))
    (called : profile.get "profile-id" = some (.str profileId))
    (named : event.Names defaultWarehouse other) (label : other.label = .storageProfile) :
    other = .storageProfile owner profileId := by
  cases named with
  | storageProfile read =>
      simp only [OutboxEvent.outboxStorageProfile, shown, owned, called, Option.some_or,
        okOr_some, ok_bind, bind_eq_ok, pure_eq, Except.ok.injEq, Prod.mk.injEq] at read
      obtain ⟨_, warehouse, _, text, rfl, rfl⟩ := read
      rw [warehouseNamed_text warehouse, requiredText_text text]
  | _ => cases label

theorem names_project {projectId : String}
    (called : event.inner.get "project-id" = some (.str projectId))
    (named : event.Names defaultWarehouse other) (label : other.label = .project) :
    other = .project projectId := by
  cases named with
  | project read =>
      rw [OutboxEvent.outboxProject, OutboxEvent.recordId] at read
      simp only [called, Option.some_or] at read
      rw [requiredText_text read]
  | _ => cases label

theorem names_server {serverId : String}
    (called : event.inner.get "server-id" = some (.str serverId))
    (named : event.Names defaultWarehouse other) (label : other.label = .server) :
    other = .server serverId := by
  cases named with
  | server read =>
      rw [OutboxEvent.outboxServer, OutboxEvent.recordId] at read
      simp only [called, Option.some_or] at read
      rw [requiredText_text read]
  | _ => cases label

theorem names_model {owner : WarehouseName} {modelId : String}
    (owned : event.carried "warehouse" = some (.str owner.value))
    (called : event.inner.get "model-id" = some (.str modelId))
    (named : event.Names defaultWarehouse other) (label : other.label = .queryGraphModel) :
    other = .model owner modelId := by
  cases named with
  | model warehouse read =>
      rw [OutboxEvent.outboxWarehouse, owned] at warehouse
      rw [OutboxEvent.outboxModel, called, okOr_ok, Option.filter_eq_some_iff] at read
      rw [warehouseNamed_text warehouse]
      exact congrArg _ (Option.some.inj read.1).symm
  | _ => cases label

end Reading

end

end LakeCat
