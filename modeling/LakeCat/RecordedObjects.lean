import LakeCat.HandlerObjects

/-!
Every handler names the object that it acted on: the document it records is read
as that object, and as no other.
-/

namespace LakeCat

open Fallible

section
variable [External]

/-! The documents of audit events, by the kind of object. -/

section Kinds

variable {audit : CatalogAuditEvent} {receipt : AuthorizationReceipt}

theorem presents_tabled {ident : TableIdent}
    (carried : audit.payload.get "authorization-receipt" = some receipt.toJson)
    (tabled : audit.table = some ident) (other : audit.eventType ≠ "credentials.vend-attempted")
    (labelled : outboxWholeLabel audit.eventType = none) :
    Presents (MemoryState.auditOutbox audit) receipt.principal (some (.table ident)) := by
  have found : (MemoryState.auditOutbox audit).outboxTable = .ok (some ident) := by
    rw [auditOutbox_table, tabled]
  exact presents_table (auditOutbox_principal carried) found other (.inl labelled)

theorem presents_labelled {object : GraphObject}
    (carried : audit.payload.get "authorization-receipt" = some receipt.toJson)
    (untabled : audit.table = none)
    (labelled : outboxWholeLabel audit.eventType = some object.label)
    (named : ∀ defaultWarehouse another,
      (MemoryState.auditOutbox audit).Names defaultWarehouse another →
      another.label = object.label → another = object) :
    Presents (MemoryState.auditOutbox audit) receipt.principal (some object) := by
  refine presents_untabled carried untabled ?_ ?_
  · intro typed
    rw [typed] at labelled
    cases labelled
  · intro defaultWarehouse another names label
    rw [labelled] at label
    rw [named defaultWarehouse another names (Option.some.inj label).symm]

theorem presents_warehouse {owner : WarehouseName}
    (carried : audit.payload.get "authorization-receipt" = some receipt.toJson)
    (untabled : audit.table = none) (labelled : outboxWholeLabel audit.eventType = some .warehouse)
    (owned : audit.payload.get "warehouse" = some (.str owner.value)) :
    Presents (MemoryState.auditOutbox audit) receipt.principal (some (.warehouse owner)) :=
  presents_labelled carried untabled labelled fun _ _ names label =>
    names_warehouse (auditOutbox_carried owned) names label

theorem presents_ns {owner : WarehouseName} {ns : Namespace}
    (carried : audit.payload.get "authorization-receipt" = some receipt.toJson)
    (untabled : audit.table = none) (labelled : outboxWholeLabel audit.eventType = some .namespace)
    (owned : audit.payload.get "warehouse" = some (.str owner.value))
    (within : audit.payload.get "namespace" = some ns.toJson) :
    Presents (MemoryState.auditOutbox audit) receipt.principal (some (.ns owner ns)) :=
  presents_labelled carried untabled labelled fun _ _ names label =>
    names_ns (auditOutbox_carried owned) (auditOutbox_carried within) names label

theorem presents_view {view : ViewRecord}
    (carried : audit.payload.get "authorization-receipt" = some receipt.toJson)
    (untabled : audit.table = none) (labelled : outboxWholeLabel audit.eventType = some .view)
    (shown : audit.payload.get "view" = some (viewResponse view)) :
    Presents (MemoryState.auditOutbox audit) receipt.principal
      (some (.view view.warehouse view.ns view.name.value)) := by
  have found : (MemoryState.auditOutbox audit).inner.get "view" = some (viewResponse view) := by
    rw [auditOutbox_inner, shown]
  refine presents_labelled carried untabled labelled fun _ _ names label =>
    names_view found ?_ ?_ ?_ names label
  all_goals
    rw [viewResponse, Json.get_object]
    rfl

theorem presents_policy {binding : PolicyBinding}
    (carried : audit.payload.get "authorization-receipt" = some receipt.toJson)
    (untabled : audit.table = none) (labelled : outboxWholeLabel audit.eventType = some .policy)
    (shown : audit.payload.get "policy" = some (policyEventPayload binding)) :
    Presents (MemoryState.auditOutbox audit) receipt.principal
      (some (.policy binding.warehouse binding.policyId)) := by
  have found : (MemoryState.auditOutbox audit).inner.get "policy" =
      some (policyEventPayload binding) := by
    rw [auditOutbox_inner, shown]
  refine presents_labelled carried untabled labelled fun _ _ names label =>
    names_policy found ?_ ?_ names label
  all_goals
    rw [policyEventPayload, Json.get_object]
    rfl

theorem presents_storageProfile {profile : StorageProfile}
    (carried : audit.payload.get "authorization-receipt" = some receipt.toJson)
    (untabled : audit.table = none)
    (labelled : outboxWholeLabel audit.eventType = some .storageProfile)
    (shown : audit.payload.get "storage-profile" = some (storageProfileEventPayload profile)) :
    Presents (MemoryState.auditOutbox audit) receipt.principal
      (some (.storageProfile profile.warehouse profile.profileId)) := by
  have found : (MemoryState.auditOutbox audit).inner.get "storage-profile" =
      some (storageProfileEventPayload profile) := by
    rw [auditOutbox_inner, shown]
  refine presents_labelled carried untabled labelled fun _ _ names label =>
    names_storageProfile found ?_ ?_ names label
  all_goals
    rw [storageProfileEventPayload, Json.get_object]
    cases profile.secretRef with
    | none => rfl
    | some secretRef => cases label : secretRefProviderLabel secretRef <;> simp [label] <;> rfl

theorem presents_project {projectId : String}
    (carried : audit.payload.get "authorization-receipt" = some receipt.toJson)
    (untabled : audit.table = none) (labelled : outboxWholeLabel audit.eventType = some .project)
    (called : audit.payload.get "project-id" = some (.str projectId)) :
    Presents (MemoryState.auditOutbox audit) receipt.principal (some (.project projectId)) :=
  presents_labelled carried untabled labelled fun _ _ names label =>
    names_project (by rw [auditOutbox_inner, called]) names label

theorem presents_server {serverId : String}
    (carried : audit.payload.get "authorization-receipt" = some receipt.toJson)
    (untabled : audit.table = none) (labelled : outboxWholeLabel audit.eventType = some .server)
    (called : audit.payload.get "server-id" = some (.str serverId)) :
    Presents (MemoryState.auditOutbox audit) receipt.principal (some (.server serverId)) :=
  presents_labelled carried untabled labelled fun _ _ names label =>
    names_server (by rw [auditOutbox_inner, called]) names label

end Kinds

/-! The handlers that read. -/

/-- The audit event of a handler. -/
abbrev describedEvent (receipt : AuthorizationReceipt) (recorded : Timestamp)
    (described : String × Option TableIdent × Json) : CatalogAuditEvent :=
  .new described.1 described.2.1 receipt.principal described.2.2 recorded

theorem read_presents {request : ReadRequest} {store : MemoryState}
    {receipt : AuthorizationReceipt} {described : String × Option TableIdent × Json}
    (made : request.describe store receipt = .ok described) (recorded : Timestamp) :
    Presents (MemoryState.auditOutbox (describedEvent receipt recorded described))
      receipt.principal request.object := by
  cases request with
  | getConfig warehouse config =>
      obtain rfl := Except.ok.inj made
      refine presents_warehouse ?_ rfl rfl ?_
      all_goals
        dsimp only [describedEvent, CatalogAuditEvent.new]
        rw [configReadPayload, Json.get_object]
        rfl
  | listNamespaces warehouse namespaces =>
      obtain rfl := Except.ok.inj made
      refine presents_warehouse ?_ rfl rfl ?_
      all_goals
        dsimp only [describedEvent, CatalogAuditEvent.new, namespaceListedEvent]
        rw [Json.get_object]
        rfl
  | loadNamespace warehouse ns =>
      simp only [ReadRequest.describe, MemoryState.loadNamespace, bind_eq_ok, exists_unit,
        pure_eq, Except.ok.injEq] at made
      obtain ⟨_, ⟨_, rfl⟩, rfl⟩ := made
      refine presents_ns ?_ rfl rfl ?_ ?_
      all_goals
        dsimp only [describedEvent, CatalogAuditEvent.new]
        rw [namespaceEventPayload, Json.get_object]
        rfl
  | listViews warehouse ns views | catalogListViews warehouse ns views =>
      obtain rfl := Except.ok.inj made
      refine presents_ns ?_ rfl rfl ?_ ?_
      all_goals
        dsimp only [describedEvent, CatalogAuditEvent.new]
        rw [viewListedPayload, Json.get_object]
        rfl
  | catalogLoadView warehouse ns view =>
      simp only [ReadRequest.describe, MemoryState.loadView, validateViewRecordScope,
        validateScope, bind_eq_ok, exists_unit, okOr_ok, rejectIf_ok, not_or, ne_eq, not_not,
        pure_eq, Except.ok.injEq] at made
      obtain ⟨record, ⟨_, _, _, ⟨_, rfl, rfl, rfl⟩, rfl⟩, rfl⟩ := made
      refine presents_view ?_ rfl rfl ?_
      all_goals
        dsimp only [describedEvent, CatalogAuditEvent.new]
        rw [viewLoadedPayload, Json.get_object]
        rfl
  | loadTable ident table =>
      obtain rfl := Except.ok.inj made
      refine presents_tabled ?_ rfl (by simp [describedEvent, CatalogAuditEvent.new]) rfl
      dsimp only [describedEvent, CatalogAuditEvent.new]
      rw [tableLoadedPayload, Json.get_object]
      rfl
  | listTableCommits ident commits =>
      obtain rfl := Except.ok.inj made
      refine presents_tabled ?_ rfl (by simp [describedEvent, CatalogAuditEvent.new]) rfl
      dsimp only [describedEvent, CatalogAuditEvent.new]
      rw [tableCommitsListedPayload, Json.get_object]
      rfl
  | listed eventType lineageOnly fields =>
      obtain rfl := Except.ok.inj made
      have silent : outboxWholeLabel eventType = none ∧ eventType ≠ "credentials.vend-attempted" := by
        simp only [lineageOnlyEventTypes, List.mem_cons, List.not_mem_nil, or_false] at lineageOnly
        rcases lineageOnly with rfl | rfl | rfl | rfl | rfl | rfl | rfl | rfl | rfl <;>
          exact ⟨rfl, by decide⟩
      refine presents_untabled ?_ rfl silent.2 ?_
      · dsimp only [describedEvent, CatalogAuditEvent.new]
        rw [Json.get_object, List.reverse_append]
        rfl
      · intro _ another _ label
        dsimp only [describedEvent, CatalogAuditEvent.new] at label
        rw [silent.1] at label
        cases label

/-! The handlers that change the catalog. -/

theorem redactRecordField_get {payload : Json} {record key : String} (field hashField : String)
    (shape : payload.isObject = true) (other : key ≠ record) :
    (redactRecordField payload record field hashField).get key = payload.get key := by
  rw [redactRecordField]
  split
  · rfl
  · dsimp only
    split <;> rw [Json.get_set _ _ _ _ shape, if_neg other]

theorem namespaceEvent_presents {eventType : String} (receipt : AuthorizationReceipt)
    (warehouse : WarehouseName) (ns : Namespace)
    (labelled : outboxWholeLabel eventType = some .namespace) (recorded : Timestamp) :
    Presents (MemoryState.auditOutbox (describedEvent receipt recorded
      (eventType, none, namespaceEventPayload eventType receipt warehouse ns)))
      receipt.principal (some (.ns warehouse ns)) := by
  refine presents_ns ?_ rfl labelled ?_ ?_
  all_goals
    dsimp only [describedEvent, CatalogAuditEvent.new]
    rw [namespaceEventPayload, Json.get_object]
    rfl

theorem tableEvent_presents {eventType : String} (receipt : AuthorizationReceipt)
    (table : TableRecord) (other : eventType ≠ "credentials.vend-attempted")
    (labelled : outboxWholeLabel eventType = none) (recorded : Timestamp) :
    Presents (MemoryState.auditOutbox (describedEvent receipt recorded
      (eventType, some table.ident, tableEventPayload eventType receipt table)))
      receipt.principal (some (.table table.ident)) := by
  refine presents_tabled ?_ rfl other labelled
  dsimp only [describedEvent, CatalogAuditEvent.new]
  rw [tableEventPayload, Json.get_object]
  rfl

theorem viewEvent_presents {eventType : String} (interface : Option String)
    (receipt : AuthorizationReceipt) (warehouse : WarehouseName) (ns : Namespace)
    (view : ViewRecord) (expected : Option UInt64)
    (labelled : outboxWholeLabel eventType = some .view) (recorded : Timestamp) :
    Presents (MemoryState.auditOutbox (describedEvent receipt recorded
      (eventType, none, viewEventPayload eventType interface receipt warehouse ns view expected)))
      receipt.principal (some (.view view.warehouse view.ns view.name.value)) := by
  refine presents_view ?_ rfl labelled ?_
  all_goals
    dsimp only [describedEvent, CatalogAuditEvent.new]
    rw [viewEventPayload, Json.get_object]
    cases interface <;> rfl

theorem warehouseEvent_presents (projectId : Option String) (receipt : AuthorizationReceipt)
    (warehouse : WarehouseRecord) (recorded : Timestamp) :
    Presents (MemoryState.auditOutbox (describedEvent receipt recorded
      ("warehouse.upserted", none, warehouseEventPayload projectId receipt warehouse)))
      receipt.principal (some (.warehouse warehouse.warehouse)) := by
  refine presents_warehouse ?_ rfl rfl ?_
  all_goals
    dsimp only [describedEvent, CatalogAuditEvent.new]
    rw [warehouseEventPayload, redactWarehouseEventPayload,
      redactRecordField_get _ _ rfl (by decide), Json.get_object]
    cases projectId <;> rfl

theorem change_presents {request : ChangeRequest} {store : MemoryState}
    {receipt : AuthorizationReceipt} {now : Timestamp}
    {described : String × Option TableIdent × Json}
    (made : request.describe store receipt now = .ok described) (recorded : Timestamp) :
    Presents (MemoryState.auditOutbox (describedEvent receipt recorded described))
      receipt.principal (some request.object) := by
  cases request with
  | createNamespace warehouse ns _ | updateNamespaceProperties warehouse ns _ =>
      simp only [ChangeRequest.describe, bind_eq_ok, pure_eq, Except.ok.injEq] at made
      obtain ⟨_, _, rfl⟩ := made
      exact namespaceEvent_presents receipt warehouse ns rfl recorded
  | dropNamespace warehouse ns =>
      simp only [ChangeRequest.describe, bind_eq_ok, pure_eq, Except.ok.injEq] at made
      obtain ⟨⟨result, next⟩, dropped, rfl⟩ := made
      obtain ⟨_, rfl, _⟩ := (MemoryState.dropNamespace_ok _ _ _ _ _).mp dropped
      exact namespaceEvent_presents receipt warehouse result rfl recorded
  | createTable table | registerTable table =>
      simp only [ChangeRequest.describe, bind_eq_ok, pure_eq, Except.ok.injEq] at made
      obtain ⟨⟨result, next⟩, created, rfl⟩ := made
      obtain ⟨_, _, _, rfl, _⟩ := (MemoryState.createTable_ok _ _ _ _).mp created
      exact tableEvent_presents receipt result (by decide) rfl recorded
  | upsertView view expected | catalogUpsertView view expected =>
      simp only [ChangeRequest.describe, bind_eq_ok, pure_eq, Except.ok.injEq] at made
      obtain ⟨⟨result, next⟩, stored, rfl⟩ := made
      obtain ⟨_, upsertable, _⟩ := (MemoryState.upsertViewIfVersion_ok _ _ _ _ _ _).mp stored
      obtain ⟨_, warehouse, ns, name⟩ :=
        MemoryState.withNextVersionAfterHistory_ok _ _ _ _ upsertable.next
      rw [ChangeRequest.object, ← warehouse, ← ns, ← name]
      exact viewEvent_presents _ receipt _ _ result expected rfl recorded
  | dropView warehouse ns view expected | catalogDropView warehouse ns view expected =>
      simp only [ChangeRequest.describe, bind_eq_ok, pure_eq, Except.ok.injEq] at made
      obtain ⟨result, dropped, rfl⟩ := made
      have same : store.viewToDrop warehouse ns view expected = .ok result := by
        rcases MemoryState.dropViewIfVersion_cases store warehouse ns view receipt.principal
          expected now with ⟨_, _, failed⟩ | ⟨record, found, ⟨_, _, failed⟩ | ⟨_, _, done⟩⟩
        · rw [failed] at dropped
          cases dropped
        · rw [failed] at dropped
          cases dropped
        · rw [done] at dropped
          rw [found, Except.ok.inj dropped]
      obtain ⟨_, rfl, rfl, rfl⟩ := MemoryState.viewToDrop_ok same
      exact viewEvent_presents _ receipt _ _ result expected rfl recorded
  | upsertPolicyBinding binding =>
      simp only [ChangeRequest.describe, bind_eq_ok, pure_eq, Except.ok.injEq] at made
      obtain ⟨⟨result, next⟩, stored, rfl⟩ := made
      obtain ⟨_, _, rfl, _⟩ := (MemoryState.upsertPolicyBinding_ok _ _ _ _).mp stored
      refine presents_policy ?_ rfl rfl ?_
      all_goals
        dsimp only [describedEvent, CatalogAuditEvent.new]
        rw [Json.get_object]
        rfl
  | upsertStorageProfile profile =>
      simp only [ChangeRequest.describe, MemoryState.upsertStorageProfile, bind_eq_ok,
        exists_unit, pure_eq, Except.ok.injEq, Prod.exists, Prod.mk.injEq] at made
      obtain ⟨_, _, ⟨_, _, rfl, rfl⟩, rfl⟩ := made
      refine presents_storageProfile ?_ rfl rfl ?_
      all_goals
        dsimp only [describedEvent, CatalogAuditEvent.new]
        rw [Json.get_object]
        rfl
  | upsertProject project =>
      simp only [ChangeRequest.describe, MemoryState.upsertProject, bind_eq_ok,
        exists_unit, pure_eq, Except.ok.injEq, Prod.exists, Prod.mk.injEq] at made
      obtain ⟨_, _, ⟨_, _, _, rfl, rfl⟩, rfl⟩ := made
      refine presents_project ?_ rfl rfl ?_
      all_goals
        dsimp only [describedEvent, CatalogAuditEvent.new]
        rw [Json.get_object]
        rfl
  | upsertServer server =>
      simp only [ChangeRequest.describe, MemoryState.upsertServer, bind_eq_ok,
        exists_unit, pure_eq, Except.ok.injEq, Prod.exists, Prod.mk.injEq] at made
      obtain ⟨_, _, ⟨_, _, rfl, rfl⟩, rfl⟩ := made
      refine presents_server ?_ rfl rfl ?_
      all_goals
        dsimp only [describedEvent, CatalogAuditEvent.new]
        rw [redactServerEventPayload, redactRecordField_get _ _ rfl (by decide), Json.get_object]
        rfl
  | upsertWarehouse warehouse | upsertProjectWarehouse warehouse =>
      simp only [ChangeRequest.describe, MemoryState.upsertWarehouse, bind_eq_ok,
        exists_unit, pure_eq, Except.ok.injEq, Prod.exists, Prod.mk.injEq] at made
      obtain ⟨_, _, ⟨_, _, _, _, _, rfl, rfl⟩, rfl⟩ := made
      exact warehouseEvent_presents _ receipt _ recorded

/-! The handlers of tables and of models. -/

theorem scanPayload_receipt (fields : List String) (extensions : Json)
    (entries : List (String × Json)) (receipt : AuthorizationReceipt)
    (restriction : FullReadRestriction) (repeated : "authorization-receipt" ∉ fields)
    (carried : entries.reverse.lookup "authorization-receipt" = some receipt.toJson) :
    (copyFields fields extensions
      (appendReadRestriction (.object entries) receipt restriction)).get "authorization-receipt" =
        some receipt.toJson := by
  have added : restrictionFields receipt restriction "authorization-receipt" = none := by
    rw [restrictionFields]
    split
    · rfl
    · split <;> rfl
  rw [auditPayload_get, if_neg repeated, added, carried]
  rfl

theorem scanPlanned_presents (table : TableRecord) (capability : TableScanCapability)
    (scan : ScanPlan) (extensions : Json) (proof : Option GovernedScanProof) (now : Timestamp) :
    Presents (MemoryState.auditOutbox
        (scanPlannedEvent table capability scan extensions proof now))
      capability.receipt.principal (some (.table capability.table)) := by
  have carried : (tableScanPlannedAuditPayload capability.table table capability scan
      extensions).get "authorization-receipt" = some capability.receipt.toJson :=
    scanPayload_receipt _ _ _ _ _ (by decide) rfl
  have shape : (tableScanPlannedAuditPayload capability.table table capability scan
      extensions).isObject = true :=
    copyFields_shape _ _ _ (appendReadRestriction_shape _ _ _ rfl)
  refine presents_tabled ?_ rfl (by simp [scanPlannedEvent, CatalogAuditEvent.new]) rfl
  cases proof with
  | none => exact carried
  | some proof =>
      dsimp only [scanPlannedEvent, CatalogAuditEvent.new, withGovernedScanProof]
      rw [Json.get_set _ _ _ _ shape, if_neg (by decide), carried]

theorem scanTasksFetched_presents (table : TableRecord) (capability : TableScanCapability)
    (fetched : FetchScanTasksPlan) (extensions : Json) (now : Timestamp) :
    Presents (MemoryState.auditOutbox
        (scanTasksFetchedEvent table capability fetched extensions now))
      capability.receipt.principal (some (.table capability.table)) := by
  refine presents_tabled ?_ rfl (by simp [scanTasksFetchedEvent, CatalogAuditEvent.new]) rfl
  exact scanPayload_receipt _ _ _ _ _ (by decide) rfl

theorem vendAuditEvent_get (capability : CredentialsVendCapability) (table : TableRecord)
    (storageProfile : StorageProfile) (storageCredentials : List StorageCredential)
    (now : Timestamp) {key : String} (other : key ≠ "lakecat:credential-block-reason") :
    (vendAuditEvent capability table storageProfile storageCredentials now).payload.get key =
      (credentialsVendAuditPayload capability.table table storageProfile storageCredentials
        capability.receipt).get key := by
  dsimp only [vendAuditEvent, CatalogAuditEvent.new]
  split
  · rfl
  · rw [Json.get_set _ _ _ _ rfl, if_neg other]

theorem storageProfileEvidence_get (profile : StorageProfile) :
    (storageProfileEvidence profile).get "warehouse" = some (.str profile.warehouse.value) ∧
      (storageProfileEvidence profile).get "profile-id" = some (.str profile.profileId) := by
  rw [storageProfileEvidence, Json.get_object, Json.get_object]
  cases profile.secretRef with
  | none => exact ⟨rfl, rfl⟩
  | some secretRef =>
      cases label : secretRefProviderLabel secretRef <;> simp only [Option.bind_some, label] <;>
        exact ⟨rfl, rfl⟩

theorem credentials_presents (capability : CredentialsVendCapability) (table : TableRecord)
    (storageProfile : StorageProfile) (storageCredentials : List StorageCredential)
    (now : Timestamp) :
    Presents (MemoryState.auditOutbox
        (vendAuditEvent capability table storageProfile storageCredentials now))
      capability.receipt.principal
      (some (.storageProfile storageProfile.warehouse storageProfile.profileId)) where
  principal asked read := by
    have carried : (vendAuditEvent capability table storageProfile storageCredentials
        now).payload.get "authorization-receipt" = some capability.receipt.toJson := by
      rw [vendAuditEvent_get _ _ _ _ _ (by decide), credentialsVendAuditPayload, Json.get_object]
      cases capability.receipt.context.get "read-restriction" <;>
        cases capability.receipt.context.get "lakecat:raw-credential-exception" <;> rfl
    exact .inl (Except.ok.inj (read.symm.trans (auditOutbox_principal carried)))
  table other := absurd rfl other
  credentials _ defaultWarehouse owner profileId read := by
    have shown : (vendAuditEvent capability table storageProfile storageCredentials
        now).payload.get "storage-profile" = some (storageProfileEvidence storageProfile) := by
      rw [vendAuditEvent_get _ _ _ _ _ (by decide), credentialsVendAuditPayload, Json.get_object]
      cases capability.receipt.context.get "read-restriction" <;>
        cases capability.receipt.context.get "lakecat:raw-credential-exception" <;> rfl
    obtain ⟨owned, called⟩ := storageProfileEvidence_get storageProfile
    simp only [OutboxEvent.outboxOptionalStorageProfile, auditOutbox_inner, shown,
      Option.bind_some, owned, called, Option.some_or] at read
    split at read
    · cases read
    next found =>
      rw [Option.filter_eq_some_iff] at found
      simp only [bind_eq_ok, pure_eq, Except.ok.injEq, Option.some.injEq, Prod.mk.injEq] at read
      obtain ⟨_, named, rfl, rfl⟩ := read
      rw [warehouseNamed_text named, ← Option.some.inj found.1]
  named _ _ _ label := by
    dsimp only [MemoryState.auditOutbox, outboxEvent, vendAuditEvent, CatalogAuditEvent.new]
      at label
    cases label

theorem published_presents (publication : ModelPublication) (now : Timestamp) :
    Presents (MemoryState.auditOutbox (MemoryState.publishAudit publication now))
      publication.publisher (some (.model publication.warehouse publication.modelId)) where
  principal asked read := by
    have unsigned : (MemoryState.publishPayload publication).get "authorization-receipt" = none := by
      rw [MemoryState.publishPayload, Json.get_object]
      rfl
    have nested : (MemoryState.auditOutbox (MemoryState.publishAudit publication now)).payload.getPath
        ["payload", "authorization-receipt", "principal"] = none := by
      simp only [Json.getPath, List.foldlM_cons, auditOutbox_payload, Option.bind_eq_bind,
        Option.bind_some, MemoryState.publishAudit, CatalogAuditEvent.new, unsigned,
        Option.bind_none]
    have plain (key rest : String) (other : key ∉ ["audit-event-id", "event-type", "payload"]) :
        (MemoryState.auditOutbox (MemoryState.publishAudit publication now)).payload.getPath
          [key, rest] = none := by
      have absent : (MemoryState.auditOutbox
          (MemoryState.publishAudit publication now)).payload.get key = none := by
        rw [MemoryState.auditOutbox, outboxEvent, auditOutboxPayload, Json.get_object]
        simp only [List.mem_cons, List.not_mem_nil, or_false, not_or] at other
        simp [MemoryState.publishAudit, CatalogAuditEvent.new, Json.presentField, List.lookup,
          beq_eq_false_iff_ne.mpr other.1, beq_eq_false_iff_ne.mpr other.2.1,
          beq_eq_false_iff_ne.mpr other.2.2]
      simp [Json.getPath, absent]
    rw [OutboxEvent.outboxPrincipal, nested, plain _ _ (by decide), plain _ _ (by decide)] at read
    exact .inr (by rw [← Except.ok.inj read]; rfl)
  table _ ident read := by
    rw [auditOutbox_table] at read
    cases read
  credentials typed := by
    dsimp only [MemoryState.auditOutbox, outboxEvent, MemoryState.publishAudit,
      CatalogAuditEvent.new] at typed
    exact absurd typed (by decide)
  named defaultWarehouse another names label := by
    have owned : (MemoryState.publishPayload publication).get "warehouse" =
        some (.str publication.warehouse.value) := by
      rw [MemoryState.publishPayload, Json.get_object]
      rfl
    have called : (MemoryState.publishPayload publication).get "model-id" =
        some (.str publication.modelId) := by
      rw [MemoryState.publishPayload, Json.get_object]
      rfl
    have typed : (MemoryState.auditOutbox (MemoryState.publishAudit publication now)).eventType =
        "model.published" := rfl
    have model : outboxWholeLabel "model.published" = some .queryGraphModel := rfl
    rw [typed, model] at label
    have inside : (MemoryState.auditOutbox (MemoryState.publishAudit publication now)).inner.get
        "model-id" = some (.str publication.modelId) := by
      rw [auditOutbox_inner, MemoryState.publishAudit, CatalogAuditEvent.new]
      exact called
    have carried : (MemoryState.auditOutbox (MemoryState.publishAudit publication now)).carried
        "warehouse" = some (.str publication.warehouse.value) := auditOutbox_carried owned
    rw [names_model carried inside names (Option.some.inj label).symm]

theorem renamed_presents (source : TableIdent) (table : TableRecord)
    (receipt : AuthorizationReceipt) (now : Timestamp) :
    Presents (MemoryState.auditOutbox
        (renameAuditEvent source table receipt.principal (some receipt.toJson) now))
      receipt.principal (some (.table table.ident)) := by
  refine presents_tabled ?_ rfl (by simp [renameAuditEvent, CatalogAuditEvent.new]) rfl
  exact (renamePayload_get source table (some receipt.toJson)).2.2

/-- A document of the store that carries the receipt beside the table. -/
theorem outboxPrincipal_outer {event : OutboxEvent} {receipt : AuthorizationReceipt}
    (nested : event.payload.getPath ["payload", "authorization-receipt", "principal"] = none ∨
      event.payload.getPath ["payload", "authorization-receipt", "principal"] =
        some receipt.principal.toJson)
    (carried : event.payload.get "authorization-receipt" = some receipt.toJson) :
    event.outboxPrincipal = .ok receipt.principal := by
  have outer : event.payload.getPath ["authorization-receipt", "principal"] =
      some receipt.principal.toJson := by
    simp [Json.getPath, carried, receipt.toJson_principal]
  have first : (event.payload.getPath ["payload", "authorization-receipt", "principal"]).or
      (event.payload.getPath ["authorization-receipt", "principal"]) =
        some receipt.principal.toJson := by
    rcases nested with none | same
    · rw [none, outer]
      rfl
    · rw [same]
      rfl
  rw [OutboxEvent.outboxPrincipal, first]
  dsimp only [Option.or]
  rw [Principal.fromJson_toJson]
  rfl

theorem committed_presents (ident : TableIdent) (record : TableCommitRecord)
    (receipt : AuthorizationReceipt) :
    Presents (outboxEvent "table.commit"
        (MemoryState.commitOutboxPayload ident record (some receipt.toJson)) record.committedAt)
      receipt.principal (some (.table ident)) := by
  refine presents_table (outboxPrincipal_outer (.inl ?_) ?_) (outboxTable_named ?_)
    (by simp [outboxEvent]) (.inl rfl)
  · dsimp only [outboxEvent, Json.getPath]
    rw [List.foldlM_cons, MemoryState.commitOutboxPayload, Json.get_object]
    rfl
  all_goals
    dsimp only [outboxEvent]
    rw [MemoryState.commitOutboxPayload, Json.get_object]
    rfl

theorem deleted_presents (ident : TableIdent) (table : TableRecord)
    (receipt : AuthorizationReceipt) (now : Timestamp) :
    Presents (outboxEvent "table.deleted"
        (MemoryState.softDeleteOutboxPayload ident (MemoryState.softDeleteRecord ident table
          receipt.principal (some receipt.toJson) now)) now)
      receipt.principal (some (.table ident)) := by
  refine presents_table (outboxPrincipal_outer (.inl ?_) ?_) (outboxTable_named ?_)
    (by simp [outboxEvent]) (.inl rfl)
  · dsimp only [outboxEvent, Json.getPath]
    rw [List.foldlM_cons, MemoryState.softDeleteOutboxPayload, Json.get_object]
    rfl
  all_goals
    dsimp only [outboxEvent]
    rw [MemoryState.softDeleteOutboxPayload, Json.get_object]
    rfl

theorem restored_presents (ident : TableIdent) (table : TableRecord)
    (receipt : AuthorizationReceipt) (now : Timestamp) :
    Presents (outboxEvent "table.restored"
        (MemoryState.restoreOutboxPayload ident table (some receipt.toJson)) now)
      receipt.principal (some (.table ident)) := by
  refine presents_table (outboxPrincipal_outer (.inr ?_) ?_) (outboxTable_named ?_)
    (by simp [outboxEvent]) (.inr rfl)
  · have outer : (MemoryState.restoreOutboxPayload ident table (some receipt.toJson)).get
        "payload" = some (MemoryState.restoreAuditPayload ident table (some receipt.toJson)) := by
      rw [MemoryState.restoreOutboxPayload, Json.get_object]
      rfl
    have carried : (MemoryState.restoreAuditPayload ident table (some receipt.toJson)).get
        "authorization-receipt" = some receipt.toJson := by
      rw [MemoryState.restoreAuditPayload, Json.get_object]
      rfl
    simp [outboxEvent, Json.getPath, outer, carried, receipt.toJson_principal]
  all_goals
    dsimp only [outboxEvent]
    rw [MemoryState.restoreOutboxPayload, Json.get_object]
    rfl

/-- What every handler records is read as it was meant. -/
theorem Recorded.presents {principal : Principal} {object : Option GraphObject}
    {event : OutboxEvent} (recorded : Recorded principal object event) :
    Presents event principal object := by
  cases recorded with
  | read made =>
      simp only [ReadRequest.event, bind_eq_ok, pure_eq, Except.ok.injEq] at made
      obtain ⟨described, made, rfl⟩ := made
      exact read_presents made _
  | change made =>
      simp only [ChangeRequest.event, bind_eq_ok, pure_eq, Except.ok.injEq] at made
      obtain ⟨described, made, rfl⟩ := made
      exact change_presents made _
  | scanPlanned table capability scan extensions proof now =>
      exact scanPlanned_presents table capability scan extensions proof now
  | scanTasksFetched table capability fetched extensions now =>
      exact scanTasksFetched_presents table capability fetched extensions now
  | credentials capability table storageProfile storageCredentials now =>
      exact credentials_presents capability table storageProfile storageCredentials now
  | published publication now => exact published_presents publication now
  | renamed source table receipt now => exact renamed_presents source table receipt now
  | committed ident record receipt => exact committed_presents ident record receipt
  | deleted ident table receipt now => exact deleted_presents ident table receipt now
  | restored ident table receipt now => exact restored_presents ident table receipt now

end

end LakeCat
