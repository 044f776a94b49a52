import LakeCat.CanonicalJson
import LakeCat.ManagementUpserts
import LakeCat.SealedCredentials

/-!
The events of the management routes: the record in each is redacted, so that two
records that differ in a secret make events that are the same but for digests.
-/

namespace LakeCat

open Fallible

namespace Json

theorem insertField_again (key : String) (value stored : Json) (fields : List (String × Json)) :
    insertField key value (insertField key stored fields) = insertField key value fields := by
  induction fields with
  | nil => simp [insertField]
  | cons field rest ih =>
      obtain ⟨other, held⟩ := field
      rw [insertField, insertField]
      by_cases same : key = other
      · simp [same, insertField]
      · by_cases before : compare key other = .lt
        · simp [same, before, insertField]
        · simp [same, before, insertField, ih]

/-- A field of an object, moved to where it is given last. -/
theorem object_last {before after : List (String × Json)} {key : String} {value : Json}
    (distinct : ((before ++ (key, value) :: after).map Prod.fst).Nodup) :
    object (before ++ (key, value) :: after) = object (before ++ after ++ [(key, value)]) := by
  refine object_perm distinct ?_
  rw [List.append_assoc]
  exact (List.perm_append_singleton _ _).symm.append_left before

theorem object_get {before after : List (String × Json)} {key : String} {value : Json}
    (distinct : ((before ++ (key, value) :: after).map Prod.fst).Nodup) :
    (object (before ++ (key, value) :: after)).get key = some value := by
  rw [object_last distinct, get_object, List.reverse_append, List.reverse_singleton,
    List.singleton_append, lookup_field, if_pos rfl]

theorem object_set {before after : List (String × Json)} {key : String} {value : Json}
    (entry : Json) (distinct : ((before ++ (key, value) :: after).map Prod.fst).Nodup) :
    (object (before ++ (key, value) :: after)).set key entry =
      object (before ++ (key, entry) :: after) := by
  have again : ((before ++ (key, entry) :: after).map Prod.fst).Nodup := by
    simpa using distinct
  rw [object_last distinct, object_last again]
  simp only [object, set, List.foldl_append, List.foldl_cons, List.foldl_nil, insertField_again]

theorem object_remove {fields : List (String × Json)} (key : String)
    (distinct : (fields.map Prod.fst).Nodup) :
    (object fields).remove key = object (fields.filter fun field => field.1 ≠ key) := by
  obtain ⟨sorted, built, ordered, moved⟩ := object_sorted distinct
  have kept : Sorted (sorted.filter fun field => field.1 ≠ key) := ordered.filter _
  rw [built, ← object_perm kept.distinct (moved.filter _), object_of_sorted kept]
  rfl

end Json

section
variable [External]

/-- A record without the text of a field, and with the digest of the text. -/
def redactedField (stored : Json) (field hashField : String) : Json :=
  match (stored.get field).bind Json.asStr with
  | none => stored.remove field
  | some text =>
      (stored.remove field).set hashField (.str (contentHashJson (.object [(field, .str text)])))

theorem redactRecordField_object {before after : List (String × Json)} {record : String}
    {stored : Json} (field hashField : String) (shape : stored.isObject = true)
    (distinct : ((before ++ (record, stored) :: after).map Prod.fst).Nodup) :
    redactRecordField (.object (before ++ (record, stored) :: after)) record field hashField =
      .object (before ++ (record, redactedField stored field hashField) :: after) := by
  rw [redactRecordField, Json.object_get distinct, Option.filter_some, if_pos shape, redactedField]
  dsimp only
  cases (stored.get field).bind Json.asStr with
  | none => exact Json.object_set _ distinct
  | some text => exact Json.object_set _ distinct

variable {secret : String → String → Prop}

/-- Records that are the same but for a secret are redacted to the same but for its digest. -/
theorem redactedField_shown {before after twinAfter : List (String × Json)} {field : String}
    {text twin : Option String} (hashField : String)
    (distinct : ((before ++ (field, ofOptionStr text) :: after).map Prod.fst).Nodup)
    (same : after = twinAfter) (held : Option.Rel (Sealed secret) text twin) :
    Shown secret
      (redactedField (.object (before ++ (field, ofOptionStr text) :: after)) field hashField)
      (redactedField (.object (before ++ (field, ofOptionStr twin) :: twinAfter)) field
        hashField) := by
  subst same
  have twinDistinct : ((before ++ (field, ofOptionStr twin) :: after).map Prod.fst).Nodup := by
    simpa using distinct
  have removed : (Json.object (before ++ (field, ofOptionStr text) :: after)).remove field =
      (Json.object (before ++ (field, ofOptionStr twin) :: after)).remove field := by
    rw [Json.object_remove _ distinct, Json.object_remove _ twinDistinct]
    simp
  rw [redactedField, redactedField, Json.object_get distinct, Json.object_get twinDistinct, removed]
  cases held with
  | none => exact .same _
  | some held =>
      refine Json.Alike.set _ (.same _) (Digested.hash ?_).shown
      exact .object (.cons held.digested.fieldAlike .nil)

/-- Servers that differ in their endpoint. -/
structure ServersAlike (secret : String → String → Prop) (one other : ServerRecord) : Prop where
  serverId : one.serverId = other.serverId
  displayName : one.displayName = other.displayName
  properties : one.properties = other.properties
  endpointUrl : Option.Rel (Sealed secret) one.endpointUrl other.endpointUrl

/-- Warehouses that differ in their storage root. -/
structure WarehousesAlike (secret : String → String → Prop) (one other : WarehouseRecord) :
    Prop where
  warehouse : one.warehouse = other.warehouse
  projectId : one.projectId = other.projectId
  properties : one.properties = other.properties
  storageRoot : Option.Rel (Sealed secret) one.storageRoot other.storageRoot

theorem serverRecord_shown {one other : ServerRecord} (alike : ServersAlike secret one other) :
    Shown secret (redactedField (serverResponse one) "endpoint-url" "endpoint-url-hash")
      (redactedField (serverResponse other) "endpoint-url" "endpoint-url-hash") := by
  rw [serverResponse, serverResponse, alike.serverId, alike.displayName]
  refine @redactedField_shown _ secret [("server-id", .str other.serverId),
    ("display-name", ofOptionStr other.displayName)] _ _ _ _ _ _ ?_ ?_ alike.endpointUrl
  · simp
  · rw [alike.properties]

theorem warehouseRecord_shown {one other : WarehouseRecord}
    (alike : WarehousesAlike secret one other) :
    Shown secret (redactedField (warehouseResponse one) "storage-root" "storage-root-hash")
      (redactedField (warehouseResponse other) "storage-root" "storage-root-hash") := by
  rw [warehouseResponse, warehouseResponse, alike.warehouse, alike.projectId]
  refine @redactedField_shown _ secret [("warehouse", .str other.warehouse.value),
    ("project-id", .str other.projectId)] _ _ _ _ _ _ ?_ ?_ alike.storageRoot
  · simp
  · rw [alike.properties]

theorem serverEvent_redacted (server : ServerRecord) (receipt : AuthorizationReceipt) :
    redactServerEventPayload (.object [("event-type", .str "server.upserted"),
        ("server-id", .str server.serverId), ("server-record", serverResponse server),
        ("authorization-receipt", receipt.toJson)]) =
      .object [("event-type", .str "server.upserted"), ("server-id", .str server.serverId),
        ("server-record",
          redactedField (serverResponse server) "endpoint-url" "endpoint-url-hash"),
        ("authorization-receipt", receipt.toJson)] :=
  @redactRecordField_object _ [("event-type", .str "server.upserted"),
    ("server-id", .str server.serverId)] [("authorization-receipt", receipt.toJson)] _ _ _ _ rfl
    (by simp)

theorem warehouseEvent_redacted (projectId : Option String) (warehouse : WarehouseRecord)
    (receipt : AuthorizationReceipt) :
    warehouseEventPayload projectId receipt warehouse =
      .object ([("event-type", .str "warehouse.upserted")] ++
        Json.presentField "project-id" .str projectId ++
        [("warehouse", .str warehouse.warehouse.value),
          ("warehouse-record",
            redactedField (warehouseResponse warehouse) "storage-root" "storage-root-hash"),
          ("authorization-receipt", receipt.toJson)]) := by
  have redacted := @redactRecordField_object _ ([("event-type", .str "warehouse.upserted")] ++
    Json.presentField "project-id" .str projectId ++
      [("warehouse", .str warehouse.warehouse.value)]) [("authorization-receipt", receipt.toJson)]
    "warehouse-record" (warehouseResponse warehouse) "storage-root" "storage-root-hash" rfl
    (by cases projectId <;> simp [Json.presentField])
  simpa [warehouseEventPayload, redactWarehouseEventPayload] using redacted

/-- Changes that differ in the secrets of their records. -/
inductive ChangesAlike (secret : String → String → Prop) : ChangeRequest → ChangeRequest → Prop
    where
  | upsertServer {one other : ServerRecord} (alike : ServersAlike secret one other) :
      ChangesAlike secret (.upsertServer one) (.upsertServer other)
  | upsertWarehouse {one other : WarehouseRecord} (alike : WarehousesAlike secret one other) :
      ChangesAlike secret (.upsertWarehouse one) (.upsertWarehouse other)
  | upsertProjectWarehouse {one other : WarehouseRecord}
      (alike : WarehousesAlike secret one other) :
      ChangesAlike secret (.upsertProjectWarehouse one) (.upsertProjectWarehouse other)
  | upsertStorageProfile {one other : StorageProfile} (alike : ProfilesAlike secret one other) :
      ChangesAlike secret (.upsertStorageProfile one) (.upsertStorageProfile other)

theorem storageProfileEventPayload_shown {one other : StorageProfile}
    (alike : ProfilesAlike secret one other) :
    Shown secret (storageProfileEventPayload one) (storageProfileEventPayload other) := by
  rw [storageProfileEventPayload, storageProfileEventPayload, alike.profileId, alike.warehouse,
    alike.provider, alike.issuanceMode, alike.locationPrefix, alike.publicConfig,
    secretRef_present alike, List.append_assoc, List.append_assoc]
  exact .object (List.rel_append (Json.Alike.fields_same _) (secretRefFields_shown alike))

theorem profileEvent_shown {one other : StorageProfile} (alike : ProfilesAlike secret one other)
    {receipt twin : AuthorizationReceipt} (receipts : ReceiptsAlike secret receipt twin) :
    Shown secret
      (.object [("event-type", .str "storage-profile.upserted"),
        ("warehouse", .str one.warehouse.value),
        ("storage-profile", storageProfileEventPayload one),
        ("authorization-receipt", receipt.toJson)])
      (.object [("event-type", .str "storage-profile.upserted"),
        ("warehouse", .str other.warehouse.value),
        ("storage-profile", storageProfileEventPayload other),
        ("authorization-receipt", twin.toJson)]) := by
  rw [alike.warehouse]
  refine .object ?_
  exact .cons ⟨rfl, .same _⟩ (.cons ⟨rfl, .same _⟩
    (.cons (storageProfileEventPayload_shown alike).fieldAlike
      (.cons receipts.shown.fieldAlike .nil)))

theorem warehouseEvent_shown {projectId twinId : Option String} (same : projectId = twinId)
    {one other : WarehouseRecord} (alike : WarehousesAlike secret one other)
    {receipt twin : AuthorizationReceipt} (receipts : ReceiptsAlike secret receipt twin) :
    Shown secret (warehouseEventPayload projectId receipt one)
      (warehouseEventPayload twinId twin other) := by
  subst same
  rw [warehouseEvent_redacted, warehouseEvent_redacted, alike.warehouse]
  refine .object (List.rel_append (Json.Alike.fields_same _) ?_)
  exact .cons ⟨rfl, .same _⟩ (.cons (warehouseRecord_shown alike).fieldAlike
    (.cons receipts.shown.fieldAlike .nil))

/-- Such changes are recorded with events that are the same but for digests. -/
theorem change_event_alike {one other : ChangeRequest} (alike : ChangesAlike secret one other)
    {receipt twin : AuthorizationReceipt} (receipts : ReceiptsAlike secret receipt twin)
    {store twinStore : MemoryState} {now recorded : Timestamp} {event twinEvent : CatalogAuditEvent}
    (made : one.event store receipt now recorded = .ok event)
    (twinMade : other.event twinStore twin now recorded = .ok twinEvent) :
    AuditsAlike secret event twinEvent := by
  cases alike with
  | upsertServer alike =>
      simp only [ChangeRequest.event, ChangeRequest.describe, MemoryState.upsertServer, bind_eq_ok,
        exists_unit, pure_eq, Except.ok.injEq] at made twinMade
      obtain ⟨_, ⟨_, ⟨_, _, rfl⟩, rfl⟩, rfl⟩ := made
      obtain ⟨_, ⟨_, ⟨_, _, rfl⟩, rfl⟩, rfl⟩ := twinMade
      refine auditsAlike_new _ _ _ receipts.principal ?_
      rw [serverEvent_redacted, serverEvent_redacted, alike.serverId]
      refine .object ?_
      exact .cons ⟨rfl, .same _⟩ (.cons ⟨rfl, .same _⟩ (.cons (serverRecord_shown alike).fieldAlike
        (.cons receipts.shown.fieldAlike .nil)))
  | upsertWarehouse alike =>
      simp only [ChangeRequest.event, ChangeRequest.describe, MemoryState.upsertWarehouse,
        bind_eq_ok, exists_unit, pure_eq, Except.ok.injEq] at made twinMade
      obtain ⟨_, ⟨_, ⟨_, _, _, _, _, rfl⟩, rfl⟩, rfl⟩ := made
      obtain ⟨_, ⟨_, ⟨_, _, _, _, _, rfl⟩, rfl⟩, rfl⟩ := twinMade
      exact auditsAlike_new _ _ _ receipts.principal (warehouseEvent_shown rfl alike receipts)
  | upsertProjectWarehouse alike =>
      simp only [ChangeRequest.event, ChangeRequest.describe, MemoryState.upsertWarehouse,
        bind_eq_ok, exists_unit, pure_eq, Except.ok.injEq] at made twinMade
      obtain ⟨_, ⟨_, ⟨_, _, _, _, _, rfl⟩, rfl⟩, rfl⟩ := made
      obtain ⟨_, ⟨_, ⟨_, _, _, _, _, rfl⟩, rfl⟩, rfl⟩ := twinMade
      dsimp only
      refine auditsAlike_new _ _ _ receipts.principal ?_
      exact warehouseEvent_shown (congrArg some alike.projectId) alike receipts
  | upsertStorageProfile alike =>
      simp only [ChangeRequest.event, ChangeRequest.describe, MemoryState.upsertStorageProfile,
        bind_eq_ok, exists_unit, pure_eq, Except.ok.injEq] at made twinMade
      obtain ⟨_, ⟨_, ⟨_, _, rfl⟩, rfl⟩, rfl⟩ := made
      obtain ⟨_, ⟨_, ⟨_, _, rfl⟩, rfl⟩, rfl⟩ := twinMade
      exact auditsAlike_new _ _ _ receipts.principal (profileEvent_shown alike receipts)

end

end LakeCat
