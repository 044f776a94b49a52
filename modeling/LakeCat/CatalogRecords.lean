import LakeCat.TableRecords

/-!
The records around the tables: namespace properties, servers, projects,
warehouses, storage profiles, policy bindings, model publications, and the
audit and outbox events every change leaves behind.
-/

namespace LakeCat

open Fallible

/-- The entry of a key that the source's `BTreeMap` of properties holds. -/
structure NamespaceProperties where
  properties : BTreeMap String

def validateNamespacePropertyKeys (keys : List String) : LakeCatResult Unit :=
  rejectIf (keys.any fun key => key.toList = [])
    (.invalidArgument "namespace property keys must not be empty")

structure NamespacePropertyUpdate where
  removals : List String
  updates : BTreeMap String

structure NamespacePropertyUpdateResult where
  updated : List String
  removed : List String
  missing : List String

def NamespacePropertyUpdate.new (removals : List String) (updates : BTreeMap String) :
    LakeCatResult NamespacePropertyUpdate := do
  validateNamespacePropertyKeys removals
  validateNamespacePropertyKeys updates.keys
  rejectIf (¬removals.Nodup)
    (.invalidArgument "namespace property removals must contain unique keys")
  let ordered := removals.mergeSort
  match ordered.find? fun key => updates.contains key with
  | some overlap =>
      .error (.unprocessableEntity
        s!"namespace property key \x60{overlap}\x60 cannot be both removed and updated")
  | none => return ⟨ordered, updates⟩

namespace NamespaceProperties

def default : NamespaceProperties := ⟨∅⟩

def new (properties : BTreeMap String) : LakeCatResult NamespaceProperties := do
  validateNamespacePropertyKeys properties.keys
  return ⟨properties⟩

def apply (current : NamespaceProperties) (update : NamespacePropertyUpdate) :
    NamespaceProperties × NamespacePropertyUpdateResult :=
  let remaining := update.removals.foldl (fun properties key => properties.erase key)
    current.properties
  let (removed, missing) := update.removals.partition fun key => current.properties.contains key
  (⟨update.updates.toList.foldl (fun properties entry => properties.insert entry.1 entry.2)
      remaining⟩,
    ⟨update.updates.keys, removed, missing⟩)

end NamespaceProperties

def checkNotBlank (value : Option String) (message : String) : LakeCatResult Unit :=
  rejectIf (value.any isBlank) (.invalidArgument message)

structure ServerRecord where
  serverId : String
  displayName : Option String
  endpointUrl : Option String
  properties : BTreeMap String
  created : AuditStamp
  updatedAt : Timestamp

def ServerRecord.validate [External] (server : ServerRecord) : LakeCatResult Unit := do
  validateProjectId server.serverId
  checkNotBlank server.displayName "server display name must not be empty"
  checkNotBlank server.endpointUrl "server endpoint URL must not be empty"
  checkSome validateServerEndpointUrl server.endpointUrl
  validatePublicConfig server.properties

structure ProjectRecord where
  projectId : String
  serverId : Option String
  displayName : Option String
  properties : BTreeMap String
  created : AuditStamp
  updatedAt : Timestamp

def ProjectRecord.validate [External] (project : ProjectRecord) : LakeCatResult Unit := do
  validateProjectId project.projectId
  checkSome validateProjectId project.serverId
  checkNotBlank project.displayName "project display name must not be empty"
  validatePublicConfig project.properties

structure WarehouseRecord where
  warehouse : WarehouseName
  projectId : String
  storageRoot : Option String
  properties : BTreeMap String
  created : AuditStamp
  updatedAt : Timestamp

def WarehouseRecord.validate [External] (warehouse : WarehouseRecord) : LakeCatResult Unit := do
  validateProjectId warehouse.projectId
  checkNotBlank warehouse.storageRoot "warehouse storage root must not be empty"
  checkSome validateWarehouseStorageRootPath warehouse.storageRoot
  validatePublicConfig warehouse.properties

inductive StorageProvider where
  | file
  | s3
  | gcs
  | azure
  | unknown
  deriving DecidableEq

namespace StorageProvider

def fromLocation (location : String) : StorageProvider :=
  if startsWith location "file://" then .file
  else if startsWith location "s3://" || startsWith location "s3a://" then .s3
  else if startsWith location "gs://" then .gcs
  else if startsWith location "az://" || startsWith location "abfs://" ||
      startsWith location "abfss://" then .azure
  else .unknown

def asStr : StorageProvider → String
  | .file => "file"
  | .s3 => "s3"
  | .gcs => "gcs"
  | .azure => "azure"
  | .unknown => "unknown"

end StorageProvider

inductive CredentialIssuanceMode where
  | governedReadRequired
  | localFileNoSecret
  | shortLivedSecretRef
  deriving DecidableEq

def CredentialIssuanceMode.asStr : CredentialIssuanceMode → String
  | .governedReadRequired => "governed-read-required"
  | .localFileNoSecret => "local-file-no-secret"
  | .shortLivedSecretRef => "short-lived-secret-ref"

section
variable [External]

def validateLocationPrefixProvider (locationPrefix : String) (provider : StorageProvider) :
    LakeCatResult Unit := do
  let context := hashContext "storage-profile-prefix" locationPrefix
  let detected := StorageProvider.fromLocation locationPrefix
  rejectIf (detected ≠ .unknown ∧ detected ≠ provider)
    (invalidWith context ("storage profile provider '" ++ provider.asStr ++
      "' does not match location prefix provider '" ++ detected.asStr ++ "'"))
  rejectIf (detected = .unknown ∧ provider ≠ .unknown)
    (invalidWith context
      ("storage profile location prefix is not supported by provider '" ++ provider.asStr ++ "'"))

def validateIssuanceModeProvider (issuanceMode : CredentialIssuanceMode)
    (provider : StorageProvider) (locationPrefix : String) : LakeCatResult Unit := do
  let context := hashContext "storage-profile-prefix" locationPrefix
  rejectIf (issuanceMode = .localFileNoSecret ∧ provider ≠ .file)
    (invalidWith context ("local-file-no-secret issuance mode requires file provider, got '" ++
      provider.asStr ++ "'"))
  rejectIf (issuanceMode = .shortLivedSecretRef ∧ provider ∉ [.s3, .gcs, .azure])
    (invalidWith context
      ("short-lived-secret-ref issuance mode requires s3, gcs, or azure provider, got '" ++
        provider.asStr ++ "'"))

def validateSecretRefIssuanceMode (secretRef : Option String)
    (issuanceMode : CredentialIssuanceMode) : LakeCatResult Unit :=
  checkSome (fun secretRef =>
      rejectIf (issuanceMode ≠ .shortLivedSecretRef)
        (invalidWith (hashContext "secret-ref" secretRef)
          "storage profile secret reference requires short-lived-secret-ref issuance mode"))
    secretRef

structure StorageProfile where
  profileId : String
  warehouse : WarehouseName
  locationPrefix : String
  provider : StorageProvider
  issuanceMode : CredentialIssuanceMode
  secretRef : Option String
  publicConfig : BTreeMap String

def StorageProfile.validate (profile : StorageProfile) : LakeCatResult Unit := do
  validateProfileId profile.profileId
  validateLocationPrefixPath profile.locationPrefix
  validateLocationPrefixProvider profile.locationPrefix profile.provider
  validateIssuanceModeProvider profile.issuanceMode profile.provider profile.locationPrefix
  checkSome validateSecretRef profile.secretRef
  validateSecretRefIssuanceMode profile.secretRef profile.issuanceMode
  rejectIf (profile.issuanceMode = .shortLivedSecretRef ∧ profile.secretRef.isNone)
    (.invalidArgument
      "short-lived-secret-ref issuance mode requires a secret reference")
  validateStorageProfilePublicConfig profile.publicConfig

end

structure PolicyBinding where
  policyId : String
  warehouse : WarehouseName
  ns : Option Namespace
  table : Option TableName
  enforced : Bool
  odrl : Json
  updatedAt : Timestamp

def PolicyBinding.validate [External] (binding : PolicyBinding) : LakeCatResult Unit := do
  validatePolicyId binding.policyId
  rejectIf (binding.table.isSome ∧ binding.ns.isNone)
    (.invalidArgument "table-scoped policy binding requires namespace")

structure ModelPublication where
  modelId : String
  warehouse : WarehouseName
  version : UInt64
  artifactUri : String
  artifactHash : String
  physicalBindings : Json
  policyBindingIds : List String
  publisher : Principal
  publishedAt : Timestamp

def ModelPublication.validate [External] (publication : ModelPublication) : LakeCatResult Unit := do
  rejectIf (isBlank publication.modelId ∨ 255 < publication.modelId.utf8ByteSize)
    (.invalidArgument "model publication id must be between 1 and 255 characters")
  rejectIf (publication.version = 0)
    (.invalidArgument "model publication version must be positive")
  rejectIf (External.parseUrl publication.artifactUri).isNone
    (.invalidArgument "model artifact URI must be absolute")
  validateIdempotencyRequestHashShape publication.artifactHash
  rejectIf (¬publication.physicalBindings.isObject ∧ ¬publication.physicalBindings.isArray)
    (.invalidArgument "model physical bindings must be an object or array")
  checkEach validatePolicyId publication.policyBindingIds

structure OutboxEvent where
  eventId : String
  sink : String
  eventType : String
  payload : Json
  createdAt : Timestamp
  deliveredAt : Option Timestamp

section
variable [External]

def pendingError (message context : String) : LakeCatError :=
  .internal s!"pending outbox {message}; {context}"

def OutboxEvent.validatePending (event : OutboxEvent) : LakeCatResult Unit := do
  let eventIdHash := hashContext "event-id" event.eventId
  let eventTypeHash := hashContext "event-type" event.eventType
  let payloadHash := contentHashJson event.payload
  let context := s!"{eventIdHash}; {eventTypeHash}; payload-hash={payloadHash}"
  rejectIf event.deliveredAt.isSome (pendingError "event must not already be delivered" context)
  rejectIf (isBlank event.sink) (pendingError "event sink must not be empty" context)
  rejectIf (isBlank event.eventType) (pendingError "event type must not be empty" context)
  let payloadEventType ← okOr ((event.payload.get "event-type").bind Json.asStr)
    (pendingError "payload missing event-type" context)
  let payloadTypeHash := hashContext "payload-event-type" payloadEventType
  let typedContext :=
    s!"{eventIdHash}; {eventTypeHash}; {payloadTypeHash}; payload-hash={payloadHash}"
  rejectIf (isBlank payloadEventType)
    (pendingError "payload event-type must not be empty" typedContext)
  rejectIf (payloadEventType ≠ event.eventType)
    (pendingError "event type does not match payload" typedContext)
  rejectIf (event.eventId ≠ payloadHash)
    (pendingError "event id does not match payload hash" context)

structure CatalogAuditEvent where
  eventType : String
  table : Option TableIdent
  principal : Principal
  requestHash : Option String
  payload : Json
  createdAt : Timestamp

def CatalogAuditEvent.new (eventType : String) (table : Option TableIdent) (principal : Principal)
    (payload : Json) (now : Timestamp) : CatalogAuditEvent :=
  ⟨eventType, table, principal, some (contentHashJson payload), payload, now⟩

def auditEventId (event : CatalogAuditEvent) : String :=
  contentHashJson (.object [("event-type", .str event.eventType),
    ("table", Json.ofOption TableIdent.toJson event.table),
    ("principal", event.principal.toJson), ("request-hash", ofOptionStr event.requestHash),
    ("payload", event.payload), ("created-at", .str (External.toRfc3339 event.createdAt))])

def auditOutboxPayload (eventId : String) (event : CatalogAuditEvent) : Json :=
  .object ([("audit-event-id", .str eventId), ("event-type", .str event.eventType)] ++
    Json.presentField "table" TableIdent.toJson event.table ++ [("payload", event.payload)])

/-- A pending event, whose id is the hash of its payload. -/
def outboxEvent (eventType : String) (payload : Json) (createdAt : Timestamp) : OutboxEvent where
  eventId := contentHashJson payload
  sink := "lakecat.lineage-and-graph"
  eventType := eventType
  payload := payload
  createdAt := createdAt
  deliveredAt := none

def outboxEventFromPayload (payload : Json) (createdAt : Timestamp) : LakeCatResult OutboxEvent := do
  let eventType ← okOr (payload.field "event-type").asStr
    (.internal "outbox payload missing event-type")
  return outboxEvent eventType payload createdAt

def validateReceiptPrincipal (principal : Principal) (receipt : Json) : LakeCatResult Unit := do
  let action ← okOr ((receipt.get "action").bind Json.asStr)
    (.invalidArgument "audit event authorization receipt action is required")
  rejectIf (isBlank action)
    (.invalidArgument "audit event authorization receipt action must not be empty")
  checkSome (fun receiptPrincipal => do
      let receiptPrincipal ← okOr (Principal.fromJson receiptPrincipal)
        (.invalidArgument "audit event authorization receipt principal is malformed")
      rejectIf (receiptPrincipal ≠ principal)
        (.invalidArgument
          "audit event authorization receipt principal does not match event principal"))
    (receipt.get "principal")

def validateAuditPayloadAuthorizationPrincipal (payload : Json) (principal : Principal) :
    LakeCatResult Unit :=
  checkSome (validateReceiptPrincipal principal) (payload.get "authorization-receipt")

/-- The strings of an array whose items are all strings. -/
def stringItems : Json → Option (List String)
  | .arr items => items.mapM Json.asStr
  | _ => none

/-- `serde_json::from_value::<TableIdent>` of an object; the names are not validated here. -/
def tableIdentFromJson (value : Json) : Option TableIdent := do
  let warehouse ← (← value.get "warehouse").asStr
  let ns ← stringItems (← value.get "namespace")
  let name ← (← value.get "name").asStr
  return ⟨⟨warehouse⟩, ⟨ns⟩, ⟨name⟩⟩

def auditPayloadNamespaceMatches (payloadNamespace : Json) (ns : Namespace) : Bool :=
  match payloadNamespace.asStr with
  | some path => path = ns.path
  | none => stringItems payloadNamespace = some ns.parts

def validateAuditPayloadTableScope (payload : Json) (table : TableIdent) : LakeCatResult Unit := do
  let payloadTable ← okOr (payload.get "table")
    (.invalidArgument "audit event payload missing table scope")
  if payloadTable.isObject then do
    let payloadTable ← okOr (tableIdentFromJson payloadTable)
      (.invalidArgument "audit event payload table scope is malformed")
    rejectIf (payloadTable ≠ table)
      (.invalidArgument "audit event payload table scope does not match event table")
  else do
    let payloadTableName ← okOr payloadTable.asStr
      (.invalidArgument "audit event payload table scope is malformed")
    rejectIf (payloadTableName ≠ table.name.value)
      (.invalidArgument "audit event payload table scope does not match event table")
    let payloadWarehouse ← okOr ((payload.get "warehouse").bind Json.asStr)
      (.invalidArgument "audit event payload missing warehouse scope for table")
    rejectIf (payloadWarehouse ≠ table.warehouse.value)
      (.invalidArgument "audit event payload warehouse scope does not match event table")
    let payloadNamespace ← okOr (payload.get "namespace")
      (.invalidArgument "audit event payload missing namespace scope for table")
    rejectIf (¬auditPayloadNamespaceMatches payloadNamespace table.ns)
      (.invalidArgument "audit event payload namespace scope does not match event table")

def CatalogAuditEvent.validateRecordable (event : CatalogAuditEvent) : LakeCatResult Unit := do
  rejectIf (isBlank event.eventType)
    (.invalidArgument "audit event type must not be empty")
  let payloadEventType ← okOr ((event.payload.get "event-type").bind Json.asStr)
    (.invalidArgument "audit event payload missing event-type")
  rejectIf (payloadEventType ≠ event.eventType)
    (.invalidArgument "audit event type does not match payload")
  let requestHash ← okOr event.requestHash
    (.invalidArgument "audit event request hash is required")
  rejectIf (requestHash ≠ contentHashJson event.payload)
    (.invalidArgument "audit event request hash does not match payload")
  validateAuditPayloadAuthorizationPrincipal event.payload event.principal
  checkSome (validateAuditPayloadTableScope event.payload) event.table

omit [External] in
theorem stringItems_strs (texts : List String) :
    stringItems (.arr (texts.map .str)) = some texts := by
  induction texts with
  | nil => rfl
  | cons text rest ih =>
      simp only [stringItems] at ih
      simp [stringItems, ih, Json.asStr]

omit [External] in
@[simp] theorem tableIdentFromJson_toJson (ident : TableIdent) :
    tableIdentFromJson ident.toJson = some ident := by
  simp [tableIdentFromJson, TableIdent.toJson, List.lookup, WarehouseName.toJson,
    Namespace.toJson, TableName.toJson, stringItems_strs, Json.asStr]

theorem outboxEventFromPayload_object (fields : List (String × Json)) (createdAt : Timestamp)
    (eventType : String) (typed : fields.reverse.lookup "event-type" = some (.str eventType)) :
    outboxEventFromPayload (.object fields) createdAt =
      .ok (outboxEvent eventType (.object fields) createdAt) := by
  simp only [outboxEventFromPayload, Json.field, Json.get_object, typed, Option.getD_some,
    Json.asStr, okOr_some, ok_bind, pure_eq]

end

end LakeCat
