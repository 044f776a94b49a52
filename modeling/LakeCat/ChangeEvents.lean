import LakeCat.Authorization
import LakeCat.CredentialIssuers
import LakeCat.FailedCalls
import LakeCat.OutboxProjection

/-!
The handlers that change the catalog with one call of the store and record the
change with another: the first call of each, and the event that it makes of the
answer for the second.
-/

namespace LakeCat

open Fallible

/-! The records as the service shows them. -/

def ViewColumnRecord.response (column : ViewColumnRecord) : Json :=
  .object [("name", .str column.name), ("data-type", column.dataType),
    ("nullable", .bool column.nullable), ("comment", ofOptionStr column.comment)]

def viewResponse (view : ViewRecord) : Json :=
  .object [("warehouse", .str view.warehouse.value), ("namespace", view.ns.toJson),
    ("name", .str view.name.value), ("view-version", ofU64 view.viewVersion),
    ("sql", .str view.sql), ("dialect", .str view.dialect),
    ("schema-version", Json.ofOption ofU64 view.schemaVersion),
    ("columns", .arr (view.columns.map ViewColumnRecord.response)),
    ("properties", Json.ofStringMap view.properties.toList)]

def projectResponse (project : ProjectRecord) : Json :=
  .object [("project-id", .str project.projectId), ("server-id", ofOptionStr project.serverId),
    ("display-name", ofOptionStr project.displayName),
    ("properties", Json.ofStringMap project.properties.toList)]

def serverResponse (server : ServerRecord) : Json :=
  .object [("server-id", .str server.serverId), ("display-name", ofOptionStr server.displayName),
    ("endpoint-url", ofOptionStr server.endpointUrl),
    ("properties", Json.ofStringMap server.properties.toList)]

def warehouseResponse (warehouse : WarehouseRecord) : Json :=
  .object [("warehouse", .str warehouse.warehouse.value),
    ("project-id", .str warehouse.projectId), ("storage-root", ofOptionStr warehouse.storageRoot),
    ("properties", Json.ofStringMap warehouse.properties.toList)]

/-- `table_metadata_format_version` of the service, which takes any `i64`. -/
def eventFormatVersion (metadata : Json) : Option Int :=
  (metadata.get "format-version").bind Json.asI64

section
variable [External]

def storageProfileEventPayload (profile : StorageProfile) : Json :=
  .object ([("profile-id", .str profile.profileId), ("warehouse", .str profile.warehouse.value),
    ("location-prefix-hash", .str (contentHashJson
      (.object [("location-prefix", .str profile.locationPrefix)]))),
    ("provider", .str profile.provider.asStr),
    ("issuance-mode", .str profile.issuanceMode.asStr),
    ("secret-ref-present", .bool profile.secretRef.isSome),
    ("public-config", Json.ofStringMap profile.publicConfig.toList)] ++
    Json.presentField "secret-ref-provider" .str (profile.secretRef.bind secretRefProviderLabel) ++
    Json.presentField "secret-ref-hash" (fun secretRef => .str (contentHashBytes secretRef))
      profile.secretRef)

def policyEventPayload (binding : PolicyBinding) : Json :=
  .object [("policy-id", .str binding.policyId), ("warehouse", .str binding.warehouse.value),
    ("namespace", Json.ofOption Namespace.toJson binding.ns),
    ("table", Json.ofOption TableName.toJson binding.table), ("enforced", .bool binding.enforced),
    ("odrl", binding.odrl), ("odrl-hash", .str (contentHashJson binding.odrl))]

/-- A request that is parsed and authorized, at the first of its two calls. -/
inductive ChangeRequest where
  | createNamespace (warehouse : WarehouseName) (ns : Namespace) (properties : NamespaceProperties)
  | updateNamespaceProperties (warehouse : WarehouseName) (ns : Namespace)
      (update : NamespacePropertyUpdate)
  | dropNamespace (warehouse : WarehouseName) (ns : Namespace)
  | createTable (table : TableRecord)
  | registerTable (table : TableRecord)
  | upsertView (view : ViewRecord) (expectedViewVersion : Option UInt64)
  | catalogUpsertView (view : ViewRecord) (expectedViewVersion : Option UInt64)
  | dropView (warehouse : WarehouseName) (ns : Namespace) (view : TableName)
      (expectedViewVersion : Option UInt64)
  | catalogDropView (warehouse : WarehouseName) (ns : Namespace) (view : TableName)
      (expectedViewVersion : Option UInt64)
  | upsertPolicyBinding (binding : PolicyBinding)
  | upsertStorageProfile (profile : StorageProfile)
  | upsertProject (project : ProjectRecord)
  | upsertServer (server : ServerRecord)
  | upsertWarehouse (warehouse : WarehouseRecord)
  | upsertProjectWarehouse (warehouse : WarehouseRecord)

/-- The events of namespaces carry the namespace and nothing of its properties. -/
def namespaceEventPayload (eventType : String) (receipt : AuthorizationReceipt)
    (warehouse : WarehouseName) (ns : Namespace) : Json :=
  .object [("event-type", .str eventType), ("authorization-receipt", receipt.toJson),
    ("warehouse", .str warehouse.value), ("namespace", ns.toJson)]

def tableEventPayload (eventType : String) (receipt : AuthorizationReceipt) (table : TableRecord) :
    Json :=
  .object [("event-type", .str eventType), ("table", table.ident.toJson),
    ("authorization-receipt", receipt.toJson),
    ("metadata-location", ofOptionStr table.metadataLocation), ("location", .str table.location),
    ("format-version", Json.ofOption .int (eventFormatVersion table.metadata)),
    ("metadata-graph", tableMetadataGraphSummary table.metadata), ("version", ofU64 table.version)]

/-- The handlers of the catalog interface name it; those of management do not. -/
def viewEventPayload (eventType : String) (interface : Option String)
    (receipt : AuthorizationReceipt) (warehouse : WarehouseName) (ns : Namespace)
    (view : ViewRecord) (expectedViewVersion : Option UInt64) : Json :=
  .object ([("event-type", .str eventType)] ++ Json.presentField "interface" .str interface ++
    [("warehouse", .str warehouse.value), ("namespace", ns.toJson), ("view", viewResponse view),
      ("expected-view-version", Json.ofOption ofU64 expectedViewVersion),
      ("authorization-receipt", receipt.toJson)])

def warehouseEventPayload (projectId : Option String) (receipt : AuthorizationReceipt)
    (warehouse : WarehouseRecord) : Json :=
  redactWarehouseEventPayload (.object ([("event-type", .str "warehouse.upserted")] ++
    Json.presentField "project-id" .str projectId ++
    [("warehouse", .str warehouse.warehouse.value),
      ("warehouse-record", warehouseResponse warehouse),
      ("authorization-receipt", receipt.toJson)]))

namespace ChangeRequest

/-- The call of the store that makes the change. -/
def change (receipt : AuthorizationReceipt) (now : Timestamp) : ChangeRequest → MemoryOp
  | createNamespace warehouse ns properties => .createNamespace warehouse ns properties
  | updateNamespaceProperties warehouse ns update =>
      .updateNamespaceProperties warehouse ns update
  | dropNamespace warehouse ns => .dropNamespace warehouse ns
  | createTable table | registerTable table => .createTable table
  | upsertView view expected | catalogUpsertView view expected => .upsertView view expected now
  | dropView warehouse ns view expected | catalogDropView warehouse ns view expected =>
      .dropView warehouse ns view receipt.principal expected now
  | upsertPolicyBinding binding => .upsertPolicyBinding binding
  | upsertStorageProfile profile => .upsertStorageProfile profile
  | upsertProject project => .upsertProject project
  | upsertServer server => .upsertServer server
  | upsertWarehouse warehouse | upsertProjectWarehouse warehouse => .upsertWarehouse warehouse

/-- The type, table and payload of the event, from what the call of the store returns. -/
def describe (store : MemoryState) (receipt : AuthorizationReceipt) (now : Timestamp) :
    ChangeRequest → LakeCatResult (String × Option TableIdent × Json)
  | createNamespace warehouse ns properties => do
      let _ ← store.createNamespaceWithProperties warehouse ns properties
      return ("namespace.created", none,
        namespaceEventPayload "namespace.created" receipt warehouse ns)
  | updateNamespaceProperties warehouse ns update => do
      let _ ← store.updateNamespaceProperties warehouse ns update
      return ("namespace.properties-updated", none,
        namespaceEventPayload "namespace.properties-updated" receipt warehouse ns)
  | dropNamespace warehouse ns => do
      let dropped ← store.dropNamespace warehouse ns
      return ("namespace.dropped", none,
        namespaceEventPayload "namespace.dropped" receipt warehouse dropped.1)
  | createTable table => do
      let created ← store.createTable table
      return ("table.created", some table.ident, tableEventPayload "table.created" receipt created.1)
  | registerTable table => do
      let created ← store.createTable table
      return ("table.registered", some created.1.ident,
        tableEventPayload "table.registered" receipt created.1)
  | upsertView view expected => do
      let stored ← store.upsertViewIfVersion view expected now
      return ("view.upserted", none,
        viewEventPayload "view.upserted" none receipt view.warehouse view.ns stored.1 expected)
  | catalogUpsertView view expected => do
      let stored ← store.upsertViewIfVersion view expected now
      return ("view.upserted", none, viewEventPayload "view.upserted" (some "iceberg-rest") receipt
        view.warehouse view.ns stored.1 expected)
  | dropView warehouse ns view expected => do
      let dropped ← (store.dropViewIfVersion warehouse ns view receipt.principal expected now).1
      return ("view.dropped", none,
        viewEventPayload "view.dropped" none receipt warehouse ns dropped expected)
  | catalogDropView warehouse ns view expected => do
      let dropped ← (store.dropViewIfVersion warehouse ns view receipt.principal expected now).1
      return ("view.dropped", none, viewEventPayload "view.dropped" (some "iceberg-rest") receipt
        warehouse ns dropped expected)
  | upsertPolicyBinding binding => do
      let stored ← store.upsertPolicyBinding binding
      return ("policy-binding.upserted", none, .object [
        ("event-type", .str "policy-binding.upserted"),
        ("warehouse", .str binding.warehouse.value), ("policy", policyEventPayload stored.1),
        ("authorization-receipt", receipt.toJson)])
  | upsertStorageProfile profile => do
      let stored ← store.upsertStorageProfile profile
      return ("storage-profile.upserted", none, .object [
        ("event-type", .str "storage-profile.upserted"),
        ("warehouse", .str profile.warehouse.value),
        ("storage-profile", storageProfileEventPayload stored.1),
        ("authorization-receipt", receipt.toJson)])
  | upsertProject project => do
      let stored ← store.upsertProject project
      return ("project.upserted", none, .object [("event-type", .str "project.upserted"),
        ("project-id", .str stored.1.projectId), ("project-record", projectResponse stored.1),
        ("authorization-receipt", receipt.toJson)])
  | upsertServer server => do
      let stored ← store.upsertServer server
      return ("server.upserted", none, redactServerEventPayload (.object [
        ("event-type", .str "server.upserted"), ("server-id", .str stored.1.serverId),
        ("server-record", serverResponse stored.1), ("authorization-receipt", receipt.toJson)]))
  | upsertWarehouse warehouse => do
      let stored ← store.upsertWarehouse warehouse
      return ("warehouse.upserted", none, warehouseEventPayload none receipt stored.1)
  | upsertProjectWarehouse warehouse => do
      let stored ← store.upsertWarehouse warehouse
      return ("warehouse.upserted", none,
        warehouseEventPayload (some stored.1.projectId) receipt stored.1)

/-- The event that the handler goes on to record. -/
def event (store : MemoryState) (receipt : AuthorizationReceipt) (now recorded : Timestamp)
    (request : ChangeRequest) : LakeCatResult CatalogAuditEvent := do
  let described ← request.describe store receipt now
  return .new described.1 described.2.1 receipt.principal described.2.2 recorded

end ChangeRequest

/-- The types of the events that are recorded by a call of their own after the change. -/
def changeEventTypes : List String :=
  ["namespace.created", "namespace.properties-updated", "namespace.dropped", "table.created",
    "table.registered", "view.upserted", "view.dropped", "policy-binding.upserted",
    "storage-profile.upserted", "project.upserted", "server.upserted", "warehouse.upserted"]

theorem describe_type {store : MemoryState} {receipt : AuthorizationReceipt} {now : Timestamp}
    {request : ChangeRequest} {described : String × Option TableIdent × Json}
    (made : request.describe store receipt now = .ok described) :
    described.1 ∈ changeEventTypes := by
  cases request <;>
    (simp only [ChangeRequest.describe, bind_eq_ok, pure_eq, Except.ok.injEq] at made
     obtain ⟨_, _, rfl⟩ := made
     simp [changeEventTypes])

/-- An event is made exactly when the call of the store succeeds. -/
theorem describe_succeeds (store : MemoryState) (receipt : AuthorizationReceipt) (now : Timestamp)
    (request : ChangeRequest) :
    (request.describe store receipt now).isOk = store.succeeds (request.change receipt now) := by
  have kept {α β : Type} (result : LakeCatResult α) (next : α → β) :
      (do let value ← result; return next value : LakeCatResult β).isOk = result.isOk := by
    cases result <;> rfl
  cases request <;> exact kept _ _

end

end LakeCat
