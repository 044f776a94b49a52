import LakeCat.OutboxEmissions

/-!
`project_outbox_event`: what one recorded event sends to the two sinks. A
projection is given by the calls it makes, in order, and by the error that
stops it when the document of the event cannot be read further.
-/

namespace LakeCat

open Fallible

/-- The calls made so far, and the error that ends them. -/
abbrev Projection (α : Type) := List Emission → LakeCatResult α × List Emission

namespace Projection

def graph (event : GraphEvent) : Projection Unit := fun made =>
  (.ok (), made ++ [.graph event])

def lineage (event : LineageEvent) : Projection Unit := fun made =>
  (.ok (), made ++ [.lineage event])

/-- A part of the document that is read between two calls. -/
def reading (result : LakeCatResult α) : Projection α := fun made => (result, made)

instance : Monad Projection where
  pure value := fun made => (.ok value, made)
  bind first next := fun made =>
    match first made with
    | (.ok value, made) => next value made
    | (.error error, made) => (.error error, made)

def each (body : α → Projection Unit) : List α → Projection Unit
  | [] => pure ()
  | item :: rest => do
      body item
      each body rest

end Projection

def Json.remove (value : Json) (key : String) : Json :=
  match value with
  | .obj fields => .obj (fields.filter fun field => field.1 ≠ key)
  | other => other

section
variable [External]

/-- A record of the payload with one of its texts replaced by the hash of the text. -/
def redactRecordField (payload : Json) (record field hashField : String) : Json :=
  match (payload.get record).filter Json.isObject with
  | none => payload
  | some stored =>
      let redacted := stored.remove field
      match (stored.get field).bind Json.asStr with
      | none => payload.set record redacted
      | some text =>
          payload.set record
            (redacted.set hashField (.str (contentHashJson (.object [(field, .str text)]))))

def redactWarehouseEventPayload (payload : Json) : Json :=
  redactRecordField payload "warehouse-record" "storage-root" "storage-root-hash"

def redactServerEventPayload (payload : Json) : Json :=
  redactRecordField payload "server-record" "endpoint-url" "endpoint-url-hash"

def schemeChars : List Char → Option (List Char)
  | [] => none
  | ch :: rest =>
      if "://".toList.isPrefixOf (ch :: rest) then some []
      else (schemeChars rest).map (ch :: ·)

/-- `secret_ref.split_once("://")`, first half. -/
def secretRefProviderLabel (secretRef : String) : Option String :=
  (schemeChars secretRef.toList).map String.ofList

def redactStorageProfileEventPayload (payload : Json) : Json :=
  match (payload.get "storage-profile").filter Json.isObject with
  | none => payload
  | some profile =>
      let prefixed := profile.remove "location-prefix"
      let prefixed := match (profile.get "location-prefix").bind Json.asStr with
        | none => prefixed
        | some locationPrefix =>
            prefixed.set "location-prefix-hash"
              (.str (contentHashJson (.object [("location-prefix", .str locationPrefix)])))
      let rawSecretRef := (prefixed.get "secret-ref").bind Json.asStr
      let hashed := prefixed.remove "secret-ref"
      let hashed := match rawSecretRef with
        | none => hashed
        | some secretRef => hashed.set "secret-ref-hash" (.str (contentHashBytes secretRef))
      let secretRefPresent := rawSecretRef.isSome ||
        ((hashed.get "secret-ref-present").bind Json.asBool).getD false
      let hashed := hashed.set "secret-ref-present" (.bool secretRefPresent)
      let hashed := match rawSecretRef.bind secretRefProviderLabel with
        | none => hashed
        | some provider => hashed.set "secret-ref-provider" (.str provider)
      payload.set "storage-profile" hashed

end

def outboxTableProjection : String → Option (GraphAction × LineageEventType)
  | "table.created" => some (.created, .tableCreated)
  | "table.registered" => some (.created, .tableCreated)
  | "table.loaded" => some (.loaded, .tableLoaded)
  | "table.scan-planned" => some (.plannedScan, .tableScanPlanned)
  | "table.scan-tasks-fetched" => some (.plannedScan, .tableScanPlanned)
  | "table.commit" => some (.committed, .tableCommitted)
  | "table.renamed" => some (.renamed, .tableRenamed)
  | "table.deleted" => some (.deleted, .tableDeleted)
  | _ => none

def outboxIsScanProjection (eventType : String) : Bool :=
  eventType = "table.scan-planned" || eventType = "table.scan-tasks-fetched"

namespace OutboxEvent
variable [External]

/-- `replay_lineage_event`: the event is dated as the outbox event was. -/
def replayLineageEvent (event : OutboxEvent) (eventType : LineageEventType) (principal : Principal)
    (table : Option TableIdent) (payload : Json) : LineageEvent :=
  ⟨eventType, principal, table, payload, event.createdAt⟩

def projectTableMetadataGraphEvents (event : OutboxEvent) (action : GraphAction)
    (table : TableIdent) (eventPayload : Json) : Projection Unit :=
  match (eventPayload.get "metadata-graph").or (eventPayload.get "metadata") with
  | none => pure ()
  | some metadataGraph => do
      Projection.each (fun field =>
          match metadataFieldId field with
          | none => pure ()
          | some columnId =>
              Projection.graph
                ((GraphEvent.column action table columnId
                  (.object [("event-type", .str event.eventType), ("table", table.toJson),
                    ("current-schema-id", metadataGraph.field "current-schema-id"),
                    ("field", field)])).withEventId
                  (event.eventId ++ ":column:" ++ columnId)))
        (metadataGraphFields metadataGraph)
      match metadataGraphCurrentSnapshot metadataGraph with
      | none => pure ()
      | some (snapshotId, snapshot) =>
          Projection.graph
            ((GraphEvent.snapshot action table snapshotId
              (.object [("event-type", .str event.eventType), ("table", table.toJson),
                ("current-snapshot-id", metadataGraph.field "current-snapshot-id"),
                ("snapshot", snapshot)])).withEventId
              (event.eventId ++ ":snapshot:" ++ snapshotId))

def projectTableCommitHistoryGraphEvents (event : OutboxEvent) (table : TableIdent)
    (eventPayload : Json) : Projection Unit := do
  let entries ← Projection.reading event.outboxCommitHistoryEntries
  Projection.each (fun (sequenceNumber, commitHash) =>
      Projection.graph
        ((GraphEvent.commit .loaded table sequenceNumber
          (.object [("event-type", .str event.eventType), ("table", table.toJson),
            ("sequence-number", .int sequenceNumber), ("commit-hash", .str commitHash),
            ("commit-history-read", eventPayload)])).withEventId
          (event.eventId ++ ":commit-history:" ++ toString sequenceNumber)))
    entries

/-- The branch of `outbox_table_projection`. -/
def projectTableEvent (event : OutboxEvent) (graphAction : GraphAction)
    (lineageType : LineageEventType) (principal : Principal) (table : TableIdent)
    (eventPayload : Json) : Projection Unit := do
  Projection.graph ((GraphEvent.ofTable graphAction table eventPayload).withEventId event.eventId)
  event.projectTableMetadataGraphEvents graphAction table eventPayload
  if outboxIsScanProjection event.eventType then
    Projection.graph ((GraphEvent.scanPlan .plannedScan event.eventId eventPayload).withEventId
      (event.eventId ++ ":scan-plan"))
  if event.eventType = "table.commit" then do
    let sequenceNumber ← Projection.reading event.outboxCommitSequenceNumber
    Projection.graph
      ((GraphEvent.commit .committed table sequenceNumber eventPayload).withEventId
        (event.eventId ++ ":commit"))
  Projection.lineage (event.replayLineageEvent lineageType principal (some table) eventPayload)

/-- A graph event under the id of the outbox event, then its lineage event. -/
def projectBoth (event : OutboxEvent) (graphEvent : GraphEvent) (lineageType : LineageEventType)
    (principal : Principal) (table : Option TableIdent) (eventPayload : Json) :
    Projection Unit := do
  Projection.graph (graphEvent.withEventId event.eventId)
  Projection.lineage (event.replayLineageEvent lineageType principal table eventPayload)

def projectNamespaceEvent (event : OutboxEvent) (graphAction : GraphAction)
    (lineageType : LineageEventType) (defaultWarehouse : WarehouseName) (principal : Principal)
    (eventPayload : Json) : Projection Unit := do
  let (warehouse, ns) ← Projection.reading (event.outboxNamespace defaultWarehouse)
  event.projectBoth (.ofNamespace graphAction warehouse ns eventPayload) lineageType principal none
    eventPayload

def projectViewEvent (event : OutboxEvent) (graphAction : GraphAction)
    (lineageType : LineageEventType) (defaultWarehouse : WarehouseName) (principal : Principal)
    (eventPayload : Json) : Projection Unit := do
  let (warehouse, ns, name) ← Projection.reading (event.outboxView defaultWarehouse)
  event.projectBoth (.view graphAction warehouse ns name eventPayload) lineageType principal none
    eventPayload

def projectCredentialsEvent (event : OutboxEvent) (defaultWarehouse : WarehouseName)
    (principal : Principal) (table : Option TableIdent) (eventPayload : Json) :
    Projection Unit := do
  let profile ← Projection.reading (event.outboxOptionalStorageProfile defaultWarehouse)
  match profile with
  | none => pure ()
  | some (warehouse, profileId) =>
      Projection.graph
        ((GraphEvent.storageProfile .loaded warehouse profileId
          (redactStorageProfileEventPayload eventPayload)).withEventId
          (event.eventId ++ ":storage-profile"))
  Projection.lineage
    (event.replayLineageEvent .credentialsVendAttempted principal table eventPayload)

/-- The events that are about one table come first; the others are told apart by their type. -/
def projectByType (event : OutboxEvent) (defaultWarehouse : WarehouseName) (principal : Principal)
    (table : Option TableIdent) (eventPayload : Json) : Projection Unit :=
  let lineageOnly (lineageType : LineageEventType) : Projection Unit :=
    Projection.lineage (event.replayLineageEvent lineageType principal none eventPayload)
  match event.eventType with
  | "catalog.config-read" => do
      let warehouse ← Projection.reading (event.outboxWarehouse defaultWarehouse)
      let redacted := redactWarehouseEventPayload eventPayload
      event.projectBoth (.warehouse .loaded warehouse redacted) .catalogConfigRead principal none
        redacted
  | "namespace.created" =>
      event.projectNamespaceEvent .created .namespaceCreated defaultWarehouse principal eventPayload
  | "namespace.dropped" =>
      event.projectNamespaceEvent .deleted .namespaceDropped defaultWarehouse principal eventPayload
  | "namespace.loaded" =>
      event.projectNamespaceEvent .loaded .namespaceLoaded defaultWarehouse principal eventPayload
  | "namespace.properties-updated" =>
      event.projectNamespaceEvent .upserted .namespacePropertiesUpdated defaultWarehouse principal
        eventPayload
  | "namespace.listed" => do
      let warehouse ← Projection.reading (event.outboxWarehouse defaultWarehouse)
      event.projectBoth (.warehouse .loaded warehouse eventPayload) .namespaceListed principal none
        eventPayload
  | "policy-binding.listed" => lineageOnly .policyBindingListed
  | "project.listed" => lineageOnly .projectListed
  | "server.listed" => lineageOnly .serverListed
  | "storage-profile.listed" => lineageOnly .storageProfileListed
  | "warehouse.listed" => lineageOnly .warehouseListed
  | "view.listed" =>
      event.projectNamespaceEvent .loaded .viewListed defaultWarehouse principal eventPayload
  | "view.version-receipts-listed" => lineageOnly .viewVersionReceiptsListed
  | "table.commits-listed" => do
      match table with
      | none => pure ()
      | some table => event.projectTableCommitHistoryGraphEvents table eventPayload
      lineageOnly .tableCommitRecordsListed
  | "view.version-receipt-chains-listed" => lineageOnly .viewVersionReceiptChainsListed
  | "policy-binding.upserted" => do
      let (warehouse, policyId) ← Projection.reading (event.outboxPolicyBinding defaultWarehouse)
      event.projectBoth (.policy .upserted warehouse policyId eventPayload) .policyBindingUpserted
        principal none eventPayload
  | "model.published" => do
      let warehouse ← Projection.reading (event.outboxWarehouse defaultWarehouse)
      let modelId ← Projection.reading event.outboxModel
      event.projectBoth (.querygraphModel .upserted warehouse modelId eventPayload) .modelPublished
        principal none eventPayload
  | "project.upserted" => do
      let projectId ← Projection.reading event.outboxProject
      event.projectBoth (.project .upserted projectId eventPayload) .projectUpserted principal none
        eventPayload
  | "server.upserted" => do
      let serverId ← Projection.reading event.outboxServer
      let redacted := redactServerEventPayload eventPayload
      event.projectBoth (.server .upserted serverId redacted) .serverUpserted principal none
        redacted
  | "storage-profile.upserted" => do
      let (warehouse, profileId) ← Projection.reading (event.outboxStorageProfile defaultWarehouse)
      let redacted := redactStorageProfileEventPayload eventPayload
      event.projectBoth (.storageProfile .upserted warehouse profileId redacted)
        .storageProfileUpserted principal none redacted
  | "view.upserted" =>
      event.projectViewEvent .upserted .viewUpserted defaultWarehouse principal eventPayload
  | "view.loaded" =>
      event.projectViewEvent .loaded .viewLoaded defaultWarehouse principal eventPayload
  | "view.dropped" =>
      event.projectViewEvent .deleted .viewDropped defaultWarehouse principal eventPayload
  | "warehouse.upserted" => do
      let warehouse ← Projection.reading (event.outboxWarehouse defaultWarehouse)
      let redacted := redactWarehouseEventPayload eventPayload
      event.projectBoth (.warehouse .upserted warehouse redacted) .warehouseUpserted principal none
        redacted
  | "table.restored" =>
      match table with
      | none => pure ()
      | some table =>
          event.projectBoth (.ofTable .loaded table eventPayload) .tableRestored principal
            (some table) eventPayload
  | "credentials.vend-attempted" =>
      event.projectCredentialsEvent defaultWarehouse principal table eventPayload
  | "querygraph.bootstrap" => lineageOnly .queryGraphBootstrap
  | _ => pure ()

def projectOutboxEvent (event : OutboxEvent) (defaultWarehouse : WarehouseName) :
    Projection Unit := do
  let eventPayload := event.inner
  let table ← Projection.reading event.outboxTable
  let principal ← Projection.reading event.outboxPrincipal
  if principal.kind ≠ .anonymous then
    Projection.graph
      ((GraphEvent.principal .loaded principal
        (.object [("event-type", .str event.eventType),
          ("principal", principal.toJson)])).withEventId
        (event.eventId ++ ":principal"))
  match outboxTableProjection event.eventType with
  | some (graphAction, lineageType) =>
      match table with
      | none => pure ()
      | some table =>
          event.projectTableEvent graphAction lineageType principal table eventPayload
  | none => event.projectByType defaultWarehouse principal table eventPayload

end OutboxEvent

end LakeCat
