import LakeCat.OutboxDelivery

/-!
The graph events of one projection: the object that each is about, and the part
of the recorded event that its id is made of.
-/

namespace LakeCat

open Fallible

/-- What a graph event may be about. -/
inductive GraphObject where
  | server (serverId : String)
  | project (projectId : String)
  | warehouse (name : WarehouseName)
  | ns (warehouse : WarehouseName) (ns : Namespace)
  | table (ident : TableIdent)
  | view (warehouse : WarehouseName) (ns : Namespace) (name : String)
  | column (table : TableIdent) (columnId : String)
  | snapshot (table : TableIdent) (snapshotId : String)
  | commit (table : TableIdent) (sequenceNumber : Nat)
  | policy (warehouse : WarehouseName) (policyId : String)
  | storageProfile (warehouse : WarehouseName) (profileId : String)
  | principal (named : Principal)
  | scanPlan (planId : String)
  | model (warehouse : WarehouseName) (modelId : String)
  deriving DecidableEq

/-- The event that the constructor of the object makes. -/
def GraphObject.graphEvent (action : GraphAction) (properties : Json) : GraphObject → GraphEvent
  | server serverId => .server action serverId properties
  | project projectId => .project action projectId properties
  | warehouse name => .warehouse action name properties
  | ns owner path => .ofNamespace action owner path properties
  | table ident => .ofTable action ident properties
  | view owner path name => .view action owner path name properties
  | column ident columnId => .column action ident columnId properties
  | snapshot ident snapshotId => .snapshot action ident snapshotId properties
  | commit ident sequenceNumber => .commit action ident sequenceNumber properties
  | policy owner policyId => .policy action owner policyId properties
  | storageProfile owner profileId => .storageProfile action owner profileId properties
  | principal named => .principal action named properties
  | scanPlan planId => .scanPlan action planId properties
  | model owner modelId => .querygraphModel action owner modelId properties

def GraphObject.label (object : GraphObject) : GraphNodeLabel :=
  (object.graphEvent .loaded .null).label

/-- What follows the id of the recorded event in the id of a graph event. -/
inductive IdPart where
  | whole
  | principal
  | column (columnId : String)
  | snapshot (snapshotId : String)
  | scanPlan
  | commit
  | commitHistory (sequenceNumber : Nat)
  | storageProfile
  deriving DecidableEq

def IdPart.text : IdPart → String
  | whole => ""
  | principal => ":principal"
  | column columnId => ":column:" ++ columnId
  | snapshot snapshotId => ":snapshot:" ++ snapshotId
  | scanPlan => ":scan-plan"
  | commit => ":commit"
  | commitHistory sequenceNumber => ":commit-history:" ++ toString sequenceNumber
  | storageProfile => ":storage-profile"

theorem IdPart.text_injective : Function.Injective IdPart.text := by
  intro one other same
  have letters := congrArg String.toList same
  cases one <;> cases other <;>
    simp only [IdPart.text, String.toList_append] at letters <;> simp at letters ⊢
  case column.column => exact String.toList_injective letters
  case snapshot.snapshot => exact String.toList_injective letters
  case commitHistory.commitHistory =>
    have read := congrArg (Nat.ofDigitChars 10 · 0) letters
    simpa using read

namespace Emission

def graphEvent : Emission → Option GraphEvent
  | graph event => some event
  | lineage _ => none

def lineageEvent : Emission → Option LineageEvent
  | graph _ => none
  | lineage event => some event

end Emission

def graphEvents (emissions : List Emission) : List GraphEvent :=
  emissions.filterMap Emission.graphEvent

def lineageEvents (emissions : List Emission) : List LineageEvent :=
  emissions.filterMap Emission.lineageEvent

abbrev GraphTag := IdPart × GraphObject

/-- A graph event with its part of the id of the recorded event and with its object. -/
structure Tagged (event : OutboxEvent) (graphEvent : GraphEvent) (tag : GraphTag) : Prop where
  named : graphEvent.eventId = some (event.eventId ++ tag.1.text)
  about : ∃ action properties,
    graphEvent = (tag.2.graphEvent action properties).withEventId (event.eventId ++ tag.1.text)

theorem tagged_of_id {event : OutboxEvent} {eventId : String} (action : GraphAction)
    (properties : Json) (part : IdPart) (object : GraphObject)
    (same : eventId = event.eventId ++ part.text) :
    Tagged event ((object.graphEvent action properties).withEventId eventId) (part, object) := by
  subst same
  exact ⟨rfl, action, properties, rfl⟩

/-- An event under the very id of the recorded event. -/
theorem tagged_whole {event : OutboxEvent} (action : GraphAction) (properties : Json)
    (object : GraphObject) :
    Tagged event ((object.graphEvent action properties).withEventId event.eventId)
      (.whole, object) :=
  tagged_of_id action properties .whole object String.append_empty.symm

namespace Projection

/-- Whatever was made before, these calls follow, and this is the outcome. -/
def Emits (projection : Projection α) (added : List Emission) (outcome : LakeCatResult α) : Prop :=
  ∀ made, projection made = (outcome, made ++ added)

theorem emits_pure (value : α) : Emits (pure value) [] (.ok value) := by
  intro made
  rw [List.append_nil]
  rfl

theorem emits_graph (event : GraphEvent) : Emits (graph event) [.graph event] (.ok ()) :=
  fun _ => rfl

theorem emits_lineage (event : LineageEvent) :
    Emits (lineage event) [.lineage event] (.ok ()) :=
  fun _ => rfl

theorem Emits.bind {first : Projection α} {next : α → Projection β} {value : α}
    {added later : List Emission} {outcome : LakeCatResult β}
    (made : Emits first added (.ok value)) (follows : Emits (next value) later outcome) :
    Emits (first >>= next) (added ++ later) outcome := by
  intro before
  dsimp only [Bind.bind]
  rw [made before]
  dsimp only
  rw [follows, List.append_assoc]

/-- A projection that goes through and adds graph events with these tags. -/
def Adds (event : OutboxEvent) (projection : Projection Unit) (tags : List GraphTag) : Prop :=
  ∃ added, Emits projection added (.ok ()) ∧ List.Forall₂ (Tagged event) (graphEvents added) tags

/-- The graph events that a projection adds have tags as the statement allows them. -/
def Shows (event : OutboxEvent) (projection : Projection α) (allowed : List GraphTag → Prop) :
    Prop :=
  ∃ added outcome tags, Emits projection added outcome ∧
    List.Forall₂ (Tagged event) (graphEvents added) tags ∧ allowed tags

section
variable {event : OutboxEvent} {allowed : List GraphTag → Prop}

theorem adds_pure : Adds event (pure ()) [] := ⟨[], emits_pure (), .nil⟩

theorem adds_graph {graphEvent : GraphEvent} {tag : GraphTag}
    (tagged : Tagged event graphEvent tag) : Adds event (graph graphEvent) [tag] :=
  ⟨[.graph graphEvent], emits_graph graphEvent, .cons tagged .nil⟩

theorem Adds.bind {first : Projection Unit} {next : Unit → Projection Unit}
    {tags others : List GraphTag} (made : Adds event first tags)
    (follows : Adds event (next ()) others) : Adds event (first >>= next) (tags ++ others) := by
  obtain ⟨added, emits, tagged⟩ := made
  obtain ⟨later, follows, alike⟩ := follows
  refine ⟨added ++ later, emits.bind follows, ?_⟩
  rw [graphEvents, List.filterMap_append]
  exact List.rel_append tagged alike

theorem adds_each {body : α → Projection Unit} {tags : α → List GraphTag} (items : List α)
    (one : ∀ item, Adds event (body item) (tags item)) :
    Adds event (each body items) (items.flatMap tags) := by
  induction items with
  | nil => exact adds_pure
  | cons item rest ih => exact (one item).bind ih

theorem shows_pure (value : α) (silent : allowed []) : Shows event (pure value) allowed :=
  ⟨[], .ok value, [], emits_pure value, .nil, silent⟩

theorem shows_lineage (lineageEvent : LineageEvent) (silent : allowed []) :
    Shows event (lineage lineageEvent) allowed :=
  ⟨[.lineage lineageEvent], .ok (), [], emits_lineage lineageEvent, .nil, silent⟩

theorem shows_reading {read : LakeCatResult α} {next : α → Projection β}
    (failed : (∀ value, read ≠ .ok value) → allowed [])
    (follows : ∀ value, read = .ok value → Shows event (next value) allowed) :
    Shows event (reading read >>= next) allowed := by
  cases read with
  | error error =>
      refine ⟨[], .error error, [], fun made => ?_, .nil, failed fun _ => by simp⟩
      simp [reading_bind]
  | ok value => exact follows value rfl

theorem shows_bind {first : Projection Unit} {next : Unit → Projection β} {tags : List GraphTag}
    (made : Adds event first tags)
    (follows : Shows event (next ()) fun later => allowed (tags ++ later)) :
    Shows event (first >>= next) allowed := by
  obtain ⟨added, emits, tagged⟩ := made
  obtain ⟨later, outcome, others, follows, alike, shown⟩ := follows
  refine ⟨added ++ later, outcome, tags ++ others, emits.bind follows, ?_, shown⟩
  rw [graphEvents, List.filterMap_append]
  exact List.rel_append tagged alike

theorem Shows.mono {projection : Projection α} {wider : List GraphTag → Prop}
    (shown : Shows event projection allowed) (within : ∀ tags, allowed tags → wider tags) :
    Shows event projection wider := by
  obtain ⟨added, outcome, tags, emits, alike, holds⟩ := shown
  exact ⟨added, outcome, tags, emits, alike, within tags holds⟩

end

end Projection

/-- The ids of the columns that a payload shows. -/
def metadataColumnIds (eventPayload : Json) : List String :=
  match (eventPayload.get "metadata-graph").or (eventPayload.get "metadata") with
  | none => []
  | some metadataGraph => (metadataGraphFields metadataGraph).filterMap metadataFieldId

def metadataSnapshotId (eventPayload : Json) : Option String :=
  ((eventPayload.get "metadata-graph").or (eventPayload.get "metadata")).bind fun metadataGraph =>
    (metadataGraphCurrentSnapshot metadataGraph).map Prod.fst

def columnTag (ident : TableIdent) (columnId : String) : GraphTag :=
  (.column columnId, .column ident columnId)

def snapshotTag (ident : TableIdent) (snapshotId : String) : GraphTag :=
  (.snapshot snapshotId, .snapshot ident snapshotId)

def historyTag (ident : TableIdent) (sequenceNumber : Nat) : GraphTag :=
  (.commitHistory sequenceNumber, .commit ident sequenceNumber)

def metadataTags (ident : TableIdent) (eventPayload : Json) : List GraphTag :=
  (metadataColumnIds eventPayload).map (columnTag ident) ++
    (metadataSnapshotId eventPayload).toList.map (snapshotTag ident)

/-- What the events of a type are about, under the very id of the recorded event. -/
def outboxWholeLabel : String → Option GraphNodeLabel
  | "catalog.config-read" | "namespace.listed" | "warehouse.upserted" => some .warehouse
  | "namespace.created" | "namespace.dropped" | "namespace.loaded"
  | "namespace.properties-updated" | "view.listed" => some .namespace
  | "policy-binding.upserted" => some .policy
  | "model.published" => some .queryGraphModel
  | "project.upserted" => some .project
  | "server.upserted" => some .server
  | "storage-profile.upserted" => some .storageProfile
  | "view.upserted" | "view.loaded" | "view.dropped" => some .view
  | "table.restored" => some .table
  | _ => none

namespace OutboxEvent

def scanTags (event : OutboxEvent) : List GraphTag :=
  if outboxIsScanProjection event.eventType then [(.scanPlan, .scanPlan event.eventId)] else []

end OutboxEvent

def principalTags (principal : Principal) : List GraphTag :=
  if principal.kind = .anonymous then [] else [(.principal, .principal principal)]

namespace OutboxEvent

section
variable [External] (event : OutboxEvent) (defaultWarehouse : WarehouseName)

def commitTags (ident : TableIdent) : List GraphTag :=
  if event.eventType = "table.commit" then
    match event.outboxCommitSequenceNumber with
    | .ok sequenceNumber => [(.commit, .commit ident sequenceNumber)]
    | .error _ => []
  else []

/-- What the document of an event names, read as its type has it read. -/
inductive Names : GraphObject → Prop where
  | warehouse {owner : WarehouseName} (read : event.outboxWarehouse defaultWarehouse = .ok owner) :
      Names (.warehouse owner)
  | ns {owner : WarehouseName} {path : Namespace}
      (read : event.outboxNamespace defaultWarehouse = .ok (owner, path)) : Names (.ns owner path)
  | view {owner : WarehouseName} {path : Namespace} {name : String}
      (read : event.outboxView defaultWarehouse = .ok (owner, path, name)) :
      Names (.view owner path name)
  | policy {owner : WarehouseName} {policyId : String}
      (read : event.outboxPolicyBinding defaultWarehouse = .ok (owner, policyId)) :
      Names (.policy owner policyId)
  | model {owner : WarehouseName} {modelId : String}
      (owned : event.outboxWarehouse defaultWarehouse = .ok owner)
      (read : event.outboxModel = .ok modelId) : Names (.model owner modelId)
  | project {projectId : String} (read : event.outboxProject = .ok projectId) :
      Names (.project projectId)
  | server {serverId : String} (read : event.outboxServer = .ok serverId) :
      Names (.server serverId)
  | storageProfile {owner : WarehouseName} {profileId : String}
      (read : event.outboxStorageProfile defaultWarehouse = .ok (owner, profileId)) :
      Names (.storageProfile owner profileId)
  | table {ident : TableIdent} (read : event.outboxTable = .ok (some ident)) :
      Names (.table ident)

/-- The tags that follow the one of the principal. -/
inductive MainTags : List GraphTag → Prop where
  | silent (other : outboxTableProjection event.eventType = none ∨ event.outboxTable = .ok none) :
      MainTags []
  | whole {object : GraphObject} (other : outboxTableProjection event.eventType = none)
      (labelled : outboxWholeLabel event.eventType = some object.label)
      (named : event.Names defaultWarehouse object) : MainTags [(.whole, object)]
  | profile {owner : WarehouseName} {profileId : String}
      (typed : event.eventType = "credentials.vend-attempted")
      (read : event.outboxOptionalStorageProfile defaultWarehouse = .ok (some (owner, profileId))) :
      MainTags [(.storageProfile, .storageProfile owner profileId)]
  | history {ident : TableIdent} {entries : List (Nat × String)}
      (typed : event.eventType = "table.commits-listed")
      (table : event.outboxTable = .ok (some ident))
      (read : event.outboxCommitHistoryEntries = .ok entries) :
      MainTags (entries.map fun entry => historyTag ident entry.1)
  | table {ident : TableIdent} (typed : outboxTableProjection event.eventType ≠ none)
      (table : event.outboxTable = .ok (some ident)) :
      MainTags ((.whole, .table ident) :: metadataTags ident event.inner ++ event.scanTags ++
        event.commitTags ident)

/-- The tags of all graph events of a projection. -/
inductive ProjectedTags : List GraphTag → Prop where
  | unread (failed : (∀ table, event.outboxTable ≠ .ok table) ∨
      ∀ principal, event.outboxPrincipal ≠ .ok principal) : ProjectedTags []
  | read {table : Option TableIdent} {principal : Principal} {tags : List GraphTag}
      (found : event.outboxTable = .ok table) (named : event.outboxPrincipal = .ok principal)
      (main : event.MainTags defaultWarehouse tags) :
      ProjectedTags (principalTags principal ++ tags)

variable {event defaultWarehouse}

open Projection

omit [External] in
theorem projectTableMetadataGraphEvents_adds (action : GraphAction) (ident : TableIdent)
    (eventPayload : Json) :
    Adds event (event.projectTableMetadataGraphEvents action ident eventPayload)
      (metadataTags ident eventPayload) := by
  rw [projectTableMetadataGraphEvents, metadataTags, metadataColumnIds, metadataSnapshotId]
  cases shown : (eventPayload.get "metadata-graph").or (eventPayload.get "metadata") with
  | none => exact adds_pure
  | some metadataGraph =>
      dsimp only [Option.bind_some]
      refine Adds.bind ?_ ?_
      · rw [List.map_filterMap, List.filterMap_eq_flatMap_toList]
        refine adds_each _ fun field => ?_
        cases named : metadataFieldId field with
        | none => exact adds_pure
        | some columnId =>
            exact adds_graph (tagged_of_id action _ (.column columnId) (.column ident columnId)
              String.append_assoc)
      · cases current : metadataGraphCurrentSnapshot metadataGraph with
        | none => exact adds_pure
        | some found =>
            obtain ⟨snapshotId, snapshot⟩ := found
            exact adds_graph (tagged_of_id action _ (.snapshot snapshotId) (.snapshot ident snapshotId)
              String.append_assoc)

/-- The end of a table's projection: the commit, if it is one, and the lineage event. -/
theorem commit_shows {allowed : List GraphTag → Prop} (ident : TableIdent) (eventPayload : Json)
    (lineageEvent : LineageEvent) (shown : allowed (event.commitTags ident)) :
    Shows event
      (if event.eventType = "table.commit" then do
        let sequenceNumber ← reading event.outboxCommitSequenceNumber
        graph ((GraphEvent.commit .committed ident sequenceNumber eventPayload).withEventId
          (event.eventId ++ ":commit"))
        lineage lineageEvent
      else lineage lineageEvent) allowed := by
  rw [commitTags] at shown
  by_cases typed : event.eventType = "table.commit"
  · rw [if_pos typed] at shown ⊢
    refine shows_reading ?_ ?_
    · intro failed
      cases read : event.outboxCommitSequenceNumber with
      | error error => simpa [read] using shown
      | ok sequenceNumber => exact absurd read (failed sequenceNumber)
    · intro sequenceNumber read
      rw [read] at shown
      refine shows_bind (adds_graph (tagged_of_id _ _ .commit (.commit ident sequenceNumber) rfl)) ?_
      exact shows_lineage _ shown
  · rw [if_neg typed] at shown ⊢
    exact shows_lineage _ shown

theorem projectTableEvent_shows {graphAction : GraphAction} {lineageType : LineageEventType}
    {ident : TableIdent} (principal : Principal)
    (typed : outboxTableProjection event.eventType ≠ none)
    (table : event.outboxTable = .ok (some ident)) :
    Shows event (event.projectTableEvent graphAction lineageType principal ident event.inner)
      (event.MainTags defaultWarehouse) := by
  have shown : event.MainTags defaultWarehouse ((.whole, .table ident) ::
    metadataTags ident event.inner ++ event.scanTags ++ event.commitTags ident) :=
      .table typed table
  rw [projectTableEvent]
  refine shows_bind (adds_graph (tagged_whole graphAction _ (.table ident))) ?_
  refine shows_bind (projectTableMetadataGraphEvents_adds _ _ _) ?_
  by_cases scan : outboxIsScanProjection event.eventType = true
  · simp only [scan, if_true]
    refine shows_bind (adds_graph (tagged_of_id _ _ .scanPlan (.scanPlan event.eventId) rfl)) ?_
    apply commit_shows
    simpa [scanTags, scan] using shown
  · simp only [scan]
    apply commit_shows
    simpa [scanTags, scan] using shown

/-- A graph event under the id of the recorded event, and then its lineage event. -/
theorem projectBoth_shows (object : GraphObject) (graphAction : GraphAction) (properties : Json)
    (lineageType : LineageEventType) (principal : Principal) (table : Option TableIdent)
    (eventPayload : Json) (other : outboxTableProjection event.eventType = none)
    (labelled : outboxWholeLabel event.eventType = some object.label)
    (named : event.Names defaultWarehouse object) :
    Shows event (event.projectBoth (object.graphEvent graphAction properties) lineageType principal
      table eventPayload) (event.MainTags defaultWarehouse) := by
  rw [projectBoth]
  refine shows_bind (adds_graph (tagged_whole graphAction properties object)) ?_
  exact shows_lineage _ (.whole other labelled named)

theorem projectNamespaceEvent_shows (graphAction : GraphAction) (lineageType : LineageEventType)
    (principal : Principal) (eventPayload : Json)
    (other : outboxTableProjection event.eventType = none)
    (labelled : outboxWholeLabel event.eventType = some .namespace) :
    Shows event (event.projectNamespaceEvent graphAction lineageType defaultWarehouse principal
      eventPayload) (event.MainTags defaultWarehouse) := by
  rw [projectNamespaceEvent]
  refine shows_reading (fun _ => .silent (.inl other)) ?_
  rintro ⟨owner, path⟩ read
  exact projectBoth_shows (.ns owner path) _ _ _ _ _ _ other labelled (.ns read)

theorem projectViewEvent_shows (graphAction : GraphAction) (lineageType : LineageEventType)
    (principal : Principal) (eventPayload : Json)
    (other : outboxTableProjection event.eventType = none)
    (labelled : outboxWholeLabel event.eventType = some .view) :
    Shows event (event.projectViewEvent graphAction lineageType defaultWarehouse principal
      eventPayload) (event.MainTags defaultWarehouse) := by
  rw [projectViewEvent]
  refine shows_reading (fun _ => .silent (.inl other)) ?_
  rintro ⟨owner, path, name⟩ read
  exact projectBoth_shows (.view owner path name) _ _ _ _ _ _ other labelled (.view read)

theorem projectCredentialsEvent_shows (principal : Principal) (table : Option TableIdent)
    (eventPayload : Json) (typed : event.eventType = "credentials.vend-attempted") :
    Shows event (event.projectCredentialsEvent defaultWarehouse principal table eventPayload)
      (event.MainTags defaultWarehouse) := by
  have other : outboxTableProjection event.eventType = none := by rw [typed]; rfl
  rw [projectCredentialsEvent]
  refine shows_reading (fun _ => .silent (.inl other)) ?_
  rintro (_ | ⟨owner, profileId⟩) read
  · exact shows_lineage _ (.silent (.inl other))
  · refine shows_bind (adds_graph (tagged_of_id _ _ .storageProfile
      (.storageProfile owner profileId) rfl)) ?_
    exact shows_lineage _ (.profile typed read)

theorem projectTableCommitHistoryGraphEvents_shows {ident : TableIdent} (eventPayload : Json)
    (lineageEvent : LineageEvent) (typed : event.eventType = "table.commits-listed")
    (table : event.outboxTable = .ok (some ident)) :
    Shows event (do
        event.projectTableCommitHistoryGraphEvents ident eventPayload
        lineage lineageEvent)
      (event.MainTags defaultWarehouse) := by
  have other : outboxTableProjection event.eventType = none := by rw [typed]; rfl
  have whole {next : List (Nat × String) → Projection Unit} :
      (reading event.outboxCommitHistoryEntries >>= next >>= fun _ => lineage lineageEvent) =
        reading event.outboxCommitHistoryEntries >>= fun entries =>
          next entries >>= fun _ => lineage lineageEvent := by
    funext made
    cases event.outboxCommitHistoryEntries <;> rfl
  rw [projectTableCommitHistoryGraphEvents, whole]
  refine shows_reading (fun _ => .silent (.inl other)) ?_
  intro entries read
  have shown : event.MainTags defaultWarehouse
      (entries.map fun entry => historyTag ident entry.1) := .history typed table read
  rw [List.map_eq_flatMap] at shown
  refine shows_bind (adds_each entries fun entry => adds_graph (tagged_of_id _ _
    (.commitHistory entry.1) (.commit ident entry.1) String.append_assoc)) ?_
  exact shows_lineage _ (by rwa [List.append_nil])

theorem projectByType_shows (principal : Principal) {table : Option TableIdent}
    (other : outboxTableProjection event.eventType = none)
    (found : event.outboxTable = .ok table) :
    Shows event (event.projectByType defaultWarehouse principal table event.inner)
      (event.MainTags defaultWarehouse) := by
  have silent : event.MainTags defaultWarehouse [] := .silent (.inl other)
  unfold projectByType
  dsimp only
  split
  case h_1 typed | h_6 typed | h_24 typed =>
    refine shows_reading (fun _ => silent) fun owner read => ?_
    exact projectBoth_shows (.warehouse owner) _ _ _ _ _ _ other (by rw [typed]; rfl)
      (.warehouse read)
  case h_2 typed | h_3 typed | h_4 typed | h_5 typed | h_12 typed =>
    exact projectNamespaceEvent_shows _ _ _ _ other (by rw [typed]; rfl)
  case h_21 typed | h_22 typed | h_23 typed =>
    exact projectViewEvent_shows _ _ _ _ other (by rw [typed]; rfl)
  case h_14 typed =>
    cases table with
    | none => exact shows_lineage _ silent
    | some ident => exact projectTableCommitHistoryGraphEvents_shows _ _ typed found
  case h_16 typed =>
    refine shows_reading (fun _ => silent) ?_
    rintro ⟨owner, policyId⟩ read
    exact projectBoth_shows (.policy owner policyId) _ _ _ _ _ _ other (by rw [typed]; rfl)
      (.policy read)
  case h_17 typed =>
    refine shows_reading (fun _ => silent) fun owner owned => ?_
    refine shows_reading (fun _ => silent) fun modelId read => ?_
    exact projectBoth_shows (.model owner modelId) _ _ _ _ _ _ other (by rw [typed]; rfl)
      (.model owned read)
  case h_18 typed =>
    refine shows_reading (fun _ => silent) fun projectId read => ?_
    exact projectBoth_shows (.project projectId) _ _ _ _ _ _ other (by rw [typed]; rfl)
      (.project read)
  case h_19 typed =>
    refine shows_reading (fun _ => silent) fun serverId read => ?_
    exact projectBoth_shows (.server serverId) _ _ _ _ _ _ other (by rw [typed]; rfl) (.server read)
  case h_20 typed =>
    refine shows_reading (fun _ => silent) ?_
    rintro ⟨owner, profileId⟩ read
    exact projectBoth_shows (.storageProfile owner profileId) _ _ _ _ _ _ other
      (by rw [typed]; rfl) (.storageProfile read)
  case h_25 typed =>
    cases table with
    | none => exact shows_pure () silent
    | some ident =>
        exact projectBoth_shows (.table ident) _ _ _ _ _ _ other (by rw [typed]; rfl) (.table found)
  case h_26 typed => exact projectCredentialsEvent_shows _ _ _ typed
  case h_28 => exact shows_pure () silent
  all_goals exact shows_lineage _ silent

theorem eventBody_shows (principal : Principal) {table : Option TableIdent}
    (found : event.outboxTable = .ok table) :
    Shows event
      (match outboxTableProjection event.eventType with
        | some (graphAction, lineageType) =>
            match table with
            | none => pure ()
            | some table =>
                event.projectTableEvent graphAction lineageType principal table event.inner
        | none => event.projectByType defaultWarehouse principal table event.inner)
      (event.MainTags defaultWarehouse) := by
  cases typed : outboxTableProjection event.eventType with
  | none => exact projectByType_shows principal typed found
  | some projected =>
      obtain ⟨graphAction, lineageType⟩ := projected
      cases table with
      | none => exact shows_pure () (.silent (.inr found))
      | some ident => exact projectTableEvent_shows principal (by simp [typed]) found

/-- The graph events of any projection, by what they are about and by their ids. -/
theorem projectOutboxEvent_shows (event : OutboxEvent) (defaultWarehouse : WarehouseName) :
    Shows event (event.projectOutboxEvent defaultWarehouse)
      (event.ProjectedTags defaultWarehouse) := by
  rw [projectOutboxEvent]
  refine shows_reading (fun failed => .unread (.inl failed)) fun table found => ?_
  refine shows_reading (fun failed => .unread (.inr failed)) fun principal named => ?_
  have main : Shows event _ (event.MainTags defaultWarehouse) := eventBody_shows principal found
  by_cases anonymous : principal.kind = .anonymous
  · simp only [anonymous, ne_eq, not_true, if_false]
    refine main.mono fun tags shown => ?_
    have read := ProjectedTags.read found named shown
    rwa [principalTags, if_pos anonymous] at read
  · simp only [ne_eq, anonymous, not_false_eq_true, if_true]
    refine shows_bind (adds_graph (tagged_of_id _ _ .principal (.principal principal) rfl)) ?_
    refine main.mono fun tags shown => ?_
    have read := ProjectedTags.read found named shown
    rwa [principalTags, if_neg anonymous] at read

end

end OutboxEvent

end LakeCat
