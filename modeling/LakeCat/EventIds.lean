import LakeCat.MemorySteps

/-!
The ids of the events that the store appends. An id is the hash of a document,
and two documents of one run differ in the time they record; only the document
of a restore records none.
-/

namespace LakeCat

open Fallible

/-- The clock that a call reads, or the time of the event it is given. -/
def MemoryOp.clock? : MemoryOp → Option Timestamp
  | .renameTable _ _ _ _ now => some now
  | .commitTable _ _ now => some now
  | .softDeleteTable _ _ _ now => some now
  | .restoreTable _ _ _ now => some now
  | .upsertView _ _ now => some now
  | .dropView _ _ _ _ _ now => some now
  | .publishModel _ _ now => some now
  | .recordAuditEvent event => some event.createdAt
  | .markOutboxDelivered _ now => some now
  | _ => none

/-- The id of the audit event that an outbox event carries. -/
def OutboxEvent.auditEventId? (event : OutboxEvent) : Option String :=
  (event.payload.get "audit-event-id").bind Json.asStr

section
variable [External]

/-- No two of these documents have one hash. -/
def CollisionFree (documents : List Json) : Prop :=
  ∀ one ∈ documents, ∀ another ∈ documents,
    contentHashJson one = contentHashJson another → one = another

/-- The document that `audit_event_id` hashes. -/
def auditDocument (event : CatalogAuditEvent) : Json :=
  .object [("event-type", .str event.eventType),
    ("table", Json.ofOption TableIdent.toJson event.table),
    ("principal", event.principal.toJson), ("request-hash", ofOptionStr event.requestHash),
    ("payload", event.payload), ("created-at", .str (External.toRfc3339 event.createdAt))]

/-- What an event is made of. -/
inductive EventSource where
  | committed (ident : TableIdent) (record : TableCommitRecord) (receipt : Option Json)
      (principal : Principal)
  | deleted (ident : TableIdent) (record : SoftDeleteRecord) (principal : Principal)
  | restored (ident : TableIdent) (table : TableRecord) (receipt : Option Json)
      (principal : Principal) (now : Timestamp)
  | recorded (event : CatalogAuditEvent)

namespace EventSource

def auditEvent : EventSource → CatalogAuditEvent
  | committed ident record receipt principal =>
      .new "table.commit" (some ident) principal
        (MemoryState.commitAuditPayload ident record receipt) record.committedAt
  | deleted ident record principal =>
      .new "table.deleted" (some ident) principal
        (MemoryState.softDeleteAuditPayload ident record) record.deletedAt
  | restored ident table receipt principal now =>
      .new "table.restored" (some ident) principal
        (MemoryState.restoreAuditPayload ident table receipt) now
  | recorded event => event

/-- The document whose hash is the id of the audit event. -/
def document : EventSource → Json
  | committed ident record receipt _ => MemoryState.commitAuditPayload ident record receipt
  | deleted ident record _ => MemoryState.softDeleteAuditPayload ident record
  | restored ident table receipt _ _ => MemoryState.restoreAuditPayload ident table receipt
  | recorded event => auditDocument event

def outboxPayload : EventSource → Json
  | committed ident record receipt _ => MemoryState.commitOutboxPayload ident record receipt
  | deleted ident record _ => MemoryState.softDeleteOutboxPayload ident record
  | restored ident table receipt _ _ => MemoryState.restoreOutboxPayload ident table receipt
  | recorded event => auditOutboxPayload (auditEventId event) event

/-- The time written into the document, which a restore leaves out. -/
def time? : EventSource → Option Timestamp
  | committed _ record _ _ => some record.committedAt
  | deleted _ record _ => some record.deletedAt
  | restored .. => none
  | recorded event => some event.createdAt

theorem outboxPayload_auditEventId (source : EventSource) :
    (source.outboxPayload.get "audit-event-id").bind Json.asStr =
      some (contentHashJson source.document) := by
  cases source with
  | committed | deleted | restored =>
      simp [outboxPayload, document, MemoryState.commitOutboxPayload,
        MemoryState.softDeleteOutboxPayload, MemoryState.restoreOutboxPayload, List.lookup,
        Json.asStr]
  | recorded event =>
      cases table : event.table <;>
        simp [outboxPayload, document, auditOutboxPayload, Json.presentField, table, List.lookup,
          Json.asStr, auditEventId, auditDocument]

end EventSource

end

theorem TableIdent.toJson_injective {ident other : TableIdent}
    (same : ident.toJson = other.toJson) : ident = other := by
  have read := congrArg tableIdentFromJson same
  rw [tableIdentFromJson_toJson, tableIdentFromJson_toJson] at read
  exact Option.some.inj read

theorem ofOptionInt_injective {one another : Option Int}
    (same : Json.ofOption .int one = Json.ofOption .int another) : one = another := by
  cases one <;> cases another <;> simp_all [Json.ofOption]

theorem ofU64_injective {one another : UInt64} (same : ofU64 one = ofU64 another) :
    one = another := by
  rw [ofU64, ofU64, Json.int.injEq, Int.ofNat_inj] at same
  exact UInt64.toNat_inj.mp same

theorem restoreAuditPayload_get (ident : TableIdent) (table : TableRecord)
    (receipt : Option Json) :
    let payload := MemoryState.restoreAuditPayload ident table receipt
    payload.get "table" = some ident.toJson ∧
      payload.get "metadata-location" = some (ofOptionStr table.metadataLocation) ∧
      payload.get "format-version" =
        some (Json.ofOption .int (tableCommitFormatVersion table)) ∧
      payload.get "version" = some (ofU64 table.version) ∧
      payload.get "authorization-receipt" = some (Json.ofOption id receipt) := by
  simp [MemoryState.restoreAuditPayload, List.lookup]

/-- Two restores that leave one document. -/
theorem restoreAuditPayload_inj {ident other : TableIdent} {table earlier : TableRecord}
    {receipt shown : Option Json}
    (same : MemoryState.restoreAuditPayload ident table receipt =
      MemoryState.restoreAuditPayload other earlier shown) :
    ident = other ∧ table.metadataLocation = earlier.metadataLocation ∧
      tableCommitFormatVersion table = tableCommitFormatVersion earlier ∧
      table.version = earlier.version ∧ Json.ofOption id receipt = Json.ofOption id shown := by
  obtain ⟨name, location, format, version, receipts⟩ := restoreAuditPayload_get ident table receipt
  obtain ⟨otherName, otherLocation, otherFormat, otherVersion, otherReceipts⟩ :=
    restoreAuditPayload_get other earlier shown
  rw [same] at name location format version receipts
  exact ⟨TableIdent.toJson_injective (Option.some.inj (name.symm.trans otherName)),
    ofOptionStr_injective (Option.some.inj (location.symm.trans otherLocation)),
    ofOptionInt_injective (Option.some.inj (format.symm.trans otherFormat)),
    ofU64_injective (Option.some.inj (version.symm.trans otherVersion)),
    Option.some.inj (receipts.symm.trans otherReceipts)⟩

namespace EventSource
variable [External]

/-- The fields that tell the kinds of documents apart. -/
def marks (document : Json) : Option Json × Option Json × Option Json × Option Json :=
  (document.get "commit", document.get "soft-delete", document.get "version",
    document.get "created-at")

theorem marks_document (source : EventSource) : marks source.document =
    match source with
    | committed _ record _ _ => (some record.toJson, none, none, none)
    | deleted _ record _ => (none, some record.toJson, none, none)
    | restored _ table _ _ _ => (none, none, some (ofU64 table.version), none)
    | recorded event => (none, none, none, some (.str (External.toRfc3339 event.createdAt))) := by
  cases source with
  | committed => simp [document, MemoryState.commitAuditPayload, marks, List.lookup]
  | deleted => simp [document, MemoryState.softDeleteAuditPayload, marks, List.lookup]
  | restored => simp [document, MemoryState.restoreAuditPayload, marks, List.lookup]
  | recorded => simp [document, auditDocument, marks, List.lookup]

theorem commitRecord_time (record : TableCommitRecord) :
    record.toJson.get "committed_at" = some (serializeTimestamp record.committedAt) := by
  simp [TableCommitRecord.toJson]

theorem softDeleteRecord_time (record : SoftDeleteRecord) :
    record.toJson.get "deleted-at" = some (serializeTimestamp record.deletedAt) := by
  simp [SoftDeleteRecord.toJson]

theorem serializeTimestamp_injective (distinct : Function.Injective External.serializeTimestamp)
    {one another : Timestamp}
    (same : some (serializeTimestamp one) = some (serializeTimestamp another)) : one = another := by
  simp only [serializeTimestamp, Option.some.injEq, Json.str.injEq] at same
  exact distinct same

/-- Sources of one document are of one kind and record one time. -/
theorem time_of_document (serialized : Function.Injective External.serializeTimestamp)
    (formatted : Function.Injective External.toRfc3339) {one another : EventSource}
    (same : one.document = another.document) : one.time? = another.time? := by
  have marked := congrArg marks same
  rw [marks_document, marks_document] at marked
  cases one with
  | committed _ record =>
      cases another with
      | committed _ other =>
          have times := congrArg (fun found : Option Json × _ =>
            found.1.bind fun document => document.get "committed_at") marked
          simp only [Option.bind_some, commitRecord_time] at times
          exact congrArg some (serializeTimestamp_injective serialized times)
      | deleted | restored | recorded => simp at marked
  | deleted _ record =>
      cases another with
      | deleted _ other =>
          have times := congrArg (fun found : Option Json × Option Json × _ =>
            found.2.1.bind fun document => document.get "deleted-at") marked
          simp only [Option.bind_some, softDeleteRecord_time] at times
          exact congrArg some (serializeTimestamp_injective serialized times)
      | committed | restored | recorded => simp at marked
  | restored =>
      cases another with
      | restored => rfl
      | committed | deleted | recorded => simp at marked
  | recorded event =>
      cases another with
      | recorded other =>
          simp only [Prod.mk.injEq, Option.some.injEq, Json.str.injEq, true_and] at marked
          exact congrArg some (formatted marked)
      | committed | deleted | restored => simp at marked

end EventSource

namespace MemoryState
variable [External]

/-- An event whose id is the hash of its payload, and whose type its payload repeats. -/
structure SoundEvent (event : OutboxEvent) : Prop where
  id : event.eventId = contentHashJson event.payload
  sink : isBlank event.sink = false
  eventType : isBlank event.eventType = false
  typed : event.payload.get "event-type" = some (.str event.eventType)

/-- The events of a store, in order, are made of these. -/
structure EventsFiled (state : MemoryState) (sources : List EventSource) : Prop where
  audit : state.auditEvents = sources.map EventSource.auditEvent
  payloads : state.outboxEvents.map OutboxEvent.payload = sources.map EventSource.outboxPayload
  sound : ∀ event ∈ state.outboxEvents, SoundEvent event

/-- What the call that appends an event tells of it. -/
def Arises (state : MemoryState) (op : MemoryOp) : EventSource → Prop
  | .committed _ record _ _ => op.clock? = some record.committedAt
  | .deleted _ record _ => op.clock? = some record.deletedAt
  | .restored ident table receipt principal now =>
      op = .restoreTable ident principal receipt now ∧ state.Registered ident table ∧
        ∃ record, state.softDeletes[tableKey ident]? = some record ∧ record.ValidFor ident table
  | .recorded event => op.clock? = some event.createdAt

variable {state next : MemoryState} {sources : List EventSource}

theorem EventsFiled.append (filed : EventsFiled state sources) {source : EventSource} {event : OutboxEvent}
    (audit : next.auditEvents = state.auditEvents ++ [source.auditEvent])
    (outbox : next.outboxEvents = state.outboxEvents ++ [event])
    (payload : event.payload = source.outboxPayload) (sound : SoundEvent event) :
    EventsFiled next (sources ++ [source]) := by
  constructor
  · rw [audit, filed.audit, List.map_append, List.map_singleton]
  · rw [outbox, List.map_append, filed.payloads, List.map_append, List.map_singleton,
      List.map_singleton, payload]
  · intro other member
    rw [outbox] at member
    rcases List.mem_append.mp member with old | new
    · exact filed.sound other old
    · rw [List.mem_singleton.mp new]
      exact sound

theorem soundEvent_outbox {eventType : String} {payload : Json} (now : Timestamp)
    (named : isBlank eventType = false)
    (typed : payload.get "event-type" = some (.str eventType)) :
    SoundEvent (outboxEvent eventType payload now) :=
  ⟨rfl, (by decide : isBlank "lakecat.lineage-and-graph" = false), named, typed⟩

omit [External] in
theorem auditOutboxPayload_typed (eventId : String) (event : CatalogAuditEvent) :
    (auditOutboxPayload eventId event).get "event-type" = some (.str event.eventType) := by
  cases table : event.table <;>
    simp [auditOutboxPayload, Json.presentField, table, List.lookup]

theorem step_filed (filed : EventsFiled state sources) (op : MemoryOp) :
    ∃ more : Option EventSource, EventsFiled (state.step op) (sources ++ more.toList) ∧
      ∀ source ∈ more, Arises state op source := by
  have committed : isBlank "table.commit" = false := by decide
  have deleted : isBlank "table.deleted" = false := by decide
  have restored : isBlank "table.restored" = false := by decide
  have renamed : isBlank "table.renamed" = false := by decide
  have published : isBlank "model.published" = false := by decide
  have one {source : EventSource} (arises : Arises state op source) :
      ∀ other ∈ some source, Arises state op other := by
    intro other same
    rw [← Option.some.inj same]
    exact arises
  have successor := step_successor state op
  generalize state.step op = next at successor
  cases successor with
  | tableRenamed source destination principal receipt now table =>
      refine ⟨some (.recorded (renameAuditEvent source (renamedTable destination now table)
        principal receipt now)), ?_, one rfl⟩
      exact filed.append rfl rfl rfl (soundEvent_outbox now renamed
        (auditOutboxPayload_typed _ _))
  | tableCommitted ident commit now current =>
      refine ⟨some (.committed ident (commitRecord ident current commit now)
        commit.authorizationReceipt commit.principal), ?_, one rfl⟩
      exact filed.append rfl rfl rfl (soundEvent_outbox now committed
        (by simp [commitOutboxPayload, List.lookup]))
  | tableDeleted ident table principal receipt now =>
      refine ⟨some (.deleted ident (softDeleteRecord ident table principal receipt now)
        principal), ?_, one rfl⟩
      exact filed.append rfl rfl rfl (soundEvent_outbox now deleted
        (by simp [softDeleteOutboxPayload, List.lookup]))
  | tableRestored ident table principal receipt now registered found =>
      refine ⟨some (.restored ident table receipt principal now), ?_, one ⟨rfl, registered, found⟩⟩
      exact filed.append rfl rfl rfl (soundEvent_outbox now restored
        (by simp [restoreOutboxPayload, List.lookup]))
  | modelPublished publication expected now =>
      refine ⟨some (.recorded (publishAudit publication now)), ?_, one rfl⟩
      exact filed.append rfl rfl rfl (soundEvent_outbox now published
        (auditOutboxPayload_typed _ _))
  | auditRecorded event recordable =>
      refine ⟨some (.recorded event), ?_, one rfl⟩
      simp only [CatalogAuditEvent.validateRecordable, bind_unit_eq_ok, rejectIf_ok,
        Bool.not_eq_true] at recordable
      exact filed.append rfl rfl rfl (soundEvent_outbox _ recordable.1
        (auditOutboxPayload_typed _ _))
  | outboxDelivered eventIds now =>
      refine ⟨none, ⟨?_, ?_, ?_⟩, by simp⟩
      · rw [Option.toList_none, List.append_nil]
        exact filed.audit
      · rw [Option.toList_none, List.append_nil, ← filed.payloads, delivered, List.map_map]
        refine List.map_congr_left fun event _ => ?_
        rw [Function.comp_apply]
        split <;> rfl
      · intro event member
        obtain ⟨old, stored, rfl⟩ := List.mem_map.mp member
        have sound := filed.sound old stored
        split
        · exact ⟨sound.id, sound.sink, sound.eventType, sound.typed⟩
        · exact sound
  | _ =>
      refine ⟨none, ?_, by simp⟩
      rw [Option.toList_none, List.append_nil]
      exact ⟨filed.audit, filed.payloads, filed.sound⟩

theorem run_filed (filed : EventsFiled state sources) (ops : List MemoryOp) :
    ∃ later, EventsFiled (state.run ops) (sources ++ later) := by
  induction ops generalizing state sources with
  | nil => exact ⟨[], by rw [List.append_nil]; exact filed⟩
  | cons op rest ih =>
      obtain ⟨more, stepped, _⟩ := step_filed filed op
      obtain ⟨later, finished⟩ := ih stepped
      exact ⟨more.toList ++ later, by rw [← List.append_assoc]; exact finished⟩

/-- The documents whose hashes are the ids of the events, and the payloads of the audit log. -/
def documents (state : MemoryState) : List Json :=
  state.auditEvents.flatMap (fun event => [event.payload, auditDocument event]) ++
    state.outboxEvents.map OutboxEvent.payload

/-- No id occurs twice, and each pending event can be marked as delivered by its id alone. -/
structure UniqueIds (state : MemoryState) : Prop where
  outbox : (state.outboxEvents.map OutboxEvent.eventId).Nodup
  audit : (state.outboxEvents.map OutboxEvent.auditEventId?).Nodup
  marked : ∀ event ∈ state.outboxEvents, event.deliveredAt = none → ∀ now, ∃ next,
    state.markOutboxDelivered [event.eventId] now = .ok (1, next)

/-- The outbox holds the event of an earlier restore of this name, made at the same location,
version and format version and with the same receipt. -/
def RestoredBefore (state : MemoryState) (ident : TableIdent) (table : TableRecord)
    (receipt : Option Json) : Prop :=
  ∃ (earlier : TableRecord) (shown : Option Json),
    (∃ event ∈ state.outboxEvents, event.payload = restoreOutboxPayload ident earlier shown) ∧
      table.metadataLocation = earlier.metadataLocation ∧
      tableCommitFormatVersion table = tableCommitFormatVersion earlier ∧
      table.version = earlier.version ∧ Json.ofOption id receipt = Json.ofOption id shown

/-- A restore that is accepted and repeats an earlier one. -/
def RestoresAgain (state : MemoryState) : MemoryOp → Prop
  | .restoreTable ident _ receipt _ => ∃ table, state.Registered ident table ∧
      (∃ record, state.softDeletes[tableKey ident]? = some record ∧ record.ValidFor ident table) ∧
      state.RestoredBefore ident table receipt
  | _ => False

theorem EventsFiled.mem_documents (filed : EventsFiled state sources) {source : EventSource}
    (member : source ∈ sources) :
    source.document ∈ state.documents ∧ source.outboxPayload ∈ state.documents := by
  have logged : source.auditEvent ∈ state.auditEvents := by
    rw [filed.audit]
    exact List.mem_map_of_mem member
  have sent : source.outboxPayload ∈ state.outboxEvents.map OutboxEvent.payload := by
    rw [filed.payloads]
    exact List.mem_map_of_mem member
  refine ⟨List.mem_append_left _ (List.mem_flatMap.mpr ⟨_, logged, ?_⟩),
    List.mem_append_right _ sent⟩
  cases source with
  | committed | deleted | restored => exact List.mem_cons_self
  | recorded event => exact List.mem_cons_of_mem _ List.mem_cons_self

theorem EventsFiled.eventIds (filed : EventsFiled state sources) :
    state.outboxEvents.map OutboxEvent.eventId =
      sources.map fun source => contentHashJson source.outboxPayload := by
  have hashed := congrArg (List.map contentHashJson) filed.payloads
  rw [List.map_map, List.map_map] at hashed
  refine Eq.trans (List.map_congr_left fun event member => ?_) hashed
  exact (filed.sound event member).id

theorem EventsFiled.auditIds (filed : EventsFiled state sources) :
    state.outboxEvents.map OutboxEvent.auditEventId? =
      sources.map fun source => some (contentHashJson source.document) := by
  have read := congrArg
    (List.map fun payload : Json => (payload.get "audit-event-id").bind Json.asStr) filed.payloads
  rw [List.map_map, List.map_map] at read
  refine Eq.trans read (List.map_congr_left fun source _ => ?_)
  exact source.outboxPayload_auditEventId

omit [External] in
/-- Of a list with distinct ids, one id picks one event. -/
theorem filter_of_nodup {events : List OutboxEvent} {event : OutboxEvent}
    (distinct : (events.map OutboxEvent.eventId).Nodup) (member : event ∈ events)
    (pending : event.deliveredAt = none) :
    events.filter (isDeliverable [event.eventId]) = [event] := by
  induction events with
  | nil => cases member
  | cons head rest ih =>
      rw [List.map_cons, List.nodup_cons] at distinct
      rcases List.mem_cons.mp member with rfl | later
      · have others : rest.filter (isDeliverable [event.eventId]) = [] := by
          refine List.filter_eq_nil_iff.mpr fun other member => ?_
          intro picked
          simp only [isDeliverable, Bool.and_eq_true, List.contains_iff_mem,
            List.mem_singleton] at picked
          exact distinct.1 (List.mem_map.mpr ⟨other, member, picked.2⟩)
        rw [List.filter_cons, others]
        simp [isDeliverable, pending]
      · have different : head.eventId ≠ event.eventId := fun same =>
          distinct.1 (List.mem_map.mpr ⟨event, later, same.symm⟩)
        rw [List.filter_cons, if_neg (by simp [isDeliverable, different]), ih distinct.2 later]

theorem SoundEvent.pending {event : OutboxEvent} (sound : SoundEvent event)
    (pending : event.deliveredAt = none) : event.validatePending = .ok () := by
  simp [OutboxEvent.validatePending, pending, sound.sink, sound.eventType, sound.typed,
    sound.id, rejectIf, Json.asStr]

/-- Distinct documents without a collision give distinct ids. -/
theorem EventsFiled.uniqueIds (filed : EventsFiled state sources)
    (distinct : (sources.map EventSource.document).Nodup)
    (noCollision : CollisionFree state.documents) : UniqueIds state := by
  have separate := List.inj_on_of_nodup_map distinct
  have audit (one : EventSource) (member : one ∈ sources) (another : EventSource)
      (also : another ∈ sources)
      (same : contentHashJson one.document = contentHashJson another.document) : one = another :=
    separate member also (noCollision _ (filed.mem_documents member).1 _
      (filed.mem_documents also).1 same)
  have outbox (one : EventSource) (member : one ∈ sources) (another : EventSource)
      (also : another ∈ sources)
      (same : contentHashJson one.outboxPayload = contentHashJson another.outboxPayload) :
      one = another := by
    have payloads := noCollision _ (filed.mem_documents member).2 _
      (filed.mem_documents also).2 same
    have ids := one.outboxPayload_auditEventId
    rw [payloads, another.outboxPayload_auditEventId] at ids
    exact audit one member another also (Option.some.inj ids).symm
  have outboxIds : (state.outboxEvents.map OutboxEvent.eventId).Nodup := by
    rw [filed.eventIds]
    exact List.Nodup.map_on outbox (List.Nodup.of_map _ distinct)
  refine ⟨outboxIds, ?_, ?_⟩
  · rw [filed.auditIds]
    exact List.Nodup.map_on (fun one member another also same =>
      audit one member another also (Option.some.inj same)) (List.Nodup.of_map _ distinct)
  · intro event member pending now
    have checked : validateOutboxEventIdShape event.eventId = .ok () := by
      rw [validateOutboxEventIdShape, (filed.sound event member).id]
      exact rejectIf_neg _ (by simp)
    have due := filter_of_nodup outboxIds member pending
    simp only [markOutboxDelivered, List.cons_ne_nil, if_false, checkEach, checked, ok_bind, due,
      (filed.sound event member).pending pending, pure_eq]
    exact ⟨_, rfl⟩

/-- A document that an earlier event has already is that of a repeated restore. -/
theorem restoresAgain_of_document (serialized : Function.Injective External.serializeTimestamp)
    (formatted : Function.Injective External.toRfc3339) (filed : EventsFiled state sources)
    {op : MemoryOp} (earlier : ∀ source ∈ sources, ∀ time, source.time? = some time →
      ∀ reading, op.clock? = some reading → time < reading)
    {source : EventSource} (arises : Arises state op source)
    {old : EventSource} (member : old ∈ sources) (same : old.document = source.document) :
    RestoresAgain state op := by
  have times := EventSource.time_of_document serialized formatted same
  have late {time : Timestamp} (recorded : source.time? = some time)
      (read : op.clock? = some time) : RestoresAgain state op :=
    absurd (earlier old member time (times.trans recorded) time read) (lt_irrefl time)
  cases source with
  | committed | deleted | recorded => exact late rfl arises
  | restored ident table receipt principal now =>
      obtain ⟨rfl, registered, deleted⟩ := arises
      cases old with
      | committed | deleted | recorded => cases times
      | restored other before shown =>
          obtain ⟨rfl, location, format, version, receipts⟩ := restoreAuditPayload_inj same
          have sent : restoreOutboxPayload other before shown ∈
              state.outboxEvents.map OutboxEvent.payload := by
            rw [filed.payloads]
            exact List.mem_map_of_mem member
          exact ⟨table, registered, deleted, before, shown, List.mem_map.mp sent, location.symm,
            format.symm, version.symm, receipts.symm⟩

omit [External] in
theorem arises_time {op : MemoryOp} {source : EventSource} (arises : Arises state op source)
    {time : Timestamp} (recorded : source.time? = some time) : op.clock? = some time := by
  cases source with
  | committed | deleted | recorded => exact arises.trans recorded
  | restored => cases recorded

/-- A run without repeated restores leaves distinct documents. -/
theorem distinct_run (serialized : Function.Injective External.serializeTimestamp)
    (formatted : Function.Injective External.toRfc3339) (ops : List MemoryOp)
    (filed : EventsFiled state sources) (distinct : (sources.map EventSource.document).Nodup)
    (earlier : ∀ source ∈ sources, ∀ time, source.time? = some time →
      ∀ reading ∈ ops.filterMap MemoryOp.clock?, time < reading)
    (forward : (ops.filterMap MemoryOp.clock?).Pairwise (· < ·))
    (once : Transition.Along step (fun state op => ¬RestoresAgain state op) state ops) :
    ∃ all, EventsFiled (state.run ops) all ∧ (all.map EventSource.document).Nodup := by
  induction ops generalizing state sources with
  | nil => exact ⟨sources, filed, distinct⟩
  | cons op rest ih =>
      obtain ⟨more, stepped, arises⟩ := step_filed filed op
      have heads : ∀ source ∈ sources, ∀ time, source.time? = some time →
          ∀ reading, op.clock? = some reading → time < reading := by
        intro source member time recorded reading read
        exact earlier source member time recorded reading
          (List.mem_filterMap.mpr ⟨op, List.mem_cons_self, read⟩)
      have tails : ∀ source ∈ sources, ∀ time, source.time? = some time →
          ∀ reading ∈ rest.filterMap MemoryOp.clock?, time < reading := by
        intro source member time recorded reading read
        obtain ⟨other, listed, found⟩ := List.mem_filterMap.mp read
        exact earlier source member time recorded reading
          (List.mem_filterMap.mpr ⟨other, List.mem_cons_of_mem _ listed, found⟩)
      refine ih stepped ?_ ?_ ?_ once.2
      · cases more with
        | none => simpa using distinct
        | some source =>
            rw [Option.toList_some, List.map_append, List.map_singleton]
            refine List.nodup_append'.mpr ⟨distinct, List.nodup_singleton _, ?_⟩
            rw [List.disjoint_singleton]
            intro listed
            obtain ⟨old, member, same⟩ := List.mem_map.mp listed
            exact once.1 (restoresAgain_of_document serialized formatted filed heads
              (arises source rfl) member same)
      · intro source member time recorded reading read
        rcases List.mem_append.mp member with old | new
        · exact tails source old time recorded reading read
        · have clock := arises_time (arises source (Option.mem_toList.mp new)) recorded
          rw [List.filterMap_cons, clock, List.pairwise_cons] at forward
          exact forward.1 reading read
      · cases clock : op.clock? with
        | none => rwa [List.filterMap_cons, clock] at forward
        | some reading =>
            rw [List.filterMap_cons, clock, List.pairwise_cons] at forward
            exact forward.2

/-- A repeated restore leaves one id twice, and no later call removes it. -/
theorem once_of_uniqueIds (filed : EventsFiled state sources) (ops : List MemoryOp)
    (distinct : ((state.run ops).outboxEvents.map OutboxEvent.eventId).Nodup) :
    Transition.Along step (fun state op => ¬RestoresAgain state op) state ops := by
  induction ops generalizing state sources with
  | nil => trivial
  | cons op rest ih =>
      obtain ⟨more, stepped, _⟩ := step_filed filed op
      refine ⟨?_, ih stepped distinct⟩
      intro again
      cases op with
      | restoreTable ident principal receipt now =>
          obtain ⟨table, registered, deleted, earlier, shown, sent, location, format, version,
            receipts⟩ := again
          have accepted := (restoreTable_ok state _ ident principal receipt now table).mpr
            ⟨registered, deleted, rfl⟩
          have left : state.step (.restoreTable ident principal receipt now) =
              state.restored ident table principal receipt now := by
            rw [step, accepted]
            rfl
          have payload : restoreOutboxPayload ident table receipt =
              restoreOutboxPayload ident earlier shown := by
            simp only [restoreOutboxPayload, restoreAuditPayload, location, format, version,
              receipts]
          have present : contentHashJson (restoreOutboxPayload ident table receipt) ∈
              state.outboxEvents.map OutboxEvent.eventId := by
            obtain ⟨event, member, same⟩ := sent
            refine List.mem_map.mpr ⟨event, member, ?_⟩
            rw [(filed.sound event member).id, same, payload]
          obtain ⟨later, finished⟩ := run_filed stepped rest
          have ids := finished.eventIds
          rw [List.map_append, ← stepped.eventIds, left] at ids
          change ((state.step _).run rest).outboxEvents.map OutboxEvent.eventId |>.Nodup at distinct
          rw [left, ids] at distinct
          have twice := (List.nodup_append'.mp distinct).1
          rw [restored, List.map_append, List.map_singleton] at twice
          exact (List.disjoint_singleton.mp (List.nodup_append'.mp twice).2.2) present
      | _ => exact again

/-- The ids of a run are unique exactly when no restore repeats an earlier one. -/
theorem eventIds_unique_iff (serialized : Function.Injective External.serializeTimestamp)
    (formatted : Function.Injective External.toRfc3339) (ops : List MemoryOp)
    (forward : (ops.filterMap MemoryOp.clock?).Pairwise (· < ·))
    (noCollision : CollisionFree (MemoryState.empty.run ops).documents) :
    UniqueIds (MemoryState.empty.run ops) ↔
      Transition.Along step (fun state op => ¬RestoresAgain state op) MemoryState.empty ops := by
  have initial : EventsFiled MemoryState.empty [] := ⟨rfl, rfl, fun _ member => nomatch member⟩
  constructor
  · exact fun unique => once_of_uniqueIds initial ops unique.outbox
  · intro once
    obtain ⟨all, filed, distinct⟩ := distinct_run serialized formatted ops initial
      List.nodup_nil (fun _ member => nomatch member) forward once
    exact filed.uniqueIds distinct noCollision

/-- A table deleted and restored is as it was, and its restore leaves an event without a time. -/
theorem deleteAndRestore {ident : TableIdent} {table : TableRecord}
    (registered : state.Registered ident table)
    (live : state.softDeletes.contains (tableKey ident) = false) (principal : Principal)
    (now later : Timestamp) :
    let next := state.run [.softDeleteTable ident principal none now,
      .restoreTable ident principal none later]
    next.Registered ident table ∧ next.softDeletes.contains (tableKey ident) = false ∧
      ∃ deleted, next.outboxEvents = state.outboxEvents ++
        [deleted, outboxEvent "table.restored" (restoreOutboxPayload ident table none) later] := by
  have noReceipt : ∀ document, (none : Option Json) = some document →
      document.isObject = true := nofun
  have deleted := (softDeleteTable_ok state _ ident principal none now table).mpr
    ⟨registered, live, noReceipt, rfl⟩
  have marked : (state.softDeleted ident table principal none now).softDeletes[tableKey ident]? =
      some (softDeleteRecord ident table principal none now) :=
    (OrderedMap.getElem?_insert _ _ _ _).trans (if_pos rfl)
  have restored := (restoreTable_ok (state.softDeleted ident table principal none now) _ ident
    principal none later table).mpr
      ⟨⟨registered.ns, registered.stored, registered.valid, registered.owner⟩,
        ⟨_, marked, (softDeleteRecord_valid ident table principal none now registered.valid
          registered.owner).mpr noReceipt⟩, rfl⟩
  have left : state.run [.softDeleteTable ident principal none now,
      .restoreTable ident principal none later] =
        (state.softDeleted ident table principal none now).restored ident table principal none
          later := by
    rw [run, Transition.run_cons, Transition.run_cons, Transition.run_nil, step, deleted]
    simp only [atomic]
    rw [step, restored]
    rfl
  rw [left]
  refine ⟨⟨registered.ns, registered.stored, registered.valid, registered.owner⟩, ?_, _,
    List.append_assoc _ _ _⟩
  rw [OrderedMap.contains_eq_false]
  exact (OrderedMap.getElem?_erase _ _ _).trans (if_pos rfl)

end MemoryState

/-- A round of deleting and restoring the sample table. -/
def sampleRound (now later : Timestamp) : List MemoryOp :=
  [.softDeleteTable sampleIdent .anonymous none now,
    .restoreTable sampleIdent .anonymous none later]

theorem sampleTable_registered [External] :
    (MemoryState.empty.run sampleSetup).Registered sampleIdent sampleTable :=
  ⟨rfl, rfl, (TableRecord.validate_ok _ ()).mp rfl, rfl⟩

/-- The second restore of a table has the id of the first. -/
theorem repeatedRestores_oneId : ∃ ops : List MemoryOp,
    (ops.filterMap MemoryOp.clock?).Pairwise (· < ·) ∧
      ∀ [External], ¬(MemoryState.empty.run ops).UniqueIds := by
  refine ⟨sampleSetup ++ (sampleRound 1 2 ++ sampleRound 3 4), by decide, ?_⟩
  intro _ unique
  obtain ⟨registered, live, _, first⟩ := MemoryState.deleteAndRestore sampleTable_registered rfl
    .anonymous 1 2
  obtain ⟨_, _, _, second⟩ := MemoryState.deleteAndRestore registered live .anonymous 3 4
  have ids := unique.outbox
  rw [MemoryState.run, Transition.run_append, Transition.run_append] at ids
  simp only [MemoryState.run] at first second ids
  rw [sampleRound, sampleRound, second, first, List.append_assoc, List.map_append] at ids
  have twice := (List.nodup_append'.mp ids).2.1
  simp [outboxEvent] at twice

/-- A digest that shows the fifth character of its text. -/
def markDigest (mark : Char) : Sha256Hex where
  text := String.ofList
    (List.replicate 64 (if mark = 't' then 'a' else if mark = 'd' then 'b' else 'c'))
  length := by simp
  digits := by
    rw [String.toList_ofList, List.all_replicate]
    by_cases first : mark = 't'
    · simp [first]
    · by_cases second : mark = 'd' <;> simp [first, second]

def unaryTime (time : Int) : String :=
  String.ofList (if time < 0 then '-' :: List.replicate time.natAbs '0'
    else List.replicate time.natAbs '0')

theorem unaryTime_injective : Function.Injective unaryTime := by
  intro one another same
  have chars := String.ofList_inj.mp same
  by_cases first : one < 0
  · by_cases second : another < 0
    · rw [if_pos first, if_pos second] at chars
      have lengths := congrArg List.length chars
      simp only [List.length_cons, List.length_replicate] at lengths
      omega
    · rw [if_pos first, if_neg second] at chars
      have marked : '-' ∈ List.replicate another.natAbs '0' := chars ▸ List.mem_cons_self
      exact absurd (List.eq_of_mem_replicate marked) (by decide)
  · by_cases second : another < 0
    · rw [if_neg first, if_pos second] at chars
      have marked : '-' ∈ List.replicate one.natAbs '0' := chars ▸ List.mem_cons_self
      exact absurd (List.eq_of_mem_replicate marked) (by decide)
    · rw [if_neg first, if_neg second] at chars
      have lengths := congrArg List.length chars
      simp only [List.length_replicate] at lengths
      omega

@[reducible] def sampleExternal : External where
  sha256 text := markDigest (text.toList.getD 4 ' ')
  parseUrl _ := none
  toRfc3339 := unaryTime
  serializeTimestamp := unaryTime
  constraintText text := text

theorem joinText_cons (text : String) (texts : List String) :
    ∃ more, (joinText "," (text :: texts)).toList = text.toList ++ more := by
  rw [joinText, String.toList_intercalate]
  cases texts with
  | nil => exact ⟨[], by simp⟩
  | cons next later =>
      exact ⟨_, by rw [List.map_cons, List.map_cons, List.intercalate_cons_cons,
        List.append_assoc]⟩

/-- The fifth character of an object is the third of its first key. -/
theorem compact_mark {key : String} {first second third : Char} {others : List Char}
    (chars : key.toList = first :: second :: third :: others)
    (plain : [first, second, third].flatMap Json.escapeChar = [first, second, third])
    (value : Json) (rest : List (String × Json)) :
    (Json.obj ((key, value) :: rest)).compact.toList.getD 4 ' ' = third := by
  obtain ⟨more, joined⟩ := joinText_cons (Json.quote key ++ ":" ++ value.compact)
    (Json.compactFields rest)
  have quoted : key.toList.flatMap Json.escapeChar =
      first :: second :: third :: others.flatMap Json.escapeChar := by
    have split : first :: second :: third :: others = [first, second, third] ++ others := rfl
    rw [chars, split, List.flatMap_append, plain]
    rfl
  rw [Json.compact, Json.compactFields, String.toList_append, String.toList_append, joined,
    String.toList_append, String.toList_append, Json.quote, String.toList_append,
    String.toList_append, String.toList_ofList, quoted]
  simp

theorem sampleExternal_hash {key : String} {first second third : Char} {others : List Char}
    (chars : key.toList = first :: second :: third :: others)
    (plain : [first, second, third].flatMap Json.escapeChar = [first, second, third])
    (value : Json) (rest : List (String × Json)) :
    @contentHashJson sampleExternal (.obj ((key, value) :: rest)) =
      "sha256:" ++ (markDigest third).text := by
  change "sha256:" ++ (markDigest ((Json.obj ((key, value) :: rest)).compact.toList.getD 4
    ' ')).text = _
  rw [compact_mark chars plain]

theorem softDeleteAuditPayload_fields (ident : TableIdent) (record : SoftDeleteRecord)
    [External] : ∃ value rest, MemoryState.softDeleteAuditPayload ident record =
      .obj (("authorization-receipt", value) :: rest) := by
  have table : compare "table" "event-type" = .gt := by decide
  have softDelete : compare "soft-delete" "event-type" = .gt := by decide
  have receipt : compare "authorization-receipt" "event-type" = .lt := by decide
  simp [MemoryState.softDeleteAuditPayload, Json.object, Json.insertField, table, softDelete,
    receipt]

theorem auditDocument_fields (event : CatalogAuditEvent) [External] :
    ∃ value rest, auditDocument event = .obj (("created-at", value) :: rest) := by
  have table : compare "table" "event-type" = .gt := by decide
  have principal : compare "principal" "event-type" = .gt := by decide
  have requestHash : compare "request-hash" "event-type" = .gt := by decide
  have payload : compare "payload" "event-type" = .gt := by decide
  have created : compare "created-at" "event-type" = .lt := by decide
  simp [auditDocument, Json.object, Json.insertField, table, principal, requestHash, payload,
    created]

theorem auditOutboxPayload_fields (eventId : String) (event : CatalogAuditEvent) :
    ∃ rest, auditOutboxPayload eventId event = .obj (("audit-event-id", .str eventId) :: rest) := by
  have eventType : compare "event-type" "audit-event-id" = .gt := by decide
  have table : compare "table" "audit-event-id" = .gt := by decide
  have payload : compare "payload" "audit-event-id" = .gt := by decide
  cases named : event.table <;>
    simp [auditOutboxPayload, named, Json.presentField, Json.object, Json.insertField, eventType,
      table, payload]

theorem softDeleteOutboxPayload_fields (ident : TableIdent) (record : SoftDeleteRecord)
    [External] : ∃ value rest, MemoryState.softDeleteOutboxPayload ident record =
      .obj (("audit-event-id", value) :: rest) := by
  have eventType : compare "event-type" "audit-event-id" = .gt := by decide
  have table : compare "table" "audit-event-id" = .gt := by decide
  have softDelete : compare "soft-delete" "audit-event-id" = .gt := by decide
  have receipt : compare "authorization-receipt" "audit-event-id" = .gt := by decide
  simp [MemoryState.softDeleteOutboxPayload, Json.object, Json.insertField, eventType, table,
    softDelete, receipt]

theorem collisionFree_three [External] {one two three : Json}
    (first : contentHashJson one ≠ contentHashJson two)
    (second : contentHashJson one ≠ contentHashJson three)
    (third : contentHashJson two ≠ contentHashJson three) : CollisionFree [one, two, three] := by
  intro document member other also same
  simp only [List.mem_cons, List.not_mem_nil, or_false] at member also
  rcases member with rfl | rfl | rfl <;> rcases also with rfl | rfl | rfl
  · rfl
  · exact absurd same first
  · exact absurd same second
  · exact absurd same.symm first
  · rfl
  · exact absurd same third
  · exact absurd same.symm second
  · exact absurd same.symm third
  · rfl

def sampleDeletion : SoftDeleteRecord :=
  MemoryState.softDeleteRecord sampleIdent sampleTable .anonymous none 1

theorem sampleDeletion_documents [External] :
    ((MemoryState.empty.run sampleSetup).softDeleted sampleIdent sampleTable .anonymous none
      1).documents =
        [MemoryState.softDeleteAuditPayload sampleIdent sampleDeletion,
          auditDocument (.new "table.deleted" (some sampleIdent) .anonymous
            (MemoryState.softDeleteAuditPayload sampleIdent sampleDeletion) 1),
          MemoryState.softDeleteOutboxPayload sampleIdent sampleDeletion] := by
  have logged : (MemoryState.empty.run sampleSetup).auditEvents = [] := rfl
  have sent : (MemoryState.empty.run sampleSetup).outboxEvents = [] := rfl
  rw [MemoryState.documents, MemoryState.softDeleted, logged, sent]
  rfl

/-- The ids of the sample table's first deletion. -/
theorem eventIds_unique_sample : ∃ (_ : External) (ops : List MemoryOp),
    (MemoryState.empty.run ops).outboxEvents ≠ [] ∧ (MemoryState.empty.run ops).UniqueIds := by
  let _ := sampleExternal
  refine ⟨sampleExternal, sampleSetup ++ [.softDeleteTable sampleIdent .anonymous none 1], ?_⟩
  have deleted := (MemoryState.softDeleteTable_ok (MemoryState.empty.run sampleSetup) _ sampleIdent
    .anonymous none 1 sampleTable).mpr ⟨sampleTable_registered, rfl, nofun, rfl⟩
  have left : MemoryState.empty.run
      (sampleSetup ++ [.softDeleteTable sampleIdent .anonymous none 1]) =
        (MemoryState.empty.run sampleSetup).softDeleted sampleIdent sampleTable .anonymous none 1 := by
    rw [MemoryState.run_snoc, MemoryState.step, deleted]
    rfl
  refine ⟨by rw [left]; exact List.append_ne_nil_of_right_ne_nil _ (by simp), ?_⟩
  refine (MemoryState.eventIds_unique_iff unaryTime_injective unaryTime_injective _ (by decide)
    ?_).mpr ?_
  · rw [left]
    obtain ⟨_, _, paid⟩ := softDeleteAuditPayload_fields sampleIdent sampleDeletion
    obtain ⟨_, _, logged⟩ := auditDocument_fields (.new "table.deleted" (some sampleIdent)
      .anonymous (MemoryState.softDeleteAuditPayload sampleIdent sampleDeletion) 1)
    obtain ⟨_, _, sent⟩ := softDeleteOutboxPayload_fields sampleIdent sampleDeletion
    have payHash := (congrArg contentHashJson paid).trans (sampleExternal_hash rfl rfl _ _)
    have logHash := (congrArg contentHashJson logged).trans (sampleExternal_hash rfl rfl _ _)
    have sentHash := (congrArg contentHashJson sent).trans (sampleExternal_hash rfl rfl _ _)
    rw [sampleDeletion_documents]
    exact collisionFree_three (by rw [payHash, logHash]; decide) (by rw [payHash, sentHash]; decide)
      (by rw [logHash, sentHash]; decide)
  · exact ⟨id, id, id, trivial⟩

end LakeCat
