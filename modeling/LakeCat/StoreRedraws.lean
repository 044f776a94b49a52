import LakeCat.StoreImages

/-!
The calls that write a row or two besides their events: on namespaces, new tables,
soft deletes, policy bindings and audit events.
-/

namespace LakeCat

open Fallible SnapshotIsolation

section Images

variable {α β : Type}

theorem shown_map (found : Option α) (row : α → β) (cell : β) :
    (∃ stored, found = some stored ∧ cell = row stored) ↔ found.map row = some cell := by
  rw [Option.map_eq_some_iff]
  exact exists_congr fun stored => and_congr_right fun _ => eq_comm

theorem shown_insert (map : BTreeMap α) (row : α → β) (key query : String) (value : α) (cell : β) :
    (∃ stored, (map.insert key value)[query]? = some stored ∧ cell = row stored) ↔
      if key = query then cell = row value else ∃ stored, map[query]? = some stored ∧ cell = row stored := by
  rw [OrderedMap.getElem?_insert]
  by_cases same : key = query
  · rw [if_pos same, if_pos same]
    constructor
    · rintro ⟨stored, held, shown⟩
      rw [Option.some.inj held]
      exact shown
    · intro shown
      exact ⟨value, rfl, shown⟩
  · rw [if_neg same, if_neg same]

theorem shown_erase (map : BTreeMap α) (row : α → β) (key query : String) (cell : β) :
    (∃ stored, (map.erase key)[query]? = some stored ∧ cell = row stored) ↔
      key ≠ query ∧ ∃ stored, map[query]? = some stored ∧ cell = row stored := by
  rw [OrderedMap.getElem?_erase]
  by_cases same : key = query
  · rw [if_pos same]
    constructor
    · rintro ⟨_, absurdity, -⟩
      cases absurdity
    · intro other
      exact absurd same other.1
  · rw [if_neg same]
    exact ⟨fun shown => ⟨same, shown⟩, fun shown => shown.2⟩

theorem outbox_appended (events : List OutboxEvent) (event : OutboxEvent) (id : String)
    (row : OutboxEventRow) :
    (∃ recorded ∈ events ++ [event], recorded.eventId = id ∧ row = outboxRow recorded) ↔
      (event.eventId = id ∧ row = outboxRow event) ∨
        ∃ recorded ∈ events, recorded.eventId = id ∧ row = outboxRow recorded := by
  simp only [List.mem_append, List.mem_singleton]
  constructor
  · rintro ⟨recorded, old | rfl, shown⟩
    · exact .inr ⟨recorded, old, shown⟩
    · exact .inl shown
  · rintro (shown | ⟨recorded, old, shown⟩)
    · exact ⟨event, .inr rfl, shown⟩
    · exact ⟨recorded, .inl old, shown⟩

/-- The row of a new event is the only one under its id. -/
theorem outbox_written {events : List OutboxEvent} {event : OutboxEvent}
    (free : ∀ recorded ∈ events, recorded.eventId ≠ event.eventId) (row : OutboxEventRow) :
    some (outboxRow event) = some row ↔
      ∃ recorded ∈ events ++ [event], recorded.eventId = event.eventId ∧ row = outboxRow recorded := by
  rw [outbox_appended, Option.some.injEq, eq_comm]
  constructor
  · intro same
    exact .inl ⟨rfl, same⟩
  · rintro (⟨-, same⟩ | ⟨recorded, old, same, -⟩)
    · exact same
    · exact absurd same (free recorded old)

theorem outbox_kept {events : List OutboxEvent} {event : OutboxEvent} {id : String}
    (other : event.eventId ≠ id) (row : OutboxEventRow) :
    (∃ recorded ∈ events ++ [event], recorded.eventId = id ∧ row = outboxRow recorded) ↔
      ∃ recorded ∈ events, recorded.eventId = id ∧ row = outboxRow recorded := by
  rw [outbox_appended]
  exact ⟨fun shown => shown.resolve_left fun own => other own.1, .inr⟩

variable {state next : MemoryState} {warehouse : WarehouseName} {ns : Namespace}
  {properties : NamespaceProperties}

theorem ns_stored (written : next.namespaces = state.namespaces.insert warehouse.value
      ((state.namespacesOf warehouse).insert ns properties))
    (rowWarehouse path : String) (row : NamespaceRow) :
    next.image (.ns rowWarehouse path) row ↔
      (warehouse.value = rowWarehouse ∧ ns.storageKey = path ∧ row = ⟨ns⟩) ∨
        state.image (.ns rowWarehouse path) row := by
  obtain ⟨stored⟩ := row
  obtain ⟨own⟩ := warehouse
  simp only [MemoryState.image, MemoryState.namespaceExists_insert state next _ _ ns _ _ written]
  constructor
  · rintro ⟨keyed, ⟨same, rfl⟩ | held⟩
    · cases same
      exact .inl ⟨rfl, keyed, rfl⟩
    · exact .inr ⟨keyed, held⟩
  · rintro (⟨rfl, keyed, same⟩ | ⟨keyed, held⟩)
    · cases same
      exact ⟨keyed, .inl ⟨rfl, rfl⟩⟩
    · exact ⟨keyed, .inr held⟩

theorem properties_stored (written : next.namespaces = state.namespaces.insert warehouse.value
      ((state.namespacesOf warehouse).insert ns properties))
    (rowWarehouse path : String) (row : NamespaceProperties) :
    next.image (.namespaceProperties rowWarehouse path) row ↔
      if warehouse.value = rowWarehouse ∧ ns.storageKey = path then row = properties
      else state.image (.namespaceProperties rowWarehouse path) row := by
  obtain ⟨own⟩ := warehouse
  simp only [MemoryState.image, MemoryState.namespacesOf_insert state next _ _ _ written,
    WarehouseName.mk.injEq]
  by_cases same : own = rowWarehouse
  · subst same
    simp only [if_true, true_and, OrderedMap.getElem?_insert]
    by_cases keyed : ns.storageKey = path
    · rw [if_pos keyed]
      constructor
      · rintro ⟨other, otherKeyed, held⟩
        rw [if_pos (storageKey_inj (keyed.trans otherKeyed.symm))] at held
        exact (Option.some.inj held).symm
      · rintro rfl
        exact ⟨ns, keyed, if_pos rfl⟩
    · rw [if_neg keyed]
      refine exists_congr fun other => and_congr_right fun otherKeyed => ?_
      rw [if_neg fun same => keyed ((congrArg Namespace.storageKey same).trans otherKeyed)]
  · rw [if_neg same, if_neg fun both => same both.1]

end Images

section Calls

variable [External] {memory : MemoryState} {turso : TursoState}

/-- The events of a call that parts nothing are new. -/
theorem TursoState.events_new {call : StoreCall} {auditId outboxId : String}
    (unparted : ¬turso.Parts call) (records : turso.recordedIds call = some (auditId, outboxId)) :
    turso.auditEvents[auditId]? = none ∧ turso.outboxEvents[outboxId]? = none := by
  constructor
  · rw [← OrderedMap.contains_eq_false]
    by_contra taken
    exact unparted (.recordedBefore call _ _ records (.inl (by simpa using taken)))
  · rw [← OrderedMap.contains_eq_false]
    by_contra taken
    exact unparted (.recordedBefore call _ _ records (.inr (by simpa using taken)))

theorem TursoState.recordAuditEvent_ok (state : TursoState) (event : CatalogAuditEvent)
    (done : Unit) (writes : TursoWrites) :
    state.recordAuditEvent event = .ok (done, writes) ↔
      event.validateRecordable = .ok () ∧ state.auditEvents[auditEventId event]? = none ∧
        state.outboxEvents[(MemoryState.auditOutbox event).eventId]? = none ∧
        writes = [TursoRow.put (.auditEvent (auditEventId event)) (tableAuditRow event),
          TursoRow.put (.outboxEvent (MemoryState.auditOutbox event).eventId)
            (outboxRow (MemoryState.auditOutbox event))] := by
  have payload := MemoryState.outboxEventFromPayload_audit event event.createdAt
  simp only [recordAuditEvent, payload, bind_eq_ok, exists_unit, ok_bind, insertEvents_ok, pure_eq,
    return_eq_ok]
  constructor
  · rintro ⟨recordable, _, ⟨auditNew, outboxNew, rfl⟩, -, rfl⟩
    exact ⟨recordable, auditNew, outboxNew, rfl⟩
  · rintro ⟨recordable, auditNew, outboxNew, rfl⟩
    exact ⟨recordable, _, ⟨auditNew, outboxNew, rfl⟩, trivial, rfl⟩

theorem TursoState.upsertPolicyBinding_ok (state : TursoState) (binding result : PolicyBinding)
    (writes : TursoWrites) :
    state.upsertPolicyBinding binding = .ok (result, writes) ↔
      binding.validate = .ok () ∧
        (∀ row : PolicyBindingRow,
          state.policyBindings[policyBindingKey binding.warehouse binding.policyId]? = some row →
            validatePolicyBindingScope row.binding binding.warehouse row = .ok ()) ∧
        result = binding ∧
        writes = [TursoRow.put (.policyBinding (policyBindingKey binding.warehouse binding.policyId))
          {
            bindingRow binding with
            policyId := ((state.policyBindings[policyBindingKey binding.warehouse
              binding.policyId]?).map PolicyBindingRow.policyId).getD binding.policyId
            warehouse := ((state.policyBindings[policyBindingKey binding.warehouse
              binding.policyId]?).map PolicyBindingRow.warehouse).getD binding.warehouse.value
          }] := by
  simp only [upsertPolicyBinding, bind_eq_ok, exists_unit, checkSome_ok, pure_eq, return_eq_ok,
    bindingRow]

namespace Paired

theorem createNamespace (paired : Paired memory turso) (warehouse : WarehouseName)
    (ns : Namespace) (properties : NamespaceProperties) :
    Alike memory (memory.createNamespaceWithProperties warehouse ns properties)
      (turso.createNamespaceWithProperties warehouse ns properties) where
  accepts := by
    intro done next created
    obtain ⟨absent, -⟩ := (MemoryState.createNamespace_ok _ _ _ _ _ _).mp created
    refine ⟨_, (TursoState.createNamespaceWithProperties_ok _ _ _ _ _ _).mpr ⟨?_, ?_, rfl⟩⟩
    · rw [paired.nsLookup, absent]
      rfl
    · rw [paired.properties]
      exact (OrderedMap.contains_eq_false _ _).mp absent
  redraws := by
    intro done writes created
    obtain ⟨vacant, blank, rfl⟩ := (TursoState.createNamespaceWithProperties_ok _ _ _ _ _ _).mp created
    rw [paired.properties] at blank
    have absent := (OrderedMap.contains_eq_false _ _).mpr blank
    refine ⟨_, (MemoryState.createNamespace_ok _ _ _ _ _ _).mpr ⟨absent, rfl⟩, ?_, ?_⟩
    · intro change member seen cell
      simp only [List.mem_cons, List.not_mem_nil, or_false] at member
      rcases member with rfl | rfl
      · refine Iff.trans ?_ (ns_stored rfl warehouse.value ns.storageKey cell).symm
        constructor
        · intro same
          exact .inl ⟨rfl, rfl, (Option.some.inj same).symm⟩
        · rintro (⟨-, -, rfl⟩ | ⟨keyed, held⟩)
          · rfl
          · rw [storageKey_inj keyed] at held
            cases held.symm.trans absent
      · refine Iff.trans ?_ (properties_stored rfl warehouse.value ns.storageKey cell).symm
        rw [if_pos ⟨rfl, rfl⟩]
        exact Option.some_inj.trans eq_comm
    · intro row seen unwritten cell
      cases row with
      | ns rowWarehouse path =>
          refine (ns_stored rfl rowWarehouse path cell).trans (or_iff_right ?_)
          rintro ⟨rfl, rfl, -⟩
          exact unwritten _ List.mem_cons_self rfl
      | namespaceProperties rowWarehouse path =>
          refine (properties_stored rfl rowWarehouse path cell).trans ?_
          rw [if_neg]
          rintro ⟨rfl, rfl⟩
          exact unwritten _ (List.mem_cons_of_mem _ List.mem_cons_self) rfl
      | _ => exact .rfl

theorem loadNamespace (paired : Paired memory turso) (warehouse : WarehouseName)
    (ns : Namespace) : turso.loadNamespace warehouse ns = memory.loadNamespace warehouse ns := by
  rw [TursoState.loadNamespace, paired.nsLookup, MemoryState.loadNamespace]
  cases memory.namespaceExists warehouse ns with
  | true => simp [okOr, validateNamespaceScope, rejectIf, ok_bind]
  | false => rfl

theorem loadNamespaceProperties (paired : Paired memory turso) (warehouse : WarehouseName)
    (ns : Namespace) : turso.loadNamespaceProperties warehouse ns =
      memory.loadNamespaceProperties warehouse ns := by
  have stored : memory.namespaceExists warehouse ns = ((memory.namespacesOf warehouse)[ns]?).isSome :=
    Std.ExtTreeMap.contains_eq_isSome_getElem?
  rw [TursoState.loadNamespaceProperties, paired.loadNamespace, paired.properties,
    MemoryState.loadNamespace, MemoryState.loadNamespaceProperties, stored]
  cases held : (memory.namespacesOf warehouse)[ns]? with
  | none => rfl
  | some properties =>
      have accepted : validateNamespacePropertyKeys properties.properties.keys = .ok () :=
        paired.made.properties warehouse ns properties held
      simp [okOr, rejectIf, ok_bind, NamespaceProperties.new, accepted]

theorem updateNamespaceProperties (paired : Paired memory turso) (warehouse : WarehouseName)
    (ns : Namespace) (update : NamespacePropertyUpdate) :
    Alike memory (memory.updateNamespaceProperties warehouse ns update)
      (turso.updateNamespaceProperties warehouse ns update) := by
  rw [TursoState.updateNamespaceProperties, paired.loadNamespaceProperties,
    MemoryState.loadNamespaceProperties, MemoryState.updateNamespaceProperties]
  cases held : (memory.namespacesOf warehouse)[ns]? with
  | none =>
      constructor
      · intro result next updated
        cases updated
      · intro result writes updated
        cases updated
  | some properties =>
      refine ⟨?_, ?_⟩
      · intro result next updated
        obtain ⟨rfl, -⟩ := Prod.mk.inj (Except.ok.inj updated)
        exact ⟨_, rfl⟩
      · intro result writes updated
        obtain ⟨rfl, rfl⟩ := Prod.mk.inj (Except.ok.inj updated)
        refine ⟨_, rfl, ?_, ?_⟩
        · intro change member seen cell
          obtain rfl := List.mem_singleton.mp member
          refine Iff.trans ?_ (properties_stored rfl warehouse.value ns.storageKey cell).symm
          rw [if_pos ⟨rfl, rfl⟩]
          exact Option.some_inj.trans eq_comm
        · intro row seen unwritten cell
          cases row with
          | ns rowWarehouse path =>
              refine (ns_stored rfl rowWarehouse path cell).trans (or_iff_right_of_imp ?_)
              rintro ⟨rfl, rfl, rfl⟩
              refine ⟨rfl, ?_⟩
              rw [MemoryState.namespaceExists, Std.ExtTreeMap.contains_eq_isSome_getElem?, held]
              rfl
          | namespaceProperties rowWarehouse path =>
              refine (properties_stored rfl rowWarehouse path cell).trans ?_
              rw [if_neg]
              rintro ⟨rfl, rfl⟩
              exact unwritten _ List.mem_cons_self rfl
          | _ => exact .rfl

/-- A binding that is there under the key of another has its warehouse and its id. -/
theorem bindingNamed (paired : Paired memory turso) {binding held : PolicyBinding}
    (made : binding.warehouse.Made)
    (stored : memory.policyBindings[policyBindingKey binding.warehouse binding.policyId]? =
      some held) :
    validatePolicyBindingMapScope held (policyBindingKey binding.warehouse binding.policyId) =
        .ok () ∧ held.warehouse = binding.warehouse ∧ held.policyId = binding.policyId := by
  have scope := paired.formed.bindings _ _ stored
  have keyed := ((MemoryState.validatePolicyBindingMapScope_ok _ _ _).mp scope).2
  exact ⟨scope, warehouseScopedKey_injective (paired.made.bindings _ _ stored) made keyed⟩

theorem upsertPolicyBinding (paired : Paired memory turso) (binding : PolicyBinding)
    (made : binding.warehouse.Made) :
    Alike memory (memory.upsertPolicyBinding binding) (turso.upsertPolicyBinding binding) where
  accepts := by
    intro result next upserted
    obtain ⟨valid, -, rfl, -⟩ := (MemoryState.upsertPolicyBinding_ok _ _ _ _).mp upserted
    refine ⟨_, (TursoState.upsertPolicyBinding_ok _ _ _ _).mpr ⟨valid, ?_, rfl, rfl⟩⟩
    intro row stored
    rw [paired.binding] at stored
    obtain ⟨held, found, rfl⟩ := Option.map_eq_some_iff.mp stored
    obtain ⟨scope, warehouse, -⟩ := paired.bindingNamed made found
    have checked := ((MemoryState.validatePolicyBindingMapScope_ok _ _ _).mp scope).1
    simp only [validatePolicyBindingScope, bindingRow, checked, warehouse, ne_eq, not_true_eq_false,
      or_self, rejectIf, ok_bind, if_false]
  redraws := by
    intro result writes upserted
    obtain ⟨valid, -, rfl, rfl⟩ := (TursoState.upsertPolicyBinding_ok _ _ _ _).mp upserted
    refine ⟨_, (MemoryState.upsertPolicyBinding_ok _ _ _ _).mpr
      ⟨valid, fun held found => (paired.bindingNamed made found).1, rfl, rfl⟩, ?_, ?_⟩
    · intro change member seen cell
      obtain rfl := List.mem_singleton.mp member
      refine Iff.trans ?_ (shown_insert memory.policyBindings bindingRow _ _ result cell).symm
      rw [if_pos rfl, paired.binding]
      refine Option.some_inj.trans (eq_comm.trans (iff_of_eq (congrArg (cell = ·) ?_)))
      cases found : memory.policyBindings[policyBindingKey result.warehouse result.policyId]? with
      | none => rfl
      | some held =>
          obtain ⟨-, warehouse, policyId⟩ := paired.bindingNamed made found
          simp only [Option.map_some, Option.getD_some, bindingRow, warehouse, policyId]
          rfl
    · intro row seen unwritten cell
      cases row with
      | policyBinding key =>
          refine (shown_insert memory.policyBindings bindingRow _ key result cell).trans ?_
          rw [if_neg]
          · exact .rfl
          · rintro rfl
            exact unwritten _ List.mem_cons_self rfl
      | _ => exact .rfl

theorem createTable (paired : Paired memory turso) (table : TableRecord)
    (unparted : ¬turso.Parts (.createTable table)) :
    Alike memory (memory.createTable table) (turso.createTable table) where
  accepts := by
    intro result next created
    obtain ⟨valid, ns, vacant, rfl, -⟩ := (MemoryState.createTable_ok _ _ _ _).mp created
    refine ⟨_, (TursoState.createTable_ok _ _ _ _).mpr ⟨valid, ?_, ?_, ?_, rfl, rfl⟩⟩
    · rw [paired.nsStored]
      exact ns
    · by_contra large
      exact unparted (.largeVersion _ (by omega))
    · rw [paired.table, (OrderedMap.contains_eq_false _ _).mp vacant]
      rfl
  redraws := by
    intro result writes created
    obtain ⟨valid, ns, -, vacant, rfl, rfl⟩ := (TursoState.createTable_ok _ _ _ _).mp created
    rw [paired.nsStored] at ns
    rw [← OrderedMap.contains_eq_false, paired.tableStored] at vacant
    refine ⟨_, (MemoryState.createTable_ok _ _ _ _).mpr ⟨valid, ns, vacant, rfl, rfl⟩, ?_, ?_⟩
    · intro change member seen cell
      obtain rfl := List.mem_singleton.mp member
      refine Iff.trans ?_ (shown_insert memory.tables registeredRow _ _ result cell).symm
      rw [if_pos rfl]
      exact Option.some_inj.trans eq_comm
    · intro row seen unwritten cell
      cases row with
      | table key =>
          refine (shown_insert memory.tables registeredRow _ key result cell).trans ?_
          rw [if_neg]
          · exact .rfl
          · rintro rfl
            exact unwritten _ List.mem_cons_self rfl
      | _ => exact .rfl

theorem softDeleteTable (paired : Paired memory turso) (ident : TableIdent)
    (principal : Principal) (receipt : Option Json) (now : Timestamp)
    (unparted : ¬turso.Parts (.softDeleteTable ident principal receipt now)) :
    Alike memory (memory.softDeleteTable ident principal receipt now)
      (turso.softDeleteTable ident principal receipt now) where
  accepts := by
    intro table next deleted
    obtain ⟨registered, live, shape, -⟩ := (MemoryState.softDeleteTable_ok _ _ _ _ _ _ _).mp deleted
    have stored : turso.tables[tableKey ident]? = some (registeredRow table) := by
      rw [paired.table, registered.stored]
      rfl
    have active : turso.activeTable (tableKey ident) = some (registeredRow table) := by
      refine (TursoState.activeTable_eq_some _ _ _).mpr ⟨?_, stored⟩
      rw [← OrderedMap.contains_eq_false, paired.deletionStored]
      exact live
    obtain ⟨auditNew, outboxNew⟩ := TursoState.events_new unparted (by
      rw [TursoState.recordedIds, stored]
      rfl)
    refine ⟨_, (TursoState.softDeleteTable_ok _ _ _ _ _ _ _).mpr ⟨registeredRow table, _,
      ⟨?_, active, ?_, shape, (paired.numbered _ _ registered.stored).bounded,
        (TursoState.insertEvents_ok _ _ _ _ _).mpr ⟨auditNew, outboxNew, rfl⟩⟩, rfl, rfl⟩⟩
    · rw [paired.nsStored]
      exact registered.ns
    · exact (registeredRow_placed _ _ _).mpr ⟨registered.valid, registered.owner, rfl⟩
  redraws := by
    intro result writes deleted
    obtain ⟨row, events, ⟨ns, active, placed, shape, -, inserted⟩, rfl, rfl⟩ :=
      (TursoState.softDeleteTable_ok _ _ _ _ _ _ _).mp deleted
    obtain ⟨undeleted, stored⟩ := (TursoState.activeTable_eq_some _ _ _).mp active
    rw [paired.table] at stored
    obtain ⟨table, held, rfl⟩ := Option.map_eq_some_iff.mp stored
    obtain ⟨-, outboxNew, rfl⟩ := (TursoState.insertEvents_ok _ _ _ _ _).mp inserted
    rw [paired.nsStored] at ns
    rw [← OrderedMap.contains_eq_false, paired.deletionStored] at undeleted
    obtain ⟨valid, owner, -⟩ := (registeredRow_placed _ _ _).mp placed
    refine ⟨_, (MemoryState.softDeleteTable_ok _ _ _ _ _ _ _).mpr
      ⟨⟨ns, held, valid, owner⟩, undeleted, shape, rfl⟩, ?_, ?_⟩
    · intro change member seen cell
      simp only [List.mem_cons, List.not_mem_nil, or_false] at member
      rcases member with rfl | rfl | rfl
      · refine Iff.trans ?_ (shown_insert memory.softDeletes deletionRow _ _ _ cell).symm
        rw [if_pos rfl]
        exact Option.some_inj.trans eq_comm
      · exact seen.elim
      · exact outbox_written ((paired.outboxFree _).mp outboxNew) cell
    · intro row seen unwritten cell
      cases row with
      | softDelete key =>
          refine (shown_insert memory.softDeletes deletionRow _ key _ cell).trans ?_
          rw [if_neg]
          · exact .rfl
          · rintro rfl
            exact unwritten _ List.mem_cons_self rfl
      | outboxEvent id =>
          refine outbox_kept ?_ cell
          rintro rfl
          exact unwritten _ (List.mem_cons_of_mem _ (List.mem_cons_of_mem _ List.mem_cons_self)) rfl
      | _ => exact .rfl

theorem restoreTable (paired : Paired memory turso) (ident : TableIdent)
    (principal : Principal) (receipt : Option Json) (now : Timestamp)
    (unparted : ¬turso.Parts (.restoreTable ident principal receipt now)) :
    Alike memory (memory.restoreTable ident principal receipt now)
      (turso.restoreTable ident principal receipt now) where
  accepts := by
    intro table next restored
    obtain ⟨registered, ⟨record, deleted, matching⟩, -⟩ :=
      (MemoryState.restoreTable_ok _ _ _ _ _ _ _).mp restored
    have stored : turso.tables[tableKey ident]? = some (registeredRow table) := by
      rw [paired.table, registered.stored]
      rfl
    obtain ⟨auditNew, outboxNew⟩ := TursoState.events_new unparted (by
      rw [TursoState.recordedIds, stored]
      rfl)
    refine ⟨_, (TursoState.restoreTable_ok _ _ _ _ _ _ _).mpr ⟨registeredRow table,
      deletionRow record, _, ⟨?_, stored, ?_, ?_, matching, ?_⟩,
      (TursoState.insertEvents_ok _ _ _ _ _).mpr ⟨auditNew, outboxNew, rfl⟩, rfl, rfl⟩⟩
    · rw [paired.nsStored]
      exact registered.ns
    · rw [paired.deletion, deleted]
      rfl
    · exact (registeredRow_placed _ _ _).mpr ⟨registered.valid, registered.owner, rfl⟩
    · exact (deletionRow_placed _ _ _).mpr rfl
  redraws := by
    intro result writes restored
    obtain ⟨row, deletion, events, ⟨ns, stored, deleted, placed, matching, -⟩, inserted, rfl, rfl⟩ :=
      (TursoState.restoreTable_ok _ _ _ _ _ _ _).mp restored
    rw [paired.table] at stored
    obtain ⟨table, held, rfl⟩ := Option.map_eq_some_iff.mp stored
    rw [paired.deletion] at deleted
    obtain ⟨record, heldDeletion, rfl⟩ := Option.map_eq_some_iff.mp deleted
    obtain ⟨-, outboxNew, rfl⟩ := (TursoState.insertEvents_ok _ _ _ _ _).mp inserted
    rw [paired.nsStored] at ns
    obtain ⟨valid, owner, -⟩ := (registeredRow_placed _ _ _).mp placed
    refine ⟨_, (MemoryState.restoreTable_ok _ _ _ _ _ _ _).mpr
      ⟨⟨ns, held, valid, owner⟩, ⟨record, heldDeletion, matching⟩, rfl⟩, ?_, ?_⟩
    · intro change member seen cell
      simp only [List.mem_cons, List.not_mem_nil, or_false] at member
      rcases member with rfl | rfl | rfl
      · refine Iff.trans ?_ (shown_erase memory.softDeletes deletionRow _ _ cell).symm
        exact ⟨nofun, fun shown => absurd rfl shown.1⟩
      · exact seen.elim
      · exact outbox_written ((paired.outboxFree _).mp outboxNew) cell
    · intro row seen unwritten cell
      cases row with
      | softDelete key =>
          refine (shown_erase memory.softDeletes deletionRow _ key cell).trans (and_iff_right ?_)
          rintro rfl
          exact unwritten _ List.mem_cons_self rfl
      | outboxEvent id =>
          refine outbox_kept ?_ cell
          rintro rfl
          exact unwritten _ (List.mem_cons_of_mem _ (List.mem_cons_of_mem _ List.mem_cons_self)) rfl
      | _ => exact .rfl

theorem recordAuditEvent (paired : Paired memory turso) (event : CatalogAuditEvent)
    (unparted : ¬turso.Parts (.recordAuditEvent event)) :
    Alike memory (memory.recordAuditEvent event) (turso.recordAuditEvent event) where
  accepts := by
    intro done next recorded
    obtain ⟨recordable, -, -⟩ := (MemoryState.recordAuditEvent_ok _ _ _ _).mp recorded
    obtain ⟨auditNew, outboxNew⟩ := TursoState.events_new unparted rfl
    exact ⟨_, (TursoState.recordAuditEvent_ok _ _ _ _).mpr
      ⟨recordable, auditNew, outboxNew, rfl⟩⟩
  redraws := by
    intro done writes recorded
    obtain ⟨recordable, -, outboxNew, rfl⟩ := (TursoState.recordAuditEvent_ok _ _ _ _).mp recorded
    have free := (paired.outboxFree _).mp outboxNew
    refine ⟨_, (MemoryState.recordAuditEvent_ok _ _ _ _).mpr ⟨recordable, free, rfl⟩, ?_, ?_⟩
    · intro change member seen cell
      simp only [List.mem_cons, List.not_mem_nil, or_false] at member
      rcases member with rfl | rfl
      · exact seen.elim
      · exact outbox_written free cell
    · intro row seen unwritten cell
      cases row with
      | outboxEvent id =>
          refine outbox_kept ?_ cell
          rintro rfl
          exact unwritten _ (List.mem_cons_of_mem _ List.mem_cons_self) rfl
      | _ => exact .rfl

end Paired

end Calls

end LakeCat
