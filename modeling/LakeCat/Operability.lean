import LakeCat.WellFormed

/-!
Whether an accepted table can be used. Reading, deleting and restoring always
works; a commit also needs its own evidence to be recordable, and a rename
needs the stable ids of both names to itself.
-/

namespace LakeCat

open Fallible

namespace MemoryState

section
variable [External]

/-- No replay of another table is filed under the stable id of either name. -/
structure UnsharedStableIds (state : MemoryState) (source destination : TableIdent) : Prop where
  source : ∀ (key : String) (replay : IdempotencyReplay), state.idempotency[key]? = some replay →
    startsWith key (idempotencyPrefix source) = true → replay.tableKey = tableKey source
  destination : ∀ (key : String) (replay : IdempotencyReplay),
    state.idempotency[key]? = some replay → startsWith key (idempotencyPrefix destination) = false

/-- What can be done with a live table. -/
structure Operable (state : MemoryState) (table : TableRecord) : Prop where
  load : state.loadTable table.ident = .ok table
  list : ∃ tables, state.listTables table.ident.warehouse = .ok tables ∧ table ∈ tables
  records : ∀ first last, ∃ records, state.tableCommitRecords table.ident first last = .ok records
  commit : ∀ commit now, commit.Valid →
    commit.expectedPreviousMetadataLocation = table.metadataLocation →
    state.storedReplay table.ident commit.idempotencyKey = none → Recordable table commit →
    ∃ next, state.commitTable table.ident commit now = .ok (committedTable table commit now, next)
  deletion : ∀ principal receipt now, (∀ document, receipt = some document →
    document.isObject = true) →
    ∃ deleted, state.softDeleteTable table.ident principal receipt now = .ok (table, deleted) ∧
      ∀ restorer approval later, ∃ next,
        deleted.restoreTable table.ident restorer approval later = .ok (table, next) ∧
          next.loadTable table.ident = .ok table
  rename : ∀ destination principal receipt now, table.ident.warehouse = destination.warehouse →
    state.namespaceExists destination.warehouse destination.ns = true →
    state.tables.contains (tableKey destination) = false →
    (∀ document, receipt = some document → validateReceiptPrincipal principal document = .ok ()) →
    state.UnsharedStableIds table.ident destination →
    ∃ next, state.renameTable table.ident destination principal receipt now =
      .ok (renamedTable destination now table, next)

variable {state : MemoryState} {table : TableRecord}

omit [External] in
theorem loadTable_ok (state : MemoryState) (ident : TableIdent) (table : TableRecord) :
    state.loadTable ident = .ok table ↔ state.softDeletes.contains (tableKey ident) = false ∧
      state.tables[tableKey ident]? = some table ∧ table.Valid ∧ table.ident = ident := by
  simp only [loadTable, liveTable, bind_eq_ok, exists_unit, okOr_ok, pure_eq, Except.ok.injEq,
    validateTableRecordMapScope_ok, validateTableRecordIdentity_ok]
  constructor
  · rintro ⟨_, live, _, ⟨valid, owner⟩, rfl⟩
    split at live
    next => cases live
    next undeleted => exact ⟨Bool.not_eq_true _ ▸ undeleted, live, valid, owner⟩
  · rintro ⟨live, stored, valid, owner⟩
    refine ⟨table, ?_, ⟨valid, congrArg tableKey owner⟩, ⟨valid, owner⟩, rfl⟩
    rw [live]
    exact stored

omit [External] in
theorem listTables_ok (state : MemoryState) (warehouse : WarehouseName)
    (tables : List TableRecord) :
    state.listTables warehouse = .ok tables ↔
      (∀ entry ∈ state.tables.toList, entry.2.Valid ∧ tableKey entry.2.ident = entry.1) ∧
        tables = ((state.tables.toList.map Prod.snd).filter fun table =>
          table.ident.warehouse = warehouse).filter fun table =>
            !state.softDeletes.contains (tableKey table.ident) := by
  have spec (entry : String × TableRecord) (result : TableRecord) :
      (do validateTableRecordMapScope entry.2 entry.1; return entry.2 : LakeCatResult TableRecord) =
          .ok result ↔
        (entry.2.Valid ∧ tableKey entry.2.ident = entry.1) ∧ result = entry.2 := by
    simp only [bind_eq_ok, exists_unit, validateTableRecordMapScope_ok, pure_eq, Except.ok.injEq]
    exact and_congr_right fun _ => eq_comm
  simp only [listTables, bind_eq_ok, pure_eq, Except.ok.injEq]
  constructor
  · rintro ⟨_, collected, rfl⟩
    obtain ⟨checked, rfl⟩ := (collect_checked _ _ _ spec _ _).mp collected
    exact ⟨checked, rfl⟩
  · rintro ⟨checked, rfl⟩
    exact ⟨_, (collect_checked _ _ _ spec _ _).mpr ⟨checked, rfl⟩, rfl⟩

theorem tableCommitRecords_ok (state : MemoryState) (ident : TableIdent) (first : UInt64)
    (last : Option UInt64) (records : List TableCommitRecord) :
    state.tableCommitRecords ident first last = .ok records ↔
      (∀ commit ∈ state.commitsInRange (tableKey ident) first last,
        commit.tableKey = tableKey ident ∧ commit.record.ValidFor ident) ∧
        records = (state.commitsInRange (tableKey ident) first last).map
          MemoryCommitRecord.record := by
  refine collect_checked _ _ _ (fun commit result => ?_) _ _
  simp only [bind_eq_ok, exists_unit, validateTableCommitRecordMemoryScope_ok, pure_eq,
    Except.ok.injEq]
  exact and_congr_right fun _ => eq_comm

/-- The operations of a live table of a well-formed state. -/
structure Live (state : MemoryState) (table : TableRecord) : Prop where
  stored : state.tables[tableKey table.ident]? = some table
  undeleted : state.softDeletes.contains (tableKey table.ident) = false

namespace Live

omit [External] in
theorem load (live : state.Live table) (valid : table.Valid) :
    state.loadTable table.ident = .ok table :=
  (loadTable_ok _ _ _).mpr ⟨live.undeleted, live.stored, valid, rfl⟩

theorem list (live : state.Live table) (formed : WellFormed state) :
    ∃ tables, state.listTables table.ident.warehouse = .ok tables ∧ table ∈ tables := by
  refine ⟨_, (listTables_ok _ _ _).mpr ⟨?_, rfl⟩, ?_⟩
  · intro entry member
    obtain ⟨filed, valid⟩ :=
      formed.tables entry.1 entry.2 ((OrderedMap.mem_toList _ _ _).mp member)
    exact ⟨valid, filed⟩
  · have member := (OrderedMap.mem_toList _ _ _).mpr live.stored
    simp only [List.mem_filter, List.mem_map, live.undeleted]
    exact ⟨⟨⟨_, member, rfl⟩, by simp⟩, rfl⟩

/-- A record filed under a stored table's key names that table. -/
theorem record_validFor (live : state.Live table) (formed : WellFormed state)
    {commit : MemoryCommitRecord} (member : commit ∈ state.commits)
    (filed : commit.tableKey = tableKey table.ident) : commit.record.ValidFor table.ident := by
  obtain ⟨owner, stored, valid⟩ := formed.commits commit member
  rw [filed] at stored
  obtain rfl := Option.some.inj (stored.symm.trans live.stored)
  exact valid

theorem records (live : state.Live table) (formed : WellFormed state) (first : UInt64)
    (last : Option UInt64) :
    ∃ records, state.tableCommitRecords table.ident first last = .ok records := by
  refine ⟨_, (tableCommitRecords_ok _ _ _ _ _).mpr ⟨?_, rfl⟩⟩
  intro commit member
  simp only [commitsInRange, List.mem_filter, decide_eq_true_eq] at member
  obtain ⟨⟨⟨stored, filed⟩, _⟩, _⟩ := member
  exact ⟨filed, live.record_validFor formed stored filed⟩

theorem restorable (live : state.Live table) (formed : WellFormed state) (principal : Principal)
    (receipt : Option Json) (now : Timestamp)
    (shape : ∀ document, receipt = some document → document.isObject = true) :
    ∃ deleted, state.softDeleteTable table.ident principal receipt now = .ok (table, deleted) ∧
      ∀ restorer approval later, ∃ next,
        deleted.restoreTable table.ident restorer approval later = .ok (table, next) ∧
          next.loadTable table.ident = .ok table := by
  have ns := formed.namespaces _ table live.stored
  have valid := (formed.tables _ table live.stored).2
  have registered : state.Registered table.ident table := ⟨ns, live.stored, valid, rfl⟩
  refine ⟨_, (softDeleteTable_ok _ _ _ _ _ _ _).mpr ⟨registered, live.undeleted, shape, rfl⟩, ?_⟩
  intro restorer approval later
  have found : (state.softDeleted table.ident table principal receipt now).softDeletes[
      tableKey table.ident]? = some (softDeleteRecord table.ident table principal receipt now) := by
    rw [softDeleted, OrderedMap.getElem?_insert, if_pos rfl]
  have matching := (softDeleteRecord_valid table.ident table principal receipt now valid rfl).mpr
    shape
  refine ⟨_, (restoreTable_ok _ _ _ _ _ _ _).mpr
    ⟨⟨ns, live.stored, valid, rfl⟩, ⟨_, found, matching⟩, rfl⟩, ?_⟩
  refine (loadTable_ok _ _ _).mpr ⟨?_, live.stored, valid, rfl⟩
  rw [restored, OrderedMap.contains_eq_false, OrderedMap.getElem?_erase, if_pos rfl]

/-- Of the replays, only those of other tables under a shared stable id stand in the way. -/
theorem retirable (formed : WellFormed state) {source destination : TableIdent}
    (vacant : state.tables.contains (tableKey destination) = false)
    (stored : state.tables[tableKey source]? = some table) (owner : table.ident = source)
    (unshared : state.UnsharedStableIds source destination) (key : String)
    (replay : IdempotencyReplay) (found : state.idempotency[key]? = some replay) :
    RetirableReplay source destination key replay := by
  have filed := formed.replays key replay found
  have answering : replay.tableKey = tableKey source → replay.response.ident = source := by
    intro owned
    obtain ⟨holder, held, same⟩ := filed.table
    rw [owned] at held
    obtain rfl := Option.some.inj (held.symm.trans stored)
    exact same.trans owner
  refine ⟨⟨unshared.source key replay found, ?_⟩, fun _ => filed.evidence,
    fun owned => ⟨filed.valid, answering owned⟩, unshared.destination key replay found, ?_⟩
  · intro owned
    obtain ⟨idempotencyKey, keyed⟩ := filed.keyed
    rw [keyed, answering owned]
    exact startsWith_append _ _
  · intro landed
    obtain ⟨holder, held, _⟩ := filed.table
    exact stored_ne_vacant held vacant landed.symm

theorem renamable (live : state.Live table) (formed : WellFormed state)
    {destination : TableIdent} {principal : Principal} {receipt : Option Json}
    (warehouse : table.ident.warehouse = destination.warehouse)
    (ns : state.namespaceExists destination.warehouse destination.ns = true)
    (vacant : state.tables.contains (tableKey destination) = false)
    (fitting : ∀ document, receipt = some document →
      validateReceiptPrincipal principal document = .ok ())
    (unshared : state.UnsharedStableIds table.ident destination) :
    state.Renamable table.ident destination principal receipt table := by
  refine ⟨warehouse, ns, live.undeleted, live.stored, (formed.tables _ table live.stored).2, rfl,
    vacant, ?_, ?_, ?_, retirable formed vacant live.stored rfl unshared, formed.bindings, fitting⟩
  · by_contra deleted
    obtain ⟨record, stored⟩ := (OrderedMap.contains_eq_true _ _).mp (Bool.not_eq_false _ ▸ deleted)
    obtain ⟨holder, held, _⟩ := formed.softDeletes _ record stored
    exact stored_ne_vacant held vacant rfl
  · intro commit member landed
    obtain ⟨holder, held, _⟩ := formed.commits commit member
    exact stored_ne_vacant held vacant landed.symm
  · intro commit member filed
    exact live.record_validFor formed member filed

end Live

theorem operable (formed : WellFormed state) (live : state.Live table) : state.Operable table := by
  have valid := (formed.tables _ table live.stored).2
  refine ⟨live.load valid, live.list formed, live.records formed, ?_, live.restorable formed, ?_⟩
  · intro commit now accepted expected fresh recordable
    exact ⟨_, commitTable_fresh now accepted live.undeleted fresh live.stored valid rfl
      expected.symm recordable⟩
  · intro destination principal receipt now warehouse ns vacant fitting unshared
    exact ⟨_, (renameTable_ok _ _ _ _ _ _ _ _).mpr
      ⟨table, live.renamable formed warehouse ns vacant fitting unshared, rfl, rfl⟩⟩

end

/-- A commit whose document has a snapshot id that no record may have. -/
def negativeSnapshotCommit : TableCommit :=
  {
    sampleCommit with
    newMetadataLocation := some "s3://lake/orders/metadata/00001.json"
    newMetadata := some (.object [("format-version", .int 2), ("current-snapshot-id", .int (-2))])
  }

end MemoryState

end LakeCat
