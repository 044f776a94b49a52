import LakeCat.TursoContainment

/-!
Tables of the Turso store and their soft deletes under concurrent transactions.
A commit writes the row of its table and a soft delete only reads it, so the
two may commit beside each other.
-/

namespace LakeCat

open SnapshotIsolation

/-- A table row whose columns say what its record says. -/
structure TableRow.Coherent (row : TableRow) (key : String) : Prop where
  placed : row.Placed row.record.ident key
  pointer : row.metadataLocation = row.record.metadataLocation
  version : row.version = row.record.version.toNat

namespace TursoState
variable [External]

/-- A soft delete of the table as it is stored, which can be restored unless the same restore
has been recorded before. -/
structure Recoverable (state : TursoState) (key : String) (deletion : SoftDeleteRow)
    (row : TableRow) : Prop where
  keyed : key = tableKey deletion.record.table
  version : row.version = deletion.version
  pointer : row.metadataLocation = deletion.metadataLocation
  restorable : state.Restorable deletion.record.table row deletion
  restores : ∀ principal receipt now,
    (∃ result, state.restoreTable deletion.record.table principal receipt now = .ok result) ↔
      ∃ events, state.restoreEvents deletion.record.table row.record principal receipt now =
        .ok events

def DeletionsRecoverable (state : TursoState) : Prop :=
  ∀ (key : String) (deletion : SoftDeleteRow), state.softDeletes[key]? = some deletion →
    ∃ row, state.Recoverable key deletion row

theorem Recoverable.stored {state : TursoState} {key : String} {deletion : SoftDeleteRow}
    {row : TableRow} (recoverable : state.Recoverable key deletion row) :
    state.tables[key]? = some row := by
  rw [recoverable.keyed]
  exact recoverable.restorable.stored

theorem recoverable_of {state : TursoState} {key : String} {deletion : SoftDeleteRow}
    {row : TableRow} (coherent : row.Coherent key) (keyed : key = tableKey deletion.record.table)
    (restorable : state.Restorable deletion.record.table row deletion) :
    state.Recoverable key deletion row := by
  refine ⟨keyed, ?_, ?_, restorable, ?_⟩
  · rw [coherent.version, ← restorable.matching.version]
    exact restorable.filed.version
  · rw [coherent.pointer, ← restorable.matching.pointer]
    exact restorable.filed.pointer
  · intro principal receipt now
    constructor
    · rintro ⟨⟨result, writes⟩, restored⟩
      obtain ⟨other, _, events, found, inserted, _, _⟩ :=
        (restoreTable_ok _ _ _ _ _ _ _).mp restored
      obtain rfl : other = row := Option.some.inj (found.stored.symm.trans restorable.stored)
      exact ⟨events, inserted⟩
    · rintro ⟨events, inserted⟩
      exact ⟨_, (restoreTable_ok _ _ _ _ _ _ _).mpr
        ⟨row, deletion, events, restorable, inserted, rfl, rfl⟩⟩

omit [External] in
/-- What every transaction of the lifecycle keeps. -/
structure Lasting (base state : TursoState) : Prop where
  tables : ∀ (key : String) (row : TableRow), state.tables[key]? = some row → row.Coherent key
  namespaces : ∀ warehouse ns,
    state.namespaceStored warehouse ns = base.namespaceStored warehouse ns

/-- A soft delete whose own rows are as they were can be restored as before. -/
theorem recoverable_kept {base state next : TursoState} {key : String} {deletion : SoftDeleteRow}
    {row : TableRow} (recoverable : state.Recoverable key deletion row)
    (before : Lasting base state) (after : Lasting base next)
    (table : next.tables[key]? = state.tables[key]?)
    (deleted : next.softDeletes[key]? = state.softDeletes[key]?) :
    next.Recoverable key deletion row := by
  obtain ⟨ns, _, filed, placed, matching, place⟩ := recoverable.restorable
  have keyed := recoverable.keyed
  have found : next.tables[key]? = some row := table.trans recoverable.stored
  refine recoverable_of (after.tables key row found) keyed ⟨?_, ?_, ?_, placed, matching, place⟩
  · rw [after.namespaces, ← before.namespaces]
    exact ns
  · rw [← keyed]
    exact found
  · rw [← keyed, deleted, keyed]
    exact filed

end TursoState

/-- The transactions on tables and their soft deletes. -/
inductive LifecycleJob where
  | commitTable (ident : TableIdent) (commit : TableCommit) (expectedVersion : Option UInt64)
      (now : Timestamp)
  | renameTable (source destination : TableIdent) (principal : Principal) (receipt : Option Json)
      (now : Timestamp)
  | softDeleteTable (ident : TableIdent) (principal : Principal) (receipt : Option Json)
      (now : Timestamp)
  | restoreTable (ident : TableIdent) (principal : Principal) (receipt : Option Json)
      (now : Timestamp)

namespace LifecycleJob

open TursoState

def body [External] : LifecycleJob → TursoState → Option TursoWrites
  | .commitTable ident commit expectedVersion now, state =>
      writesOf (state.commitTableExpecting ident commit expectedVersion now)
  | .renameTable source destination principal receipt now, state =>
      writesOf (state.renameTable source destination principal receipt now)
  | .softDeleteTable ident principal receipt now, state =>
      writesOf (state.softDeleteTable ident principal receipt now)
  | .restoreTable ident principal receipt now, state =>
      writesOf (state.restoreTable ident principal receipt now)

/-- A soft delete of the one record is a soft delete of the other. -/
structure SameReceipt (seen current : TableRecord) : Prop where
  ident : current.ident = seen.ident
  pointer : current.metadataLocation = seen.metadataLocation
  version : current.version = seen.version
  format : tableCommitFormatVersion current = tableCommitFormatVersion seen

/-- A table is not changed while it is soft-deleted, and not soft-deleted while it is changed. -/
def permitted : LifecycleJob → TursoDatabase → TursoDatabase → Prop
  | .commitTable ident commit _ _, snapshot, database =>
      snapshot.store.storedReplay ident commit.idempotencyKey = none →
        database.store.softDeletes[tableKey ident]? = none
  | .renameTable source _ _ _ _, _, database =>
      database.store.softDeletes[tableKey source]? = none
  | .softDeleteTable ident _ _ _, snapshot, database =>
      ∀ seen : TableRow, snapshot.store.tables[tableKey ident]? = some seen →
        ∃ current, database.store.tables[tableKey ident]? = some current ∧
          SameReceipt seen.record current.record
  | .restoreTable _ _ _ _, _, _ => True

/-- What the rows of the catalog are once some writes have been applied to them. -/
structure Effect (state next : TursoState) (tables : String → Option TableRow)
    (softDeletes : String → Option SoftDeleteRow) : Prop where
  tables : ∀ key : String, next.tables[key]? = tables key
  softDeletes : ∀ key : String, next.softDeletes[key]? = softDeletes key
  namespaces : ∀ warehouse ns, next.namespaceStored warehouse ns = state.namespaceStored warehouse ns

theorem effect_of (state middle : TursoState) (first others : TursoWrites)
    (evidential : Evidential others) (applied : applyWrites state first = middle)
    (spaces : middle.namespaces = state.namespaces) :
    Effect state (applyWrites state (first ++ others)) (fun key => middle.tables[key]?)
      (fun key => middle.softDeletes[key]?) := by
  subst applied
  refine ⟨fun key => ?_, fun key => ?_, fun warehouse ns => ?_⟩
  · exact lookup_catalog state first others evidential (.table key) rfl
  · exact lookup_catalog state first others evidential (.softDelete key) rfl
  · have same := lookup_catalog state first others evidential (.ns warehouse.value ns.storageKey) rfl
    simp only [namespaceStored, Std.ExtTreeMap.contains_eq_isSome_getElem?]
    exact (congrArg Option.isSome same).trans (by rw [TursoState.lookup, spaces])

theorem put_table_effect (state : TursoState) (key : String) (row : TableRow)
    (others : TursoWrites) (evidential : Evidential others) :
    Effect state (applyWrites state (TursoRow.put (.table key) row :: others))
      (fun query => if key = query then some row else state.tables[query]?)
      (fun query => state.softDeletes[query]?) := by
  have effect := effect_of state { state with tables := OrderedMap.put state.tables key (some row) }
    [TursoRow.put (.table key) row] others evidential rfl rfl
  simp only [OrderedMap.getElem?_put] at effect
  exact effect

theorem move_table_effect (state : TursoState) (source destination : String) (row : TableRow)
    (others : TursoWrites) (evidential : Evidential others) :
    Effect state (applyWrites state (TursoRow.delete (.table source) ::
        TursoRow.put (.table destination) row :: others))
      (fun query => if destination = query then some row
        else if source = query then none else state.tables[query]?)
      (fun query => state.softDeletes[query]?) := by
  have effect := effect_of state {
      state with
      tables := OrderedMap.put (OrderedMap.put state.tables source none) destination (some row)
    } [TursoRow.delete (.table source), TursoRow.put (.table destination) row] others evidential
      rfl rfl
  simp only [OrderedMap.getElem?_put] at effect
  exact effect

theorem softDelete_effect (state : TursoState) (key : String) (deletion : Option SoftDeleteRow)
    (others : TursoWrites) (evidential : Evidential others) :
    Effect state (applyWrites state (⟨.softDelete key, deletion⟩ :: others))
      (fun query => state.tables[query]?)
      (fun query => if key = query then deletion else state.softDeletes[query]?) := by
  have effect := effect_of state {
      state with
      softDeletes := OrderedMap.put state.softDeletes key deletion
    } [⟨.softDelete key, deletion⟩] others evidential rfl rfl
  simp only [OrderedMap.getElem?_put] at effect
  exact effect

theorem Effect.lasting {base state next : TursoState} {tables : String → Option TableRow}
    {softDeletes : String → Option SoftDeleteRow} (effect : Effect state next tables softDeletes)
    (lasting : Lasting base state)
    (coherent : ∀ key row, tables key = some row → row.Coherent key) : Lasting base next :=
  ⟨fun key row stored => coherent key row ((effect.tables key).symm.trans stored),
    fun warehouse ns => (effect.namespaces warehouse ns).trans (lasting.namespaces warehouse ns)⟩

/-- A row the transaction writes is in the database as it was in the snapshot. -/
theorem seen_stored {snapshot database : TursoDatabase} {writes : TursoWrites}
    (agrees : Agrees tursoRows snapshot database)
    (unconflicted : Unconflicted snapshot database writes)
    (change : Write tursoRows) (member : change ∈ writes) (key : String)
    (named : change.row = .table key) :
    snapshot.store.tables[key]? = database.store.tables[key]? := by
  have same := unconflicted change member
  rw [named] at same
  exact (agrees (.table key)).2 same

section
variable [External]

theorem committedRow_coherent {row : TableRow} {ident : TableIdent} {commit : TableCommit}
    (now : Timestamp) (valid : commit.Valid) (placed : row.Placed ident (tableKey ident)) :
    (committedRow row commit now).Coherent (tableKey ident) := by
  have table := MemoryState.committedTable_valid now valid placed.valid
  have owner : (MemoryState.committedTable row.record commit now).ident = ident := placed.owner
  refine ⟨⟨table, rfl, ?_, ?_, ?_, ?_⟩, rfl, rfl⟩
  · exact congrArg tableKey owner.symm
  · exact placed.warehouse.trans (congrArg (fun ident => ident.warehouse.value) owner.symm)
  · exact placed.path.trans (congrArg (fun ident => ident.ns.storageKey) owner.symm)
  · exact placed.name.trans (congrArg (fun ident => ident.name.value) owner.symm)

/-- A table that is not soft-deleted can be given a new row. -/
theorem put_table_good {base state next : TursoState} {key : String} {row : TableRow}
    (effect : Effect state next (fun query => if key = query then some row else state.tables[query]?)
      (fun query => state.softDeletes[query]?))
    (before : Lasting base state) (after : Lasting base next) (good : state.DeletionsRecoverable)
    (active : state.softDeletes[key]? = none) : next.DeletionsRecoverable := by
  intro query deletion stored
  rw [effect.softDeletes] at stored
  have other : key ≠ query := by
    rintro rfl
    cases active.symm.trans stored
  obtain ⟨found, recoverable⟩ := good query deletion stored
  refine ⟨found, recoverable_kept recoverable before after ?_ (effect.softDeletes query)⟩
  rw [effect.tables]
  exact if_neg other

theorem commitTable_exact {base : TursoState} {snapshot database : TursoDatabase}
    {ident : TableIdent} {commit : TableCommit} {expectedVersion : Option UInt64}
    {now : Timestamp} {result : TableRecord} {writes : TursoWrites}
    (seen : Lasting base snapshot.store) (lasting : Lasting base database.store)
    (good : database.store.DeletionsRecoverable) (agrees : Agrees tursoRows snapshot database)
    (accepted : snapshot.store.commitTableExpecting ident commit expectedVersion now =
      .ok (result, writes)) (unconflicted : Unconflicted snapshot database writes) :
    ExactAt (Lasting base) DeletionsRecoverable (fun _ _ => True)
      (commitTable ident commit expectedVersion now) database writes
      ((commitTable ident commit expectedVersion now).permitted snapshot database) := by
  rcases commitTableExpecting_ok _ _ _ _ _ _ _ accepted with ⟨stored, rfl⟩ | ⟨fresh, valid, row,
    events, replay, committable, rfl⟩
  · refine ⟨lasting, iff_of_true ⟨good, trivial⟩ ?_⟩
    intro fresh
    rw [fresh] at stored
    cases stored
  · obtain ⟨_, stored⟩ := (activeTable_eq_some _ _ _).mp committable.active
    have current : database.store.tables[tableKey ident]? = some row :=
      (seen_stored agrees unconflicted _ (List.mem_cons_self ..) _ rfl).symm.trans stored
    have effect := put_table_effect database.store (tableKey ident) (committedRow row commit now) _
      (commitWrites_evidence committable)
    have after := effect.lasting lasting fun key found written => by
      split at written
      next same =>
        cases written
        exact same ▸ committedRow_coherent now valid committable.placed
      next => exact lasting.tables key found written
    refine ⟨after, ?_, ?_⟩
    · rintro ⟨next, -⟩ -
      cases deleted : database.store.softDeletes[tableKey ident]? with
      | none => rfl
      | some deletion =>
          -- The version has grown since the table was deleted.
          obtain ⟨old, before⟩ := good _ deletion deleted
          obtain ⟨new, again⟩ := next _ deletion ((effect.softDeletes _).trans deleted)
          obtain rfl : old = row := Option.some.inj
            (before.stored.symm.trans current)
          obtain rfl : new = committedRow old commit now := Option.some.inj
            (again.stored.symm.trans ((effect.tables _).trans (if_pos rfl)))
          have coherent := (seen.tables _ _ stored).version
          have grown : ((old.record.version + 1).toNat : Int) = old.record.version.toNat :=
            (again.version.trans before.version.symm).trans coherent
          have bounded := committable.bounded
          rw [UInt64.toNat_add] at grown bounded
          have small := old.record.version.toNat_lt
          have one : (1 : UInt64).toNat = 1 := rfl
          omega
    · intro active
      exact ⟨put_table_good effect lasting after good (active fresh), trivial⟩

omit [External] in
theorem renamedRow_coherent {row : TableRow} {source destination : TableIdent} {now : Timestamp}
    (coherent : row.Coherent (tableKey source)) (valid : (renamedRow row destination now).record.Valid) :
    (renamedRow row destination now).Coherent (tableKey destination) :=
  ⟨⟨valid, rfl, rfl, rfl, rfl, rfl⟩, coherent.pointer, coherent.version⟩

theorem renameTable_exact {base : TursoState} {snapshot database : TursoDatabase}
    {source destination : TableIdent} {principal : Principal} {receipt : Option Json}
    {now : Timestamp} {result : TableRecord} {writes : TursoWrites}
    (seen : Lasting base snapshot.store) (lasting : Lasting base database.store)
    (good : database.store.DeletionsRecoverable) (agrees : Agrees tursoRows snapshot database)
    (renamed : snapshot.store.renameTable source destination principal receipt now =
      .ok (result, writes)) (unconflicted : Unconflicted snapshot database writes) :
    ExactAt (Lasting base) DeletionsRecoverable (fun _ _ => True)
      (renameTable source destination principal receipt now) database writes
      ((renameTable source destination principal receipt now).permitted snapshot database) := by
  obtain ⟨row, others, renamable, evidential, rfl⟩ := renameTable_ok _ _ _ _ _ _ _ _ renamed
  obtain ⟨_, stored⟩ := (activeTable_eq_some _ _ _).mp renamable.active
  have apart : tableKey destination ≠ tableKey source := by
    intro same
    have vacant := renamable.vacant
    rw [same, stored] at vacant
    cases vacant
  have vacant : database.store.tables[tableKey destination]? = none :=
    (seen_stored agrees unconflicted (TursoRow.put (.table (tableKey destination)) _)
      (List.mem_cons_of_mem _ (List.mem_cons_self ..)) _ rfl).symm.trans renamable.vacant
  have effect := move_table_effect database.store (tableKey source) (tableKey destination)
    (renamedRow row destination now) others evidential
  have after := effect.lasting lasting fun key found written => by
    split at written
    next same =>
      cases written
      exact same ▸ renamedRow_coherent (seen.tables _ row stored) renamable.valid
    next =>
      split at written
      next => cases written
      next => exact lasting.tables key found written
  refine ⟨after, ?_, ?_⟩
  · rintro ⟨next, -⟩
    change database.store.softDeletes[tableKey source]? = none
    cases deleted : database.store.softDeletes[tableKey source]? with
    | none => rfl
    | some deletion =>
        obtain ⟨new, again⟩ := next _ deletion ((effect.softDeletes _).trans deleted)
        have gone : (applyWrites database.store _ : TursoState).tables[tableKey source]? = none :=
          (effect.tables _).trans ((if_neg apart).trans (if_pos rfl))
        cases gone.symm.trans again.stored
  · intro active
    refine ⟨?_, trivial⟩
    intro query deletion found
    rw [effect.softDeletes] at found
    obtain ⟨old, recoverable⟩ := good query deletion found
    have notSource : tableKey source ≠ query := by
      rintro rfl
      cases Eq.trans (Eq.symm active) found
    have notDestination : tableKey destination ≠ query := by
      rintro rfl
      cases vacant.symm.trans recoverable.stored
    refine ⟨old, recoverable_kept recoverable lasting after ?_ (effect.softDeletes query)⟩
    rw [effect.tables]
    exact (if_neg notDestination).trans (if_neg notSource)

/-- A soft delete of the table as the database shows it can be restored. -/
theorem softDeleted_restorable {base snapshot next : TursoState} {ident : TableIdent}
    {principal : Principal} {receipt : Option Json} {now : Timestamp} {row current : TableRow}
    {events : TursoWrites} (seen : Lasting base snapshot) (after : Lasting base next)
    (deletable : snapshot.Deletable ident principal receipt now row events)
    (stored : next.tables[tableKey ident]? = some current)
    (deleted : next.softDeletes[tableKey ident]? =
      some (softDeleteRow (MemoryState.softDeleteRecord ident row.record principal receipt now)
        row.record.version.toNat)) (same : SameReceipt row.record current.record) :
    next.Restorable ident current
      (softDeleteRow (MemoryState.softDeleteRecord ident row.record principal receipt now)
        row.record.version.toNat) := by
  have coherent := after.tables _ current stored
  have owner : current.record.ident = ident := same.ident.trans deletable.placed.owner
  refine ⟨?_, stored, deleted, owner ▸ coherent.placed, ?_, ?_⟩
  · rw [after.namespaces, ← seen.namespaces]
    exact deletable.ns
  · exact ⟨coherent.placed.valid, rfl, owner, same.pointer.symm, same.version.symm,
      same.format.symm, deletable.shape⟩
  · exact ⟨rfl, rfl, rfl, rfl, rfl, rfl, rfl⟩

theorem softDeleteTable_exact {base : TursoState} {snapshot database : TursoDatabase}
    {ident : TableIdent} {principal : Principal} {receipt : Option Json} {now : Timestamp}
    {result : TableRecord} {writes : TursoWrites} (seen : Lasting base snapshot.store)
    (lasting : Lasting base database.store) (good : database.store.DeletionsRecoverable)
    (deleted : snapshot.store.softDeleteTable ident principal receipt now = .ok (result, writes)) :
    ExactAt (Lasting base) DeletionsRecoverable (fun _ _ => True)
      (softDeleteTable ident principal receipt now) database writes
      ((softDeleteTable ident principal receipt now).permitted snapshot database) := by
  obtain ⟨row, events, deletable, _, rfl⟩ := (softDeleteTable_ok _ _ _ _ _ _ _).mp deleted
  obtain ⟨_, stored⟩ := (activeTable_eq_some _ _ _).mp deletable.active
  have effect := softDelete_effect database.store (tableKey ident) (some (softDeleteRow
    (MemoryState.softDeleteRecord ident row.record principal receipt now)
      row.record.version.toNat)) events (insertEvents_evidential deletable.events)
  have after := effect.lasting lasting lasting.tables
  have filed := (effect.softDeletes (tableKey ident)).trans (if_pos rfl)
  refine ⟨after, ?_, ?_⟩
  · rintro ⟨next, -⟩ other found
    obtain rfl : other = row := Option.some.inj (found.symm.trans stored)
    obtain ⟨current, recoverable⟩ := next _ _ filed
    have matching := recoverable.restorable.matching
    exact ⟨current, (effect.tables _).symm.trans recoverable.stored,
      matching.owner.trans deletable.placed.owner.symm, matching.pointer.symm,
      matching.version.symm, matching.format.symm⟩
  · intro allowed
    refine ⟨?_, trivial⟩
    intro query deletion found
    by_cases own : tableKey ident = query
    · subst own
      obtain ⟨current, held, same⟩ := allowed row stored
      have shown := (effect.tables (tableKey ident)).trans held
      obtain rfl := Option.some.inj (filed.symm.trans found)
      exact ⟨current, recoverable_of (after.tables _ current shown) rfl
        (softDeleted_restorable seen after deletable shown filed same)⟩
    · have kept := (effect.softDeletes query).trans (if_neg own)
      obtain ⟨old, recoverable⟩ := good query deletion (kept.symm.trans found)
      exact ⟨old, recoverable_kept recoverable lasting after (effect.tables query) kept⟩

theorem restoreTable_exact {base : TursoState} {snapshot database : TursoDatabase}
    {ident : TableIdent} {principal : Principal} {receipt : Option Json} {now : Timestamp}
    {result : TableRecord} {writes : TursoWrites} (lasting : Lasting base database.store)
    (good : database.store.DeletionsRecoverable)
    (restored : snapshot.store.restoreTable ident principal receipt now = .ok (result, writes)) :
    ExactAt (Lasting base) DeletionsRecoverable (fun _ _ => True)
      (restoreTable ident principal receipt now) database writes
      ((restoreTable ident principal receipt now).permitted snapshot database) := by
  obtain ⟨_, _, events, _, inserted, _, rfl⟩ := (restoreTable_ok _ _ _ _ _ _ _).mp restored
  have effect := softDelete_effect database.store (tableKey ident) none events
    (insertEvents_evidential inserted)
  have after := effect.lasting lasting lasting.tables
  refine ⟨after, iff_of_true ⟨?_, trivial⟩ trivial⟩
  intro query deletion found
  have kept := effect.softDeletes query
  by_cases own : tableKey ident = query
  · cases found.symm.trans (kept.trans (if_pos own))
  · obtain ⟨old, recoverable⟩ := good query deletion ((kept.trans (if_neg own)).symm.trans found)
    exact ⟨old, recoverable_kept recoverable lasting after (effect.tables query)
      (kept.trans (if_neg own))⟩

theorem lifecycle_exact (base : TursoState) :
    Exact body (Lasting base) DeletionsRecoverable (fun _ _ => True) permitted := by
  rintro job snapshot database writes ⟨seen, -⟩ ⟨lasting, good⟩ agrees computed unconflicted
  cases job with
  | commitTable ident commit expectedVersion now =>
      obtain ⟨_, accepted⟩ := (writesOf_eq_some _ _).mp computed
      exact commitTable_exact seen lasting good agrees accepted unconflicted
  | renameTable source destination principal receipt now =>
      obtain ⟨_, renamed⟩ := (writesOf_eq_some _ _).mp computed
      exact renameTable_exact seen lasting good agrees renamed unconflicted
  | softDeleteTable ident principal receipt now =>
      obtain ⟨_, deleted⟩ := (writesOf_eq_some _ _).mp computed
      exact softDeleteTable_exact seen lasting good deleted
  | restoreTable ident principal receipt now =>
      obtain ⟨_, restored⟩ := (writesOf_eq_some _ _).mp computed
      exact restoreTable_exact lasting good restored

/-- A run keeps every soft delete recoverable exactly when no table is changed beside its soft
delete. -/
theorem deletions_recoverable (start : TursoDatabase)
    (coherent : ∀ (key : String) (row : TableRow), start.store.tables[key]? = some row →
      row.Coherent key)
    (recoverable : start.store.DeletionsRecoverable) (events : List (Event LifecycleJob)) :
    Transition.Along (step body) (Keeps body DeletionsRecoverable fun _ _ => True)
      (System.idle start) events ↔
      Transition.Along (step body) (Permits body permitted) (System.idle start) events :=
  run_keeps_iff (lifecycle_exact start.store) start ⟨coherent, fun _ _ => rfl⟩ recoverable events

theorem permitted_still (job : LifecycleJob) (database : TursoDatabase) (writes : TursoWrites)
    (computed : job.body database.store = some writes) : job.permitted database database := by
  cases job with
  | commitTable ident commit expectedVersion now =>
      intro fresh
      obtain ⟨_, accepted⟩ := (writesOf_eq_some _ _).mp computed
      rcases commitTableExpecting_ok _ _ _ _ _ _ _ accepted with ⟨stored, _⟩ |
        ⟨_, _, row, _, _, committable, _⟩
      · rw [fresh] at stored
        cases stored
      · exact ((activeTable_eq_some _ _ row).mp committable.active).1
  | renameTable source destination principal receipt now =>
      obtain ⟨_, renamed⟩ := (writesOf_eq_some _ _).mp computed
      obtain ⟨row, _, renamable, _, _⟩ := renameTable_ok _ _ _ _ _ _ _ _ renamed
      exact ((activeTable_eq_some _ _ row).mp renamable.active).1
  | softDeleteTable ident principal receipt now =>
      exact fun seen stored => ⟨seen, stored, rfl, rfl, rfl, rfl⟩
  | restoreTable ident principal receipt now => trivial

end

/-- The sample table in its namespace, as `create_table` leaves it. -/
def sampleStore : TursoState where
  namespaces := (∅ : Std.ExtTreeMap (String × String) NamespaceRow).insert
    (sampleIdent.warehouse.value, sampleIdent.ns.storageKey) ⟨sampleIdent.ns⟩
  namespaceProperties := (∅ : Std.ExtTreeMap (String × String) NamespaceProperties).insert
    (sampleIdent.warehouse.value, sampleIdent.ns.storageKey) .default
  tables := (∅ : BTreeMap TableRow).insert (tableKey sampleIdent) (tableRow sampleTable 0)

example [External] : (Transition.run (step NamespaceJob.body) (System.idle ⟨{}, fun _ => 0⟩)
    (serial [.createNamespace sampleIdent.warehouse sampleIdent.ns .default,
      .createTable sampleTable])).database.store = sampleStore := rfl

theorem sampleStore_coherent (key : String) (row : TableRow)
    (stored : sampleStore.tables[key]? = some row) : row.Coherent key := by
  rw [sampleStore, OrderedMap.getElem?_insert] at stored
  split at stored
  next same =>
    cases stored
    exact ⟨⟨(TableRecord.validate_ok _ ()).mp rfl, rfl, same.symm, rfl, rfl, rfl⟩, rfl, rfl⟩
  next => cases stored

/-- The sample table is deleted and restored, and committed to afterwards. -/
theorem deletions_recoverable_sample : ∃ events : List (Event LifecycleJob), ∀ [External],
    Transition.Along (step body) (Keeps body DeletionsRecoverable fun _ _ => True)
      (System.idle ⟨sampleStore, fun _ => 0⟩) events := by
  refine ⟨serial [.softDeleteTable sampleIdent .anonymous none 1,
    .restoreTable sampleIdent .anonymous none 2, .commitTable sampleIdent sampleCommit none 3], ?_⟩
  intro _
  refine (deletions_recoverable ⟨sampleStore, fun _ => 0⟩ sampleStore_coherent ?_ _).mpr
    (serial_permitted permitted_still _ _)
  intro key deletion stored
  cases stored

section
variable [External]

def sampleCommitRecord : TableCommitRecord :=
  MemoryState.commitRecord sampleIdent sampleTable sampleCommit 1

def sampleDeletion : SoftDeleteRecord :=
  MemoryState.softDeleteRecord sampleIdent sampleTable .anonymous none 2

/-- The events of the sample commit and of the sample soft delete have ids of their own. -/
structure DistinctEvents : Prop where
  audit : contentHashJson (MemoryState.softDeleteAuditPayload sampleIdent sampleDeletion) ≠
    contentHashJson (MemoryState.commitAuditPayload sampleIdent sampleCommitRecord none)
  outbox : contentHashJson (MemoryState.softDeleteOutboxPayload sampleIdent sampleDeletion) ≠
    contentHashJson (MemoryState.commitOutboxPayload sampleIdent sampleCommitRecord none)

theorem sampleCommit_writes : ∃ others : TursoWrites,
    (commitTable sampleIdent sampleCommit none 1).body sampleStore =
      some (TursoRow.put (.table (tableKey sampleIdent))
        (committedRow (tableRow sampleTable 0) sampleCommit 1) :: others) ∧
      Evidential others ∧ others.map Write.row = [.pointerLog (tableKey sampleIdent) 1,
        .auditEvent (contentHashJson
          (MemoryState.commitAuditPayload sampleIdent sampleCommitRecord none)),
        .outboxEvent (contentHashJson
          (MemoryState.commitOutboxPayload sampleIdent sampleCommitRecord none))] := by
  have valid : sampleCommit.Valid := (TableCommit.validate_ok _ ()).mp rfl
  have table : sampleTable.Valid := (TableRecord.validate_ok _ ()).mp rfl
  have record : sampleCommitRecord.ValidFor sampleIdent := by
    refine (MemoryState.commitRecord_validFor sampleIdent 1 valid table).mpr
      ⟨by decide, ?_, ?_, by decide, ?_⟩
    all_goals exact fun _ given => nomatch given
  have committable : ∃ events, sampleStore.Committable sampleIdent sampleCommit none 1
      (tableRow sampleTable 0) events [] ∧ events.map Write.row = [
        .auditEvent (contentHashJson
          (MemoryState.commitAuditPayload sampleIdent sampleCommitRecord none)),
        .outboxEvent (contentHashJson
          (MemoryState.commitOutboxPayload sampleIdent sampleCommitRecord none))] := by
    refine ⟨_, ⟨rfl, ⟨table, rfl, rfl, rfl, rfl, rfl⟩, rfl, ?_, record, by decide, rfl, rfl, rfl, rfl⟩,
      rfl⟩
    exact fun _ given => nomatch given
  obtain ⟨events, committable, rows⟩ := committable
  refine ⟨_, congrArg writesOf (commitTableExpecting_fresh valid rfl committable),
    commitWrites_evidence committable, ?_⟩
  simp only [List.map_cons, List.map_append, rows]
  rfl

theorem sampleDeletion_writes : ∃ others : TursoWrites,
    (softDeleteTable sampleIdent .anonymous none 2).body sampleStore =
      some (TursoRow.put (.softDelete (tableKey sampleIdent)) (softDeleteRow sampleDeletion 0) ::
        others) ∧
      Evidential others ∧ others.map Write.row = [
        .auditEvent (contentHashJson
          (MemoryState.softDeleteAuditPayload sampleIdent sampleDeletion)),
        .outboxEvent (contentHashJson
          (MemoryState.softDeleteOutboxPayload sampleIdent sampleDeletion))] := by
  refine ⟨_, rfl, ?_, rfl⟩
  intro change member
  simp only [List.mem_cons, List.not_mem_nil, or_false] at member
  rcases member with rfl | rfl <;> rfl

end

/-- A table is soft-deleted while a commit to it is under way, and both transactions commit. -/
theorem softDeleted_besideCommit : ∃ events : List (Event LifecycleJob), ∀ [External],
    DistinctEvents → ¬DeletionsRecoverable
      (Transition.run (step body) (System.idle ⟨sampleStore, fun _ => 0⟩) events).database.store := by
  refine ⟨[.begin 0 (.commitTable sampleIdent sampleCommit none 1),
    .begin 1 (.softDeleteTable sampleIdent .anonymous none 2), .commit 0, .commit 1], ?_⟩
  intro _ distinct recoverable
  obtain ⟨commitEvents, committed, evidence, rows⟩ := sampleCommit_writes
  obtain ⟨deleteEvents, deleted, traces, others⟩ := sampleDeletion_writes
  rw [overlapping_commit ⟨sampleStore, fun _ => 0⟩ _ _ _ _ committed deleted] at recoverable
  · let advanced : TursoState := applyWrites sampleStore (TursoRow.put (.table (tableKey sampleIdent))
      (committedRow (tableRow sampleTable 0) sampleCommit 1) :: commitEvents)
    have first := put_table_effect sampleStore (tableKey sampleIdent)
      (committedRow (tableRow sampleTable 0) sampleCommit 1) commitEvents evidence
    have second := softDelete_effect advanced (tableKey sampleIdent)
      (some (softDeleteRow sampleDeletion 0)) deleteEvents traces
    have filed := (second.softDeletes (tableKey sampleIdent)).trans (if_pos rfl)
    obtain ⟨row, kept⟩ := recoverable _ _ filed
    have current := (second.tables _).trans ((first.tables (tableKey sampleIdent)).trans (if_pos rfl))
    obtain rfl := Option.some.inj (current.symm.trans kept.stored)
    cases kept.version
  · intro change member
    have own : change.row ∈ _ := List.mem_map_of_mem member
    rw [List.map_cons, others] at own
    rw [List.map_cons, rows]
    have audit := distinct.audit
    have outbox := distinct.outbox
    simp only [List.mem_cons, List.not_mem_nil, or_false] at own
    rcases own with named | named | named
    · simp [named, TursoRow.put]
    · simp [named, TursoRow.put, audit]
    · simp [named, TursoRow.put, outbox]

end LifecycleJob

end LakeCat
