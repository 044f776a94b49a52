import LakeCat.WellFormed

/-!
Clients that load a table, keep a snapshot of what they read, and commit
against it later. The store compares the pointer of the table and never the
version, so a snapshot is current only while no other version has its pointer.
-/

namespace LakeCat

open Fallible

namespace MemoryState

/-- The store, and the snapshot each client has read and not yet used. -/
structure Sessions where
  store : MemoryState
  snapshots : Nat → Option TableCommitSnapshot

inductive SessionCall where
  | load (client : Nat) (ident : TableIdent)
  | commit (client : Nat) (commit : TableCommit) (now : Timestamp)
  | rename (source destination : TableIdent) (principal : Principal)
      (authorizationReceipt : Option Json) (now : Timestamp)
  | softDelete (ident : TableIdent) (principal : Principal) (authorizationReceipt : Option Json)
      (now : Timestamp)
  | restore (ident : TableIdent) (principal : Principal) (authorizationReceipt : Option Json)
      (now : Timestamp)

def takeSnapshot (state : MemoryState) (ident : TableIdent) : LakeCatResult TableCommitSnapshot := do
  let table ← state.loadTable ident
  TableCommitSnapshot.tryFromTable table

section
variable [External]

namespace Sessions

def begin (store : MemoryState) : Sessions := ⟨store, fun _ => none⟩

/-- A commit uses its client's snapshot up, whether it is accepted or not. -/
def step (sessions : Sessions) : SessionCall → Sessions
  | .load client ident =>
      match sessions.store.takeSnapshot ident with
      | .error _ => sessions
      | .ok snapshot =>
          { sessions with snapshots := Function.update sessions.snapshots client (some snapshot) }
  | .commit client commit now =>
      match sessions.snapshots client with
      | none => sessions
      | some snapshot => {
          store := (atomic sessions.store
            (sessions.store.commitTableWithSnapshot snapshot commit now)).2
          snapshots := Function.update sessions.snapshots client none
        }
  | .rename source destination principal receipt now =>
      { sessions with
        store := sessions.store.step (.renameTable source destination principal receipt now) }
  | .softDelete ident principal receipt now =>
      { sessions with store := sessions.store.step (.softDeleteTable ident principal receipt now) }
  | .restore ident principal receipt now =>
      { sessions with store := sessions.store.step (.restoreTable ident principal receipt now) }

/-- An accepted commit that is no replay was built on the version it replaces. -/
def BuiltOnCurrent (sessions : Sessions) : SessionCall → Prop
  | .commit client commit now =>
      ∀ snapshot table next, sessions.snapshots client = some snapshot →
        sessions.store.commitTableWithSnapshot snapshot commit now = .ok (table, next) →
        sessions.store.storedReplay snapshot.ident commit.idempotencyKey = none →
        ∃ current, sessions.store.tables[tableKey snapshot.ident]? = some current ∧
          snapshot.version = current.version ∧ table.version = current.version + 1
  | _ => True

/-- No unused snapshot of a table has this pointer, unless it is of this version. -/
def Unseen (snapshots : Nat → Option TableCommitSnapshot) (ident : TableIdent)
    (pointer : Option String) (version : UInt64) : Prop :=
  ∀ client snapshot, snapshots client = some snapshot →
    tableKey snapshot.ident = tableKey ident → snapshot.metadataLocation = pointer →
    snapshot.version = version

/-- A commit expects the pointer its client read, and no table comes to a pointer that another
client has read of the same name at another version. -/
def KeepsPointersApart (sessions : Sessions) : SessionCall → Prop
  | .commit client commit _ =>
      ∀ snapshot current, sessions.snapshots client = some snapshot →
        sessions.store.tables[tableKey snapshot.ident]? = some current →
        sessions.store.storedReplay snapshot.ident commit.idempotencyKey = none →
        current.metadataLocation = commit.expectedPreviousMetadataLocation →
        commit.expectedPreviousMetadataLocation = snapshot.metadataLocation ∧
          Unseen (Function.update sessions.snapshots client none) snapshot.ident
            commit.newMetadataLocation (current.version + 1)
  | .rename source destination _ _ _ =>
      ∀ table, sessions.store.tables[tableKey source]? = some table →
        Unseen sessions.snapshots destination table.metadataLocation table.version
  | _ => True

/-- A snapshot that has the pointer of its table has its version. -/
def Current (store : MemoryState) (snapshots : Nat → Option TableCommitSnapshot) : Prop :=
  ∀ client snapshot table, snapshots client = some snapshot →
    store.tables[tableKey snapshot.ident]? = some table →
    snapshot.metadataLocation = table.metadataLocation → snapshot.version = table.version

variable {store next : MemoryState} {snapshots kept : Nat → Option TableCommitSnapshot}

omit [External] in
theorem takeSnapshot_ok (state : MemoryState) (ident : TableIdent) (snapshot : TableCommitSnapshot)
    (taken : state.takeSnapshot ident = .ok snapshot) :
    ∃ table, state.tables[tableKey ident]? = some table ∧ snapshot.ident = ident ∧
      snapshot.version = table.version := by
  simp only [takeSnapshot, loadTable, liveTable, TableCommitSnapshot.tryFromTable, bind_eq_ok,
    exists_unit, okOr_ok, pure_eq, Except.ok.injEq, validateTableRecordIdentity_ok] at taken
  obtain ⟨table, ⟨_, found, _, ⟨_, owner⟩, rfl⟩, _, rfl⟩ := taken
  split at found
  next => cases found
  next => exact ⟨_, found, owner, rfl⟩

omit [External] in
/-- A snapshot is current when it is taken. -/
theorem Current.load (current : Current store snapshots) (client : Nat) {ident : TableIdent}
    {snapshot : TableCommitSnapshot} (taken : store.takeSnapshot ident = .ok snapshot) :
    Current store (Function.update snapshots client (some snapshot)) := by
  intro other held table stands stored same
  by_cases own : other = client
  · subst own
    rw [Function.update_self] at stands
    obtain rfl := Option.some.inj stands
    obtain ⟨loaded, found, owner, version⟩ := takeSnapshot_ok _ _ _ taken
    rw [owner] at stored
    obtain rfl := Option.some.inj (found.symm.trans stored)
    exact version
  · rw [Function.update_of_ne own] at stands
    exact current other held table stands stored same

omit [External] in
/-- Using a snapshot up, and writing no table. -/
theorem Current.keep (current : Current store snapshots)
    (held : ∀ client snapshot, kept client = some snapshot → snapshots client = some snapshot)
    (tables : next.tables = store.tables) : Current next kept := by
  intro client snapshot table stands stored same
  rw [tables] at stored
  exact current client snapshot table (held client snapshot stands) stored same

omit [External] in
/-- A table stored under a name keeps the snapshots current when none of them has its pointer. -/
theorem Current.write (current : Current store snapshots) {ident : TableIdent}
    {table : TableRecord}
    (held : ∀ client snapshot, kept client = some snapshot → snapshots client = some snapshot)
    (elsewhere : ∀ key other, next.tables[key]? = some other → key ≠ tableKey ident →
      store.tables[key]? = some other)
    (written : next.tables[tableKey ident]? = some table)
    (unseen : Unseen kept ident table.metadataLocation table.version) : Current next kept := by
  intro client snapshot other stands stored same
  by_cases here : tableKey snapshot.ident = tableKey ident
  · rw [here] at stored
    obtain rfl := Option.some.inj (written.symm.trans stored)
    exact unseen client snapshot stands here same
  · have earlier := elsewhere _ _ stored here
    exact current client snapshot other (held client snapshot stands) earlier same

omit [External] in
theorem held_after_use (snapshots : Nat → Option TableCommitSnapshot) (client other : Nat)
    (snapshot : TableCommitSnapshot)
    (stands : Function.update snapshots client none other = some snapshot) :
    snapshots other = some snapshot := by
  by_cases own : other = client
  · subst own
    rw [Function.update_self] at stands
    cases stands
  · rwa [Function.update_of_ne own] at stands

theorem Current.commit (current : Current store snapshots) {client : Nat} {commit : TableCommit}
    {now : Timestamp} {snapshot : TableCommitSnapshot} (stands : snapshots client = some snapshot)
    (apart : KeepsPointersApart ⟨store, snapshots⟩ (.commit client commit now)) :
    Current (atomic store (store.commitTableWithSnapshot snapshot commit now)).2
      (Function.update snapshots client none) := by
  rcases atomic_cases store (store.commitTableWithSnapshot snapshot commit now) with
    ⟨table, accepted⟩ | ⟨_, _, same⟩
  · obtain ⟨_, _, answer⟩ := (commitTable_ok _ _ _ _ _ _).mp accepted
    generalize (atomic store (store.commitTableWithSnapshot snapshot commit now)).2 = next at answer
    cases answer with
    | replayed => exact current.keep (held_after_use snapshots client) rfl
    | advanced replaced fresh committable =>
        have unseen := (apart snapshot replaced stands committable.stored fresh
          committable.pointer).2
        refine current.write (held_after_use snapshots client) ?_
          ((OrderedMap.getElem?_insert _ _ _ _).trans (if_pos rfl)) unseen
        intro key other stored different
        rw [committed, OrderedMap.getElem?_insert, if_neg (Ne.symm different)] at stored
        exact stored
  · rw [same]
    exact current.keep (held_after_use snapshots client) rfl

theorem Current.rename (current : Current store snapshots) {source destination : TableIdent}
    {principal : Principal} {receipt : Option Json} {now : Timestamp}
    (apart : KeepsPointersApart ⟨store, snapshots⟩
      (.rename source destination principal receipt now)) :
    Current (store.step (.renameTable source destination principal receipt now)) snapshots := by
  rcases atomic_cases store (store.renameTable source destination principal receipt now) with
    ⟨result, accepted⟩ | ⟨_, _, same⟩
  · obtain ⟨table, renamable, _, next⟩ := (renameTable_ok _ _ _ _ _ _ _ _).mp accepted
    rw [MemoryState.step, next]
    have unseen := apart table renamable.stored
    refine current.write (fun _ _ stands => stands) ?_
      ((OrderedMap.getElem?_insert _ _ _ _).trans (if_pos rfl)) unseen
    intro key other stored different
    rw [renamed, OrderedMap.getElem?_insert, if_neg (Ne.symm different),
      OrderedMap.getElem?_erase] at stored
    split at stored
    next => cases stored
    next => exact stored
  · rw [MemoryState.step, same]
    exact current

theorem Current.softDelete (current : Current store snapshots) (ident : TableIdent)
    (principal : Principal) (receipt : Option Json) (now : Timestamp) :
    Current (store.step (.softDeleteTable ident principal receipt now)) snapshots := by
  refine current.keep (fun _ _ stands => stands) ?_
  rcases atomic_cases store (store.softDeleteTable ident principal receipt now) with
    ⟨table, accepted⟩ | ⟨_, _, same⟩
  · obtain ⟨_, _, _, next⟩ := (softDeleteTable_ok _ _ _ _ _ _ _).mp accepted
    rw [MemoryState.step, next]
    rfl
  · rw [MemoryState.step, same]

theorem Current.restore (current : Current store snapshots) (ident : TableIdent)
    (principal : Principal) (receipt : Option Json) (now : Timestamp) :
    Current (store.step (.restoreTable ident principal receipt now)) snapshots := by
  refine current.keep (fun _ _ stands => stands) ?_
  rcases atomic_cases store (store.restoreTable ident principal receipt now) with
    ⟨table, accepted⟩ | ⟨_, _, same⟩
  · obtain ⟨_, _, next⟩ := (restoreTable_ok _ _ _ _ _ _ _).mp accepted
    rw [MemoryState.step, next]
    rfl
  · rw [MemoryState.step, same]

theorem current_step (sessions : Sessions) (call : SessionCall)
    (current : Current sessions.store sessions.snapshots)
    (apart : KeepsPointersApart sessions call) :
    Current (sessions.step call).store (sessions.step call).snapshots := by
  cases call with
  | load client ident =>
      rw [step]
      split
      next => exact current
      next snapshot taken => exact current.load client taken
  | commit client commit now =>
      rw [step]
      split
      next => exact current
      next snapshot stands => exact current.commit stands apart
  | rename source destination principal receipt now => exact current.rename apart
  | softDelete ident principal receipt now =>
      exact current.softDelete ident principal receipt now
  | restore ident principal receipt now => exact current.restore ident principal receipt now

theorem builtOnCurrent (sessions : Sessions) (call : SessionCall)
    (current : Current sessions.store sessions.snapshots)
    (apart : KeepsPointersApart sessions call) : BuiltOnCurrent sessions call := by
  cases call with
  | commit client commit now =>
      intro snapshot table next stands accepted fresh
      obtain ⟨_, _, answer⟩ := (commitTable_ok _ _ _ _ _ _).mp accepted
      cases answer with
      | replayed replay stored => exact absurd (fresh.symm.trans stored) (by simp)
      | advanced replaced _ committable =>
          have expected := (apart snapshot replaced stands committable.stored fresh
            committable.pointer).1
          have version := current client snapshot replaced stands committable.stored
            (expected.symm.trans committable.pointer.symm)
          exact ⟨replaced, committable.stored, version, rfl⟩
  | load | rename | softDelete | restore => trivial

/-- No update is lost in a run that keeps the pointers of unused snapshots apart. -/
theorem commits_builtOnCurrent (setup : List MemoryOp) (calls : List SessionCall)
    (apart : Transition.Along step KeepsPointersApart (begin (MemoryState.empty.run setup)) calls) :
    Transition.Along step BuiltOnCurrent (begin (MemoryState.empty.run setup)) calls :=
  Transition.along_of_invariant step KeepsPointersApart
    (fun sessions => Current sessions.store sessions.snapshots)
    BuiltOnCurrent current_step builtOnCurrent _ calls (fun _ _ _ stands => nomatch stands) apart

end Sessions

end

namespace Sessions

/-- What a client reads of the sample table. -/
def sampleSnapshot : TableCommitSnapshot where
  ident := sampleIdent
  location := sampleTable.location
  metadataLocation := none
  created := sampleTable.created
  updatedAt := 0
  version := 0
  staged := false

theorem sampleTable_loaded [External] (snapshots : Nat → Option TableCommitSnapshot)
    (client : Nat) :
    step ⟨MemoryState.empty.run sampleSetup, snapshots⟩ (.load client sampleIdent) =
      ⟨MemoryState.empty.run sampleSetup,
        Function.update snapshots client (some sampleSnapshot)⟩ := by
  have taken : (MemoryState.empty.run sampleSetup).takeSnapshot sampleIdent =
      .ok sampleSnapshot := rfl
  rw [step, taken]

theorem commits_builtOnCurrent_sample : ∃ calls : List SessionCall, ∀ [External],
    Transition.Along step BuiltOnCurrent (begin (MemoryState.empty.run sampleSetup)) calls := by
  refine ⟨[.load 0 sampleIdent, .commit 0 sampleCommit 1], ?_⟩
  intro _
  refine commits_builtOnCurrent sampleSetup _ ⟨trivial, ?_, trivial⟩
  rw [begin, sampleTable_loaded]
  intro snapshot current stands _ _ _
  have held : some sampleSnapshot = some snapshot := stands
  obtain rfl := Option.some.inj held
  refine ⟨rfl, ?_⟩
  intro client snapshot stands
  have earlier : Function.update (fun _ => none) 0 (some sampleSnapshot) client = some snapshot :=
    held_after_use _ 0 client snapshot stands
  by_cases own : client = 0
  · rw [own, Function.update_self] at stands
    cases stands
  · rw [Function.update_of_ne own] at earlier
    cases earlier

theorem sampleTable_advanced [External] :
    ((MemoryState.empty.run sampleSetup).committed sampleIdent sampleCommit 1
        sampleTable).tables[tableKey sampleIdent]? =
      some (committedTable sampleTable sampleCommit 1) :=
  (OrderedMap.getElem?_insert _ _ _ _).trans (if_pos rfl)

theorem sampleTable_committedAgain [External] :
    ((MemoryState.empty.run sampleSetup).committed sampleIdent sampleCommit 1
        sampleTable).commitTable sampleIdent sampleCommit 2 =
      .ok (committedTable (committedTable sampleTable sampleCommit 1) sampleCommit 2,
        ((MemoryState.empty.run sampleSetup).committed sampleIdent sampleCommit 1
          sampleTable).committed sampleIdent sampleCommit 2
            (committedTable sampleTable sampleCommit 1)) := by
  have valid : sampleCommit.Valid := (TableCommit.validate_ok _ ()).mp rfl
  have table : (committedTable sampleTable sampleCommit 1).Valid :=
    committedTable_valid 1 valid ((TableRecord.validate_ok _ ()).mp rfl)
  have snapshot : currentSnapshotId (committedTable sampleTable sampleCommit 1).metadata = 0 :=
    committedTable_currentSnapshotId 1 rfl
  have version : (committedTable sampleTable sampleCommit 1).version + 1 ≠ 0 := by
    change (0 + 1 + 1 : UInt64) ≠ 0
    decide
  refine commitTable_fresh 2 valid rfl rfl sampleTable_advanced table rfl rfl ⟨version, ?_, ?_, ?_, ?_⟩
  · exact fun _ given => nomatch given
  · exact fun _ given => nomatch given
  · change -1 ≤ currentSnapshotId (committedTable sampleTable sampleCommit 1).metadata
    rw [snapshot]
    decide
  · exact fun _ given => nomatch given

/-- The second commit is built on version 0 and replaces version 1. -/
theorem staleSnapshot_accepted : ∃ calls : List SessionCall, ∀ [External],
    ¬Transition.Along step BuiltOnCurrent (begin (MemoryState.empty.run sampleSetup)) calls := by
  refine ⟨[.load 0 sampleIdent, .load 1 sampleIdent, .commit 0 sampleCommit 1,
    .commit 1 sampleCommit 2], ?_⟩
  intro _ along
  obtain ⟨_, _, _, built, _⟩ := along
  have used (snapshots : Nat → Option TableCommitSnapshot)
      (held : snapshots 0 = some sampleSnapshot) :
      step ⟨MemoryState.empty.run sampleSetup, snapshots⟩ (.commit 0 sampleCommit 1) =
        ⟨(MemoryState.empty.run sampleSetup).committed sampleIdent sampleCommit 1 sampleTable,
          Function.update snapshots 0 none⟩ := by
    have accepted : (MemoryState.empty.run sampleSetup).commitTableWithSnapshot sampleSnapshot
        sampleCommit 1 = _ := sampleTable_committed
    simp only [step, held, accepted]
    rfl
  rw [begin, sampleTable_loaded, sampleTable_loaded, used _ rfl] at built
  obtain ⟨current, stored, same, _⟩ := built sampleSnapshot _ _ rfl sampleTable_committedAgain rfl
  obtain rfl := Option.some.inj (sampleTable_advanced.symm.trans stored)
  have version : (0 : UInt64) = 0 + 1 := same
  exact absurd version (by decide)

end Sessions

end MemoryState

end LakeCat
