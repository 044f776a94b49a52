import LakeCat.NameKeys
import LakeCat.WellFormed

/-!
The calls on tables, and the slice of the store that the calls on some names
read and write. Two stores with the same slice answer these calls alike and
keep the same slice.
-/

namespace LakeCat

open Fallible

/-- The calls on a table. -/
inductive TableCall where
  | createTable (table : TableRecord)
  | loadTable (ident : TableIdent)
  | tableCommitRecords (ident : TableIdent) (startVersion : UInt64) (endVersion : Option UInt64)
  | commitTable (ident : TableIdent) (commit : TableCommit) (now : Timestamp)
  | replayTableCommit (ident : TableIdent) (idempotencyKey idempotencyRequestHash : String)
  | softDeleteTable (ident : TableIdent) (principal : Principal)
      (authorizationReceipt : Option Json) (now : Timestamp)
  | restoreTable (ident : TableIdent) (principal : Principal)
      (authorizationReceipt : Option Json) (now : Timestamp)
  | renameTable (source destination : TableIdent) (principal : Principal)
      (authorizationReceipt : Option Json) (now : Timestamp)

/-- The names a call is about. -/
def TableCall.idents : TableCall → List TableIdent
  | .createTable table => [table.ident]
  | .loadTable ident => [ident]
  | .tableCommitRecords ident _ _ => [ident]
  | .commitTable ident _ _ => [ident]
  | .replayTableCommit ident _ _ => [ident]
  | .softDeleteTable ident _ _ _ => [ident]
  | .restoreTable ident _ _ _ => [ident]
  | .renameTable source destination _ _ _ => [source, destination]

inductive TableAnswer where
  | table (result : LakeCatResult TableRecord)
  | history (result : LakeCatResult (List TableCommitRecord))
  | replay (result : LakeCatResult (Option TableRecord))

def ownKey (own : List TableIdent) (key : String) : Bool :=
  own.any fun ident => tableKey ident = key

def ownReplayKey (own : List TableIdent) (key : String) : Bool :=
  own.any fun ident => startsWith key (idempotencyPrefix ident)

def PolicyBinding.scopedTo (binding : PolicyBinding) (ident : TableIdent) : Bool :=
  binding.warehouse = ident.warehouse ∧ binding.ns = some ident.ns ∧
    binding.table = some ident.name

def ownBinding (own : List TableIdent) (binding : PolicyBinding) : Bool :=
  own.any fun ident => binding.scopedTo ident

structure TableSlice where
  namespaces : BTreeMap NamespaceMap
  tables : BTreeMap TableRecord
  softDeletes : BTreeMap SoftDeleteRecord
  commits : List MemoryCommitRecord
  idempotency : BTreeMap IdempotencyReplay
  policyBindings : BTreeMap PolicyBinding

theorem ownKey_of_mem {own : List TableIdent} {ident : TableIdent} (owned : ident ∈ own) :
    ownKey own (tableKey ident) = true :=
  List.any_eq_true.mpr ⟨ident, owned, decide_eq_true rfl⟩

theorem ownReplayKey_of_mem {own : List TableIdent} {ident : TableIdent} {key : String}
    (owned : ident ∈ own) (keyed : startsWith key (idempotencyPrefix ident) = true) :
    ownReplayKey own key = true :=
  List.any_eq_true.mpr ⟨ident, owned, keyed⟩

theorem idempotencyRecordKey_self (ident : TableIdent) (key : String) :
    startsWith (idempotencyRecordKey ident key) (idempotencyPrefix ident) = true :=
  (startsWith_iff _ _).mpr ⟨key, rfl⟩

namespace MemoryState

/-- What the calls on these names read: all namespaces, and what is filed under the names. -/
def within (state : MemoryState) (own : List TableIdent) : TableSlice where
  namespaces := state.namespaces
  tables := state.tables.filter fun key _ => ownKey own key
  softDeletes := state.softDeletes.filter fun key _ => ownKey own key
  commits := state.commits.filter fun commit => ownKey own commit.tableKey
  idempotency := state.idempotency.filter fun key _ => ownReplayKey own key
  policyBindings := state.policyBindings.filter fun _ binding => ownBinding own binding

section
variable [External]

/-- The answer to a call that writes, and the state it leaves. -/
def answered (state : MemoryState) (result : LakeCatResult (TableRecord × MemoryState)) :
    TableAnswer × MemoryState :=
  (.table (atomic state result).1, (atomic state result).2)

def perform (state : MemoryState) : TableCall → TableAnswer × MemoryState
  | .createTable table => state.answered (state.createTable table)
  | .loadTable ident => (.table (state.loadTable ident), state)
  | .tableCommitRecords ident startVersion endVersion =>
      (.history (state.tableCommitRecords ident startVersion endVersion), state)
  | .commitTable ident commit now => state.answered (state.commitTable ident commit now)
  | .replayTableCommit ident idempotencyKey idempotencyRequestHash =>
      (.replay (state.replayTableCommit ident idempotencyKey idempotencyRequestHash), state)
  | .softDeleteTable ident principal receipt now =>
      state.answered (state.softDeleteTable ident principal receipt now)
  | .restoreTable ident principal receipt now =>
      state.answered (state.restoreTable ident principal receipt now)
  | .renameTable source destination principal receipt now =>
      state.answered (state.renameTable source destination principal receipt now)

/-- The answers to a list of calls, each made in the state the one before it left. -/
def answers (state : MemoryState) : List TableCall → List TableAnswer
  | [] => []
  | call :: rest => (state.perform call).1 :: (state.perform call).2.answers rest

end

variable {own : List TableIdent} {state other : MemoryState}

/-- The two stores hold the same under these names. -/
def Alike (own : List TableIdent) (state other : MemoryState) : Prop :=
  state.within own = other.within own

/-- The same result, and stores that are still alike. -/
def SameAnswer (own : List TableIdent) (one another : TableRecord × MemoryState) : Prop :=
  one.1 = another.1 ∧ Alike own one.2 another.2

theorem Alike.namespaceExists (alike : Alike own state other) (warehouse : WarehouseName)
    (ns : Namespace) :
    state.namespaceExists warehouse ns = other.namespaceExists warehouse ns :=
  (namespaceExists_congr (congrArg TableSlice.namespaces alike) warehouse ns)

theorem Alike.table (alike : Alike own state other) {ident : TableIdent} (owned : ident ∈ own) :
    state.tables[tableKey ident]? = other.tables[tableKey ident]? := by
  have same := congrArg (fun slice : TableSlice => slice.tables[tableKey ident]?) alike
  simpa only [within, OrderedMap.getElem?_filter_key _ (ownKey_of_mem owned)] using same

theorem Alike.softDelete (alike : Alike own state other) {ident : TableIdent}
    (owned : ident ∈ own) :
    state.softDeletes[tableKey ident]? = other.softDeletes[tableKey ident]? := by
  have same := congrArg (fun slice : TableSlice => slice.softDeletes[tableKey ident]?) alike
  simpa only [within, OrderedMap.getElem?_filter_key _ (ownKey_of_mem owned)] using same

theorem Alike.replay (alike : Alike own state other) {ident : TableIdent} (owned : ident ∈ own)
    (key : String) :
    state.idempotency[idempotencyRecordKey ident key]? =
      other.idempotency[idempotencyRecordKey ident key]? := by
  have kept : ownReplayKey own (idempotencyRecordKey ident key) = true :=
    ownReplayKey_of_mem owned (idempotencyRecordKey_self ident key)
  have same := congrArg
    (fun slice : TableSlice => slice.idempotency[idempotencyRecordKey ident key]?) alike
  simpa only [within, OrderedMap.getElem?_filter_key _ kept] using same

theorem filter_commits_own (commits : List MemoryCommitRecord) {ident : TableIdent}
    (owned : ident ∈ own) :
    (commits.filter fun commit => ownKey own commit.tableKey).filter
        (fun commit => commit.tableKey = tableKey ident) =
      commits.filter fun commit => commit.tableKey = tableKey ident := by
  rw [List.filter_filter]
  refine List.filter_congr fun commit _ => ?_
  by_cases filed : commit.tableKey = tableKey ident
  · simp [filed, ownKey_of_mem owned]
  · simp [filed]

theorem Alike.commits (alike : Alike own state other) {ident : TableIdent} (owned : ident ∈ own) :
    (state.commits.filter fun commit => commit.tableKey = tableKey ident) =
      other.commits.filter fun commit => commit.tableKey = tableKey ident := by
  rw [← filter_commits_own state.commits owned, ← filter_commits_own other.commits owned]
  exact congrArg (fun slice : TableSlice => slice.commits.filter fun commit =>
    commit.tableKey = tableKey ident) alike

theorem Alike.containsTable (alike : Alike own state other) {ident : TableIdent}
    (owned : ident ∈ own) :
    state.tables.contains (tableKey ident) = other.tables.contains (tableKey ident) := by
  rw [Std.ExtTreeMap.contains_eq_isSome_getElem?, alike.table owned,
    Std.ExtTreeMap.contains_eq_isSome_getElem?]

theorem Alike.containsSoftDelete (alike : Alike own state other) {ident : TableIdent}
    (owned : ident ∈ own) :
    state.softDeletes.contains (tableKey ident) = other.softDeletes.contains (tableKey ident) := by
  rw [Std.ExtTreeMap.contains_eq_isSome_getElem?, alike.softDelete owned,
    Std.ExtTreeMap.contains_eq_isSome_getElem?]

theorem Alike.storeTable (alike : Alike own state other) {ident : TableIdent}
    (owned : ident ∈ own) (table : TableRecord) :
    Alike own { state with tables := state.tables.insert (tableKey ident) table }
      { other with tables := other.tables.insert (tableKey ident) table } := by
  obtain ⟨namespaces, tables, softDeletes, commits, idempotency, bindings⟩ :=
    TableSlice.mk.inj alike
  simp only [Alike, within, OrderedMap.filter_key_insert _ (ownKey_of_mem owned), namespaces,
    tables, softDeletes, commits, idempotency, bindings]

section
variable [External]

/-- The same code over alike stores. -/
abbrev RunsAlike (own : List TableIdent) (one another : LakeCatResult (TableRecord × MemoryState)) :
    Prop :=
  Related (SameAnswer own) one another

omit [External] in
theorem Alike.createTable (alike : Alike own state other) (table : TableRecord)
    (owned : table.ident ∈ own) :
    RunsAlike own (state.createTable table) (other.createTable table) := by
  unfold MemoryState.createTable
  dsimp only
  rw [alike.namespaceExists, alike.containsTable owned]
  refine .bind_same _ fun _ _ => .bind_same _ fun _ _ => .bind_same _ fun _ _ => .ok ⟨rfl, ?_⟩
  exact alike.storeTable owned table

omit [External] in
theorem Alike.loadTable (alike : Alike own state other) {ident : TableIdent}
    (owned : ident ∈ own) : state.loadTable ident = other.loadTable ident := by
  unfold MemoryState.loadTable liveTable
  rw [alike.containsSoftDelete owned, alike.table owned]

theorem Alike.tableCommitRecords (alike : Alike own state other) {ident : TableIdent}
    (owned : ident ∈ own) (startVersion : UInt64) (endVersion : Option UInt64) :
    state.tableCommitRecords ident startVersion endVersion =
      other.tableCommitRecords ident startVersion endVersion := by
  unfold MemoryState.tableCommitRecords commitsInRange
  rw [alike.commits owned]

omit [External] in
theorem Alike.replayTableCommit (alike : Alike own state other) {ident : TableIdent}
    (owned : ident ∈ own) (idempotencyKey idempotencyRequestHash : String) :
    state.replayTableCommit ident idempotencyKey idempotencyRequestHash =
      other.replayTableCommit ident idempotencyKey idempotencyRequestHash := by
  unfold MemoryState.replayTableCommit
  rw [alike.replay owned]

theorem Alike.commitTable (alike : Alike own state other) {ident : TableIdent}
    (owned : ident ∈ own) (commit : TableCommit) (now : Timestamp) :
    RunsAlike own (state.commitTable ident commit now) (other.commitTable ident commit now) := by
  have stored : state.storedReplay ident commit.idempotencyKey =
      other.storedReplay ident commit.idempotencyKey := by
    unfold storedReplay
    cases commit.idempotencyKey with
    | none => rfl
    | some key => exact alike.replay owned key
  unfold MemoryState.commitTable
  rw [alike.containsSoftDelete owned, stored]
  refine .bind_same _ fun _ _ => .bind_same _ fun _ _ => ?_
  cases other.storedReplay ident commit.idempotencyKey with
  | some replay => exact .bind_same _ fun response _ => .ok ⟨rfl, alike⟩
  | none =>
      unfold commitFresh
      dsimp only
      rw [alike.table owned]
      refine .bind_same _ fun current _ => .bind_same _ fun _ _ => .bind_same _ fun _ _ =>
        .bind_same _ fun _ _ => .bind_same _ fun _ _ => .bind_same _ fun outbox _ => .ok ⟨rfl, ?_⟩
      obtain ⟨namespaces, tables, softDeletes, commits, idempotency, bindings⟩ :=
        TableSlice.mk.inj alike
      cases commit.idempotencyKey with
      | none =>
          simp only [Alike, within, OrderedMap.filter_key_insert _ (ownKey_of_mem owned),
            List.filter_append, namespaces, tables, softDeletes, commits, idempotency, bindings]
      | some key =>
          have kept : ownReplayKey own (idempotencyRecordKey ident key) = true :=
            ownReplayKey_of_mem owned (idempotencyRecordKey_self ident key)
          simp only [Alike, within, OrderedMap.filter_key_insert _ (ownKey_of_mem owned),
            OrderedMap.filter_key_insert _ kept, List.filter_append, namespaces, tables,
            softDeletes, commits, idempotency, bindings]

theorem Alike.softDeleteTable (alike : Alike own state other) {ident : TableIdent}
    (owned : ident ∈ own) (principal : Principal) (receipt : Option Json) (now : Timestamp) :
    RunsAlike own (state.softDeleteTable ident principal receipt now)
      (other.softDeleteTable ident principal receipt now) := by
  unfold MemoryState.softDeleteTable
  dsimp only
  rw [alike.namespaceExists, alike.containsSoftDelete owned, alike.table owned]
  refine .bind_same _ fun _ _ => .bind_same _ fun _ _ => .bind_same _ fun table _ =>
    .bind_same _ fun _ _ => .bind_same _ fun _ _ => .bind_same _ fun _ _ =>
    .bind_same _ fun outbox _ => .ok ⟨rfl, ?_⟩
  obtain ⟨namespaces, tables, softDeletes, commits, idempotency, bindings⟩ :=
    TableSlice.mk.inj alike
  simp only [Alike, within, OrderedMap.filter_key_insert _ (ownKey_of_mem owned), namespaces,
    tables, softDeletes, commits, idempotency, bindings]

theorem Alike.restoreTable (alike : Alike own state other) {ident : TableIdent}
    (owned : ident ∈ own) (principal : Principal) (receipt : Option Json) (now : Timestamp) :
    RunsAlike own (state.restoreTable ident principal receipt now)
      (other.restoreTable ident principal receipt now) := by
  unfold MemoryState.restoreTable
  dsimp only
  rw [alike.namespaceExists, alike.softDelete owned, alike.table owned]
  refine .bind_same _ fun _ _ => .bind_same _ fun record _ => .bind_same _ fun _ _ =>
    .bind_same _ fun table _ => .bind_same _ fun _ _ => .bind_same _ fun _ _ =>
    .bind_same _ fun _ _ => .bind_same _ fun outbox _ => .ok ⟨rfl, ?_⟩
  obtain ⟨namespaces, tables, softDeletes, commits, idempotency, bindings⟩ :=
    TableSlice.mk.inj alike
  simp only [Alike, within, OrderedMap.filter_erase, namespaces, tables, softDeletes, commits,
    idempotency, bindings]

/-- Records under other keys are passed over by a rename. -/
theorem renameCommits_filter (source destination : TableIdent) (keep : String → Bool)
    (fromKept : keep (tableKey source) = true) (toKept : keep (tableKey destination) = true)
    (commits : List MemoryCommitRecord) :
    renameCommits source destination (commits.filter fun commit => keep commit.tableKey) =
      (renameCommits source destination commits).map
        fun moved => moved.filter fun commit => keep commit.tableKey := by
  induction commits with
  | nil => rfl
  | cons commit rest ih =>
      rw [List.filter_cons]
      by_cases moves : commit.tableKey = tableKey source
      · rw [moves, if_pos fromKept, renameCommits, renameCommits, if_neg (by simp [moves]),
          if_neg (by simp [moves]), ih]
        cases validateTableCommitRecordMemoryScope commit source with
        | error error => rfl
        | ok =>
            rw [ok_bind, ok_bind]
            dsimp only
            cases validateTableCommitRecordMemoryScope
              ⟨tableKey destination, { commit.record with table := destination }⟩
              destination with
            | error error => rfl
            | ok =>
                cases renameCommits source destination rest with
                | error error => rfl
                | ok others => simp [Except.map, toKept]
      · rw [renameCommits, if_pos moves]
        split
        next kept =>
          rw [renameCommits, if_pos moves, ih]
          cases renameCommits source destination rest with
          | error error => rfl
          | ok others => simp [Except.map, kept]
        next dropped =>
          rw [ih]
          cases renameCommits source destination rest with
          | error error => rfl
          | ok others => simp [Except.map, dropped]

omit [External] in
/-- A replay that a rename of this source to this destination passes over. -/
def SilentReplay (source destination : TableIdent) (entry : String × IdempotencyReplay) : Prop :=
  startsWith entry.1 (idempotencyPrefix source) = false ∧ entry.2.tableKey ≠ tableKey source ∧
    startsWith entry.1 (idempotencyPrefix destination) = false ∧
    entry.2.tableKey ≠ tableKey destination

omit [External] in
theorem retiredIdempotencyKeys_filter (source destination : TableIdent)
    (keep : String × IdempotencyReplay → Bool) (entries : List (String × IdempotencyReplay))
    (silent : ∀ entry ∈ entries, keep entry = false → SilentReplay source destination entry) :
    retiredIdempotencyKeys source destination (entries.filter keep) =
      retiredIdempotencyKeys source destination entries := by
  induction entries with
  | nil => rfl
  | cons entry rest ih =>
      have later := ih fun other member => silent other (by simp [member])
      cases kept : keep entry with
      | true =>
          rw [List.filter_cons, if_pos kept, retiredIdempotencyKeys, retiredIdempotencyKeys, later]
      | false =>
          obtain ⟨unkeyed, unscoped, elsewhere, vacant⟩ := silent entry (by simp) kept
          rw [List.filter_cons, if_neg (by simp [kept]), later, retiredIdempotencyKeys]
          cases retiredIdempotencyKeys source destination rest <;>
            simp [unkeyed, unscoped, elsewhere, vacant, rejectIf, checkWhen]

theorem renamedBindings_filter (source destination : TableIdent) (now : Timestamp)
    (keep : String × PolicyBinding → Bool) (entries : List (String × PolicyBinding))
    (silent : ∀ entry ∈ entries, keep entry = false →
      validatePolicyBindingMapScope entry.2 entry.1 = .ok () ∧
        entry.2.scopedTo source = false) :
    renamedBindings source destination now (entries.filter keep) =
      renamedBindings source destination now entries := by
  induction entries with
  | nil => rfl
  | cons entry rest ih =>
      have later := ih fun other member => silent other (by simp [member])
      cases kept : keep entry with
      | true => rw [List.filter_cons, if_pos kept, renamedBindings, renamedBindings, later]
      | false =>
          obtain ⟨valid, outside⟩ := silent entry (by simp) kept
          have unmoved : ¬(entry.2.warehouse = source.warehouse ∧ entry.2.ns = some source.ns ∧
              entry.2.table = some source.name) := of_decide_eq_false outside
          rw [List.filter_cons, if_neg (by simp [kept]), later, renamedBindings, valid, ok_bind,
            if_neg unmoved]

omit [External] in
theorem Alike.anyCommit (alike : Alike own state other) {ident : TableIdent}
    (owned : ident ∈ own) :
    (state.commits.any fun commit => commit.tableKey = tableKey ident) =
      other.commits.any fun commit => commit.tableKey = tableKey ident := by
  have through (commits : List MemoryCommitRecord) :
      (commits.any fun commit => commit.tableKey = tableKey ident) =
        (commits.filter fun commit => commit.tableKey = tableKey ident).any fun _ => true := by
    rw [List.any_filter]
    simp
  rw [through, through, alike.commits owned]

/-- The replays that are not under these names are passed over by a rename among them. -/
theorem WellFormed.silentReplay (formed : WellFormed state) {source destination : TableIdent}
    (sourceOwned : source ∈ own) (destinationOwned : destination ∈ own) {table : TableRecord}
    (stored : state.tables[tableKey source]? = some table) (owner : table.ident = source)
    (vacant : state.tables.contains (tableKey destination) = false)
    (entry : String × IdempotencyReplay) (member : entry ∈ state.idempotency.toList)
    (foreign : ownReplayKey own entry.1 = false) : SilentReplay source destination entry := by
  obtain ⟨key, replay⟩ := entry
  have filed := formed.replays key replay ((OrderedMap.mem_toList _ _ _).mp member)
  have unkeyed {ident : TableIdent} (owned : ident ∈ own) :
      startsWith key (idempotencyPrefix ident) = false := by
    refine Bool.eq_false_iff.mpr fun keyed => ?_
    exact absurd (ownReplayKey_of_mem owned keyed) (by simp [foreign])
  refine ⟨unkeyed sourceOwned, ?_, unkeyed destinationOwned, ?_⟩
  · intro filedHere
    obtain ⟨registered, found, response⟩ := filed.table
    obtain ⟨idempotencyKey, keyed⟩ := filed.keyed
    rw [show replay.tableKey = tableKey source from filedHere, stored] at found
    rw [response, ← Option.some.inj found, owner] at keyed
    exact absurd (idempotencyRecordKey_self source idempotencyKey)
      (by simp [← keyed, unkeyed sourceOwned])
  · intro filedHere
    obtain ⟨registered, found, _⟩ := filed.table
    rw [OrderedMap.contains_eq_false, ← show replay.tableKey = _ from filedHere, found] at vacant
    cases vacant

/-- The bindings that are not of these names are valid, and a rename leaves them. -/
theorem WellFormed.silentBinding (formed : WellFormed state) {source : TableIdent}
    (sourceOwned : source ∈ own) (entry : String × PolicyBinding)
    (member : entry ∈ state.policyBindings.toList) (foreign : ownBinding own entry.2 = false) :
    validatePolicyBindingMapScope entry.2 entry.1 = .ok () ∧ entry.2.scopedTo source = false := by
  refine ⟨formed.bindings _ _ ((OrderedMap.mem_toList _ _ _).mp member), ?_⟩
  refine Bool.eq_false_iff.mpr fun inScope => ?_
  exact absurd (List.any_eq_true.mpr ⟨source, sourceOwned, inScope⟩)
    (Bool.eq_false_iff.mp foreign)

theorem Alike.renameTable (alike : Alike own state other) (formed : WellFormed state)
    (otherFormed : WellFormed other) {source destination : TableIdent}
    (sourceOwned : source ∈ own) (destinationOwned : destination ∈ own) (principal : Principal)
    (receipt : Option Json) (now : Timestamp) :
    RunsAlike own (state.renameTable source destination principal receipt now)
      (other.renameTable source destination principal receipt now) := by
  obtain ⟨namespaces, tables, softDeletes, commits, idempotency, bindings⟩ :=
    TableSlice.mk.inj alike
  unfold MemoryState.renameTable
  dsimp only
  rw [alike.namespaceExists, alike.containsSoftDelete sourceOwned, alike.table sourceOwned,
    alike.containsTable destinationOwned, alike.containsSoftDelete destinationOwned,
    alike.anyCommit destinationOwned]
  refine .bind_same _ fun _ together => .bind_same _ fun _ _ => .bind_same _ fun _ _ =>
    .bind_same _ fun table found => .bind_same _ fun _ _ => .bind_same _ fun _ identity =>
    .bind_same _ fun _ unused => .bind_same _ fun _ _ => .bind_same _ fun _ _ => ?_
  have sameWarehouse := not_not.mp ((rejectIf_ok _ _ _).mp together)
  have stored := (okOr_ok _ _ _).mp found
  have owner := ((validateTableRecordIdentity_ok _ _ _).mp identity).2
  have vacant : other.tables.contains (tableKey destination) = false := by
    rw [rejectIf_ok, not_or] at unused
    exact Bool.eq_false_iff.mpr unused.1
  have sameReplays := congrArg Std.ExtTreeMap.toList idempotency
  have sameBindings := congrArg Std.ExtTreeMap.toList bindings
  rw [Std.ExtTreeMap.toList_filter, Std.ExtTreeMap.toList_filter] at sameReplays sameBindings
  have retired : retiredIdempotencyKeys source destination state.idempotency.toList =
      retiredIdempotencyKeys source destination other.idempotency.toList := by
    rw [← retiredIdempotencyKeys_filter source destination (fun entry => ownReplayKey own entry.1)
        state.idempotency.toList (formed.silentReplay sourceOwned destinationOwned
          ((alike.table sourceOwned).trans stored) owner
          ((alike.containsTable destinationOwned).trans vacant)),
      ← retiredIdempotencyKeys_filter source destination (fun entry => ownReplayKey own entry.1)
        other.idempotency.toList (otherFormed.silentReplay sourceOwned destinationOwned
          stored owner vacant), sameReplays]
  have moved : renamedBindings source destination now state.policyBindings.toList =
      renamedBindings source destination now other.policyBindings.toList := by
    rw [← renamedBindings_filter source destination now (fun entry => ownBinding own entry.2)
        state.policyBindings.toList (formed.silentBinding sourceOwned),
      ← renamedBindings_filter source destination now (fun entry => ownBinding own entry.2)
        other.policyBindings.toList (otherFormed.silentBinding sourceOwned), sameBindings]
  have renamed : Related (fun one another => one.filter (fun commit => ownKey own commit.tableKey) =
      another.filter fun commit => ownKey own commit.tableKey)
      (renameCommits source destination state.commits)
      (renameCommits source destination other.commits) := by
    refine Related.of_map ?_
    rw [← renameCommits_filter source destination _ (ownKey_of_mem sourceOwned)
        (ownKey_of_mem destinationOwned), commits,
      renameCommits_filter source destination _ (ownKey_of_mem sourceOwned)
        (ownKey_of_mem destinationOwned)]
  rw [retired, moved]
  refine .bind renamed fun movedCommits otherCommits _ sameCommits =>
    .bind_same _ fun keys _ => .bind_same _ fun entries listed => .bind_same _ fun events _ =>
    .ok ⟨rfl, ?_⟩
  have kept (entry : String × PolicyBinding) (member : entry ∈ entries) :
      ownBinding own entry.2 = true := by
    obtain ⟨_, rfl⟩ := (renamedBindings_ok _ _ _ _ _).mp listed
    obtain ⟨old, filtered, rfl⟩ := List.mem_map.mp member
    have sourced := of_decide_eq_true (List.mem_filter.mp filtered).2
    refine List.any_eq_true.mpr ⟨destination, destinationOwned, ?_⟩
    simp [PolicyBinding.scopedTo, movedBinding, sourced, sameWarehouse]
  have rebound (map : BTreeMap PolicyBinding) :
      (entries.foldl (fun map entry => map.insert entry.1 entry.2) map).filter
          (fun _ binding => ownBinding own binding) =
        entries.foldl (fun map entry => map.insert entry.1 entry.2)
          (map.filter fun _ binding => ownBinding own binding) :=
    OrderedMap.filter_foldl_insert entries map kept
  simp only [Alike, within, OrderedMap.filter_key_insert _ (ownKey_of_mem destinationOwned),
    OrderedMap.filter_erase, OrderedMap.filter_foldl_erase, rebound, namespaces,
    tables, softDeletes, sameCommits, idempotency, bindings]

end

end MemoryState

end LakeCat
