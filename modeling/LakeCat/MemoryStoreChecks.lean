import LakeCat.MemoryStore
import LakeCat.OrderedMap

/-!
What the calls of the memory store check and what they write: one lemma for
each function, read in both directions.
-/

namespace LakeCat

open Fallible

theorem TableCommitRecord.ValidFor.retable [External] {record : TableCommitRecord}
    {source : TableIdent} (valid : record.ValidFor source) (destination : TableIdent) :
    ({ record with table := destination } : TableCommitRecord).ValidFor destination :=
  { valid with table := rfl }

namespace MemoryState
variable [External]

/-- What `rename_table` makes of each commit record. -/
def movedCommit (source destination : TableIdent) (commit : MemoryCommitRecord) :
    MemoryCommitRecord :=
  if commit.tableKey = tableKey source then
    ⟨tableKey destination, { commit.record with table := destination }⟩
  else commit

theorem validateTableCommitRecordMemoryScope_ok (commit : MemoryCommitRecord)
    (ident : TableIdent) (done : Unit) :
    validateTableCommitRecordMemoryScope commit ident = .ok done ↔
      commit.tableKey = tableKey ident ∧ commit.record.ValidFor ident := by
  simp only [validateTableCommitRecordMemoryScope, rejectIf_bind, ne_eq, not_not,
    TableCommitRecord.validateForTable_ok]

theorem renameCommits_ok (source destination : TableIdent) (commits result : List MemoryCommitRecord) :
    renameCommits source destination commits = .ok result ↔
      (∀ commit ∈ commits, commit.tableKey = tableKey source → commit.record.ValidFor source) ∧
        result = commits.map (movedCommit source destination) := by
  induction commits generalizing result with
  | nil => simp [renameCommits, eq_comm]
  | cons commit rest ih =>
      rw [renameCommits, List.forall_mem_cons, List.map_cons]
      by_cases moved : commit.tableKey = tableKey source
      · simp only [moved, ne_eq, not_true, if_false, bind_eq_ok, exists_unit, pure_eq,
          validateTableCommitRecordMemoryScope_ok, Except.ok.injEq, ih, movedCommit, if_true,
          true_and, forall_const]
        constructor
        · rintro ⟨valid, _, _, ⟨all, rfl⟩, rfl⟩
          exact ⟨⟨valid, all⟩, rfl⟩
        · rintro ⟨⟨valid, all⟩, rfl⟩
          exact ⟨valid, valid.retable destination, _, ⟨all, rfl⟩, rfl⟩
      · simp only [ne_eq, moved, not_false_eq_true, if_true, bind_eq_ok, pure_eq,
          Except.ok.injEq, ih, movedCommit, if_false, false_implies, true_and]
        constructor
        · rintro ⟨_, ⟨all, rfl⟩, rfl⟩
          exact ⟨all, rfl⟩
        · rintro ⟨all, rfl⟩
          exact ⟨_, ⟨all, rfl⟩, rfl⟩

omit [External] in
/-- What `rename_table` requires of each stored replay. -/
structure RetirableReplay (source destination : TableIdent) (key : String)
    (replay : IdempotencyReplay) : Prop where
  scope : startsWith key (idempotencyPrefix source) = true ↔ replay.tableKey = tableKey source
  evidence : replay.tableKey = tableKey source → isSha256Evidence replay.requestHash = true
  response : replay.tableKey = tableKey source →
    replay.response.Valid ∧ replay.response.ident = source
  unkeyed : startsWith key (idempotencyPrefix destination) = false
  elsewhere : replay.tableKey ≠ tableKey destination

omit [External] in
theorem retiredIdempotencyKeys_ok (source destination : TableIdent)
    (entries : List (String × IdempotencyReplay)) (retired : List String) :
    retiredIdempotencyKeys source destination entries = .ok retired ↔
      (∀ entry ∈ entries, RetirableReplay source destination entry.1 entry.2) ∧
        retired = (entries.filter fun entry =>
          startsWith entry.1 (idempotencyPrefix source)).map Prod.fst := by
  induction entries generalizing retired with
  | nil => simp [retiredIdempotencyKeys, eq_comm]
  | cons entry rest ih =>
      obtain ⟨key, replay⟩ := entry
      have check : ∀ done, (checkWhen (startsWith key (idempotencyPrefix source))
          (validateSourceReplay source replay) = .ok done ∧
          (startsWith key (idempotencyPrefix source) = true ↔
            replay.tableKey = tableKey source) ∧
          startsWith key (idempotencyPrefix destination) = false ∧
          replay.tableKey ≠ tableKey destination) ↔
          RetirableReplay source destination key replay := by
        intro done
        simp only [checkWhen_ok, validateSourceReplay, bind_eq_ok, exists_unit,
          validateIdempotencyRecordTableKey_ok, validateIdempotencyRecordRequestHash_ok,
          validateTableRecordIdentity_ok]
        constructor
        · rintro ⟨checked, scope, unkeyed, elsewhere⟩
          exact ⟨scope, fun owned => (checked (scope.mpr owned)).2.1,
            fun owned => (checked (scope.mpr owned)).2.2, unkeyed, elsewhere⟩
        · rintro ⟨scope, evidence, response, unkeyed, elsewhere⟩
          exact ⟨fun keyed => ⟨scope.mp keyed, evidence (scope.mp keyed),
            response (scope.mp keyed)⟩, scope, unkeyed, elsewhere⟩
      rw [List.forall_mem_cons, ← check ()]
      simp only [retiredIdempotencyKeys, bind_eq_ok, exists_unit, rejectIf_ok, pure_eq,
        Except.ok.injEq, ih, List.filter_cons, ne_eq, not_not, not_or, Bool.not_eq_true]
      constructor
      · rintro ⟨scope, checked, ⟨unkeyed, elsewhere⟩, _, ⟨all, rfl⟩, rfl⟩
        refine ⟨⟨⟨checked, ?_, unkeyed, elsewhere⟩, all⟩, ?_⟩
        · simp [scope]
        · split <;> simp [*]
      · rintro ⟨⟨⟨checked, scope, unkeyed, elsewhere⟩, all⟩, rfl⟩
        refine ⟨?_, checked, ⟨unkeyed, elsewhere⟩, _, ⟨all, rfl⟩, ?_⟩
        · rw [Bool.eq_iff_iff, scope, decide_eq_true_eq]
        · split <;> simp [*]

/-- A binding scoped to the source table moves with it. -/
def movedBinding (source destination : TableIdent) (renamedAt : Timestamp)
    (binding : PolicyBinding) : PolicyBinding :=
  if binding.warehouse = source.warehouse ∧ binding.ns = some source.ns ∧
      binding.table = some source.name then
    {
      binding with
      ns := some destination.ns
      table := some destination.name
      updatedAt := renamedAt
    }
  else binding

theorem validatePolicyBinding_ok (binding : PolicyBinding) (done : Unit) :
    binding.validate = .ok done ↔
      validatePolicyId binding.policyId = .ok () ∧ (binding.table.isSome → binding.ns.isSome) := by
  simp only [PolicyBinding.validate, bind_unit_eq_ok, rejectIf_ok, not_and,
    Option.isNone_iff_eq_none, Option.isSome_iff_ne_none, ne_eq]

theorem validatePolicyBindingMapScope_ok (binding : PolicyBinding) (key : String) (done : Unit) :
    validatePolicyBindingMapScope binding key = .ok done ↔
      binding.validate = .ok () ∧ policyBindingKey binding.warehouse binding.policyId = key := by
  simp only [validatePolicyBindingMapScope, validateScope_ok, ne_eq, not_not]

theorem renamedBindings_ok (source destination : TableIdent) (renamedAt : Timestamp)
    (entries result : List (String × PolicyBinding)) :
    renamedBindings source destination renamedAt entries = .ok result ↔
      (∀ entry ∈ entries, validatePolicyBindingMapScope entry.2 entry.1 = .ok ()) ∧
        result = (entries.filter fun entry => entry.2.warehouse = source.warehouse ∧
          entry.2.ns = some source.ns ∧ entry.2.table = some source.name).map fun entry =>
            (entry.1, movedBinding source destination renamedAt entry.2) := by
  induction entries generalizing result with
  | nil => simp [renamedBindings, eq_comm]
  | cons entry rest ih =>
      obtain ⟨key, binding⟩ := entry
      rw [renamedBindings, List.forall_mem_cons, List.filter_cons]
      by_cases owned : binding.warehouse = source.warehouse ∧ binding.ns = some source.ns ∧
          binding.table = some source.name
      · simp only [owned, and_self, decide_true, if_true, bind_eq_ok, exists_unit, pure_eq,
          Except.ok.injEq, ih, List.map_cons, movedBinding]
        constructor
        · rintro ⟨checked, _, _, ⟨all, rfl⟩, rfl⟩
          exact ⟨⟨checked, all⟩, rfl⟩
        · rintro ⟨⟨checked, all⟩, rfl⟩
          refine ⟨checked, ?_, _, ⟨all, rfl⟩, rfl⟩
          rw [validatePolicyBindingMapScope_ok, validatePolicyBinding_ok] at checked
          rw [validatePolicyBinding_ok]
          exact ⟨checked.1.1, by simp⟩
      · simp only [owned, decide_false, Bool.false_eq_true, if_false, bind_eq_ok, exists_unit, ih,
          and_assoc]

omit [External] in
/-- What `drop_namespace` finds of a table of the namespace. -/
def RetiredTable (state : MemoryState) (key : String) (table : TableRecord) : Prop :=
  ∃ softDelete, state.softDeletes[key]? = some softDelete ∧ tableKey softDelete.table = key ∧
    softDelete.ValidFor table.ident table

omit [External] in
theorem retiredTableKeys_ok (state : MemoryState) (warehouse : WarehouseName) (ns : Namespace)
    (entries : List (String × TableRecord)) (retired : List String) :
    state.retiredTableKeys warehouse ns entries = .ok retired ↔
      (∀ entry ∈ entries, entry.2.Valid ∧ tableKey entry.2.ident = entry.1 ∧
        (entry.2.ident.warehouse = warehouse → entry.2.ident.ns = ns →
          state.RetiredTable entry.1 entry.2)) ∧
        retired = (entries.filter fun entry =>
          entry.2.ident.warehouse = warehouse ∧ entry.2.ident.ns = ns).map Prod.fst := by
  induction entries generalizing retired with
  | nil => simp [retiredTableKeys, eq_comm]
  | cons entry rest ih =>
      obtain ⟨key, table⟩ := entry
      rw [retiredTableKeys, List.forall_mem_cons, List.filter_cons]
      by_cases inside : table.ident.warehouse = warehouse ∧ table.ident.ns = ns
      · obtain ⟨rfl, rfl⟩ := inside
        simp only [ne_eq, not_true, or_self, if_false, bind_eq_ok, exists_unit, pure_eq, okOr_ok,
          Except.ok.injEq, ih, validateTableRecordMapScope_ok, validateSoftDeleteRecordMapScope_ok,
          SoftDeleteRecord.validateForTable_ok, and_self, decide_true, if_true, List.map_cons,
          forall_const, RetiredTable]
        constructor
        · rintro ⟨⟨valid, filed⟩, softDelete, found, placed, matching, _, ⟨all, rfl⟩, rfl⟩
          exact ⟨⟨⟨valid, filed, softDelete, found, placed, matching⟩, all⟩, rfl⟩
        · rintro ⟨⟨⟨valid, filed, softDelete, found, placed, matching⟩, all⟩, rfl⟩
          exact ⟨⟨valid, filed⟩, softDelete, found, placed, matching, _, ⟨all, rfl⟩, rfl⟩
      · have outside : table.ident.warehouse ≠ warehouse ∨ table.ident.ns ≠ ns := by
          by_cases same : table.ident.warehouse = warehouse
          · exact .inr fun equal => inside ⟨same, equal⟩
          · exact .inl same
        have absent : (table.ident.warehouse = warehouse → table.ident.ns = ns →
            state.RetiredTable key table) ↔ True :=
          iff_true_intro fun first second => (inside ⟨first, second⟩).elim
        simp only [outside, if_true, bind_eq_ok, exists_unit, ih, validateTableRecordMapScope_ok,
          inside, decide_false, Bool.false_eq_true, if_false, absent, and_true, and_assoc]

omit [External] in
theorem createTable_ok (state next : MemoryState) (table result : TableRecord) :
    state.createTable table = .ok (result, next) ↔
      table.Valid ∧ state.namespaceExists table.ident.warehouse table.ident.ns = true ∧
        state.tables.contains (tableKey table.ident) = false ∧ result = table ∧
        next = { state with tables := state.tables.insert (tableKey table.ident) table } := by
  simp only [createTable, bind_eq_ok, exists_unit, rejectIf_ok, TableRecord.validate_ok, pure_eq,
    return_eq_ok, Bool.not_eq_true, Bool.not_eq_false]

/-- The keys of the tables registered in a namespace. -/
def retiredKeys (state : MemoryState) (warehouse : WarehouseName) (ns : Namespace) :
    List String :=
  (state.tables.toList.filter fun entry =>
    entry.2.ident.warehouse = warehouse ∧ entry.2.ident.ns = ns).map Prod.fst

omit [External] in
theorem mem_retiredKeys (state : MemoryState) (warehouse : WarehouseName) (ns : Namespace)
    (key : String) :
    key ∈ state.retiredKeys warehouse ns ↔ ∃ table, state.tables[key]? = some table ∧
      table.ident.warehouse = warehouse ∧ table.ident.ns = ns := by
  simp only [retiredKeys, List.mem_map, List.mem_filter, decide_eq_true_eq]
  constructor
  · rintro ⟨⟨found, table⟩, ⟨stored, inside⟩, rfl⟩
    exact ⟨table, (OrderedMap.mem_toList _ _ _).mp stored, inside⟩
  · rintro ⟨table, stored, inside⟩
    exact ⟨(key, table), ⟨(OrderedMap.mem_toList _ _ _).mpr stored, inside⟩, rfl⟩

/-- What `drop_namespace` requires of the state. -/
structure Droppable (state : MemoryState) (warehouse : WarehouseName) (ns : Namespace) : Prop where
  present : state.namespaceExists warehouse ns = true
  childless : ∀ candidate, state.namespaceExists warehouse candidate = true →
    namespaceIsDescendant candidate ns = false
  tables : ∀ key table, state.tables[key]? = some table → table.Valid ∧
    tableKey table.ident = key ∧ (table.ident.warehouse = warehouse → table.ident.ns = ns →
      state.RetiredTable key table)
  softDeletes : ∀ key softDelete, state.softDeletes[key]? = some softDelete →
    tableKey softDelete.table = key ∧ (softDelete.table.warehouse = warehouse →
      softDelete.table.ns = ns → key ∈ state.retiredKeys warehouse ns)
  views : ∀ key view, state.views[key]? = some view →
    validateViewRecordMapScope view key = .ok () ∧ ¬(view.warehouse = warehouse ∧ view.ns = ns)
  bindings : ∀ key binding, state.policyBindings[key]? = some binding →
    validatePolicyBindingMapScope binding key = .ok () ∧
      ¬(binding.warehouse = warehouse ∧ binding.ns = some ns)

/-- The state without the namespace and everything filed under its tables. -/
def withoutNamespace (state : MemoryState) (warehouse : WarehouseName) (ns : Namespace) :
    MemoryState :=
  let retired := state.retiredKeys warehouse ns
  {
    state with
    namespaces := state.namespaces.insert warehouse.value
      ((state.namespacesOf warehouse).erase ns)
    tables := state.tables.filter fun key _ => key ∉ retired
    softDeletes := state.softDeletes.filter fun key _ => key ∉ retired
    commits := state.commits.filter fun commit => commit.tableKey ∉ retired
    idempotency := state.idempotency.filter fun _ replay => replay.tableKey ∉ retired
  }

theorem dropNamespace_ok (state next : MemoryState) (warehouse : WarehouseName)
    (ns result : Namespace) :
    state.dropNamespace warehouse ns = .ok (result, next) ↔
      state.Droppable warehouse ns ∧ result = ns ∧ next = state.withoutNamespace warehouse ns := by
  simp only [dropNamespace, bind_eq_ok, exists_unit, rejectIf_ok, retiredTableKeys_ok, pure_eq,
    Except.ok.injEq, Prod.mk.injEq, checkEach_ok, not_not, Bool.not_eq_true, Bool.not_eq_false,
    List.any_eq_false, Prod.forall, OrderedMap.mem_toList, validateSoftDeleteRecordMapScope_ok,
    not_and, Bool.and_eq_true, decide_eq_true_eq, Std.ExtTreeMap.mem_keys]
  constructor
  · rintro ⟨present, childless, _, ⟨tables, rfl⟩, softDeletes, views, outsideViews, bindings,
      outsideBindings, rfl, rfl⟩
    refine ⟨⟨present, ?_, tables, softDeletes, ?_, ?_⟩, rfl, rfl⟩
    · intro candidate stored
      exact childless candidate (Std.ExtTreeMap.contains_iff_mem.mp stored)
    · intro key view stored
      exact ⟨views key view stored, fun inside => outsideViews key view stored inside.1 inside.2⟩
    · intro key binding stored
      exact ⟨bindings key binding stored,
        fun inside => outsideBindings key binding stored inside.1 inside.2⟩
  · rintro ⟨⟨present, childless, tables, softDeletes, views, bindings⟩, rfl, rfl⟩
    refine ⟨present, ?_, _, ⟨tables, rfl⟩, softDeletes, ?_, ?_, ?_, ?_, rfl, rfl⟩
    · intro candidate stored
      exact childless candidate (Std.ExtTreeMap.contains_iff_mem.mpr stored)
    · exact fun key view stored => (views key view stored).1
    · exact fun key view stored first second => (views key view stored).2 ⟨first, second⟩
    · exact fun key binding stored => (bindings key binding stored).1
    · exact fun key binding stored first second => (bindings key binding stored).2 ⟨first, second⟩

omit [External] in
theorem createNamespace_ok (state next : MemoryState) (warehouse : WarehouseName) (ns : Namespace)
    (properties : NamespaceProperties) (done : Unit) :
    state.createNamespaceWithProperties warehouse ns properties = .ok (done, next) ↔
      state.namespaceExists warehouse ns = false ∧ next = {
        state with
        namespaces := state.namespaces.insert warehouse.value
          ((state.namespacesOf warehouse).insert ns properties)
      } := by
  simp only [createNamespaceWithProperties, bind_eq_ok, exists_unit, rejectIf_ok, pure_eq,
    return_eq_ok, true_and, Bool.not_eq_true, namespaceExists]

omit [External] in
theorem updateNamespaceProperties_ok (state next : MemoryState) (warehouse : WarehouseName)
    (ns : Namespace) (update : NamespacePropertyUpdate) (result : NamespacePropertyUpdateResult)
    (updated : state.updateNamespaceProperties warehouse ns update = .ok (result, next)) :
    state.namespaceExists warehouse ns = true ∧ ∃ properties, next = {
      state with
      namespaces := state.namespaces.insert warehouse.value
        ((state.namespacesOf warehouse).insert ns properties)
    } := by
  simp only [updateNamespaceProperties, bind_eq_ok, okOr_ok, pure_eq, return_eq_ok] at updated
  obtain ⟨properties, found, rfl, rfl⟩ := updated
  refine ⟨?_, _, rfl⟩
  rw [namespaceExists, Std.ExtTreeMap.contains_eq_isSome_getElem?, found]
  rfl

/-- What the fresh path of `commit_table` requires of the current registration. -/
structure Committable (state : MemoryState) (ident : TableIdent) (commit : TableCommit)
    (now : Timestamp) (current : TableRecord) : Prop where
  stored : state.tables[tableKey ident]? = some current
  valid : current.Valid
  owner : current.ident = ident
  pointer : current.metadataLocation = commit.expectedPreviousMetadataLocation
  record : (commitRecord ident current commit now).ValidFor ident

def commitReplays (state : MemoryState) (ident : TableIdent) (commit : TableCommit)
    (table : TableRecord) : BTreeMap IdempotencyReplay :=
  match commit.idempotencyKey with
  | some idempotencyKey =>
      state.idempotency.insert (idempotencyRecordKey ident idempotencyKey) ⟨tableKey ident,
        commit.idempotencyRequestHash.getD (commitRequestHash commit), table⟩
  | none => state.idempotency

/-- The state an accepted commit leaves. -/
def committed (state : MemoryState) (ident : TableIdent) (commit : TableCommit) (now : Timestamp)
    (current : TableRecord) : MemoryState :=
  let table := committedTable current commit now
  let record := commitRecord ident current commit now
  {
    state with
    tables := state.tables.insert (tableKey ident) table
    auditEvents := state.auditEvents ++ [CatalogAuditEvent.new "table.commit" (some ident)
      commit.principal (commitAuditPayload ident record commit.authorizationReceipt) now]
    outboxEvents := state.outboxEvents ++ [outboxEvent "table.commit"
      (commitOutboxPayload ident record commit.authorizationReceipt) now]
    commits := state.commits ++ [⟨tableKey ident, record⟩]
    idempotency := state.commitReplays ident commit table
  }

theorem commitFresh_ok (state next : MemoryState) (ident : TableIdent) (commit : TableCommit)
    (now : Timestamp) (table : TableRecord) :
    state.commitFresh ident commit now = .ok (table, next) ↔
      ∃ current, state.Committable ident commit now current ∧
        table = committedTable current commit now ∧
        next = state.committed ident commit now current := by
  have event (record : TableCommitRecord) (receipt : Option Json) :
      outboxEventFromPayload (commitOutboxPayload ident record receipt) now =
        .ok (outboxEvent "table.commit" (commitOutboxPayload ident record receipt) now) :=
    outboxEventFromPayload_object _ now _ rfl
  simp only [commitFresh, bind_eq_ok, exists_unit, rejectIf_ok, okOr_ok, pure_eq, return_eq_ok,
    validateTableRecordMapScope_ok, validateTableRecordIdentity_ok, ne_eq, not_not,
    TableCommitRecord.validateForTable_ok, event, ok_bind]
  constructor
  · rintro ⟨current, stored, _, ⟨valid, owner⟩, pointer, record, rfl, rfl⟩
    exact ⟨current, ⟨stored, valid, owner, pointer, record⟩, rfl, rfl⟩
  · rintro ⟨current, ⟨stored, valid, owner, pointer, record⟩, rfl, rfl⟩
    exact ⟨current, stored, ⟨valid, congrArg tableKey owner⟩, ⟨valid, owner⟩, pointer, record,
      rfl, rfl⟩

/-- How `commit_table` answers a call that passes its own checks. -/
inductive CommitAnswer (state : MemoryState) (ident : TableIdent) (commit : TableCommit)
    (now : Timestamp) : TableRecord → MemoryState → Prop
  | replayed (replay : IdempotencyReplay)
      (stored : state.storedReplay ident commit.idempotencyKey = some replay)
      (scope : replay.tableKey = tableKey ident)
      (evidence : isSha256Evidence replay.requestHash = true)
      (same : replay.requestHash = commit.idempotencyRequestHash.getD (commitRequestHash commit))
      (valid : replay.response.Valid) (owner : replay.response.ident = ident) :
      CommitAnswer state ident commit now replay.response state
  | advanced (current : TableRecord)
      (fresh : state.storedReplay ident commit.idempotencyKey = none)
      (committable : state.Committable ident commit now current) :
      CommitAnswer state ident commit now (committedTable current commit now)
        (state.committed ident commit now current)

omit [External] in
theorem answerReplay_ok (ident : TableIdent) (replay : IdempotencyReplay) (requestHash : String)
    (table : TableRecord) :
    answerReplay ident replay requestHash = .ok table ↔
      replay.tableKey = tableKey ident ∧ isSha256Evidence replay.requestHash = true ∧
        replay.requestHash = requestHash ∧
        (replay.response.Valid ∧ replay.response.ident = ident) ∧ replay.response = table := by
  simp only [answerReplay, bind_eq_ok, exists_unit, rejectIf_ok, pure_eq, Except.ok.injEq,
    validateIdempotencyRecordTableKey_ok, validateIdempotencyRecordRequestHash_ok,
    validateTableRecordIdentity_ok, ne_eq, not_not]

theorem commitTable_ok (state next : MemoryState) (ident : TableIdent) (commit : TableCommit)
    (now : Timestamp) (table : TableRecord) :
    state.commitTable ident commit now = .ok (table, next) ↔
      commit.Valid ∧ state.softDeletes.contains (tableKey ident) = false ∧
        state.CommitAnswer ident commit now table next := by
  simp only [commitTable, bind_unit_eq_ok, TableCommit.validate_ok, rejectIf_ok, Bool.not_eq_true]
  refine and_congr_right fun _ => and_congr_right fun _ => ?_
  cases stored : state.storedReplay ident commit.idempotencyKey with
  | none =>
      simp only [commitFresh_ok]
      constructor
      · rintro ⟨current, committable, rfl, rfl⟩
        exact .advanced current stored committable
      · intro answer
        cases answer with
        | replayed replay found => exact absurd (stored.symm.trans found) (by simp)
        | advanced current _ committable => exact ⟨current, committable, rfl, rfl⟩
  | some replay =>
      simp only [bind_eq_ok, answerReplay_ok, pure_eq, return_eq_ok]
      constructor
      · rintro ⟨_, ⟨placed, evidence, same, ⟨valid, owner⟩, rfl⟩, rfl, rfl⟩
        exact .replayed replay stored placed evidence same valid owner
      · intro answer
        cases answer with
        | replayed other found placed evidence same valid owner =>
            obtain rfl : replay = other := Option.some.inj (stored.symm.trans found)
            exact ⟨_, ⟨placed, evidence, same, ⟨valid, owner⟩, rfl⟩, rfl, rfl⟩
        | advanced current fresh _ => exact absurd (stored.symm.trans fresh) (by simp)

/-- A table in its own stored namespace. -/
structure Registered (state : MemoryState) (ident : TableIdent) (table : TableRecord) : Prop where
  ns : state.namespaceExists ident.warehouse ident.ns = true
  stored : state.tables[tableKey ident]? = some table
  valid : table.Valid
  owner : table.ident = ident

omit [External] in
theorem softDeleteRecord_valid (ident : TableIdent) (table : TableRecord) (principal : Principal)
    (receipt : Option Json) (now : Timestamp) (valid : table.Valid) (owner : table.ident = ident) :
    (softDeleteRecord ident table principal receipt now).ValidFor ident table ↔
      ∀ document, receipt = some document → document.isObject = true :=
  ⟨fun matching => matching.receipt, fun shape => ⟨valid, rfl, owner, rfl, rfl, rfl, shape⟩⟩

def softDeleted (state : MemoryState) (ident : TableIdent) (table : TableRecord)
    (principal : Principal) (receipt : Option Json) (now : Timestamp) : MemoryState :=
  let record := softDeleteRecord ident table principal receipt now
  {
    state with
    softDeletes := state.softDeletes.insert (tableKey ident) record
    auditEvents := state.auditEvents ++ [CatalogAuditEvent.new "table.deleted" (some ident)
      principal (softDeleteAuditPayload ident record) now]
    outboxEvents := state.outboxEvents ++
      [outboxEvent "table.deleted" (softDeleteOutboxPayload ident record) now]
  }

theorem softDeleteTable_ok (state next : MemoryState) (ident : TableIdent) (principal : Principal)
    (receipt : Option Json) (now : Timestamp) (table : TableRecord) :
    state.softDeleteTable ident principal receipt now = .ok (table, next) ↔
      state.Registered ident table ∧ state.softDeletes.contains (tableKey ident) = false ∧
        (∀ document, receipt = some document → document.isObject = true) ∧
        next = state.softDeleted ident table principal receipt now := by
  have event (record : SoftDeleteRecord) :
      outboxEventFromPayload (softDeleteOutboxPayload ident record) now =
        .ok (outboxEvent "table.deleted" (softDeleteOutboxPayload ident record) now) :=
    outboxEventFromPayload_object _ now _ rfl
  simp only [softDeleteTable, bind_eq_ok, exists_unit, rejectIf_ok, okOr_ok, pure_eq,
    return_eq_ok, validateTableRecordMapScope_ok, validateTableRecordIdentity_ok,
    SoftDeleteRecord.validateForTable_ok, event, ok_bind, Bool.not_eq_false, Bool.not_eq_true]
  constructor
  · rintro ⟨ns, live, current, stored, _, ⟨valid, owner⟩, matching, rfl, rfl⟩
    exact ⟨⟨ns, stored, valid, owner⟩, live, matching.receipt, rfl⟩
  · rintro ⟨⟨ns, stored, valid, owner⟩, live, shape, rfl⟩
    exact ⟨ns, live, table, stored, ⟨valid, congrArg tableKey owner⟩, ⟨valid, owner⟩,
      (softDeleteRecord_valid ident table principal receipt now valid owner).mpr shape, rfl, rfl⟩

def restored (state : MemoryState) (ident : TableIdent) (table : TableRecord)
    (principal : Principal) (receipt : Option Json) (now : Timestamp) : MemoryState :=
  {
    state with
    softDeletes := state.softDeletes.erase (tableKey ident)
    auditEvents := state.auditEvents ++ [CatalogAuditEvent.new "table.restored" (some ident)
      principal (restoreAuditPayload ident table receipt) now]
    outboxEvents := state.outboxEvents ++
      [outboxEvent "table.restored" (restoreOutboxPayload ident table receipt) now]
  }

theorem restoreTable_ok (state next : MemoryState) (ident : TableIdent) (principal : Principal)
    (receipt : Option Json) (now : Timestamp) (table : TableRecord) :
    state.restoreTable ident principal receipt now = .ok (table, next) ↔
      state.Registered ident table ∧
        (∃ record, state.softDeletes[tableKey ident]? = some record ∧
          record.ValidFor ident table) ∧
        next = state.restored ident table principal receipt now := by
  have event (current : TableRecord) :
      outboxEventFromPayload (restoreOutboxPayload ident current receipt) now =
        .ok (outboxEvent "table.restored" (restoreOutboxPayload ident current receipt) now) :=
    outboxEventFromPayload_object _ now _ rfl
  simp only [restoreTable, bind_eq_ok, exists_unit, rejectIf_ok, okOr_ok, pure_eq,
    return_eq_ok, validateTableRecordMapScope_ok, validateTableRecordIdentity_ok,
    validateSoftDeleteRecordMapScope_ok, SoftDeleteRecord.validateForTable_ok, event, ok_bind,
    not_not]
  constructor
  · rintro ⟨ns, record, found, _, current, stored, _, ⟨valid, owner⟩, matching, rfl, rfl⟩
    exact ⟨⟨ns, stored, valid, owner⟩, ⟨record, found, matching⟩, rfl⟩
  · rintro ⟨⟨ns, stored, valid, owner⟩, ⟨record, found, matching⟩, rfl⟩
    exact ⟨ns, record, found, congrArg tableKey matching.recorded, table, stored,
      ⟨valid, congrArg tableKey owner⟩, ⟨valid, owner⟩, matching, rfl, rfl⟩

/-- What `rename_table` requires of the state. -/
structure Renamable (state : MemoryState) (source destination : TableIdent) (principal : Principal)
    (receipt : Option Json) (table : TableRecord) : Prop where
  warehouse : source.warehouse = destination.warehouse
  ns : state.namespaceExists destination.warehouse destination.ns = true
  live : state.softDeletes.contains (tableKey source) = false
  stored : state.tables[tableKey source]? = some table
  valid : table.Valid
  owner : table.ident = source
  vacant : state.tables.contains (tableKey destination) = false
  undeleted : state.softDeletes.contains (tableKey destination) = false
  unrecorded : ∀ commit ∈ state.commits, commit.tableKey ≠ tableKey destination
  commits : ∀ commit ∈ state.commits, commit.tableKey = tableKey source →
    commit.record.ValidFor source
  replays : ∀ key replay, state.idempotency[key]? = some replay →
    RetirableReplay source destination key replay
  bindings : ∀ key binding, state.policyBindings[key]? = some binding →
    validatePolicyBindingMapScope binding key = .ok ()
  receipt : ∀ document, receipt = some document →
    validateReceiptPrincipal principal document = .ok ()

omit [External] in
/-- The registration under its new name. -/
def renamedTable (destination : TableIdent) (now : Timestamp) (table : TableRecord) :
    TableRecord :=
  { table with ident := destination, updatedAt := now }

omit [External] in
theorem renamedTable_valid (destination : TableIdent) (now : Timestamp) (table : TableRecord) :
    (renamedTable destination now table).Valid ↔ table.Valid :=
  ⟨fun valid => ⟨valid.location, valid.pointer, valid.object, valid.format⟩,
    fun valid => ⟨valid.location, valid.pointer, valid.object, valid.format⟩⟩

/-- The state a rename leaves. -/
def renamed (state : MemoryState) (source destination : TableIdent) (principal : Principal)
    (receipt : Option Json) (now : Timestamp) (table : TableRecord) : MemoryState :=
  let moved := renamedTable destination now table
  let audit := renameAuditEvent source moved principal receipt now
  {
    state with
    tables := (state.tables.erase (tableKey source)).insert (tableKey destination) moved
    commits := state.commits.map (movedCommit source destination)
    idempotency := state.idempotency.filter fun key _ =>
      !startsWith key (idempotencyPrefix source)
    policyBindings := state.policyBindings.map fun _ => movedBinding source destination now
    auditEvents := state.auditEvents ++ [audit]
    outboxEvents := state.outboxEvents ++ [renameOutboxEvent audit now]
  }

omit [External] in
theorem foldl_retired (replays : BTreeMap IdempotencyReplay) (source : TableIdent) :
    ((replays.toList.filter fun entry =>
        startsWith entry.1 (idempotencyPrefix source)).map Prod.fst).foldl
      (fun replays key => replays.erase key) replays =
      replays.filter fun key _ => !startsWith key (idempotencyPrefix source) := by
  refine Std.ExtTreeMap.ext_getElem? fun key => ?_
  rw [OrderedMap.getElem?_foldl_erase, Std.ExtTreeMap.getElem?_filter']
  cases stored : replays[key]? with
  | none => simp
  | some replay =>
      by_cases keyed : startsWith key (idempotencyPrefix source) = true
      · have listed : key ∈ (replays.toList.filter fun entry =>
            startsWith entry.1 (idempotencyPrefix source)).map Prod.fst :=
          List.mem_map.mpr ⟨(key, replay), List.mem_filter.mpr
            ⟨(OrderedMap.mem_toList _ _ _).mpr stored, keyed⟩, rfl⟩
        simp [listed, keyed]
      · have unlisted : key ∉ (replays.toList.filter fun entry =>
            startsWith entry.1 (idempotencyPrefix source)).map Prod.fst := by
          intro listed
          obtain ⟨⟨other, _⟩, member, rfl⟩ := List.mem_map.mp listed
          exact keyed (List.mem_filter.mp member).2
        simp [unlisted, keyed, Option.filter]

omit [External] in
theorem foldl_bindings (bindings : BTreeMap PolicyBinding) (source destination : TableIdent)
    (now : Timestamp) :
    ((bindings.toList.filter fun entry => entry.2.warehouse = source.warehouse ∧
        entry.2.ns = some source.ns ∧ entry.2.table = some source.name).map fun entry =>
          (entry.1, movedBinding source destination now entry.2)).foldl
      (fun map entry => map.insert entry.1 entry.2) bindings =
      bindings.map fun _ => movedBinding source destination now := by
  refine Std.ExtTreeMap.ext_getElem? fun key => ?_
  rw [OrderedMap.getElem?_foldl_insert _
    (fun key => bindings[key]?.map (movedBinding source destination now)),
    Std.ExtTreeMap.getElem?_map]
  · split
    next => rfl
    next unlisted =>
      cases stored : bindings[key]? with
      | none => rfl
      | some binding =>
          have unmoved : ¬(binding.warehouse = source.warehouse ∧ binding.ns = some source.ns ∧
              binding.table = some source.name) := by
            intro owned
            refine unlisted (List.mem_map.mpr ⟨(key, _), List.mem_map.mpr
              ⟨(key, binding), List.mem_filter.mpr
                ⟨(OrderedMap.mem_toList _ _ _).mpr stored, by simpa using owned⟩, rfl⟩, rfl⟩)
          simp only [Option.map_some, movedBinding, unmoved, if_false]
  · intro entry member
    obtain ⟨⟨key, binding⟩, listed, rfl⟩ := List.mem_map.mp member
    have stored := (OrderedMap.mem_toList _ _ _).mp (List.mem_filter.mp listed).1
    simp [stored]

theorem renameTable_ok (state next : MemoryState) (source destination : TableIdent)
    (principal : Principal) (receipt : Option Json) (now : Timestamp) (result : TableRecord) :
    state.renameTable source destination principal receipt now = .ok (result, next) ↔
      ∃ table, state.Renamable source destination principal receipt table ∧
        result = renamedTable destination now table ∧
        next = state.renamed source destination principal receipt now table := by
  have moved (table : TableRecord) :
      ({ table with ident := destination, updatedAt := now } : TableRecord) =
        renamedTable destination now table := rfl
  simp only [renameTable, moved, bind_eq_ok, exists_unit, rejectIf_ok, okOr_ok, pure_eq,
    Prod.exists, tableRenameEvents_ok, return_eq_ok, validateTableRecordMapScope_ok,
    validateTableRecordIdentity_ok, TableRecord.validate_ok, renamedTable_valid,
    renameCommits_ok, retiredIdempotencyKeys_ok, renamedBindings_ok, Prod.forall,
    OrderedMap.mem_toList, ne_eq, not_not, not_or, Bool.not_eq_true, Bool.not_eq_false,
    List.any_eq_false, decide_eq_true_eq]
  constructor
  · rintro ⟨warehouse, ns, live, table, stored, _, ⟨valid, owner⟩, ⟨vacant, undeleted⟩,
      unrecorded, _, _, ⟨commits, rfl⟩, _, ⟨replays, rfl⟩, _, ⟨bindings, rfl⟩, _, _,
      ⟨fits, rfl, rfl⟩, rfl, rfl⟩
    refine ⟨table, ⟨warehouse, ns, live, stored, valid, owner, vacant, undeleted, unrecorded,
      commits, replays, bindings, fits⟩, rfl, ?_⟩
    simp only [renamed, foldl_retired, foldl_bindings]
  · rintro ⟨table, ready, rfl, rfl⟩
    refine ⟨ready.warehouse, ready.ns, ready.live, table, ready.stored,
      ⟨ready.valid, congrArg tableKey ready.owner⟩, ⟨ready.valid, ready.owner⟩,
      ⟨ready.vacant, ready.undeleted⟩, ready.unrecorded, ready.valid, _, ⟨ready.commits, rfl⟩,
      _, ⟨ready.replays, rfl⟩, _, ⟨ready.bindings, rfl⟩, _, _, ⟨ready.receipt, rfl, rfl⟩,
      rfl, ?_⟩
    simp only [renamed, foldl_retired, foldl_bindings]

end MemoryState

end LakeCat
