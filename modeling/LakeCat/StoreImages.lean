import LakeCat.CommitHistory
import LakeCat.KeyScopes
import LakeCat.RowImages
import LakeCat.StoreCalls

/-!
The rows that the Turso store holds when it has been asked the same as the memory
store. What each row shows is read off the maps and lists of the memory store; a
transaction that succeeds there redraws the rows of what the call changed here.
-/

namespace LakeCat

open Fallible SnapshotIsolation

/-- The audit rows are written and never read. -/
def TursoRow.IsObserved : TursoRow → Prop
  | .auditEvent _ => False
  | _ => True

def registeredRow (table : TableRecord) : TableRow :=
  TursoState.tableRow table table.version.toNat

def deletionRow (record : SoftDeleteRecord) : SoftDeleteRow :=
  TursoState.softDeleteRow record record.version.toNat

def viewRow (view : ViewRecord) : ViewRow :=
  ⟨view.warehouse.value, view.ns.storageKey, view.name.value, view⟩

def bindingRow (binding : PolicyBinding) : PolicyBindingRow where
  policyId := binding.policyId
  warehouse := binding.warehouse.value
  namespacePath := binding.ns.map Namespace.storageKey
  tableName := binding.table.map TableName.asStr
  enforced := binding.enforced
  binding := binding

namespace MemoryState

/-- What a state shows in the rows of the Turso store. -/
def image (state : MemoryState) : Image tursoRows
  | .ns warehouse path, (row : NamespaceRow) =>
      row.ns.storageKey = path ∧ state.namespaceExists ⟨warehouse⟩ row.ns = true
  | .namespaceProperties warehouse path, (row : NamespaceProperties) =>
      ∃ ns : Namespace, ns.storageKey = path ∧ (state.namespacesOf ⟨warehouse⟩)[ns]? = some row
  | .table key, (row : TableRow) => ∃ table, state.tables[key]? = some table ∧ row = registeredRow table
  | .pointerLog key sequence, (row : PointerLogRow) =>
      ∃ record ∈ state.historyOf key, (record.sequenceNumber.toNat : Int) = sequence ∧
        row = TursoState.pointerLogRow record
  | .idempotency key, (row : IdempotencyReplay) => state.idempotency[key]? = some row
  | .auditEvent _, _ => True
  | .outboxEvent id, (row : OutboxEventRow) =>
      ∃ event ∈ state.outboxEvents, event.eventId = id ∧ row = outboxRow event
  | .view key, (row : ViewRow) => ∃ view, state.views[key]? = some view ∧ row = viewRow view
  | .policyBinding key, (row : PolicyBindingRow) =>
      ∃ binding, state.policyBindings[key]? = some binding ∧ row = bindingRow binding
  | .softDelete key, (row : SoftDeleteRow) =>
      ∃ record, state.softDeletes[key]? = some record ∧ row = deletionRow record

/-- The commits of a table are numbered upwards, up to its version at most. -/
structure NumberedTable (state : MemoryState) (key : String) (table : TableRecord) : Prop where
  bounded : table.version.toNat < 2 ^ 63
  ascending : (state.historyOf key).Pairwise fun one other =>
    one.sequenceNumber.toNat < other.sequenceNumber.toNat
  latest : ∀ record ∈ state.historyOf key, record.sequenceNumber.toNat ≤ table.version.toNat

def Numbered (state : MemoryState) : Prop :=
  ∀ key table, state.tables[key]? = some table → state.NumberedTable key table

/-- What is stored was made by its constructors. -/
structure PartsMade (state : MemoryState) : Prop where
  bindings : ∀ (key : String) binding, state.policyBindings[key]? = some binding →
    binding.warehouse.Made
  properties : ∀ warehouse (ns : Namespace) properties,
    (state.namespacesOf warehouse)[ns]? = some properties → properties.Made

end MemoryState

section
variable [External]

/-- The states of the two stores after the same calls. -/
structure Paired (memory : MemoryState) (turso : TursoState) : Prop where
  shows : Shows TursoRow.IsObserved memory.image turso
  formed : memory.WellFormed
  numbered : memory.Numbered
  made : memory.PartsMade

omit [External] in
theorem eq_map_of_shown {α β : Type} {found : Option β} {stored : Option α} {row : α → β}
    (shown : ∀ cell, found = some cell ↔ ∃ value, stored = some value ∧ cell = row value) :
    found = stored.map row := by
  cases stored with
  | none =>
      rw [Option.map_none, Option.eq_none_iff_forall_ne_some]
      intro cell held
      obtain ⟨_, absurdity, _⟩ := (shown cell).mp held
      cases absurdity
  | some value => exact (shown _).mpr ⟨value, rfl, rfl⟩

namespace Paired

variable {memory : MemoryState} {turso : TursoState}

theorem nsRow (paired : Paired memory turso) (warehouse : WarehouseName) (path : String)
    (row : NamespaceRow) : turso.namespaces[(warehouse.value, path)]? = some row ↔
      row.ns.storageKey = path ∧ memory.namespaceExists warehouse row.ns = true :=
  paired.shows (.ns warehouse.value path) trivial row

theorem nsLookup (paired : Paired memory turso) (warehouse : WarehouseName) (ns : Namespace) :
    turso.namespaces[(warehouse.value, ns.storageKey)]? =
      if memory.namespaceExists warehouse ns then some ⟨ns⟩ else none := by
  cases found : turso.namespaces[(warehouse.value, ns.storageKey)]? with
  | some row =>
      obtain ⟨keyed, stored⟩ := (paired.nsRow _ _ _).mp found
      rw [← storageKey_inj keyed, stored]
      rfl
  | none =>
      by_cases stored : memory.namespaceExists warehouse ns = true
      · have held := (paired.nsRow warehouse ns.storageKey ⟨ns⟩).mpr ⟨rfl, stored⟩
        cases found.symm.trans held
      · rw [if_neg stored]

theorem nsStored (paired : Paired memory turso) (warehouse : WarehouseName) (ns : Namespace) :
    turso.namespaceStored warehouse ns = memory.namespaceExists warehouse ns := by
  rw [TursoState.namespaceStored, Std.ExtTreeMap.contains_eq_isSome_getElem?, paired.nsLookup]
  cases memory.namespaceExists warehouse ns <;> rfl

theorem properties (paired : Paired memory turso) (warehouse : WarehouseName) (ns : Namespace) :
    turso.namespaceProperties[(warehouse.value, ns.storageKey)]? =
      (memory.namespacesOf warehouse)[ns]? := by
  refine Option.ext fun properties => ?_
  refine (paired.shows (.namespaceProperties warehouse.value ns.storageKey) trivial
    properties).trans ?_
  constructor
  · rintro ⟨other, keyed, stored⟩
    rw [← storageKey_inj keyed]
    exact stored
  · intro stored
    exact ⟨ns, rfl, stored⟩

theorem table (paired : Paired memory turso) (key : String) :
    turso.tables[key]? = (memory.tables[key]?).map registeredRow :=
  eq_map_of_shown (paired.shows (.table key) trivial)

theorem deletion (paired : Paired memory turso) (key : String) :
    turso.softDeletes[key]? = (memory.softDeletes[key]?).map deletionRow :=
  eq_map_of_shown (paired.shows (.softDelete key) trivial)

theorem binding (paired : Paired memory turso) (key : String) :
    turso.policyBindings[key]? = (memory.policyBindings[key]?).map bindingRow :=
  eq_map_of_shown (paired.shows (.policyBinding key) trivial)

theorem view (paired : Paired memory turso) (key : String) :
    turso.views[key]? = (memory.views[key]?).map viewRow :=
  eq_map_of_shown (paired.shows (.view key) trivial)

theorem replay (paired : Paired memory turso) (key : String) :
    turso.idempotency[key]? = memory.idempotency[key]? :=
  Option.ext fun replay => paired.shows (.idempotency key) trivial replay

theorem storedReplay (paired : Paired memory turso) (ident : TableIdent)
    (idempotencyKey : Option String) :
    turso.storedReplay ident idempotencyKey = memory.storedReplay ident idempotencyKey := by
  cases idempotencyKey with
  | none => rfl
  | some key => exact paired.replay _

theorem tableStored (paired : Paired memory turso) (key : String) :
    turso.tables.contains key = memory.tables.contains key := by
  rw [Std.ExtTreeMap.contains_eq_isSome_getElem?, Std.ExtTreeMap.contains_eq_isSome_getElem?,
    paired.table, Option.isSome_map]

theorem deletionStored (paired : Paired memory turso) (key : String) :
    turso.softDeletes.contains key = memory.softDeletes.contains key := by
  rw [Std.ExtTreeMap.contains_eq_isSome_getElem?, Std.ExtTreeMap.contains_eq_isSome_getElem?,
    paired.deletion, Option.isSome_map]

theorem activeTable (paired : Paired memory turso) (key : String) :
    turso.activeTable key = (memory.liveTable key).map registeredRow := by
  rw [TursoState.activeTable, MemoryState.liveTable, paired.deletionStored, paired.table]
  cases memory.softDeletes.contains key <;> rfl

/-- An outbox id is free in one store when it is in the other. -/
theorem outboxFree (paired : Paired memory turso) (id : String) :
    turso.outboxEvents[id]? = none ↔ ∀ event ∈ memory.outboxEvents, event.eventId ≠ id := by
  refine (paired.shows.vacant (.outboxEvent id) trivial).trans ?_
  constructor
  · intro vacant event member same
    exact vacant _ ⟨event, member, same, rfl⟩
  · rintro free cell ⟨event, member, same, -⟩
    exact free event member same

end Paired

omit [External] in
theorem registeredRow_placed (table : TableRecord) (ident : TableIdent) (key : String) :
    (registeredRow table).Placed ident key ↔
      table.Valid ∧ table.ident = ident ∧ key = tableKey ident := by
  constructor
  · intro placed
    exact ⟨placed.valid, placed.owner, placed.keyed⟩
  · rintro ⟨valid, rfl, keyed⟩
    exact ⟨valid, rfl, keyed, rfl, rfl, rfl⟩

omit [External] in
theorem deletionRow_placed (record : SoftDeleteRecord) (ident : TableIdent) (key : String) :
    (deletionRow record).Placed ident key ↔ key = tableKey ident :=
  ⟨fun placed => placed.keyed, fun keyed => ⟨keyed, rfl, rfl, rfl, rfl, rfl, rfl⟩⟩

/-- One call, as both stores answer it. -/
structure Alike (memory : MemoryState) (first : LakeCatResult (α × MemoryState))
    (second : LakeCatResult (α × TursoWrites)) : Prop where
  accepts : ∀ value next, first = .ok (value, next) → ∃ writes, second = .ok (value, writes)
  redraws : ∀ value writes, second = .ok (value, writes) →
    ∃ next : MemoryState, first = .ok (value, next) ∧
      Redraws TursoRow.IsObserved writes memory.image next.image

omit [External] in
theorem Alike.replied {memory : MemoryState} {turso : TursoState}
    {first : LakeCatResult (α × MemoryState)} {second : LakeCatResult (α × TursoWrites)}
    (alike : Alike memory first second) (shown : α → StoreAnswer)
    (shows : Shows TursoRow.IsObserved memory.image turso) :
    (memory.replied first shown).1 = (turso.replied second shown).1 ∧
      Shows TursoRow.IsObserved (memory.replied first shown).2.image
        (turso.replied second shown).2 := by
  cases accepted : second with
  | ok pair =>
      obtain ⟨value, writes⟩ := pair
      obtain ⟨next, same, redraws⟩ := alike.redraws value writes accepted
      subst same
      exact ⟨rfl, shows.applied redraws⟩
  | error refused =>
      cases outcome : first with
      | ok pair =>
          obtain ⟨writes, other⟩ := alike.accepts pair.1 pair.2 outcome
          cases accepted.symm.trans other
      | error _ => exact ⟨rfl, shows⟩

end

end LakeCat
