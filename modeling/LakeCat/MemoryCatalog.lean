import LakeCat.MemorySteps

/-!
The part of the memory store that the table operations share, and the one
statement of what a call can do to it. Every invariant of the catalog is
proved from that statement.
-/

namespace LakeCat

open Fallible

/-- The state without its servers, profiles, models, grants, receipts and events. -/
structure Catalog where
  namespaces : BTreeMap NamespaceMap
  tables : BTreeMap TableRecord
  commits : List MemoryCommitRecord
  idempotency : BTreeMap IdempotencyReplay
  softDeletes : BTreeMap SoftDeleteRecord
  views : BTreeMap ViewRecord
  policyBindings : BTreeMap PolicyBinding

namespace MemoryState

def catalog (state : MemoryState) : Catalog where
  namespaces := state.namespaces
  tables := state.tables
  commits := state.commits
  idempotency := state.idempotency
  softDeletes := state.softDeletes
  views := state.views
  policyBindings := state.policyBindings

end MemoryState

/-- What a call can do to the catalog, with everything it checked before. -/
inductive CatalogChange [External] (state : MemoryState) : MemoryOp → Catalog → Prop
  | unchanged (op : MemoryOp) (idle : state.registers op = false) :
      CatalogChange state op state.catalog
  | namespaceCreated (warehouse : WarehouseName) (ns : Namespace)
      (properties : NamespaceProperties) (absent : state.namespaceExists warehouse ns = false) :
      CatalogChange state (.createNamespace warehouse ns properties) {
        state.catalog with
        namespaces := state.namespaces.insert warehouse.value
          ((state.namespacesOf warehouse).insert ns properties)
      }
  | namespaceUpdated (warehouse : WarehouseName) (ns : Namespace)
      (update : NamespacePropertyUpdate) (properties : NamespaceProperties)
      (present : state.namespaceExists warehouse ns = true) :
      CatalogChange state (.updateNamespaceProperties warehouse ns update) {
        state.catalog with
        namespaces := state.namespaces.insert warehouse.value
          ((state.namespacesOf warehouse).insert ns properties)
      }
  | namespaceDropped (warehouse : WarehouseName) (ns : Namespace)
      (droppable : state.Droppable warehouse ns) :
      CatalogChange state (.dropNamespace warehouse ns)
        (state.withoutNamespace warehouse ns).catalog
  | tableCreated (table : TableRecord) (valid : table.Valid)
      (ns : state.namespaceExists table.ident.warehouse table.ident.ns = true)
      (vacant : state.tables.contains (tableKey table.ident) = false) :
      CatalogChange state (.createTable table)
        { state.catalog with tables := state.tables.insert (tableKey table.ident) table }
  | tableRenamed (source destination : TableIdent) (principal : Principal) (receipt : Option Json)
      (now : Timestamp) (table : TableRecord)
      (renamable : state.Renamable source destination principal receipt table) :
      CatalogChange state (.renameTable source destination principal receipt now)
        (state.renamed source destination principal receipt now table).catalog
  | tableCommitted (ident : TableIdent) (commit : TableCommit) (now : Timestamp)
      (current : TableRecord) (valid : commit.Valid)
      (live : state.softDeletes.contains (tableKey ident) = false)
      (fresh : state.storedReplay ident commit.idempotencyKey = none)
      (committable : state.Committable ident commit now current) :
      CatalogChange state (.commitTable ident commit now)
        (state.committed ident commit now current).catalog
  | tableDeleted (ident : TableIdent) (table : TableRecord) (principal : Principal)
      (receipt : Option Json) (now : Timestamp) (registered : state.Registered ident table)
      (live : state.softDeletes.contains (tableKey ident) = false)
      (shape : ∀ document, receipt = some document → document.isObject = true) :
      CatalogChange state (.softDeleteTable ident principal receipt now)
        (state.softDeleted ident table principal receipt now).catalog
  | tableRestored (ident : TableIdent) (table : TableRecord) (principal : Principal)
      (receipt : Option Json) (now : Timestamp) (registered : state.Registered ident table)
      (deleted : ∃ record, state.softDeletes[tableKey ident]? = some record ∧
        record.ValidFor ident table) :
      CatalogChange state (.restoreTable ident principal receipt now)
        (state.restored ident table principal receipt now).catalog
  | viewStored (view next : ViewRecord) (expected : Option UInt64) (now : Timestamp)
      (asked : view.validate = .ok ())
      (matching : checkSome (requireExpectedViewVersion state.views[viewKey view]?) expected =
        .ok ())
      (warehouse : next.warehouse = view.warehouse) (ns : next.ns = view.ns)
      (name : next.name = view.name) (valid : next.validate = .ok ()) :
      CatalogChange state (.upsertView view expected now)
        { state.catalog with views := state.views.insert (viewKey view) next }
  | viewDropped (warehouse : WarehouseName) (ns : Namespace) (view : TableName)
      (principal : Principal) (expected : Option UInt64) (now : Timestamp) :
      CatalogChange state (.dropView warehouse ns view principal expected now)
        { state.catalog with views := state.views.erase (viewKeyParts warehouse ns view) }
  | bindingStored (binding : PolicyBinding) (valid : binding.validate = .ok ()) :
      CatalogChange state (.upsertPolicyBinding binding) {
        state.catalog with
        policyBindings := state.policyBindings.insert
          (policyBindingKey binding.warehouse binding.policyId) binding
      }

namespace MemoryState
variable [External]

theorem upsertViewIfVersion_catalog (state next : MemoryState) (view result : ViewRecord)
    (expected : Option UInt64) (now : Timestamp)
    (stored : state.upsertViewIfVersion view expected now = .ok (result, next)) :
    next.catalog = { state.catalog with views := state.views.insert (viewKey view) result } ∧
      view.validate = .ok () ∧
      checkSome (requireExpectedViewVersion state.views[viewKey view]?) expected = .ok () ∧
      result.validate = .ok () ∧ result.warehouse = view.warehouse ∧ result.ns = view.ns ∧
      result.name = view.name := by
  obtain ⟨latest, upsertable, rfl⟩ := (upsertViewIfVersion_ok _ _ _ _ _ _).mp stored
  exact ⟨rfl, upsertable.valid, upsertable.matching,
    withNextVersionAfterHistory_ok _ _ _ _ upsertable.next⟩

/-- Every call is one of the changes. -/
theorem step_change (state : MemoryState) (op : MemoryOp) :
    CatalogChange state op (state.step op).catalog := by
  have successor := step_successor state op
  generalize state.step op = after at successor
  cases successor with
  | unchanged _ idle => exact .unchanged op idle
  | namespaceCreated warehouse ns properties absent =>
      exact .namespaceCreated warehouse ns properties absent
  | namespaceUpdated warehouse ns update properties present =>
      exact .namespaceUpdated warehouse ns update properties present
  | namespaceDropped warehouse ns droppable => exact .namespaceDropped warehouse ns droppable
  | tableCreated table valid ns vacant => exact .tableCreated table valid ns vacant
  | tableRenamed source destination principal receipt now table renamable =>
      exact .tableRenamed source destination principal receipt now table renamable
  | tableCommitted ident commit now current valid live fresh committable =>
      exact .tableCommitted ident commit now current valid live fresh committable
  | tableDeleted ident table principal receipt now registered live shape =>
      exact .tableDeleted ident table principal receipt now registered live shape
  | tableRestored ident table principal receipt now registered deleted =>
      exact .tableRestored ident table principal receipt now registered deleted
  | administered _ _ _ _ _ _ idle _ => exact .unchanged op idle
  | viewStored view next expected latest now upsertable =>
      obtain ⟨valid, warehouse, ns, name⟩ := withNextVersionAfterHistory_ok _ _ _ _ upsertable.next
      exact .viewStored view next expected now upsertable.valid upsertable.matching warehouse ns
        name valid
  | viewDropped warehouse ns view principal expected now =>
      exact .viewDropped warehouse ns view principal expected now
  | viewLost warehouse ns view principal expected now =>
      exact .viewDropped warehouse ns view principal expected now
  | bindingStored binding valid => exact .bindingStored binding valid
  | modelEntered => exact .unchanged _ rfl
  | modelPublished => exact .unchanged _ rfl
  | auditRecorded => exact .unchanged _ rfl
  | outboxDelivered => exact .unchanged _ rfl

end MemoryState

end LakeCat
