import LakeCat.MemoryStoreCore
import LakeCat.OrderedMap
import LakeCat.SnapshotIsolation

/-!
The rows of the Turso store that its namespace and table transactions read and
write. A column that holds a record as JSON holds the record here; the columns
beside it are kept, since queries and checks read them.
-/

namespace LakeCat

structure NamespaceRow where
  ns : Namespace

structure TableRow where
  warehouse : String
  namespacePath : String
  tableName : String
  metadataLocation : Option String
  version : Int
  record : TableRecord

/-- A row of `metadata_pointer_log`. -/
structure PointerLogRow where
  previousMetadataLocation : Option String
  newMetadataLocation : Option String
  principal : Principal
  requestHash : String
  committedAt : Timestamp
  record : TableCommitRecord

structure AuditEventRow where
  eventType : String
  tableKey : Option String
  principal : Principal
  requestHash : Option String
  event : Json
  createdAt : Timestamp

structure OutboxEventRow where
  sink : String
  eventType : String
  payload : Json
  createdAt : Timestamp
  deliveredAt : Option Timestamp

structure ViewRow where
  warehouse : String
  namespacePath : String
  viewName : String
  record : ViewRecord

structure PolicyBindingRow where
  policyId : String
  warehouse : String
  namespacePath : Option String
  tableName : Option String
  enforced : Bool
  binding : PolicyBinding

structure SoftDeleteRow where
  warehouse : String
  namespacePath : String
  tableName : String
  metadataLocation : Option String
  version : Int
  deletedAt : Timestamp
  record : SoftDeleteRecord

structure TursoState where
  namespaces : Std.ExtTreeMap (String × String) NamespaceRow := ∅
  namespaceProperties : Std.ExtTreeMap (String × String) NamespaceProperties := ∅
  tables : BTreeMap TableRow := ∅
  pointerLog : Std.ExtTreeMap (String × Int) PointerLogRow := ∅
  idempotency : BTreeMap IdempotencyReplay := ∅
  auditEvents : BTreeMap AuditEventRow := ∅
  outboxEvents : BTreeMap OutboxEventRow := ∅
  views : BTreeMap ViewRow := ∅
  policyBindings : BTreeMap PolicyBindingRow := ∅
  softDeletes : BTreeMap SoftDeleteRow := ∅

/-- A row, by its table and its primary key. -/
inductive TursoRow where
  | ns (warehouse path : String)
  | namespaceProperties (warehouse path : String)
  | table (key : String)
  | pointerLog (key : String) (sequence : Int)
  | idempotency (key : String)
  | auditEvent (id : String)
  | outboxEvent (id : String)
  | view (key : String)
  | policyBinding (key : String)
  | softDelete (key : String)
  deriving DecidableEq

namespace TursoRow

abbrev Cell : TursoRow → Type
  | .ns _ _ => NamespaceRow
  | .namespaceProperties _ _ => NamespaceProperties
  | .table _ => TableRow
  | .pointerLog _ _ => PointerLogRow
  | .idempotency _ => IdempotencyReplay
  | .auditEvent _ => AuditEventRow
  | .outboxEvent _ => OutboxEventRow
  | .view _ => ViewRow
  | .policyBinding _ => PolicyBindingRow
  | .softDelete _ => SoftDeleteRow

end TursoRow

namespace TursoState

open OrderedMap

def lookup (state : TursoState) : (row : TursoRow) → Option row.Cell
  | .ns warehouse path => state.namespaces[(warehouse, path)]?
  | .namespaceProperties warehouse path => state.namespaceProperties[(warehouse, path)]?
  | .table key => state.tables[key]?
  | .pointerLog key sequence => state.pointerLog[(key, sequence)]?
  | .idempotency key => state.idempotency[key]?
  | .auditEvent id => state.auditEvents[id]?
  | .outboxEvent id => state.outboxEvents[id]?
  | .view key => state.views[key]?
  | .policyBinding key => state.policyBindings[key]?
  | .softDelete key => state.softDeletes[key]?

def write (state : TursoState) : (row : TursoRow) → Option row.Cell → TursoState
  | .ns warehouse path, value =>
      { state with namespaces := put state.namespaces (warehouse, path) value }
  | .namespaceProperties warehouse path, value =>
      { state with namespaceProperties := put state.namespaceProperties (warehouse, path) value }
  | .table key, value => { state with tables := put state.tables key value }
  | .pointerLog key sequence, value =>
      { state with pointerLog := put state.pointerLog (key, sequence) value }
  | .idempotency key, value => { state with idempotency := put state.idempotency key value }
  | .auditEvent id, value => { state with auditEvents := put state.auditEvents id value }
  | .outboxEvent id, value => { state with outboxEvents := put state.outboxEvents id value }
  | .view key, value => { state with views := put state.views key value }
  | .policyBinding key, value =>
      { state with policyBindings := put state.policyBindings key value }
  | .softDelete key, value => { state with softDeletes := put state.softDeletes key value }

theorem lookup_write (state : TursoState) (row : TursoRow) (value : Option row.Cell) :
    (state.write row value).lookup row = value := by
  cases row <;> exact (getElem?_put _ _ _ _).trans (if_pos rfl)

theorem lookup_write_other (state : TursoState) (row other : TursoRow) (value : Option row.Cell)
    (different : row ≠ other) : (state.write row value).lookup other = state.lookup other := by
  cases row <;> cases other <;>
    first
    | rfl
    | exact (getElem?_put _ _ _ _).trans (if_neg fun same => different (by simp_all))

end TursoState

def tursoRows : SnapshotIsolation.Rows TursoState TursoRow where
  Cell := TursoRow.Cell
  lookup := TursoState.lookup
  write := TursoState.write
  lookup_written := TursoState.lookup_write
  lookup_other store row value other := TursoState.lookup_write_other store row other value

abbrev TursoWrites := List (SnapshotIsolation.Write tursoRows)

namespace TursoRow

def put (row : TursoRow) (cell : row.Cell) : SnapshotIsolation.Write tursoRows := ⟨row, some cell⟩

def delete (row : TursoRow) : SnapshotIsolation.Write tursoRows := ⟨row, none⟩

theorem delete_ne_put (row other : TursoRow) (cell : other.Cell) : row.delete ≠ other.put cell := by
  intro same
  have value := congrArg (fun change => change.value.isSome) same
  cases value

end TursoRow

end LakeCat
