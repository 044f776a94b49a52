import LakeCat.NameKeys
import LakeCat.ViewHistory

/-!
The receipts of every view of a warehouse in one listing. The receipts are
filed under keys that keep namespaces apart and validated in groups that share
a stable id, which is built from the dotted path of the namespace.
-/

namespace LakeCat

open Fallible Transition ViewVersionReceipt

/-- `view_key_matches_warehouse`. -/
def viewKeyMatchesWarehouse (key : String) (warehouse : WarehouseName) : Bool :=
  match splitText key '\x1f' with
  | [rowWarehouse, _, _] => rowWarehouse = warehouse.value
  | _ => false

/-- The comparison of the listing: namespace, name, version, then time. -/
def listingOrder : ViewVersionReceipt → ViewVersionReceipt → Ordering :=
  compareLex (compareOn ViewVersionReceipt.ns) <|
    compareLex (compareOn fun receipt => receipt.name.value) <|
      compareLex (compareOn ViewVersionReceipt.viewVersion)
        (compareOn ViewVersionReceipt.recordedAt)

def listingLe (left right : ViewVersionReceipt) : Bool :=
  (listingOrder left right).isLE

instance : Std.TransCmp listingOrder := inferInstanceAs (Std.TransCmp (compareLex _ _))

theorem listingLe_trans (first second third : ViewVersionReceipt)
    (lower : listingLe first second = true) (upper : listingLe second third = true) :
    listingLe first third = true :=
  Std.TransCmp.isLE_trans lower upper

theorem listingLe_total (left right : ViewVersionReceipt) :
    (listingLe left right || listingLe right left) = true := by
  have swap : listingOrder right left = (listingOrder left right).swap := Std.OrientedCmp.eq_swap
  rw [listingLe, listingLe, swap]
  cases listingOrder left right <;> rfl

/-- Of one view, the listing has the order in which a chain is validated. -/
theorem listingLe_of_receiptLe {earlier later : ViewVersionReceipt} (ns : earlier.ns = later.ns)
    (name : earlier.name = later.name) (ordered : receiptLe earlier later = true) :
    listingLe earlier later = true := by
  rw [receiptLe_iff] at ordered
  simp only [listingLe, listingOrder, compareLex, compareOn, ns, name, Std.ReflCmp.compare_self,
    Ordering.eq_then, Ordering.isLE_then_iff_or, Std.compare_eq_lt, Std.compare_eq_iff_eq,
    Std.isLE_compare]
  grind

/-- A stable sort leaves the order of the items that are already in order. -/
theorem filter_mergeSort_of_pairwise {α : Type} (le : α → α → Bool)
    (trans : ∀ first second third, le first second = true → le second third = true →
      le first third = true)
    (total : ∀ left right, (le left right || le right left) = true) {keep : α → Bool}
    {items : List α}
    (sorted : (items.filter keep).Pairwise fun earlier later => le earlier later = true) :
    (items.mergeSort le).filter keep = items.filter keep := by
  have whole := (List.sublist_mergeSort trans total sorted List.filter_sublist).filter keep
  simp only [List.filter_filter, Bool.and_self] at whole
  exact (whole.eq_of_length ((List.mergeSort_perm items le).filter keep).length_eq.symm).symm

/-- The view that a call writes, and the clock that it reads. -/
structure ViewCall where
  warehouse : WarehouseName
  ns : Namespace
  name : TableName
  now : Timestamp

structure ViewCall.Made (call : ViewCall) : Prop where
  warehouse : call.warehouse.Made
  ns : call.ns.Made
  name : call.name.Made

def MemoryOp.viewCall : MemoryOp → Option ViewCall
  | .upsertView view _ now => some ⟨view.warehouse, view.ns, view.name, now⟩
  | .dropView warehouse ns view _ _ now => some ⟨warehouse, ns, view, now⟩
  | _ => none

namespace MemoryState

section
variable [External]

def listViewVersionReceipts (state : MemoryState) (warehouse : WarehouseName) (ns : Namespace)
    (view : TableName) : LakeCatResult (List ViewVersionReceipt) := do
  let receipts ← state.receiptsOfView warehouse ns view
  validateViewReceiptChains receipts
  return receipts

def listWarehouseViewVersionReceipts (state : MemoryState) (warehouse : WarehouseName) :
    LakeCatResult (List ViewVersionReceipt) := do
  let receipts ← collect (fun record => do
      validateMemoryViewReceiptScope record warehouse record.receipt.ns (some record.receipt.name)
      return record.receipt)
    (state.viewVersionReceipts.filter fun record =>
      viewKeyMatchesWarehouse record.viewKey warehouse)
  let receipts := receipts.mergeSort listingLe
  validateViewReceiptChains receipts
  return receipts

/-- The listing succeeds and holds, for each view of the warehouse, the receipts of that view. -/
def ListsReceipts (state : MemoryState) (warehouse : WarehouseName) : Prop :=
  ∃ listed, state.listWarehouseViewVersionReceipts warehouse = .ok listed ∧
    (∀ receipt ∈ listed, receipt.warehouse = warehouse) ∧
    ∀ ns name, ns.Made → state.listViewVersionReceipts warehouse ns name =
      .ok (listed.filter fun receipt => receipt.ns = ns ∧ receipt.name = name)

/-- Views of the warehouse with one name are in namespaces with different dotted paths. -/
def PathsApart (state : MemoryState) (warehouse : WarehouseName) : Prop :=
  ∀ first ∈ state.viewVersionReceipts, ∀ second ∈ state.viewVersionReceipts,
    first.receipt.warehouse = warehouse → second.receipt.warehouse = warehouse →
      first.receipt.name = second.receipt.name →
        first.receipt.ns.path = second.receipt.ns.path → first.receipt.ns = second.receipt.ns

/-- A receipt filed under the key of a view whose names were made. -/
structure Filed (record : MemoryViewVersionReceipt) : Prop where
  key : record.viewKey =
    viewKeyParts record.receipt.warehouse record.receipt.ns record.receipt.name
  warehouse : record.receipt.warehouse.Made
  ns : record.receipt.ns.Made
  name : record.receipt.name.Made

/-- What the views of a run keep while its clock goes forward. -/
structure ViewsKept (state : MemoryState) : Prop where
  filed : ∀ record ∈ state.viewVersionReceipts, Filed record
  histories : ∀ key, state.ViewHistory key
  timely : ∀ key, state.InTime key

/-- A call adds at most one receipt, of the view it names and at the time it reads. -/
theorem step_receipts (state : MemoryState) (op : MemoryOp) :
    (state.step op).viewVersionReceipts = state.viewVersionReceipts ∨
      ∃ call record, op.viewCall = some call ∧
        record.receipt.IsOf call.warehouse call.ns call.name ∧
        record.viewKey = viewKeyParts call.warehouse call.ns call.name ∧
        record.receipt.recordedAt = call.now ∧
        (state.step op).viewVersionReceipts = state.viewVersionReceipts ++ [record] := by
  have successor := step_successor state op
  generalize state.step op = after at successor
  cases successor with
  | viewStored view next expected latest now upsertable =>
      obtain ⟨_, warehouse, ns, name⟩ := withNextVersionAfterHistory_ok _ _ _ _ upsertable.next
      exact .inr ⟨_, _, rfl, ⟨warehouse, ns, name⟩, rfl, rfl, rfl⟩
  | viewDropped warehouse ns view principal expected now record receipt found made =>
      obtain ⟨_, rfl, rfl, rfl⟩ := viewToDrop_ok found
      simp only [dropReceipt, bind_eq_ok, pure_eq, Except.ok.injEq] at made
      obtain ⟨_, _, _, _, rfl⟩ := made
      exact .inr ⟨_, _, rfl, ⟨rfl, rfl, rfl⟩, rfl, rfl, rfl⟩
  | _ => exact .inl rfl

theorem step_viewsKept {state : MemoryState} {op : MemoryOp} (kept : state.ViewsKept)
    (made : ∀ call, op.viewCall = some call → call.Made)
    (clock : ∀ call, op.viewCall = some call →
      ∀ record ∈ state.viewVersionReceipts, record.receipt.recordedAt < call.now) :
    (state.step op).ViewsKept := by
  refine ⟨?_, step_viewHistory kept.histories op, step_inTime kept.histories kept.timely ?_⟩
  · rcases step_receipts state op with same | ⟨call, record, called, ⟨warehouse, ns, name⟩, key, _,
      appended⟩
    · rw [same]
      exact kept.filed
    · rw [appended]
      intro other member
      rcases List.mem_append.mp member with earlier | new
      · exact kept.filed other earlier
      · rw [List.mem_singleton.mp new]
        have names := made call called
        rw [← warehouse, ← ns, ← name] at key
        exact ⟨key, warehouse ▸ names.warehouse, ns ▸ names.ns, name ▸ names.name⟩
  · cases op with
    | dropView warehouse ns view principal expected now =>
        intro _ last ends
        obtain ⟨record, member, rfl⟩ := List.mem_map.mp (List.mem_of_mem_getLast? ends)
        exact Int.le_of_lt (clock _ rfl record (List.mem_filter.mp member).1)
    | _ => trivial

/-- A forward clock keeps the views over a whole run. -/
theorem run_viewsKept (state : MemoryState) (ops : List MemoryOp) (kept : state.ViewsKept)
    (made : ∀ call ∈ ops.filterMap MemoryOp.viewCall, call.Made)
    (forward : (ops.filterMap MemoryOp.viewCall).Pairwise fun earlier later =>
      earlier.now < later.now)
    (past : ∀ call ∈ ops.filterMap MemoryOp.viewCall,
      ∀ record ∈ state.viewVersionReceipts, record.receipt.recordedAt < call.now) :
    (state.run ops).ViewsKept := by
  induction ops generalizing state with
  | nil => exact kept
  | cons op rest ih =>
      have calls (call : ViewCall) (called : op.viewCall = some call) :
          (op :: rest).filterMap MemoryOp.viewCall =
            call :: rest.filterMap MemoryOp.viewCall := List.filterMap_cons_some called
      have also (call : ViewCall) (member : call ∈ rest.filterMap MemoryOp.viewCall) :
          call ∈ (op :: rest).filterMap MemoryOp.viewCall := by
        cases called : op.viewCall with
        | none => rwa [List.filterMap_cons_none called]
        | some first => rw [calls first called]; exact List.mem_cons_of_mem _ member
      have here (call : ViewCall) (called : op.viewCall = some call) :
          call ∈ (op :: rest).filterMap MemoryOp.viewCall := by
        rw [calls call called]
        exact List.mem_cons_self
      refine ih (state.step op) (step_viewsKept kept (fun call called => made call (here call called))
        fun call called => past call (here call called))
        (fun call member => made call (also call member)) ?_ ?_
      · cases called : op.viewCall with
        | none => rwa [List.filterMap_cons_none called] at forward
        | some first =>
            rw [calls first called] at forward
            exact (List.pairwise_cons.mp forward).2
      · intro call member record stored
        rcases step_receipts state op with same | ⟨first, added, called, _, _, written, appended⟩
        · rw [same] at stored
          exact past call (also call member) record stored
        · rw [appended] at stored
          rcases List.mem_append.mp stored with earlier | new
          · exact past call (also call member) record earlier
          · rw [calls first called] at forward
            rw [List.mem_singleton.mp new, written]
            exact (List.pairwise_cons.mp forward).1 call member

/-- The receipts of one warehouse, in the order in which they were written. -/
def receiptsIn (state : MemoryState) (warehouse : WarehouseName) : List ViewVersionReceipt :=
  (state.viewVersionReceipts.map MemoryViewVersionReceipt.receipt).filter fun receipt =>
    receipt.warehouse = warehouse

omit [External] in
theorem mem_receiptsUnder {state : MemoryState} {record : MemoryViewVersionReceipt}
    (stored : record ∈ state.viewVersionReceipts) (filed : Filed record) :
    record.receipt ∈ state.receiptsUnder (viewKeyParts record.receipt.warehouse record.receipt.ns
      record.receipt.name) :=
  List.mem_map_of_mem (List.mem_filter.mpr ⟨stored, decide_eq_true filed.key⟩)

namespace ViewsKept
variable {state : MemoryState} {warehouse : WarehouseName}

theorem mem_receiptsIn (kept : state.ViewsKept) (receipt : ViewVersionReceipt) :
    receipt ∈ state.receiptsIn warehouse ↔ receipt.warehouse = warehouse ∧
      receipt ∈ state.receiptsUnder
        (viewKeyParts receipt.warehouse receipt.ns receipt.name) := by
  simp only [receiptsIn, receiptsUnder, List.mem_filter, List.mem_map, decide_eq_true_eq]
  constructor
  · rintro ⟨⟨record, member, rfl⟩, same⟩
    exact ⟨same, record, ⟨member, (kept.filed record member).key⟩, rfl⟩
  · rintro ⟨same, record, ⟨member, _⟩, rfl⟩
    exact ⟨⟨record, member, rfl⟩, same⟩

/-- The receipts of a warehouse that are of one view are those under the key of the view. -/
theorem filter_receiptsIn (kept : state.ViewsKept) (made : warehouse.Made) (ns : Namespace)
    (nsMade : ns.Made) (name : TableName) :
    (state.receiptsIn warehouse).filter (fun receipt => receipt.ns = ns ∧ receipt.name = name) =
      state.receiptsUnder (viewKeyParts warehouse ns name) := by
  rw [receiptsIn, List.filter_filter, List.filter_map, receiptsUnder]
  refine congrArg _ (List.filter_congr fun record member => ?_)
  obtain ⟨key, recordMade, recordNs, _⟩ := kept.filed record member
  rw [Function.comp_apply, Bool.eq_iff_iff, Bool.and_eq_true, decide_eq_true_eq,
    decide_eq_true_eq, decide_eq_true_eq, key]
  constructor
  · rintro ⟨⟨rfl, rfl⟩, rfl⟩
    rfl
  · intro same
    obtain ⟨first, second, third⟩ := viewKeyParts_injective recordMade made recordNs nsMade same
    exact ⟨⟨second, third⟩, first⟩

theorem unshared (kept : state.ViewsKept) (made : warehouse.Made) (ns : Namespace)
    (nsMade : ns.Made) (name : TableName) : state.Unshared warehouse ns name := by
  intro receipt member
  rw [← kept.filter_receiptsIn made ns nsMade name, receiptsIn] at member
  simp only [List.mem_filter, decide_eq_true_eq] at member
  exact ⟨member.1.2, member.2.1, member.2.2⟩

/-- The listing of one view always succeeds. -/
theorem listViewVersionReceipts (kept : state.ViewsKept) (made : warehouse.Made) (ns : Namespace)
    (nsMade : ns.Made) (name : TableName) :
    state.listViewVersionReceipts warehouse ns name =
      .ok (state.receiptsUnder (viewKeyParts warehouse ns name)) := by
  have history := kept.histories (viewKeyParts warehouse ns name)
  rw [MemoryState.listViewVersionReceipts,
    history.receiptsOfView (kept.unshared made ns nsMade name), ok_bind,
    history.validated (kept.timely _)]
  rfl

/-- What the listing of the warehouse comes down to. -/
theorem listWarehouseViewVersionReceipts_ok (kept : state.ViewsKept)
    (listed : List ViewVersionReceipt) :
    state.listWarehouseViewVersionReceipts warehouse = .ok listed ↔
      listed = (state.receiptsIn warehouse).mergeSort listingLe ∧
        validateViewReceiptChains listed = .ok () := by
  have rows : (state.viewVersionReceipts.filter fun record =>
      viewKeyMatchesWarehouse record.viewKey warehouse).map MemoryViewVersionReceipt.receipt =
      state.receiptsIn warehouse := by
    rw [receiptsIn, List.filter_map]
    refine congrArg _ (List.filter_congr fun record member => ?_)
    obtain ⟨key, recordMade, recordNs, recordName⟩ := kept.filed record member
    rw [viewKeyMatchesWarehouse, key, splitText_viewKeyParts recordMade recordNs recordName,
      Function.comp_apply, Bool.eq_iff_iff, decide_eq_true_eq, decide_eq_true_eq]
    exact ⟨fun same => by cases warehouse; exact congrArg WarehouseName.mk same,
      fun same => congrArg WarehouseName.value same⟩
  have collected : collect (fun record => (do
      validateMemoryViewReceiptScope record warehouse record.receipt.ns (some record.receipt.name)
      return record.receipt : LakeCatResult ViewVersionReceipt))
      (state.viewVersionReceipts.filter fun record =>
        viewKeyMatchesWarehouse record.viewKey warehouse) =
      .ok (state.receiptsIn warehouse) := by
    refine (collect_checked _ (fun record => validateMemoryViewReceiptScope record warehouse
      record.receipt.ns (some record.receipt.name) = .ok ()) MemoryViewVersionReceipt.receipt
      (fun record result => ?_) _ _).mpr ⟨fun record member => ?_, rows.symm⟩
    · rw [bind_unit_eq_ok, pure_eq, Except.ok.injEq]
      exact and_congr_right fun _ => eq_comm
    · have listed : record.receipt ∈ state.receiptsIn warehouse := by
        rw [← rows]
        exact List.mem_map_of_mem member
      obtain ⟨same, own⟩ := (kept.mem_receiptsIn _).mp listed
      exact (validateMemoryViewReceiptScope_ok _ _ _ _ _).mpr
        ⟨(kept.filed record (List.mem_filter.mp member).1).key, ⟨same, rfl, rfl⟩,
          (kept.histories _).chain.valid _ own⟩
  rw [listWarehouseViewVersionReceipts, collected, ok_bind, bind_unit_eq_ok, pure_eq,
    Except.ok.injEq]
  constructor
  · rintro ⟨passed, rfl⟩
    exact ⟨rfl, passed⟩
  · rintro ⟨rfl, passed⟩
    exact ⟨passed, rfl⟩

/-- The listing keeps the receipts of each view in the order in which they were written. -/
theorem filter_sorted (kept : state.ViewsKept) (made : warehouse.Made) (ns : Namespace)
    (nsMade : ns.Made) (name : TableName) :
    ((state.receiptsIn warehouse).mergeSort listingLe).filter
        (fun receipt => receipt.ns = ns ∧ receipt.name = name) =
      state.receiptsUnder (viewKeyParts warehouse ns name) := by
  have view := kept.filter_receiptsIn made ns nsMade name
  rw [filter_mergeSort_of_pairwise listingLe listingLe_trans listingLe_total, view]
  rw [view]
  have chain := (kept.histories (viewKeyParts warehouse ns name)).chain
  refine (pairwise_receiptLe chain.follows (kept.timely _)).imp_of_mem ?_
  intro earlier later earlierMember laterMember ordered
  obtain ⟨_, ns, name⟩ := kept.unshared made ns nsMade name earlier earlierMember
  obtain ⟨_, laterNs, laterName⟩ := kept.unshared made _ nsMade _ later laterMember
  exact listingLe_of_receiptLe (ns.trans laterNs.symm) (name.trans laterName.symm) ordered

theorem stableId_receiptsIn (kept : state.ViewsKept) {receipt : ViewVersionReceipt}
    (member : receipt ∈ state.receiptsIn warehouse) :
    receipt.ns.Made ∧
      receipt.stableId = viewStableIdParts warehouse receipt.ns receipt.name := by
  obtain ⟨same, own⟩ := (kept.mem_receiptsIn receipt).mp member
  obtain ⟨record, stored, rfl⟩ := List.mem_map.mp own
  have valid := (kept.histories _).chain.valid _ own
  refine ⟨(kept.filed record (List.mem_filter.mp stored).1).ns, ?_⟩
  rw [((validateViewReceipt_ok _ _).mp valid).named, same]

/-- The receipts of a warehouse are accepted together exactly when dotted paths keep views apart. -/
theorem validated_iff (kept : state.ViewsKept) (made : warehouse.Made) :
    validateViewReceiptChains ((state.receiptsIn warehouse).mergeSort listingLe) = .ok () ↔
      state.PathsApart warehouse := by
  have listed (receipt : ViewVersionReceipt) :
      receipt ∈ (state.receiptsIn warehouse).mergeSort listingLe ↔
        receipt ∈ state.receiptsIn warehouse := List.mem_mergeSort
  rw [validateViewReceiptChains_ok]
  constructor
  · intro accepted first firstStored second secondStored firstIn secondIn names paths
    have firstUnder := mem_receiptsUnder firstStored (kept.filed first firstStored)
    have secondUnder := mem_receiptsUnder secondStored (kept.filed second secondStored)
    obtain ⟨head, headMember, headBegins⟩ := (kept.histories _).chain.exists_begins firstUnder
    obtain ⟨other, otherMember, otherBegins⟩ := (kept.histories _).chain.exists_begins secondUnder
    rw [firstIn] at headMember
    rw [secondIn] at otherMember
    obtain ⟨headIn, headNs, headName⟩ :=
      kept.unshared made _ (kept.filed first firstStored).ns _ head headMember
    obtain ⟨otherIn, otherNs, otherName⟩ :=
      kept.unshared made _ (kept.filed second secondStored).ns _ other otherMember
    have headListed : head ∈ state.receiptsIn warehouse :=
      (kept.mem_receiptsIn head).mpr ⟨headIn, by rw [headIn, headNs, headName]; exact headMember⟩
    have otherListed : other ∈ state.receiptsIn warehouse :=
      (kept.mem_receiptsIn other).mpr
        ⟨otherIn, by rw [otherIn, otherNs, otherName]; exact otherMember⟩
    obtain ⟨headMade, headId⟩ := kept.stableId_receiptsIn headListed
    obtain ⟨otherMade, otherId⟩ := kept.stableId_receiptsIn otherListed
    have ids : other.stableId = head.stableId := by
      rw [headId, otherId]
      refine (viewStableIdParts_eq_iff otherMade headMade).mpr ⟨?_, ?_⟩
      · rw [otherNs, headNs, paths]
      · rw [otherName, headName, names]
    have passed := accepted head ((listed head).mpr headListed)
    have grouped (receipt : ViewVersionReceipt) (member : receipt ∈ state.receiptsIn warehouse)
        (same : receipt.stableId = head.stableId) :
        receipt ∈ (((state.receiptsIn warehouse).mergeSort listingLe).filter fun other =>
          other.stableId = head.stableId).mergeSort receiptLe :=
      List.mem_mergeSort.mpr
        (List.mem_filter.mpr ⟨(listed receipt).mpr member, decide_eq_true same⟩)
    have one := eq_of_begins passed (grouped head headListed rfl) (grouped other otherListed ids)
      headBegins otherBegins
    rw [← headNs, ← otherNs, one]
  · intro apart receipt member
    rw [listed] at member
    obtain ⟨nsMade, id⟩ := kept.stableId_receiptsIn member
    obtain ⟨record, stored, same⟩ := List.mem_map.mp (List.mem_filter.mp member).1
    have group : ((state.receiptsIn warehouse).mergeSort listingLe).filter (fun other =>
        other.stableId = receipt.stableId) =
        ((state.receiptsIn warehouse).mergeSort listingLe).filter fun other =>
          other.ns = receipt.ns ∧ other.name = receipt.name := by
      refine List.filter_congr fun other also => ?_
      rw [listed] at also
      obtain ⟨otherMade, otherId⟩ := kept.stableId_receiptsIn also
      obtain ⟨otherRecord, otherStored, otherSame⟩ :=
        List.mem_map.mp (List.mem_filter.mp also).1
      rw [decide_eq_decide, id, otherId, viewStableIdParts_eq_iff otherMade nsMade]
      constructor
      · rintro ⟨paths, names⟩
        refine ⟨?_, names⟩
        subst same otherSame
        exact apart otherRecord otherStored record stored
          ((kept.mem_receiptsIn _).mp also).1 ((kept.mem_receiptsIn _).mp member).1 names paths
      · rintro ⟨ns, name⟩
        exact ⟨congrArg Namespace.path ns, name⟩
    rw [group, kept.filter_sorted made _ nsMade]
    have chain := (kept.histories (viewKeyParts warehouse receipt.ns receipt.name)).chain
    rw [mergeSort_receipts chain.follows (kept.timely _) (List.Perm.refl _)]
    exact chain.validated

theorem listsReceipts_iff (kept : state.ViewsKept) (made : warehouse.Made) :
    state.ListsReceipts warehouse ↔ state.PathsApart warehouse := by
  rw [← kept.validated_iff made]
  constructor
  · rintro ⟨listed, found, _⟩
    obtain ⟨rfl, passed⟩ := (kept.listWarehouseViewVersionReceipts_ok listed).mp found
    exact passed
  · intro passed
    refine ⟨_, (kept.listWarehouseViewVersionReceipts_ok _).mpr ⟨rfl, passed⟩, ?_, ?_⟩
    · intro receipt member
      exact ((kept.mem_receiptsIn receipt).mp (List.mem_mergeSort.mp member)).1
    · intro ns name nsMade
      rw [kept.listViewVersionReceipts made ns nsMade, kept.filter_sorted made ns nsMade]

end ViewsKept

end

end MemoryState

section
variable [External]

theorem viewsKept_run (ops : List MemoryOp)
    (made : ∀ call ∈ ops.filterMap MemoryOp.viewCall, call.Made)
    (forward : (ops.filterMap MemoryOp.viewCall).Pairwise fun earlier later =>
      earlier.now < later.now) : (MemoryState.empty.run ops).ViewsKept := by
  have none (record : MemoryViewVersionReceipt)
      (stored : record ∈ MemoryState.empty.viewVersionReceipts) : False := by
    simp [MemoryState.empty] at stored
  refine MemoryState.run_viewsKept _ ops ⟨?_, ?_, ?_⟩ made forward ?_
  · exact fun record stored => (none record stored).elim
  · exact fun key => (MemoryState.viewHistory_empty key).1
  · exact fun key => (MemoryState.viewHistory_empty key).2
  · exact fun _ _ record stored => (none record stored).elim

/-- Over every run whose clock goes forward, a warehouse is listed exactly when no two of its
views share a name and a dotted path. -/
theorem warehouse_listed_iff (ops : List MemoryOp)
    (made : ∀ call ∈ ops.filterMap MemoryOp.viewCall, call.Made)
    (forward : (ops.filterMap MemoryOp.viewCall).Pairwise fun earlier later =>
      earlier.now < later.now) (warehouse : WarehouseName) (warehouseMade : warehouse.Made) :
    (MemoryState.empty.run ops).ListsReceipts warehouse ↔
      (MemoryState.empty.run ops).PathsApart warehouse :=
  (viewsKept_run ops made forward).listsReceipts_iff warehouseMade

end

/-- The sample view in a namespace with these components. -/
def viewIn (parts : List String) : ViewRecord :=
  { MemoryState.sampleView with ns := ⟨parts⟩ }

theorem viewIn_stored [External] (state : MemoryState) (parts : List String) (now : Timestamp)
    (vacant : (state.views : BTreeMap ViewRecord)[viewKey (viewIn parts)]? = none)
    (unrecorded : state.receiptsUnder (viewKey (viewIn parts)) = []) :
    ∃ receipt, receipt.ns = ⟨parts⟩ ∧ receipt.name = (viewIn parts).name ∧
      receipt.warehouse = (viewIn parts).warehouse ∧
      (state.step (.upsertView (viewIn parts) none now)).viewVersionReceipts =
        state.viewVersionReceipts ++ [⟨viewKey (viewIn parts), receipt⟩] ∧
      (state.step (.upsertView (viewIn parts) none now)).views =
        state.views.insert (viewKey (viewIn parts)) (viewIn parts) := by
  have valid : MemoryState.sampleView.validate = .ok () := rfl
  obtain ⟨next, stored⟩ := MemoryState.upsertViewIfVersion_first state (viewIn parts) valid rfl
    vacant unrecorded now
  have left : state.step (.upsertView (viewIn parts) none now) = next := by
    rw [MemoryState.step, stored]
    rfl
  obtain ⟨latest, _, rfl⟩ := (MemoryState.upsertViewIfVersion_ok _ _ _ _ _ _).mp stored
  rw [left]
  exact ⟨_, rfl, rfl, rfl, rfl, rfl⟩

def dottedUpserts : List MemoryOp :=
  [.upsertView (viewIn ["a.b"]) none 1, .upsertView (viewIn ["a", "b"]) none 2]

theorem dottedUpserts_made : ∀ call ∈ dottedUpserts.filterMap MemoryOp.viewCall, call.Made := by
  intro call member
  have each : call = ⟨⟨"main"⟩, ⟨["a.b"]⟩, ⟨"recent"⟩, 1⟩ ∨
      call = ⟨⟨"main"⟩, ⟨["a", "b"]⟩, ⟨"recent"⟩, 2⟩ := by
    simpa [dottedUpserts, MemoryOp.viewCall, viewIn, MemoryState.sampleView, sampleIdent] using member
  rcases each with rfl | rfl
  · exact ⟨⟨"main", rfl⟩, ⟨["a.b"], rfl⟩, ⟨"recent", rfl⟩⟩
  · exact ⟨⟨"main", rfl⟩, ⟨["a", "b"], rfl⟩, ⟨"recent", rfl⟩⟩

/-- The listing of one sample view. -/
theorem warehouse_listed_sample : ∃ (ops : List MemoryOp) (warehouse : WarehouseName),
    ∀ [External], (MemoryState.empty.run ops).ListsReceipts warehouse ↔
      (MemoryState.empty.run ops).PathsApart warehouse :=
  ⟨dottedUpserts, ⟨"main"⟩, warehouse_listed_iff dottedUpserts dottedUpserts_made
    (by simp [dottedUpserts, MemoryOp.viewCall]) ⟨"main"⟩ ⟨"main", rfl⟩⟩

/-- Two namespaces with one dotted path make the listing of their warehouse fail. -/
theorem dotted_namespaces_unlisted : ∃ (ops : List MemoryOp) (warehouse : WarehouseName),
    (∀ call ∈ ops.filterMap MemoryOp.viewCall, call.Made) ∧
      ((ops.filterMap MemoryOp.viewCall).Pairwise fun earlier later =>
        earlier.now < later.now) ∧ warehouse.Made ∧
      ∀ [External], ¬(MemoryState.empty.run ops).ListsReceipts warehouse := by
  have forward : (dottedUpserts.filterMap MemoryOp.viewCall).Pairwise fun earlier later =>
      earlier.now < later.now := by simp [dottedUpserts, MemoryOp.viewCall]
  refine ⟨dottedUpserts, ⟨"main"⟩, dottedUpserts_made, forward, ⟨"main", rfl⟩, ?_⟩
  intro _ listed
  have kept := viewsKept_run dottedUpserts dottedUpserts_made forward
  have apart := (kept.listsReceipts_iff ⟨"main", rfl⟩).mp listed
  obtain ⟨first, firstNs, firstName, firstIn, written, views⟩ :=
    viewIn_stored MemoryState.empty ["a.b"] 1 rfl rfl
  obtain ⟨second, secondNs, secondName, secondIn, also, _⟩ :=
    viewIn_stored (MemoryState.empty.step (.upsertView (viewIn ["a.b"]) none 1)) ["a", "b"] 2
      (by rw [views, OrderedMap.getElem?_insert, if_neg (by decide)]; rfl)
      (by rw [MemoryState.receiptsUnder_append written, if_neg (by decide)]; rfl)
  rw [written] at also
  have receipts : (MemoryState.empty.run dottedUpserts).viewVersionReceipts = _ := also
  have same := apart ⟨viewKey (viewIn ["a.b"]), first⟩ (by rw [receipts]; simp)
    ⟨viewKey (viewIn ["a", "b"]), second⟩ (by rw [receipts]; simp) firstIn secondIn
    (firstName.trans secondName.symm) (by rw [firstNs, secondNs]; decide)
  rw [firstNs, secondNs] at same
  exact absurd same (by decide)

end LakeCat
