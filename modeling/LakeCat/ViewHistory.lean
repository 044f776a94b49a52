import LakeCat.NamespaceContainment
import LakeCat.ViewChains

/-!
The views of the memory store with the receipts filed under their keys. The
receipts stay a chain that every later call accepts exactly while each drop is
recorded at a time that is not before the last receipt of its view.
-/

namespace LakeCat

open Fallible Transition ViewVersionReceipt

/-- The version that the receipts leave current: none once the view is dropped. -/
def liveVersion (receipts : List ViewVersionReceipt) : Option UInt64 :=
  match receipts.getLast? with
  | some receipt => if receipt.operation = .upsert then some receipt.viewVersion else none
  | none => none

section
variable [External]

/-- The receipts of one view with the view that is stored beside them. -/
structure ReceiptsSound (receipts : List ViewVersionReceipt) (view : Option ViewRecord) :
    Prop where
  validated : validateViewReceiptChains receipts = .ok ()
  begins : ∀ receipt ∈ receipts.head?, BeginsChain receipt
  follows : receipts.IsChain Follows
  current : view.map ViewRecord.viewVersion = liveVersion receipts

def LakeCatError.Foreseen : LakeCatError → Prop
  | .internal _ => False
  | _ => True

namespace MemoryState

/-- No other view has a receipt under the key of this one. -/
def Unshared (state : MemoryState) (warehouse : WarehouseName) (ns : Namespace)
    (name : TableName) : Prop :=
  ∀ receipt ∈ state.receiptsUnder (viewKeyParts warehouse ns name), receipt.IsOf warehouse ns name

/-- Nothing in the history of a view makes an upsert or a drop of it fail internally. -/
structure ViewsUsable (state : MemoryState) : Prop where
  upsert : ∀ view expected now, state.Unshared view.warehouse view.ns view.name →
    FailsOnly LakeCatError.Foreseen (state.upsertViewIfVersion view expected now)
  drop : ∀ warehouse ns name principal expected now, state.Unshared warehouse ns name →
    FailsOnly LakeCatError.Foreseen
      (state.dropViewIfVersion warehouse ns name principal expected now).1

structure ViewsSound (state : MemoryState) : Prop where
  receipts : ∀ warehouse ns name, ReceiptsSound
    (state.receiptsUnder (viewKeyParts warehouse ns name))
    state.views[viewKeyParts warehouse ns name]?
  usable : state.ViewsUsable

/-- A drop is not recorded before the receipt it follows. -/
def DropsInTime (state : MemoryState) : MemoryOp → Prop
  | .dropView warehouse ns view _ expected now =>
      (state.viewToDrop warehouse ns view expected).isOk = true →
        ∀ last ∈ (state.receiptsUnder (viewKeyParts warehouse ns view)).getLast?,
          last.recordedAt ≤ now
  | _ => True

/-- What is kept under one key. Only the last receipt can be recorded before the one it follows. -/
structure ViewHistory (state : MemoryState) (key : String) : Prop where
  filed : ∀ receipt ∈ state.receiptsUnder key,
    viewKeyParts receipt.warehouse receipt.ns receipt.name = key
  together : ∀ first ∈ state.receiptsUnder key, ∀ second ∈ state.receiptsUnder key,
    second.IsOf first.warehouse first.ns first.name
  chain : ViewChain (state.receiptsUnder key)
  settled : (state.receiptsUnder key).dropLast.IsChain Timely
  current : state.views[key]?.map ViewRecord.viewVersion = liveVersion (state.receiptsUnder key)
  stored : ∀ view, state.views[key]? = some view → view.validate = .ok () ∧ viewKey view = key ∧
    ∀ receipt ∈ state.receiptsUnder key, receipt.IsOf view.warehouse view.ns view.name

def InTime (state : MemoryState) (key : String) : Prop :=
  (state.receiptsUnder key).IsChain Timely

end MemoryState

/-! The receipts that an upsert and a drop write. -/

theorem withNextVersionAfterHistory_version {view next : ViewRecord} {previous : Option ViewRecord}
    {latest : Option UInt64}
    (stepped : view.withNextVersionAfterHistory previous latest = .ok next) :
    next.viewVersion.toNat =
      (ViewRecord.baseVersion (previous.map ViewRecord.viewVersion) latest).toNat + 1 := by
  simp only [ViewRecord.withNextVersionAfterHistory, bind_eq_ok, okOr_ok, exists_unit, pure_eq,
    Except.ok.injEq] at stepped
  obtain ⟨version, succeeded, _, rfl⟩ := stepped
  rw [ViewRecord.checkedSucc] at succeeded
  split at succeeded
  next room =>
    cases succeeded
    rw [UInt64.toNat_add, UInt64.toNat_one, Nat.mod_eq_of_lt room]
  next full => cases succeeded

omit [External] in
theorem baseVersion_of_agrees {previous latest : Option UInt64}
    (agrees : previous = none ∨ previous = latest) :
    ViewRecord.baseVersion previous latest = latest.getD 0 := by
  have least (version : UInt64) : max 0 version = version := if_pos UInt64.zero_le
  rcases agrees with absent | same
  · cases latest <;> simp [absent, ViewRecord.baseVersion, least]
  · have twice (version : UInt64) : max version version = version := if_pos (UInt64.le_refl _)
    cases latest <;> simp [same, ViewRecord.baseVersion, least, twice]

theorem upsert_validate (previous : Option UInt64) (previousHash : Option String)
    (view : ViewRecord) (principal : Principal) (now : Timestamp)
    (numbered : view.viewVersion ≠ 0)
    (grows : ∀ version, previous = some version → version < view.viewVersion)
    (evidence : ∀ digest, previousHash = some digest → isSha256Evidence digest = true) :
    (ViewVersionReceipt.upsert previous previousHash view principal now).validate = .ok () :=
  (validateViewReceipt_ok _ _).mpr ⟨rfl, numbered, grows, contentHashJson_evidence _, evidence⟩

theorem drop_validate (previousHash : Option String) (view : ViewRecord) (principal : Principal)
    (now : Timestamp) (numbered : view.viewVersion ≠ 0)
    (evidence : ∀ digest, previousHash = some digest → isSha256Evidence digest = true) :
    (ViewVersionReceipt.drop view previousHash principal now).validate = .ok () :=
  (validateViewReceipt_ok _ _).mpr ⟨rfl, numbered, rfl, contentHashJson_evidence _, evidence⟩

theorem version_ne_zero {view : ViewRecord} (valid : view.validate = .ok ()) :
    view.viewVersion ≠ 0 := by
  rw [ViewRecord.validate, rejectIf_bind] at valid
  exact valid.1

/-- What the validator returns of a timely chain of one view is its last receipt. -/
theorem latestViewReceiptEvidence_chain {receipts : List ViewVersionReceipt} (id : String)
    (named : ∀ receipt ∈ receipts, receipt.stableId = id) (chain : ViewChain receipts)
    (timely : receipts.IsChain Timely) :
    latestViewReceiptEvidence receipts =
      .ok (receipts.getLast?.map fun last => (last.viewVersion, viewReceiptHash last)) := by
  have accepted : validateViewReceiptChains receipts = .ok () := by
    refine (validateViewReceiptChains_single id named ()).mpr ?_
    rw [mergeSort_receipts chain.follows timely (List.Perm.refl _)]
    exact chain.validated
  rw [latestViewReceiptEvidence, accepted, ok_bind, latestReceipt_eq chain.follows timely]
  cases ends : receipts.getLast? with
  | none => rfl
  | some last =>
      have valid := chain.valid last (List.mem_of_getLast? ends)
      simp only [valid, ok_bind, pure_eq, Option.map_some]

/-! No check of a view's own fields fails internally. -/

omit [External] in
theorem validateViewColumns_foreseen (seen : List String) (columns : List ViewColumnRecord) :
    FailsOnly LakeCatError.Foreseen (validateViewColumns seen columns) := by
  induction columns generalizing seen with
  | nil => exact failsOnly_ok ()
  | cons column rest ih =>
      refine .bind ?_ fun _ _ => .bind (failsOnly_rejectIf _ trivial) fun _ _ => ih _
      refine .bind (failsOnly_rejectIf _ trivial) fun _ _ => ?_
      exact .bind (failsOnly_rejectIf _ trivial) fun _ _ => failsOnly_rejectIf _ trivial

theorem validateView_foreseen (view : ViewRecord) :
    FailsOnly LakeCatError.Foreseen view.validate := by
  refine .bind (failsOnly_rejectIf _ trivial) fun _ _ => ?_
  refine .bind (failsOnly_rejectIf _ trivial) fun _ _ => ?_
  refine .bind (failsOnly_rejectIf _ trivial) fun _ _ => ?_
  refine .bind (failsOnly_rejectIf _ trivial) fun _ _ => ?_
  refine .bind (validateViewColumns_foreseen _ _) fun _ _ => ?_
  refine failsOnly_checkEach _ _ fun entry _ => ?_
  exact .bind (failsOnly_rejectIf _ trivial) fun _ _ => failsOnly_rejectIf _ trivial

omit [External] in
theorem expectedVersion_foreseen (previous : Option ViewRecord) (expected : Option UInt64) :
    FailsOnly LakeCatError.Foreseen (checkSome validateExpectedViewVersion expected) ∧
      FailsOnly LakeCatError.Foreseen
        (checkSome (requireExpectedViewVersion previous) expected) := by
  refine ⟨failsOnly_checkSome _ _ fun _ _ => failsOnly_rejectIf _ trivial, ?_⟩
  refine failsOnly_checkSome _ _ fun _ _ => ?_
  exact .bind (failsOnly_okOr _ trivial) fun _ _ => failsOnly_rejectIf _ trivial

theorem withNextVersionAfterHistory_foreseen (view : ViewRecord) (previous : Option ViewRecord)
    (latest : Option UInt64) :
    FailsOnly LakeCatError.Foreseen (view.withNextVersionAfterHistory previous latest) := by
  refine .bind (failsOnly_okOr _ trivial) fun _ _ => ?_
  exact .bind (validateView_foreseen _) fun _ _ => failsOnly_ok _

namespace MemoryState

omit [External] in
theorem validateMemoryViewReceiptScope_ok (record : MemoryViewVersionReceipt)
    (warehouse : WarehouseName) (ns : Namespace) (view : TableName) (done : Unit) :
    validateMemoryViewReceiptScope record warehouse ns (some view) = .ok done ↔
      record.viewKey =
          viewKeyParts record.receipt.warehouse record.receipt.ns record.receipt.name ∧
        record.receipt.IsOf warehouse ns view ∧ record.receipt.validate = .ok () := by
  simp only [validateMemoryViewReceiptScope, IsOf, bind_unit_eq_ok, rejectIf_ok,
    Option.any_some, decide_eq_true_eq, not_or, not_not, ne_eq]
  tauto

omit [External] in
theorem receiptsOfView_ok (state : MemoryState) (warehouse : WarehouseName) (ns : Namespace)
    (view : TableName) (receipts : List ViewVersionReceipt) :
    state.receiptsOfView warehouse ns view = .ok receipts ↔
      (∀ receipt ∈ state.receiptsUnder (viewKeyParts warehouse ns view),
        receipt.IsOf warehouse ns view ∧ receipt.validate = .ok ()) ∧
      receipts = state.receiptsUnder (viewKeyParts warehouse ns view) := by
  have spec (record : MemoryViewVersionReceipt) (result : ViewVersionReceipt) : (do
      validateMemoryViewReceiptScope record warehouse ns (some view)
      return record.receipt : LakeCatResult ViewVersionReceipt) = .ok result ↔
        (record.viewKey = viewKeyParts record.receipt.warehouse record.receipt.ns
            record.receipt.name ∧
          record.receipt.IsOf warehouse ns view ∧ record.receipt.validate = .ok ()) ∧
        result = record.receipt := by
    rw [bind_unit_eq_ok, validateMemoryViewReceiptScope_ok, pure_eq, Except.ok.injEq]
    exact and_congr_right fun _ => eq_comm
  rw [receiptsOfView, collect_checked _ _ MemoryViewVersionReceipt.receipt spec]
  simp only [receiptsUnder, List.mem_map, List.mem_filter, decide_eq_true_eq]
  refine and_congr_left fun _ => ?_
  constructor
  · rintro each _ ⟨record, member, rfl⟩
    exact (each record member).2
  · rintro each record ⟨member, filed⟩
    obtain ⟨identity, valid⟩ := each record.receipt ⟨record, ⟨member, filed⟩, rfl⟩
    refine ⟨?_, identity, valid⟩
    rw [filed, identity.1, identity.2.1, identity.2.2]

theorem viewToDrop_ok {state : MemoryState} {warehouse : WarehouseName} {ns : Namespace}
    {view : TableName} {expected : Option UInt64} {record : ViewRecord}
    (found : state.viewToDrop warehouse ns view expected = .ok record) :
    state.views[viewKeyParts warehouse ns view]? = some record ∧ record.warehouse = warehouse ∧
      record.ns = ns ∧ record.name = view := by
  simp only [viewToDrop, loadView, validateViewRecordScope, validateScope, bind_eq_ok, exists_unit,
    okOr_ok, rejectIf_ok, not_or, ne_eq, not_not, pure_eq, Except.ok.injEq] at found
  obtain ⟨_, _, ⟨_, stored, _, ⟨_, warehouse, ns, name⟩, rfl⟩, _, rfl⟩ := found
  exact ⟨stored, warehouse, ns, name⟩

omit [External] in
theorem receiptsUnder_append {state after : MemoryState} {filed : String}
    {receipt : ViewVersionReceipt}
    (written : after.viewVersionReceipts = state.viewVersionReceipts ++ [⟨filed, receipt⟩])
    (key : String) :
    after.receiptsUnder key =
      state.receiptsUnder key ++ if filed = key then [receipt] else [] := by
  rw [receiptsUnder, written, List.filter_append, List.map_append, receiptsUnder]
  by_cases same : filed = key <;> simp [same]

omit [External] in
theorem liveVersion_cases (receipts : List ViewVersionReceipt) :
    liveVersion receipts = none ∨
      liveVersion receipts = receipts.getLast?.map ViewVersionReceipt.viewVersion := by
  rw [liveVersion]
  cases receipts.getLast? with
  | none => exact .inl rfl
  | some last =>
      by_cases written : last.operation = .upsert
      · exact .inr (if_pos written)
      · exact .inl (if_neg written)

omit [External] in
theorem liveVersion_append (receipts : List ViewVersionReceipt) (receipt : ViewVersionReceipt) :
    liveVersion (receipts ++ [receipt]) =
      if receipt.operation = .upsert then some receipt.viewVersion else none := by
  rw [liveVersion, List.getLast?_concat]

namespace ViewHistory
variable {state after : MemoryState} {key : String}

theorem congr (history : ViewHistory state key)
    (receipts : after.receiptsUnder key = state.receiptsUnder key)
    (views : after.views[key]? = state.views[key]?) : ViewHistory after key := by
  obtain ⟨filed, together, chain, settled, current, stored⟩ := history
  rw [← receipts, ← views] at current stored
  rw [← receipts] at filed together chain settled
  exact ⟨filed, together, chain, settled, current, stored⟩

theorem named (history : ViewHistory state key) :
    ∃ id, ∀ receipt ∈ state.receiptsUnder key, receipt.stableId = id := by
  cases receipts : state.receiptsUnder key with
  | nil => exact ⟨"", by simp⟩
  | cons first rest =>
      refine ⟨first.stableId, fun receipt member => ?_⟩
      rw [← receipts] at member
      have head : first ∈ state.receiptsUnder key := by simp [receipts]
      have own := ((validateViewReceipt_ok _ _).mp (history.chain.valid first head)).named
      have others := ((validateViewReceipt_ok _ _).mp (history.chain.valid receipt member)).named
      obtain ⟨warehouse, ns, name⟩ := history.together first head receipt member
      rw [own, others, warehouse, ns, name]

theorem validated (history : ViewHistory state key) (timely : state.InTime key) :
    validateViewReceiptChains (state.receiptsUnder key) = .ok () := by
  obtain ⟨id, named⟩ := history.named
  refine (validateViewReceiptChains_single id named ()).mpr ?_
  rw [mergeSort_receipts history.chain.follows timely (List.Perm.refl _)]
  exact history.chain.validated

theorem evidence (history : ViewHistory state key) (timely : state.InTime key) :
    latestViewReceiptEvidence (state.receiptsUnder key) =
      .ok ((state.receiptsUnder key).getLast?.map fun last =>
        (last.viewVersion, viewReceiptHash last)) := by
  obtain ⟨id, named⟩ := history.named
  exact latestViewReceiptEvidence_chain id named history.chain timely

theorem sound (history : ViewHistory state key) (timely : state.InTime key) :
    ReceiptsSound (state.receiptsUnder key) state.views[key]? :=
  ⟨history.validated timely, history.chain.begins, history.chain.follows, history.current⟩

theorem inTime_of_last (history : ViewHistory state key)
    (ends : ∀ front last, state.receiptsUnder key = front ++ [last] →
      ∀ previous ∈ front.getLast?, Timely previous last) : state.InTime key := by
  rcases List.eq_nil_or_concat (state.receiptsUnder key) with none | ⟨front, last, split⟩
  · rw [InTime, none]
    exact .nil
  · have settled := history.settled
    rw [List.concat_eq_append] at split
    rw [split, List.dropLast_concat] at settled
    rw [InTime, split]
    refine List.isChain_append.mpr ⟨settled, .singleton _, ?_⟩
    intro previous member other same
    cases same
    exact ends front _ split previous member

/-- What the validator accepts is in time. -/
theorem inTime_of_validated (history : ViewHistory state key)
    (accepted : validateViewReceiptChains (state.receiptsUnder key) = .ok ()) :
    state.InTime key := by
  refine history.inTime_of_last fun front last split previous member dropped => ?_
  obtain ⟨id, named⟩ := history.named
  have passed := (validateViewReceiptChains_single id named ()).mp accepted
  have follows := history.chain.follows
  rw [split] at passed follows
  exact timely_of_validated follows dropped passed previous member

/-- The last receipt of a kept view is the upsert that stored it. -/
theorem lastReceipt {record : ViewRecord} (history : ViewHistory state key)
    (kept : state.views[key]? = some record) :
    ∃ last, (state.receiptsUnder key).getLast? = some last ∧
      last.operation = .upsert ∧ last.viewVersion = record.viewVersion := by
  have current := history.current
  rw [kept, liveVersion] at current
  cases ends : (state.receiptsUnder key).getLast? with
  | none =>
      rw [ends] at current
      cases current
  | some last =>
      rw [ends] at current
      by_cases written : last.operation = .upsert
      · simp only [written, if_true, Option.map_some, Option.some.injEq] at current
        exact ⟨last, rfl, written, current.symm⟩
      · simp only [written, if_false] at current
        cases current

theorem inTime_of_kept {record : ViewRecord} (history : ViewHistory state key)
    (kept : state.views[key]? = some record) : state.InTime key := by
  obtain ⟨last, ends, written, _⟩ := history.lastReceipt kept
  refine history.inTime_of_last fun front other split previous member dropped => ?_
  rw [split, List.getLast?_concat] at ends
  cases ends
  cases written.symm.trans dropped

theorem receiptsOfView {warehouse : WarehouseName} {ns : Namespace} {name : TableName}
    (history : ViewHistory state (viewKeyParts warehouse ns name))
    (own : state.Unshared warehouse ns name) :
    state.receiptsOfView warehouse ns name =
      .ok (state.receiptsUnder (viewKeyParts warehouse ns name)) :=
  (receiptsOfView_ok _ _ _ _ _).mpr
    ⟨fun receipt member => ⟨own receipt member, history.chain.valid receipt member⟩, rfl⟩

/-- One more receipt of the same view. -/
theorem appended (receipt : ViewVersionReceipt) (history : ViewHistory state key)
    (timely : state.InTime key)
    (written : after.receiptsUnder key = state.receiptsUnder key ++ [receipt])
    (filed : viewKeyParts receipt.warehouse receipt.ns receipt.name = key)
    (own : ∀ other ∈ state.receiptsUnder key,
      other.IsOf receipt.warehouse receipt.ns receipt.name)
    (valid : receipt.validate = .ok ()) (begins : state.receiptsUnder key = [] → BeginsChain receipt)
    (next : ∀ last ∈ (state.receiptsUnder key).getLast?,
      Follows last receipt ∧ Linked last receipt)
    (current : after.views[key]?.map ViewRecord.viewVersion =
      if receipt.operation = .upsert then some receipt.viewVersion else none)
    (stored : ∀ view, after.views[key]? = some view → view.validate = .ok () ∧
      viewKey view = key ∧ receipt.IsOf view.warehouse view.ns view.name) :
    ViewHistory after key := by
  have every (other : ViewVersionReceipt) (member : other ∈ after.receiptsUnder key) :
      other.IsOf receipt.warehouse receipt.ns receipt.name := by
    rw [written, List.mem_append, List.mem_singleton] at member
    rcases member with earlier | rfl
    · exact own other earlier
    · exact ⟨rfl, rfl, rfl⟩
  refine ⟨?_, ?_, ?_, ?_, ?_, ?_⟩
  · intro other member
    obtain ⟨warehouse, ns, name⟩ := every other member
    rw [warehouse, ns, name, filed]
  · intro first member second also
    obtain ⟨warehouse, ns, name⟩ := every first member
    rw [warehouse, ns, name]
    exact every second also
  · rw [written]
    exact history.chain.append valid begins next
  · rw [written, List.dropLast_concat]
    exact timely
  · rw [written, liveVersion_append, current]
  · intro view found
    obtain ⟨validated, filed, warehouse, ns, name⟩ := stored view found
    refine ⟨validated, filed, fun other member => ?_⟩
    obtain ⟨sameWarehouse, sameNs, sameName⟩ := every other member
    exact ⟨sameWarehouse.trans warehouse, sameNs.trans ns, sameName.trans name⟩

omit [External] in
theorem inTime_append {receipt : ViewVersionReceipt} (timely : state.InTime key)
    (written : after.receiptsUnder key = state.receiptsUnder key ++ [receipt])
    (next : ∀ last ∈ (state.receiptsUnder key).getLast?, Timely last receipt) :
    after.InTime key := by
  rw [InTime, written]
  refine List.isChain_append.mpr ⟨timely, .singleton _, ?_⟩
  intro last ends other same
  cases same
  exact next last ends

theorem upserted {view next : ViewRecord} {expected : Option UInt64}
    {latest : Option (UInt64 × String)} {now : Timestamp}
    (history : ViewHistory state (viewKey view))
    (upsertable : state.Upsertable view expected latest next)
    (views : after.views = state.views.insert (viewKey view) next)
    (receipts : after.viewVersionReceipts = state.viewVersionReceipts ++
      [⟨viewKey view, state.upsertReceipt view next latest now⟩]) :
    ViewHistory after (viewKey view) ∧ after.InTime (viewKey view) := by
  obtain ⟨_, read, found⟩ := upsertable.history
  obtain ⟨own, rfl⟩ := (receiptsOfView_ok _ _ _ _ _).mp read
  have timely : state.InTime (viewKey view) := by
    rw [latestViewReceiptEvidence, bind_unit_eq_ok] at found
    exact history.inTime_of_validated found.1
  have last : latest = (state.receiptsUnder (viewKey view)).getLast?.map fun last =>
      (last.viewVersion, viewReceiptHash last) :=
    Except.ok.inj (found.symm.trans (history.evidence timely))
  obtain ⟨valid, warehouse, ns, name⟩ := withNextVersionAfterHistory_ok _ _ _ _ upsertable.next
  have agrees : state.views[viewKey view]?.map ViewRecord.viewVersion = none ∨
      state.views[viewKey view]?.map ViewRecord.viewVersion = latest.map Prod.fst := by
    rw [history.current, last, Option.map_map]
    exact liveVersion_cases _
  have version := withNextVersionAfterHistory_version upsertable.next
  rw [baseVersion_of_agrees agrees] at version
  have previous : (state.views[viewKey view]?.map ViewRecord.viewVersion).or
      (latest.map Prod.fst) = latest.map Prod.fst := by
    rcases agrees with none | same
    · rw [none, Option.none_or]
    · rw [same, Option.or_self]
  have found : after.views[viewKey view]? = some next := by
    rw [views, OrderedMap.getElem?_insert, if_pos rfl]
  have identity : viewKeyParts next.warehouse next.ns next.name = viewKey view := by
    rw [warehouse, ns, name, viewKey]
  have appended : after.receiptsUnder (viewKey view) = state.receiptsUnder (viewKey view) ++
      [state.upsertReceipt view next latest now] := by
    rw [receiptsUnder_append receipts, if_pos rfl]
  refine ⟨history.appended (state.upsertReceipt view next latest now) timely appended identity
    ?_ ?_ ?_ ?_ ?_ ?_, inTime_append timely appended fun _ _ written => by cases written⟩
  · intro other member
    obtain ⟨sameWarehouse, sameNs, sameName⟩ := (own other member).1
    exact ⟨sameWarehouse.trans warehouse.symm, sameNs.trans ns.symm, sameName.trans name.symm⟩
  · refine upsert_validate _ _ next _ _ (version_ne_zero valid) ?_ ?_
    · intro earlier known
      rw [previous] at known
      rw [known] at version
      exact UInt64.lt_iff_toNat_lt.mpr (by rw [version]; exact Nat.lt_succ_self _)
    · intro digest known
      rw [last] at known
      cases ends : (state.receiptsUnder (viewKey view)).getLast? with
      | none => rw [ends] at known; cases known
      | some receipt =>
          rw [ends] at known
          cases known
          exact contentHashJson_evidence _
  · intro empty
    rw [empty] at last
    subst last
    refine ⟨rfl, UInt64.toNat_inj.mp version, ?_, rfl⟩
    exact previous
  · intro receipt ends
    rw [ends] at last
    subst last
    exact ⟨version, previous, rfl⟩
  · rw [found]
    rfl
  · intro stored same
    cases found.symm.trans same
    exact ⟨valid, identity, rfl, rfl, rfl⟩

/-- The drop of a view whose history is kept always finds its last receipt. -/
theorem dropReceipt {warehouse : WarehouseName} {ns : Namespace} {view : TableName}
    {expected : Option UInt64} {record : ViewRecord}
    (history : ViewHistory state (viewKeyParts warehouse ns view))
    (found : state.viewToDrop warehouse ns view expected = .ok record) (principal : Principal)
    (now : Timestamp) :
    state.dropReceipt record warehouse ns view principal now =
      .ok (.drop record
        ((state.receiptsUnder (viewKeyParts warehouse ns view)).getLast?.map viewReceiptHash)
        principal now) := by
  obtain ⟨kept, rfl, rfl, rfl⟩ := viewToDrop_ok found
  have own := (history.stored record kept).2.2
  rw [MemoryState.dropReceipt, history.receiptsOfView own, ok_bind, latestViewReceiptHash,
    history.evidence (history.inTime_of_kept kept)]
  simp only [ok_bind, pure_eq, Option.map_map]
  rfl

theorem dropped {warehouse : WarehouseName} {ns : Namespace} {view : TableName}
    {expected : Option UInt64} {record : ViewRecord} {principal : Principal} {now : Timestamp}
    (history : ViewHistory state (viewKeyParts warehouse ns view))
    (found : state.viewToDrop warehouse ns view expected = .ok record)
    (views : after.views = state.views.erase (viewKeyParts warehouse ns view))
    (receipts : after.viewVersionReceipts = state.viewVersionReceipts ++
      [⟨viewKeyParts warehouse ns view, .drop record
        ((state.receiptsUnder (viewKeyParts warehouse ns view)).getLast?.map viewReceiptHash)
        principal now⟩]) :
    ViewHistory after (viewKeyParts warehouse ns view) := by
  obtain ⟨kept, rfl, rfl, rfl⟩ := viewToDrop_ok found
  obtain ⟨last, ends, written, version⟩ := history.lastReceipt kept
  obtain ⟨valid, filed, own⟩ := history.stored record kept
  rw [ends] at receipts
  have removed : after.views[viewKeyParts record.warehouse record.ns record.name]? = none := by
    rw [views, OrderedMap.getElem?_erase, if_pos rfl]
  refine history.appended (.drop record (some (viewReceiptHash last)) principal now)
    (history.inTime_of_kept kept) ?_ filed own ?_ ?_ ?_ ?_ ?_
  · rw [receiptsUnder_append receipts, if_pos rfl]
    rfl
  · refine drop_validate _ record _ _ (version_ne_zero valid) ?_
    rintro digest ⟨⟩
    exact contentHashJson_evidence _
  · intro empty
    rw [empty] at ends
    cases ends
  · intro other same
    cases ends.symm.trans same
    exact ⟨⟨written, version.symm⟩, congrArg some version.symm, rfl⟩
  · rw [removed]
    rfl
  · intro stored same
    rw [removed] at same
    cases same

theorem scope (history : ViewHistory state key) (view : ViewRecord)
    (kept : state.views[key]? = some view) : validateViewRecordMapScope view key = .ok () := by
  obtain ⟨valid, filed, _⟩ := history.stored view kept
  rw [validateViewRecordMapScope, validateScope, valid, ok_bind, rejectIf_ok, filed]
  exact not_not.mpr rfl

theorem viewToDrop_kept {record : ViewRecord} (history : ViewHistory state key)
    (filed : viewKey record = key) (kept : state.views[key]? = some record) :
    state.viewToDrop record.warehouse record.ns record.name none = .ok record := by
  subst filed
  have found : state.views[viewKeyParts record.warehouse record.ns record.name]? = some record :=
    kept
  have scope : validateViewRecordMapScope record
      (viewKeyParts record.warehouse record.ns record.name) = .ok () := history.scope record kept
  simp only [viewToDrop, loadView, checkSome, ok_bind, found, okOr_some, scope,
    validateViewRecordScope, validateScope, (history.stored record kept).1, ne_eq, not_true,
    or_self, rejectIf_neg _ not_false, pure_eq]

theorem viewToDrop_foreseen {warehouse : WarehouseName} {ns : Namespace} {name : TableName}
    (history : ViewHistory state (viewKeyParts warehouse ns name))
    (own : state.Unshared warehouse ns name) (expected : Option UInt64) :
    FailsOnly LakeCatError.Foreseen (state.viewToDrop warehouse ns name expected) := by
  refine .bind (expectedVersion_foreseen none expected).1 fun _ _ => ?_
  refine .bind (.bind (failsOnly_okOr _ trivial) fun record found => ?_) fun record _ => ?_
  · have kept := (okOr_ok _ _ _).mp found
    obtain ⟨last, ends, _⟩ := history.lastReceipt kept
    have member := List.mem_of_getLast? ends
    obtain ⟨valid, _, same⟩ := history.stored record kept
    obtain ⟨rfl, rfl, rfl⟩ := own last member
    obtain ⟨warehouse, ns, name⟩ := same last member
    rw [history.scope record kept, ok_bind, validateViewRecordScope, validateScope, valid, ok_bind,
      rejectIf_neg _ (by simp [warehouse, ns, name]), ok_bind]
    exact failsOnly_ok record
  · exact .bind (expectedVersion_foreseen (some record) expected).2 fun _ _ => failsOnly_ok record

end ViewHistory

theorem viewsUsable_of_inTime {state : MemoryState} (histories : ∀ key, ViewHistory state key)
    (timely : ∀ key, state.InTime key) : state.ViewsUsable := by
  refine ⟨fun view expected now own => ?_, fun warehouse ns name principal expected now own => ?_⟩
  · have history := histories (viewKeyParts view.warehouse view.ns view.name)
    rw [upsertViewIfVersion]
    refine .bind (validateView_foreseen view) fun _ _ => ?_
    refine .bind (expectedVersion_foreseen none expected).1 fun _ _ => ?_
    refine .bind (failsOnly_checkSome _ _ fun previous kept => ?_) fun _ _ => ?_
    · have passed : validateViewRecordMapScope previous (viewKey view) = .ok () :=
        history.scope previous kept
      rw [passed]
      exact failsOnly_ok ()
    refine .bind (expectedVersion_foreseen _ expected).2 fun _ _ => ?_
    rw [history.receiptsOfView own, ok_bind, history.evidence (timely _), ok_bind]
    exact .bind (withNextVersionAfterHistory_foreseen _ _ _) fun _ _ => failsOnly_ok _
  · have history := histories (viewKeyParts warehouse ns name)
    rcases dropViewIfVersion_cases state warehouse ns name principal expected now with
      ⟨error, refused, left⟩ | ⟨record, found, ⟨error, failed, _⟩ | ⟨receipt, made, left⟩⟩
    · rw [left]
      exact failsOnly_error (history.viewToDrop_foreseen own expected error refused)
    · cases failed.symm.trans (history.dropReceipt found principal now)
    · rw [left]
      exact failsOnly_ok record

/-- Every call keeps every history, whatever its clock reads. -/
theorem step_viewHistory {state : MemoryState} (histories : ∀ key, ViewHistory state key)
    (op : MemoryOp) (key : String) : ViewHistory (state.step op) key := by
  have successor := step_successor state op
  generalize state.step op = after at successor
  cases successor with
  | viewStored view next expected latest now upsertable =>
      by_cases same : viewKey view = key
      · subst same
        exact ((histories _).upserted upsertable rfl rfl).1
      · refine (histories key).congr ?_ ?_
        · rw [receiptsUnder_append rfl, if_neg same, List.append_nil]
        · exact (OrderedMap.getElem?_insert _ _ _ _).trans (if_neg same)
  | viewDropped warehouse ns view principal expected now record receipt found made =>
      cases made.symm.trans ((histories _).dropReceipt found principal now)
      by_cases same : viewKeyParts warehouse ns view = key
      · subst same
        exact (histories _).dropped found rfl rfl
      · refine (histories key).congr ?_ ?_
        · rw [receiptsUnder_append rfl, if_neg same, List.append_nil]
        · exact (OrderedMap.getElem?_erase _ _ _).trans (if_neg same)
  | viewLost warehouse ns view principal expected now record error found failed =>
      cases failed.symm.trans ((histories _).dropReceipt found principal now)
  | _ => exact (histories key).congr rfl rfl

/-- The receipts stay in time unless a call drops a view before its last receipt. -/
theorem step_inTime {state : MemoryState} {op : MemoryOp}
    (histories : ∀ key, ViewHistory state key) (timely : ∀ key, state.InTime key)
    (inTime : state.DropsInTime op) (key : String) : (state.step op).InTime key := by
  have successor := step_successor state op
  generalize state.step op = after at successor
  cases successor with
  | viewStored view next expected latest now upsertable =>
      by_cases same : viewKey view = key
      · subst same
        exact ((histories _).upserted upsertable rfl rfl).2
      · rw [InTime, receiptsUnder_append rfl, if_neg same, List.append_nil]
        exact timely key
  | viewDropped warehouse ns view principal expected now record receipt found made =>
      cases made.symm.trans ((histories _).dropReceipt found principal now)
      by_cases same : viewKeyParts warehouse ns view = key
      · subst same
        refine ViewHistory.inTime_append (timely _)
          ((receiptsUnder_append rfl _).trans (congrArg _ (if_pos rfl))) ?_
        exact fun last ends _ => inTime (by rw [found]; rfl) last ends
      · rw [InTime, receiptsUnder_append rfl, if_neg same, List.append_nil]
        exact timely key
  | _ => exact timely key

/-- Receipts that the validator accepts show that the drop just recorded was in time. -/
theorem dropsInTime_of_sound {state : MemoryState} {op : MemoryOp}
    (histories : ∀ key, ViewHistory state key) (sound : (state.step op).ViewsSound) :
    state.DropsInTime op := by
  cases op with
  | dropView warehouse ns view principal expected now =>
      intro accepted last ends
      have kept := step_viewHistory histories (.dropView warehouse ns view principal expected now)
      have timely := (kept (viewKeyParts warehouse ns view)).inTime_of_validated
        (sound.receipts warehouse ns view).validated
      rcases dropViewIfVersion_cases state warehouse ns view principal expected now with
        ⟨error, refused, _⟩ | ⟨record, found, ⟨error, failed, _⟩ | ⟨receipt, made, left⟩⟩
      · rw [refused] at accepted
        cases accepted
      · cases failed.symm.trans ((histories _).dropReceipt found principal now)
      · cases made.symm.trans ((histories _).dropReceipt found principal now)
        rw [InTime, step, left, receiptsUnder_append rfl, if_pos rfl] at timely
        exact (List.isChain_append.mp timely).2.2 last ends _ rfl rfl
  | _ => trivial

theorem viewHistory_empty (key : String) :
    ViewHistory empty key ∧ (empty : MemoryState).InTime key := by
  have none : (empty : MemoryState).receiptsUnder key = [] := rfl
  have absent : (empty.views : BTreeMap ViewRecord)[key]? = .none :=
    Std.ExtTreeMap.getElem?_empty
  refine ⟨⟨?_, ?_, ⟨?_, ?_, ?_, ?_⟩, ?_, ?_, ?_⟩, ?_⟩
  all_goals simp [none, absent, liveVersion, InTime]

end MemoryState

/-- Every view stays sound and usable exactly when no drop is recorded before what it drops. -/
theorem viewsSound_iff_dropsInTime (ops : List MemoryOp) :
    Along MemoryState.step (fun state op => (state.step op).ViewsSound) MemoryState.empty ops ↔
      Along MemoryState.step MemoryState.DropsInTime MemoryState.empty ops := by
  have same (state : MemoryState) (op : MemoryOp)
      (kept : ∀ key, state.ViewHistory key ∧ state.InTime key) :
      (state.step op).ViewsSound ↔ state.DropsInTime op := by
    have histories := MemoryState.step_viewHistory (fun key => (kept key).1) op
    constructor
    · exact MemoryState.dropsInTime_of_sound fun key => (kept key).1
    · intro inTime
      have timely := MemoryState.step_inTime (fun key => (kept key).1) (fun key => (kept key).2)
        inTime
      exact ⟨fun _ _ _ => (histories _).sound (timely _),
        MemoryState.viewsUsable_of_inTime histories timely⟩
  refine along_congr _ _ _ (fun state => ∀ key, state.ViewHistory key ∧ state.InTime key) ?_ same
    MemoryState.empty ops MemoryState.viewHistory_empty
  intro state op kept sound key
  refine ⟨MemoryState.step_viewHistory (fun key => (kept key).1) op key, ?_⟩
  exact MemoryState.step_inTime (fun key => (kept key).1) (fun key => (kept key).2)
    ((same state op kept).mp sound) key

end

namespace MemoryState

/-- The sample view is stored at one time and dropped at an earlier one. -/
theorem dropView_unsound : ∃ ops : List MemoryOp, ∀ [External],
    ¬Along step (fun state op => (state.step op).ViewsSound) empty ops := by
  refine ⟨[.upsertView sampleView none 10,
    .dropView sampleView.warehouse sampleView.ns sampleView.name .anonymous none 5], ?_⟩
  rintro _ ⟨_, sound, _⟩
  have kept := step_viewHistory (fun key => (viewHistory_empty key).1)
    (.upsertView sampleView none 10)
  have inTime := dropsInTime_of_sound kept sound
  obtain ⟨next, stored⟩ := sampleView_accepted empty rfl rfl 10
  have left : empty.step (.upsertView sampleView none 10) = next := by
    rw [step, stored]
    rfl
  obtain ⟨latest, _, rfl⟩ := (upsertViewIfVersion_ok _ _ _ _ _ _).mp stored
  rw [left] at kept inTime
  have found := (kept (viewKey sampleView)).viewToDrop_kept rfl
    ((OrderedMap.getElem?_insert _ _ _ _).trans (if_pos rfl))
  have late : (10 : Timestamp) ≤ 5 := inTime (by rw [found]; rfl)
    (empty.upsertReceipt sampleView sampleView latest 10) rfl
  exact absurd late (by decide)

end MemoryState

end LakeCat
