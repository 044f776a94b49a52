import LakeCat.ViewListing

/-!
Clients that load a view and change it later under the version they loaded.
The versions of a view are numbered by its receipts, which outlive the view,
so a version that is current again can only be the one that was loaded.
-/

namespace LakeCat

open Fallible Transition ViewVersionReceipt

/-- A call that changed a view, as its caller sees it. -/
structure ViewChange where
  warehouse : WarehouseName
  ns : Namespace
  name : TableName
  operation : ViewVersionOperation
  version : UInt64
  principal : Principal
  recordedAt : Timestamp

namespace ViewChange

def IsOf (change : ViewChange) (warehouse : WarehouseName) (ns : Namespace) (name : TableName) :
    Prop :=
  change.warehouse = warehouse ∧ change.ns = ns ∧ change.name = name

instance (change : ViewChange) (warehouse : WarehouseName) (ns : Namespace) (name : TableName) :
    Decidable (change.IsOf warehouse ns name) :=
  inferInstanceAs (Decidable (_ ∧ _))

end ViewChange

def ViewVersionReceipt.change (receipt : ViewVersionReceipt) : ViewChange where
  warehouse := receipt.warehouse
  ns := receipt.ns
  name := receipt.name
  operation := receipt.operation
  version := receipt.viewVersion
  principal := receipt.principal
  recordedAt := receipt.recordedAt

/-- The checks of a view do not depend on its number or on who created it. -/
theorem validate_renumbered [External] {view : ViewRecord} (version : UInt64) (created : AuditStamp)
    (numbered : version ≠ 0) (valid : view.validate = .ok ()) :
    ({ view with viewVersion := version, created := created } : ViewRecord).validate = .ok () := by
  rw [ViewRecord.validate, rejectIf_bind] at valid ⊢
  exact ⟨numbered, valid.2⟩

theorem baseVersion_le (version : UInt64) (latest : Option UInt64) :
    version.toNat ≤ (ViewRecord.baseVersion (some version) latest).toNat := by
  have left (first second : UInt64) : first.toNat ≤ (max first second).toNat := by
    by_cases below : first ≤ second
    · rw [show max first second = second from if_pos below]
      exact UInt64.le_iff_toNat_le.mp below
    · exact le_of_eq (congrArg UInt64.toNat (if_neg below).symm)
  have least : max 0 version = version := if_pos UInt64.zero_le
  cases latest with
  | none => exact le_of_eq (congrArg UInt64.toNat least.symm)
  | some other =>
      have both := left version other
      rw [← least] at both
      exact (le_of_eq (congrArg UInt64.toNat least.symm)).trans both

theorem withNextVersionAfterHistory_fits [External] {view : ViewRecord}
    {previous : Option ViewRecord} {latest : Option UInt64} (valid : view.validate = .ok ())
    (room : (ViewRecord.baseVersion (previous.map ViewRecord.viewVersion) latest).toNat + 1 <
      2 ^ 64) :
    ∃ next, view.withNextVersionAfterHistory previous latest = .ok next := by
  rw [ViewRecord.withNextVersionAfterHistory, ViewRecord.checkedSucc, if_pos room, okOr_some,
    ok_bind]
  refine ⟨_, (bind_unit_eq_ok _ _ _).mpr ⟨validate_renumbered _ _ ?_ valid, rfl⟩⟩
  · intro zero
    have amount := congrArg UInt64.toNat zero
    rw [UInt64.toNat_add, UInt64.toNat_one, Nat.mod_eq_of_lt room] at amount
    exact Nat.succ_ne_zero _ amount

namespace MemoryState
variable [External]

/-- The change that a call makes, if it succeeds and is one of a view. -/
def viewChange (state : MemoryState) : MemoryOp → Option ViewChange
  | .upsertView view expected now =>
      match state.upsertViewIfVersion view expected now with
      | .ok (stored, _) => some {
          warehouse := view.warehouse
          ns := view.ns
          name := view.name
          operation := .upsert
          version := stored.viewVersion
          principal := view.created.principal
          recordedAt := now
        }
      | .error _ => none
  | .dropView warehouse ns view principal expected now =>
      match (state.dropViewIfVersion warehouse ns view principal expected now).1 with
      | .ok removed => some {
          warehouse := warehouse
          ns := ns
          name := view
          operation := .drop
          version := removed.viewVersion
          principal := principal
          recordedAt := now
        }
      | .error _ => none
  | _ => none

/-- The changes of views that the calls of a run make, in their order. -/
def viewChanges (state : MemoryState) : List MemoryOp → List ViewChange
  | [] => []
  | op :: rest => (state.viewChange op).toList ++ viewChanges (state.step op) rest

/-- No call of the run changes this view. -/
def LeavesView (state : MemoryState) (ops : List MemoryOp) (warehouse : WarehouseName)
    (ns : Namespace) (name : TableName) : Prop :=
  ∀ change ∈ state.viewChanges ops, ¬change.IsOf warehouse ns name

/-- A call under the version that was loaded, made after other calls. -/
structure GuardedByVersion (loaded : MemoryState) (since : List MemoryOp)
    (warehouse : WarehouseName) (ns : Namespace) (name : TableName) (version : UInt64) : Prop where
  upsert : ∀ view now, view.warehouse = warehouse → view.ns = ns → view.name = name →
    (((loaded.run since).upsertViewIfVersion view (some version) now).isOk = true ↔
      ((loaded.run since).loadView warehouse ns name).isOk = true ∧
      loaded.LeavesView since warehouse ns name ∧
      view.validate = .ok () ∧ version.toNat + 1 < 2 ^ 64)
  drop : ∀ principal now,
    (((loaded.run since).dropViewIfVersion warehouse ns name principal (some version) now).1.isOk =
        true ↔
      ((loaded.run since).loadView warehouse ns name).isOk = true ∧
      loaded.LeavesView since warehouse ns name)

/-- The versions that the upserts of a view were given. -/
def producedVersions (changes : List ViewChange) (warehouse : WarehouseName) (ns : Namespace)
    (name : TableName) : List UInt64 :=
  (changes.filter fun change =>
    change.IsOf warehouse ns name ∧ change.operation = .upsert).map ViewChange.version

/-- Each change of a view leaves one receipt that says the same. -/
theorem step_viewChange {state : MemoryState} (histories : ∀ key, state.ViewHistory key)
    (op : MemoryOp) :
    ∃ written, (state.step op).viewVersionReceipts = state.viewVersionReceipts ++ written ∧
      written.map (fun record => record.receipt.change) = (state.viewChange op).toList := by
  cases op with
  | upsertView view expected now =>
      rcases atomic_cases state (state.upsertViewIfVersion view expected now) with
        ⟨next, stored⟩ | ⟨error, refused, same⟩
      · obtain ⟨latest, upsertable, left⟩ := (upsertViewIfVersion_ok _ _ _ _ _ _).mp stored
        obtain ⟨_, warehouse, ns, name⟩ := withNextVersionAfterHistory_ok _ _ _ _ upsertable.next
        refine ⟨[⟨viewKey view, state.upsertReceipt view next latest now⟩], ?_, ?_⟩
        · rw [step, left]
        · rw [viewChange, stored, ← warehouse, ← ns, ← name]
          rfl
      · refine ⟨[], ?_, ?_⟩
        · rw [step, same, List.append_nil]
        · rw [viewChange, refused]
          rfl
  | dropView warehouse ns view principal expected now =>
      rcases dropViewIfVersion_cases state warehouse ns view principal expected now with
        ⟨error, refused, left⟩ | ⟨record, found, ⟨error, failed, _⟩ | ⟨receipt, made, left⟩⟩
      · refine ⟨[], ?_, ?_⟩
        · rw [step, left, List.append_nil]
        · rw [viewChange, left]
          rfl
      · cases failed.symm.trans ((histories _).dropReceipt found principal now)
      · obtain ⟨_, rfl, rfl, rfl⟩ := viewToDrop_ok found
        cases made.symm.trans ((histories _).dropReceipt found principal now)
        refine ⟨_, congrArg viewVersionReceipts (congrArg Prod.snd left), ?_⟩
        rw [viewChange, left]
        rfl
  | _ =>
      rcases step_receipts state _ with same | ⟨call, _, called, _⟩
      · exact ⟨[], same.trans (List.append_nil _).symm, rfl⟩
      · cases called

theorem run_viewHistory {state : MemoryState} (histories : ∀ key, state.ViewHistory key)
    (ops : List MemoryOp) (key : String) : (state.run ops).ViewHistory key :=
  run_invariant step (fun state => ∀ key, state.ViewHistory key)
    (fun _ op kept => step_viewHistory kept op) state ops histories key

/-- The receipts that a run adds are its changes, in their order. -/
theorem run_viewChanges {state : MemoryState} (histories : ∀ key, state.ViewHistory key)
    (ops : List MemoryOp) :
    ∃ written, (state.run ops).viewVersionReceipts = state.viewVersionReceipts ++ written ∧
      written.map (fun record => record.receipt.change) = state.viewChanges ops := by
  induction ops generalizing state with
  | nil => exact ⟨[], (List.append_nil _).symm, rfl⟩
  | cons op rest ih =>
      obtain ⟨first, receipts, changes⟩ := step_viewChange histories op
      obtain ⟨others, later, also⟩ := ih (step_viewHistory histories op)
      refine ⟨first ++ others, ?_, ?_⟩
      · rw [← List.append_assoc, ← receipts]
        exact later
      · rw [List.map_append, changes, also, viewChanges]

theorem viewToDrop_unguarded (state : MemoryState) (warehouse : WarehouseName) (ns : Namespace)
    (name : TableName) : state.viewToDrop warehouse ns name none =
      state.loadView warehouse ns name := by
  rw [viewToDrop, checkSome, ok_bind]
  cases state.loadView warehouse ns name <;> rfl

theorem loadView_kept {state : MemoryState} {warehouse : WarehouseName} {ns : Namespace}
    {name : TableName} {record : ViewRecord}
    (loaded : state.loadView warehouse ns name = .ok record) :
    state.views[viewKeyParts warehouse ns name]? = some record ∧ record.warehouse = warehouse ∧
      record.ns = ns ∧ record.name = name :=
  viewToDrop_ok ((viewToDrop_unguarded _ _ _ _).trans loaded)

/-- The receipts under the key of a view are those of its changes, and of no other view. -/
theorem receipts_since {loaded : MemoryState} (histories : ∀ key, loaded.ViewHistory key)
    (since : List MemoryOp) {warehouse : WarehouseName} {ns : Namespace} {name : TableName}
    (own : ∃ receipt ∈ loaded.receiptsUnder (viewKeyParts warehouse ns name),
      receipt.IsOf warehouse ns name) :
    ∃ later, (loaded.run since).receiptsUnder (viewKeyParts warehouse ns name) =
        loaded.receiptsUnder (viewKeyParts warehouse ns name) ++ later ∧
      (later = [] ↔ loaded.LeavesView since warehouse ns name) := by
  obtain ⟨written, receipts, changes⟩ := run_viewChanges histories since
  have after := run_viewHistory histories since
  have split (key : String) : (loaded.run since).receiptsUnder key =
      loaded.receiptsUnder key ++
        (written.filter fun record => record.viewKey = key).map fun record => record.receipt := by
    rw [receiptsUnder, receipts, List.filter_append, List.map_append, receiptsUnder]
  refine ⟨_, split _, ?_⟩
  rw [List.map_eq_nil_iff, List.filter_eq_nil_iff, LeavesView, ← changes]
  simp only [List.forall_mem_map, decide_eq_true_eq]
  refine forall₂_congr fun record member => not_congr ?_
  have kept : record.receipt ∈ (loaded.run since).receiptsUnder record.viewKey := by
    rw [split]
    refine List.mem_append_right _ (List.mem_map_of_mem (List.mem_filter.mpr ⟨member, ?_⟩))
    exact decide_eq_true rfl
  constructor
  · intro same
    obtain ⟨first, stored, firstWarehouse, firstNs, firstName⟩ := own
    rw [same] at kept
    have among : first ∈ (loaded.run since).receiptsUnder (viewKeyParts warehouse ns name) := by
      rw [split]
      exact List.mem_append_left _ stored
    obtain ⟨sameWarehouse, sameNs, sameName⟩ := (after _).together first among record.receipt kept
    exact ⟨sameWarehouse.trans firstWarehouse, sameNs.trans firstNs, sameName.trans firstName⟩
  · rintro ⟨rfl, rfl, rfl⟩
    exact ((after _).filed record.receipt kept).symm

/-- The version that was loaded is current again only when the view was left alone. -/
theorem version_current_iff {loaded : MemoryState} (histories : ∀ key, loaded.ViewHistory key)
    (since : List MemoryOp) {warehouse : WarehouseName} {ns : Namespace} {name : TableName}
    {record : ViewRecord} (found : loaded.loadView warehouse ns name = .ok record) :
    (loaded.run since).views[viewKeyParts warehouse ns name]?.map ViewRecord.viewVersion =
        some record.viewVersion ↔ loaded.LeavesView since warehouse ns name := by
  obtain ⟨stored, rfl, rfl, rfl⟩ := loadView_kept found
  have before := histories (viewKeyParts record.warehouse record.ns record.name)
  obtain ⟨last, ends, written, version⟩ := before.lastReceipt stored
  have member := List.mem_of_mem_getLast? ends
  obtain ⟨later, receipts, left⟩ := receipts_since histories since
    ⟨last, member, (before.stored record stored).2.2 last member⟩
  have after := run_viewHistory histories since
    (viewKeyParts record.warehouse record.ns record.name)
  have follows := after.chain.follows
  rw [receipts] at follows
  rw [after.current, ← left, receipts]
  constructor
  · intro current
    by_contra more
    have final := List.getLast?_eq_getLast_of_ne_nil more
    rw [liveVersion, List.getLast?_append, final, Option.some_or] at current
    -- The last receipt would have the version, and so the rank, of the one that was loaded.
    split at current
    next receipt same =>
      split at current
      next upsert =>
        have lower := (List.pairwise_append.mp (pairwise_rank follows)).2.2 last member
          (later.getLast more) (List.getLast_mem more)
        cases same
        rw [rank, rank, written, upsert, version, Option.some.inj current] at lower
        exact absurd lower (Nat.lt_irrefl _)
      next => cases current
    next => cases current
  · rintro rfl
    rw [List.append_nil, liveVersion, ends]
    simp only [written, if_true, version]

theorem viewToDrop_guarded (state : MemoryState) (warehouse : WarehouseName) (ns : Namespace)
    (name : TableName) (version : UInt64) (record : ViewRecord) :
    state.viewToDrop warehouse ns name (some version) = .ok record ↔
      version ≠ 0 ∧ state.loadView warehouse ns name = .ok record ∧
        record.viewVersion = version := by
  simp only [viewToDrop, checkSome, validateExpectedViewVersion, requireExpectedViewVersion,
    bind_eq_ok, exists_unit, rejectIf_ok, okOr_some, ok_bind, pure_eq, Except.ok.injEq, not_not,
    ne_eq]
  constructor
  · rintro ⟨numbered, _, found, same, rfl⟩
    exact ⟨numbered, found, same⟩
  · rintro ⟨numbered, found, same⟩
    exact ⟨numbered, record, found, same, rfl⟩

/-- A guarded drop finds the version it expects. -/
theorem drop_guarded {state : MemoryState} (histories : ∀ key, state.ViewHistory key)
    (warehouse : WarehouseName) (ns : Namespace) (name : TableName) (principal : Principal)
    (version : UInt64) (now : Timestamp) :
    (state.dropViewIfVersion warehouse ns name principal (some version) now).1.isOk = true ↔
      version ≠ 0 ∧ ∃ record, state.loadView warehouse ns name = .ok record ∧
        record.viewVersion = version := by
  rcases dropViewIfVersion_cases state warehouse ns name principal (some version) now with
    ⟨error, refused, left⟩ | ⟨record, found, ⟨error, failed, _⟩ | ⟨receipt, made, left⟩⟩
  · rw [left]
    refine iff_of_false Bool.false_ne_true ?_
    rintro ⟨numbered, record, found, same⟩
    cases refused.symm.trans
      ((viewToDrop_guarded _ _ _ _ _ _).mpr ⟨numbered, found, same⟩)
  · cases failed.symm.trans ((histories _).dropReceipt found principal now)
  · rw [left]
    obtain ⟨numbered, kept, same⟩ := (viewToDrop_guarded _ _ _ _ _ _).mp found
    exact iff_of_true rfl ⟨numbered, record, kept, same⟩

/-- The identity of a stored view and of a view asked for by the same key are the same. -/
theorem loadView_of_stored {state : MemoryState} (histories : ∀ key, state.ViewHistory key)
    {warehouse : WarehouseName} {ns : Namespace} {name : TableName} {record : ViewRecord}
    (own : state.Unshared warehouse ns name)
    (stored : state.views[viewKeyParts warehouse ns name]? = some record) :
    state.loadView warehouse ns name = .ok record := by
  have history := histories (viewKeyParts warehouse ns name)
  obtain ⟨last, ends, _⟩ := history.lastReceipt stored
  have member := List.mem_of_mem_getLast? ends
  obtain ⟨_, filed, same⟩ := history.stored record stored
  obtain ⟨rfl, rfl, rfl⟩ := own last member
  obtain ⟨warehouse, ns, name⟩ := same last member
  have found := history.viewToDrop_kept filed stored
  rw [viewToDrop_unguarded, ← warehouse, ← ns, ← name] at found
  exact found

/-- A guarded upsert finds the version it expects, and a version after it. -/
theorem upsert_guarded {state : MemoryState} (histories : ∀ key, state.ViewHistory key)
    (view : ViewRecord) (version : UInt64) (now : Timestamp) :
    (state.upsertViewIfVersion view (some version) now).isOk = true ↔
      version ≠ 0 ∧ (∃ record, state.loadView view.warehouse view.ns view.name = .ok record ∧
        record.viewVersion = version) ∧ view.validate = .ok () ∧ version.toNat + 1 < 2 ^ 64 := by
  have history := histories (viewKeyParts view.warehouse view.ns view.name)
  constructor
  · intro accepted
    cases result : state.upsertViewIfVersion view (some version) now with
    | error error =>
        rw [result] at accepted
        cases accepted
    | ok outcome =>
        obtain ⟨latest, upsertable, _⟩ := (upsertViewIfVersion_ok _ _ _ _ _ _).mp result
        have matching := upsertable.matching
        have asked := upsertable.asked
        simp only [checkSome, requireExpectedViewVersion, validateExpectedViewVersion, bind_eq_ok,
          okOr_ok, rejectIf_ok, not_not, ne_eq] at matching asked
        obtain ⟨record, stored, same⟩ := matching
        obtain ⟨receipts, read, found⟩ := upsertable.history
        obtain ⟨own, rfl⟩ := (receiptsOfView_ok _ _ _ _ _).mp read
        have loaded := loadView_of_stored histories (fun receipt member => (own receipt member).1)
          stored
        refine ⟨asked, ⟨record, loaded, same⟩, upsertable.valid, ?_⟩
        have next := withNextVersionAfterHistory_version upsertable.next
        have limit := outcome.1.viewVersion.toNat_lt
        rw [stored, Option.map_some] at next
        have least : version.toNat ≤ (ViewRecord.baseVersion (some record.viewVersion)
            (latest.map Prod.fst)).toNat := by
          rw [same]
          exact baseVersion_le _ _
        omega
  · rintro ⟨numbered, ⟨record, loaded, same⟩, valid, room⟩
    obtain ⟨stored, warehouse, ns, name⟩ := loadView_kept loaded
    have own : state.Unshared view.warehouse view.ns view.name := by
      intro receipt member
      rw [← warehouse, ← ns, ← name]
      exact (history.stored record stored).2.2 receipt member
    have key : viewKeyParts view.warehouse view.ns view.name = viewKey view := rfl
    obtain ⟨last, ends, written, current⟩ := history.lastReceipt stored
    have evidence := history.evidence (history.inTime_of_kept stored)
    rw [ends] at evidence
    have base : (ViewRecord.baseVersion (state.views[viewKey view]?.map ViewRecord.viewVersion)
        (some last.viewVersion)).toNat + 1 < 2 ^ 64 := by
      rw [← key, stored, Option.map_some, baseVersion_of_agrees (.inr (by rw [current])),
        Option.getD_some, current, same]
      exact room
    obtain ⟨next, versioned⟩ := withNextVersionAfterHistory_fits valid base
    have result := (upsertViewIfVersion_ok state _ view next (some version) now).mpr
      ⟨_, ⟨valid, ?_, ?_, ?_, ⟨_, history.receiptsOfView own, evidence⟩, versioned⟩, rfl⟩
    · rw [result]
      rfl
    · exact (rejectIf_ok _ _ _).mpr numbered
    · rw [← key, stored]
      exact history.scope record stored
    · rw [← key, stored]
      exact (rejectIf_ok _ _ _).mpr (not_not.mpr same)

theorem guardedByVersion {loaded : MemoryState} (histories : ∀ key, loaded.ViewHistory key)
    (since : List MemoryOp) {warehouse : WarehouseName} {ns : Namespace} {name : TableName}
    {record : ViewRecord} (found : loaded.loadView warehouse ns name = .ok record) :
    loaded.GuardedByVersion since warehouse ns name record.viewVersion := by
  have after := run_viewHistory histories since
  obtain ⟨stored, _⟩ := loadView_kept found
  have numbered := version_ne_zero ((histories _).stored record stored).1
  have current (other : ViewRecord)
      (read : (loaded.run since).loadView warehouse ns name = .ok other) :
      other.viewVersion = record.viewVersion ↔ loaded.LeavesView since warehouse ns name := by
    rw [← version_current_iff histories since found, (loadView_kept read).1, Option.map_some,
      Option.some.injEq]
  have guarded : (∃ other, (loaded.run since).loadView warehouse ns name = .ok other ∧
        other.viewVersion = record.viewVersion) ↔
      ((loaded.run since).loadView warehouse ns name).isOk = true ∧
        loaded.LeavesView since warehouse ns name := by
    constructor
    · rintro ⟨other, read, same⟩
      exact ⟨by rw [read]; rfl, (current other read).mp same⟩
    · rintro ⟨present, left⟩
      cases read : (loaded.run since).loadView warehouse ns name with
      | error error =>
          rw [read] at present
          cases present
      | ok other => exact ⟨other, rfl, (current other read).mpr left⟩
  constructor
  · rintro view now rfl rfl rfl
    rw [upsert_guarded after, guarded]
    tauto
  · intro principal now
    rw [drop_guarded after, guarded]
    tauto

theorem mem_receiptsUnder_filed {state : MemoryState} (histories : ∀ key, state.ViewHistory key)
    {record : MemoryViewVersionReceipt} (member : record ∈ state.viewVersionReceipts) :
    record.viewKey =
      viewKeyParts record.receipt.warehouse record.receipt.ns record.receipt.name := by
  refine ((histories record.viewKey).filed record.receipt (List.mem_map_of_mem ?_)).symm
  exact List.mem_filter.mpr ⟨member, decide_eq_true rfl⟩

/-- Of the receipts of one view no two upserts have the same version. -/
theorem upserts_pairwise {state : MemoryState} (histories : ∀ key, state.ViewHistory key)
    (warehouse : WarehouseName) (ns : Namespace) (name : TableName) :
    (state.viewVersionReceipts.filter fun record =>
      record.receipt.change.IsOf warehouse ns name ∧ record.receipt.operation = .upsert).Pairwise
        fun first second => first.receipt.viewVersion ≠ second.receipt.viewVersion := by
  have keyed : (state.viewVersionReceipts.filter fun record =>
        record.receipt.change.IsOf warehouse ns name ∧ record.receipt.operation = .upsert) =
      (state.viewVersionReceipts.filter fun record =>
        record.viewKey = viewKeyParts warehouse ns name).filter fun record =>
          record.receipt.change.IsOf warehouse ns name ∧ record.receipt.operation = .upsert := by
    rw [List.filter_filter]
    refine List.filter_congr fun record member => ?_
    have filed := mem_receiptsUnder_filed histories member
    rw [← Bool.decide_and, decide_eq_decide]
    constructor
    · rintro ⟨⟨rfl, rfl, rfl⟩, upsert⟩
      exact ⟨⟨⟨rfl, rfl, rfl⟩, upsert⟩, filed⟩
    · exact fun both => both.1
  have ordered := List.pairwise_map.mp
    (pairwise_rank (histories (viewKeyParts warehouse ns name)).chain.follows)
  rw [keyed]
  refine (ordered.filter _).imp_of_mem fun {first second} firstMember secondMember lower same => ?_
  have upserts (record : MemoryViewVersionReceipt) (member : record ∈
      (state.viewVersionReceipts.filter fun record =>
        record.viewKey = viewKeyParts warehouse ns name).filter fun record =>
          record.receipt.change.IsOf warehouse ns name ∧ record.receipt.operation = .upsert) :
      record.receipt.operation = .upsert :=
    (decide_eq_true_eq.mp (List.mem_filter.mp member).2).2
  rw [rank, rank, upserts first firstMember, upserts second secondMember, same] at lower
  exact absurd lower (Nat.lt_irrefl _)

/-- What a run of calls from the empty store shows of one view. -/
theorem views_lockedByVersion (before since : List MemoryOp) (warehouse : WarehouseName)
    (ns : Namespace) (name : TableName) :
    (∀ record, (empty.run before).loadView warehouse ns name = .ok record →
      (empty.run before).GuardedByVersion since warehouse ns name record.viewVersion) ∧
    (producedVersions (empty.viewChanges before) warehouse ns name).Nodup ∧
    (empty.run before).viewVersionReceipts.map (fun record => record.receipt.change) =
      empty.viewChanges before := by
  have initial (key : String) := (viewHistory_empty key).1
  have histories := run_viewHistory initial before
  have changes : (empty.run before).viewVersionReceipts.map
      (fun record => record.receipt.change) = empty.viewChanges before := by
    obtain ⟨written, receipts, changes⟩ := run_viewChanges initial before
    rw [receipts, ← changes]
    rfl
  refine ⟨fun record found => guardedByVersion histories since found, ?_, changes⟩
  rw [producedVersions, ← changes, List.filter_map, List.map_map]
  exact List.pairwise_map.mpr (upserts_pairwise histories warehouse ns name)

omit [External] in
/-- The sample view is stored and loaded, and an upsert under its version has no SQL. -/
theorem blankUpsert_refused : ∃ (before : List MemoryOp) (view record : ViewRecord), ∀ [External],
    (empty.run before).loadView view.warehouse view.ns view.name = .ok record ∧
    ¬(((empty.run before).upsertViewIfVersion view (some record.viewVersion) 2).isOk = true ↔
      ((empty.run before).loadView view.warehouse view.ns view.name).isOk = true ∧
      (empty.run before).LeavesView [] view.warehouse view.ns view.name) := by
  refine ⟨[.upsertView sampleView none 1], { sampleView with sql := "" }, sampleView, ?_⟩
  intro _
  obtain ⟨next, stored⟩ := sampleView_accepted empty rfl rfl 1
  have left : empty.run [.upsertView sampleView none 1] = next := by
    rw [run, Transition.run_cons, step, stored]
    rfl
  have histories := run_viewHistory (fun key => (viewHistory_empty key).1)
    [.upsertView sampleView none 1]
  rw [left] at histories ⊢
  obtain ⟨latest, _, rfl⟩ := (upsertViewIfVersion_ok _ _ _ _ _ _).mp stored
  have found := (histories (viewKey sampleView)).viewToDrop_kept rfl
    ((OrderedMap.getElem?_insert _ _ _ _).trans (if_pos rfl))
  rw [viewToDrop_unguarded] at found
  refine ⟨found, fun claimed => ?_⟩
  have accepted := claimed.mpr ⟨?_, fun change member => absurd member List.not_mem_nil⟩
  · cases accepted
  · rw [found]
    rfl

end MemoryState

end LakeCat
