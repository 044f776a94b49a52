import LakeCat.ViewRecords

/-!
The receipts of one view in the order in which they were written: numbered
from one, at most one drop after each version, each receipt linked to the one
before it. The validator sorts by the clock, which agrees with that order
exactly while no drop is recorded before the version it drops.
-/

namespace LakeCat

open Fallible

namespace ViewVersionReceipt

/-- The next version, or the drop of the version just written. -/
def Follows (previous receipt : ViewVersionReceipt) : Prop :=
  match receipt.operation with
  | .upsert => receipt.viewVersion.toNat = previous.viewVersion.toNat + 1
  | .drop => previous.operation = .upsert ∧ receipt.viewVersion = previous.viewVersion

def Timely (previous receipt : ViewVersionReceipt) : Prop :=
  receipt.operation = .drop → previous.recordedAt ≤ receipt.recordedAt

def IsOf (receipt : ViewVersionReceipt) (warehouse : WarehouseName) (ns : Namespace)
    (name : TableName) : Prop :=
  receipt.warehouse = warehouse ∧ receipt.ns = ns ∧ receipt.name = name

/-- What the receipt says of itself. -/
structure Valid (receipt : ViewVersionReceipt) : Prop where
  named : receipt.stableId = viewStableIdParts receipt.warehouse receipt.ns receipt.name
  numbered : receipt.viewVersion ≠ 0
  previous : match receipt.operation with
    | .upsert => ∀ version, receipt.previousViewVersion = some version →
        version < receipt.viewVersion
    | .drop => receipt.previousViewVersion = some receipt.viewVersion
  viewHash : isSha256Evidence receipt.viewHash = true
  previousHash : ∀ digest, receipt.previousReceiptHash = some digest →
    isSha256Evidence digest = true

/-- Grows along a chain, with the drop of a version after its upsert. -/
def rank (receipt : ViewVersionReceipt) : Nat :=
  2 * receipt.viewVersion.toNat + receipt.operation.order

end ViewVersionReceipt

open ViewVersionReceipt

theorem validateViewReceipt_ok (receipt : ViewVersionReceipt) (done : Unit) :
    receipt.validate = .ok done ↔ receipt.Valid := by
  have fields : receipt.validate = .ok done ↔
      receipt.stableId = viewStableIdParts receipt.warehouse receipt.ns receipt.name ∧
      receipt.viewVersion ≠ 0 ∧
      (match receipt.operation with
      | .upsert => ∀ version, receipt.previousViewVersion = some version →
          version < receipt.viewVersion
      | .drop => receipt.previousViewVersion = some receipt.viewVersion) ∧
      isSha256Evidence receipt.viewHash = true ∧
      ∀ digest, receipt.previousReceiptHash = some digest → isSha256Evidence digest = true := by
    rw [ViewVersionReceipt.validate]
    cases receipt.operation <;>
      simp only [rejectIf_ok, bind_unit_eq_ok, checkSome_ok, validateSha256Evidence_ok,
        Bool.not_eq_true, any_eq_false_iff, decide_eq_false_iff_not, UInt64.not_le, not_not, ne_eq]
  rw [fields]
  constructor
  · rintro ⟨named, numbered, previous, viewHash, previousHash⟩
    exact ⟨named, numbered, previous, viewHash, previousHash⟩
  · rintro ⟨named, numbered, previous, viewHash, previousHash⟩
    exact ⟨named, numbered, previous, viewHash, previousHash⟩

theorem receiptLe_iff (left right : ViewVersionReceipt) :
    receiptLe left right = true ↔ left.viewVersion < right.viewVersion ∨
      left.viewVersion = right.viewVersion ∧ (left.recordedAt < right.recordedAt ∨
        left.recordedAt = right.recordedAt ∧ left.operation.order ≤ right.operation.order) := by
  simp only [receiptLe, receiptOrder, Ordering.isLE_then_iff_or, Std.compare_eq_lt,
    Std.compare_eq_iff_eq, Std.isLE_compare]

theorem receiptLe_trans (first second third : ViewVersionReceipt)
    (lower : receiptLe first second = true) (upper : receiptLe second third = true) :
    receiptLe first third = true := by
  rw [receiptLe_iff] at *
  grind

theorem receiptLe_total (left right : ViewVersionReceipt) :
    (receiptLe left right || receiptLe right left) = true := by
  rw [Bool.or_eq_true, receiptLe_iff, receiptLe_iff]
  grind

theorem isChain_and {α : Type} {first second : α → α → Prop} {items : List α}
    (one : items.IsChain first) (other : items.IsChain second) :
    items.IsChain fun earlier later => first earlier later ∧ second earlier later := by
  induction one with
  | nil => exact .nil
  | singleton item => exact .singleton item
  | cons_cons related _ ih =>
      obtain ⟨also, rest⟩ := List.isChain_cons_cons.mp other
      exact .cons_cons ⟨related, also⟩ (ih rest)

/-- A later receipt of a chain sorts after an earlier one, unless it is a drop that is not timely. -/
theorem receiptLe_of_rank (left right : ViewVersionReceipt) (later : left.rank < right.rank)
    (timely : left.viewVersion = right.viewVersion → left.recordedAt ≤ right.recordedAt) :
    receiptLe left right = true := by
  rw [receiptLe_iff]
  have leftOrder : left.operation.order ≤ 1 := by cases left.operation <;> decide
  have rightOrder : right.operation.order ≤ 1 := by cases right.operation <;> decide
  rw [rank, rank] at later
  by_cases same : left.viewVersion = right.viewVersion
  · have order : left.operation.order ≤ right.operation.order := by rw [same] at later; omega
    have earlier := timely same
    refine .inr ⟨same, ?_⟩
    rcases lt_or_eq_of_le earlier with before | equal
    · exact .inl before
    · exact .inr ⟨equal, order⟩
  · refine .inl (UInt64.lt_iff_toNat_lt.mpr ?_)
    have different : left.viewVersion.toNat ≠ right.viewVersion.toNat :=
      fun equal => same (UInt64.toNat_inj.mp equal)
    omega

theorem ViewVersionReceipt.Follows.rank_lt {previous receipt : ViewVersionReceipt}
    (follows : Follows previous receipt) : previous.rank < receipt.rank := by
  rw [Follows] at follows
  cases written : receipt.operation with
  | upsert =>
      simp only [written] at follows
      have order : previous.operation.order ≤ 1 := by cases previous.operation <;> decide
      rw [rank, rank, written, follows]
      omega
  | drop =>
      simp only [written] at follows
      rw [rank, rank, written, follows.1, follows.2]
      have upsert : ViewVersionOperation.upsert.order = 0 := rfl
      have drop : ViewVersionOperation.drop.order = 1 := rfl
      omega

section
variable [External]

def Linked (previous receipt : ViewVersionReceipt) : Prop :=
  receipt.previousViewVersion = some previous.viewVersion ∧
    receipt.previousReceiptHash = some (viewReceiptHash previous)

structure BeginsChain (receipt : ViewVersionReceipt) : Prop where
  operation : receipt.operation = .upsert
  version : receipt.viewVersion = 1
  unlinked : receipt.previousViewVersion = none
  unhashed : receipt.previousReceiptHash = none

/-- The receipts of one view, as they were written. -/
structure ViewChain (receipts : List ViewVersionReceipt) : Prop where
  valid : ∀ receipt ∈ receipts, receipt.validate = .ok ()
  begins : ∀ receipt ∈ receipts.head?, BeginsChain receipt
  follows : receipts.IsChain Follows
  linked : receipts.IsChain Linked

theorem ViewChain.append {receipts : List ViewVersionReceipt} {receipt : ViewVersionReceipt}
    (chain : ViewChain receipts) (valid : receipt.validate = .ok ())
    (begins : receipts = [] → BeginsChain receipt)
    (next : ∀ last ∈ receipts.getLast?, Follows last receipt ∧ Linked last receipt) :
    ViewChain (receipts ++ [receipt]) where
  valid := by
    intro other member
    rcases List.mem_append.mp member with earlier | last
    · exact chain.valid other earlier
    · rw [List.mem_singleton.mp last]
      exact valid
  begins := by
    intro other first
    cases receipts with
    | nil =>
        cases first
        exact begins rfl
    | cons _ _ => exact chain.begins other first
  follows := by
    refine List.isChain_append.mpr ⟨chain.follows, .singleton _, ?_⟩
    intro last ends other same
    cases same
    exact (next last ends).1
  linked := by
    refine List.isChain_append.mpr ⟨chain.linked, .singleton _, ?_⟩
    intro last ends other same
    cases same
    exact (next last ends).2

omit [External] in
theorem validateFirstReceipt_ok (receipt : ViewVersionReceipt) (done : Unit) :
    validateFirstReceipt receipt = .ok done ↔ BeginsChain receipt := by
  simp only [validateFirstReceipt, rejectIf_ok, not_or, ne_eq, not_not, Bool.not_eq_true,
    Option.isSome_eq_false_iff, Option.isNone_iff_eq_none]
  constructor
  · rintro ⟨operation, version, unlinked, unhashed⟩
    exact ⟨operation, version, unlinked, unhashed⟩
  · rintro ⟨operation, version, unlinked, unhashed⟩
    exact ⟨operation, version, unlinked, unhashed⟩

/-- The version that a receipt of this operation has after another one. -/
def nextVersion (previous : ViewVersionReceipt) : ViewVersionOperation → UInt64
  | .upsert => saturatingSucc previous.viewVersion
  | .drop => previous.viewVersion

theorem validateNextReceipt_ok (previous receipt : ViewVersionReceipt) (done : Unit) :
    validateNextReceipt previous receipt = .ok done ↔
      Linked previous receipt ∧ receipt.viewVersion = nextVersion previous receipt.operation := by
  rw [validateNextReceipt, rejectIf_bind, Linked]
  cases receipt.operation <;>
    simp only [nextVersion, rejectIf_ok, not_or, ne_eq, not_not] <;> tauto

omit [External] in
theorem ViewVersionReceipt.Follows.version_eq {previous receipt : ViewVersionReceipt}
    (follows : Follows previous receipt) :
    receipt.viewVersion = nextVersion previous receipt.operation := by
  rw [Follows] at follows
  cases written : receipt.operation with
  | upsert =>
      simp only [written] at follows
      have bound := receipt.viewVersion.toNat_lt
      have room : previous.viewVersion.toNat + 1 < 2 ^ 64 := by omega
      simp only [nextVersion, saturatingSucc, ViewRecord.checkedSucc, if_pos room,
        Option.getD_some]
      refine UInt64.toNat_inj.mp ?_
      rw [UInt64.toNat_add, UInt64.toNat_one, follows]
      omega
  | drop =>
      simp only [written] at follows
      exact follows.2

theorem validateChain_ok (previous : ViewVersionReceipt) (receipts : List ViewVersionReceipt) :
    validateChain (some previous) receipts = .ok () ↔
      (∀ receipt ∈ receipts, receipt.validate = .ok ()) ∧
        (previous :: receipts).IsChain fun earlier later =>
          validateNextReceipt earlier later = .ok () := by
  induction receipts generalizing previous with
  | nil => simp [validateChain]
  | cons receipt rest ih =>
      simp only [validateChain, bind_unit_eq_ok, ih, List.forall_mem_cons,
        List.isChain_cons_cons]
      constructor
      · rintro ⟨valid, next, others, linked⟩
        exact ⟨⟨valid, others⟩, next, linked⟩
      · rintro ⟨⟨valid, others⟩, next, linked⟩
        exact ⟨valid, next, others, linked⟩

theorem validateChain_begin (receipts : List ViewVersionReceipt) :
    validateChain none receipts = .ok () ↔
      (∀ receipt ∈ receipts, receipt.validate = .ok ()) ∧
        (∀ receipt ∈ receipts.head?, BeginsChain receipt) ∧
        receipts.IsChain fun earlier later => validateNextReceipt earlier later = .ok () := by
  cases receipts with
  | nil => simp [validateChain]
  | cons receipt rest =>
      simp only [validateChain, bind_unit_eq_ok, validateFirstReceipt_ok, validateChain_ok,
        List.forall_mem_cons, List.head?_cons, Option.mem_some_iff, forall_eq']
      constructor
      · rintro ⟨valid, begins, others, linked⟩
        exact ⟨⟨valid, others⟩, begins, linked⟩
      · rintro ⟨⟨valid, others⟩, begins, linked⟩
        exact ⟨valid, begins, others, linked⟩

omit [External] in
theorem pairwise_rank {receipts : List ViewVersionReceipt} (follows : receipts.IsChain Follows) :
    receipts.Pairwise fun earlier later => earlier.rank < later.rank := by
  have transitive : Trans
      (fun first second : ViewVersionReceipt => first.rank < second.rank)
      (fun first second : ViewVersionReceipt => first.rank < second.rank)
      (fun first second : ViewVersionReceipt => first.rank < second.rank) :=
    ⟨fun lower upper => lower.trans upper⟩
  exact List.isChain_iff_pairwise.mp (follows.imp fun _ _ next => next.rank_lt)

omit [External] in
theorem rank_injective {receipts : List ViewVersionReceipt} (follows : receipts.IsChain Follows)
    {first second : ViewVersionReceipt} (firstMember : first ∈ receipts)
    (secondMember : second ∈ receipts) (same : first.rank = second.rank) : first = second := by
  have distinct : (receipts.map rank).Nodup :=
    (List.pairwise_map.mpr (pairwise_rank follows)).imp fun less => Nat.ne_of_lt less
  exact List.inj_on_of_nodup_map distinct firstMember secondMember same

omit [External] in
theorem pairwise_receiptLe {receipts : List ViewVersionReceipt}
    (follows : receipts.IsChain Follows) (timely : receipts.IsChain Timely) :
    receipts.Pairwise fun earlier later => receiptLe earlier later = true := by
  have transitive : Trans (fun first second : ViewVersionReceipt => receiptLe first second = true)
      (fun first second : ViewVersionReceipt => receiptLe first second = true)
      (fun first second : ViewVersionReceipt => receiptLe first second = true) :=
    ⟨fun lower upper => receiptLe_trans _ _ _ lower upper⟩
  refine List.isChain_iff_pairwise.mp ((isChain_and follows timely).imp ?_)
  rintro previous receipt ⟨next, clock⟩
  refine receiptLe_of_rank previous receipt next.rank_lt fun same => clock ?_
  rw [Follows] at next
  cases written : receipt.operation with
  | upsert =>
      simp only [written, same] at next
      omega
  | drop => rfl

omit [External] in
/-- However the receipts of a timely chain come in, they sort into the order of the chain. -/
theorem mergeSort_receipts {receipts shuffled : List ViewVersionReceipt}
    (follows : receipts.IsChain Follows) (timely : receipts.IsChain Timely)
    (same : shuffled.Perm receipts) : shuffled.mergeSort receiptLe = receipts := by
  have sorted := List.pairwise_mergeSort receiptLe_trans receiptLe_total shuffled
  have permuted := (List.mergeSort_perm shuffled receiptLe).trans same
  refine List.Perm.eq_of_pairwise ?_ sorted (pairwise_receiptLe follows timely) permuted
  intro first second firstMember secondMember lower upper
  refine rank_injective follows (permuted.mem_iff.mp firstMember) secondMember ?_
  have versions : first.viewVersion = second.viewVersion ∧
      first.operation.order = second.operation.order := by
    rw [receiptLe_iff] at lower upper
    grind
  rw [rank, rank, versions.1, versions.2]

theorem ViewChain.validated {receipts : List ViewVersionReceipt} (chain : ViewChain receipts) :
    validateChain none receipts = .ok () := by
  refine (validateChain_begin receipts).mpr ⟨chain.valid, chain.begins, ?_⟩
  refine (isChain_and chain.follows chain.linked).imp ?_
  rintro previous receipt ⟨follows, linked⟩
  exact (validateNextReceipt_ok _ _ _).mpr ⟨linked, follows.version_eq⟩

/-- The validator takes the receipts of each stable id on their own. -/
theorem validateViewReceiptChains_ok (receipts : List ViewVersionReceipt) (done : Unit) :
    validateViewReceiptChains receipts = .ok done ↔
      ∀ receipt ∈ receipts, validateChain none ((receipts.filter fun other =>
        other.stableId = receipt.stableId).mergeSort receiptLe) = .ok () := by
  simp only [validateViewReceiptChains, checkEach_ok, groupReceipts, List.mem_map,
    List.mem_mergeSort, List.mem_dedup]
  constructor
  · intro each receipt member
    exact each _ ⟨receipt.stableId, ⟨receipt, member, rfl⟩, rfl⟩
  · rintro each _ ⟨_, ⟨receipt, member, rfl⟩, rfl⟩
    exact each receipt member

/-- Only the first receipt of an accepted chain begins one. -/
theorem begins_unique (first : ViewVersionReceipt) (rest : List ViewVersionReceipt)
    (valid : ∀ receipt ∈ first :: rest, receipt.validate = .ok ())
    (linked : (first :: rest).IsChain fun earlier later =>
      validateNextReceipt earlier later = .ok ()) :
    ∀ receipt ∈ rest, ¬BeginsChain receipt := by
  induction rest generalizing first with
  | nil => simp
  | cons next others ih =>
      obtain ⟨related, tail⟩ := List.isChain_cons_cons.mp linked
      intro receipt member begins
      rcases List.mem_cons.mp member with rfl | later
      · have version := ((validateNextReceipt_ok _ _ _).mp related).2
        have numbered := ((validateViewReceipt_ok _ _).mp (valid first (by simp))).numbered
        rw [begins.operation, begins.version, nextVersion, saturatingSucc,
          ViewRecord.checkedSucc] at version
        have positive : first.viewVersion.toNat ≠ 0 :=
          fun zero => numbered (UInt64.toNat_inj.mp zero)
        have amount := congrArg UInt64.toNat version
        split at amount
        next room =>
          rw [Option.getD_some, UInt64.toNat_add, UInt64.toNat_one, Nat.mod_eq_of_lt room] at amount
          omega
        next full =>
          rw [Option.getD_none, UInt64.toNat_one] at amount
          omega
      · exact ih next (fun other also => valid other (List.mem_cons_of_mem _ also)) tail receipt
          later begins

theorem eq_of_begins {receipts : List ViewVersionReceipt} {first second : ViewVersionReceipt}
    (passed : validateChain none receipts = .ok ()) (firstMember : first ∈ receipts)
    (secondMember : second ∈ receipts) (firstBegins : BeginsChain first)
    (secondBegins : BeginsChain second) : first = second := by
  obtain ⟨valid, _, linked⟩ := (validateChain_begin receipts).mp passed
  cases receipts with
  | nil => cases firstMember
  | cons head rest =>
      have unique := begins_unique head rest valid linked
      have headed {receipt : ViewVersionReceipt} (member : receipt ∈ head :: rest)
          (begins : BeginsChain receipt) : receipt = head := by
        rcases List.mem_cons.mp member with same | later
        · exact same
        · exact absurd begins (unique receipt later)
      rw [headed firstMember firstBegins, headed secondMember secondBegins]

theorem ViewChain.exists_begins {receipts : List ViewVersionReceipt} (chain : ViewChain receipts)
    {receipt : ViewVersionReceipt} (member : receipt ∈ receipts) :
    ∃ head ∈ receipts, BeginsChain head := by
  cases receipts with
  | nil => cases member
  | cons head rest => exact ⟨head, List.mem_cons_self, chain.begins head rfl⟩

omit [External] in
theorem groupReceipts_single {receipts : List ViewVersionReceipt} (id : String)
    (named : ∀ receipt ∈ receipts, receipt.stableId = id) (some : receipts ≠ []) :
    groupReceipts receipts = [receipts] := by
  have ids : (receipts.map ViewVersionReceipt.stableId).dedup = [id] := by
    refine List.Perm.eq_singleton ?_
    refine (List.perm_ext_iff_of_nodup (List.nodup_dedup _) (List.nodup_singleton _)).mpr ?_
    intro other
    simp only [List.mem_dedup, List.mem_map, List.mem_singleton]
    constructor
    · rintro ⟨receipt, member, rfl⟩
      exact named receipt member
    · rintro rfl
      obtain ⟨receipt, member⟩ := List.exists_mem_of_ne_nil receipts some
      exact ⟨receipt, member, named receipt member⟩
  have whole : (receipts.filter fun receipt => receipt.stableId = id) = receipts :=
    List.filter_eq_self.mpr fun receipt member => by simp [named receipt member]
  simp only [groupReceipts, ids, List.mergeSort_singleton, List.map_cons, List.map_nil, whole]

/-- The validator accepts a set of receipts of one view exactly when the sorted ones are a chain. -/
theorem validateViewReceiptChains_single {receipts : List ViewVersionReceipt} (id : String)
    (named : ∀ receipt ∈ receipts, receipt.stableId = id) (done : Unit) :
    validateViewReceiptChains receipts = .ok done ↔
      validateChain none (receipts.mergeSort receiptLe) = .ok () := by
  by_cases empty : receipts = []
  · subst empty
    have none : groupReceipts [] = [] := by simp [groupReceipts]
    simp [validateViewReceiptChains, none, validateChain, checkEach]
  · rw [validateViewReceiptChains, groupReceipts_single id named empty, checkEach_ok]
    simp

omit [External] in
theorem foldl_receiptLe (best : ViewVersionReceipt) (rest : List ViewVersionReceipt)
    (sorted : (best :: rest).Pairwise fun earlier later => receiptLe earlier later = true) :
    some (rest.foldl (fun best receipt => if receiptLe best receipt then receipt else best) best) =
      (best :: rest).getLast? := by
  induction rest generalizing best with
  | nil => rfl
  | cons receipt rest ih =>
      obtain ⟨lower, tail⟩ := List.pairwise_cons.mp sorted
      rw [List.foldl_cons, if_pos (lower receipt (by simp)), ih receipt tail,
        List.getLast?_cons_cons]

omit [External] in
/-- Of a timely chain the greatest receipt is the last one. -/
theorem latestReceipt_eq {receipts : List ViewVersionReceipt}
    (follows : receipts.IsChain Follows) (timely : receipts.IsChain Timely) :
    latestReceipt receipts = receipts.getLast? := by
  cases receipts with
  | nil => rfl
  | cons first rest => exact foldl_receiptLe first rest (pairwise_receiptLe follows timely)

/-- A drop at the end of a chain that the validator accepts is not earlier than what it drops. -/
theorem timely_of_validated {receipts : List ViewVersionReceipt} {receipt : ViewVersionReceipt}
    (follows : (receipts ++ [receipt]).IsChain Follows) (dropped : receipt.operation = .drop)
    (passed : validateChain none ((receipts ++ [receipt]).mergeSort receiptLe) = .ok ())
    (last : ViewVersionReceipt) (ends : last ∈ receipts.getLast?) :
    last.recordedAt ≤ receipt.recordedAt := by
  obtain ⟨_, begins, linked⟩ := (validateChain_begin _).mp passed
  have permuted := List.mergeSort_perm (receipts ++ [receipt]) receiptLe
  have sorted := List.pairwise_mergeSort receiptLe_trans receiptLe_total (receipts ++ [receipt])
  have distinct : ((receipts ++ [receipt]).mergeSort receiptLe).Nodup :=
    permuted.nodup_iff.mpr ((pairwise_rank follows).imp fun less => by
      rintro rfl
      exact absurd less (Nat.lt_irrefl _))
  have lastMember : last ∈ receipts ++ [receipt] :=
    List.mem_append_left _ (List.mem_of_mem_getLast? ends)
  have next : Follows last receipt :=
    (List.isChain_append.mp follows).2.2 last ends receipt rfl
  simp only [Follows, dropped] at next
  obtain ⟨front, back, split⟩ :=
    List.append_of_mem (permuted.mem_iff.mpr (List.mem_append_right receipts List.mem_cons_self))
  rw [split] at begins linked sorted distinct
  rcases List.eq_nil_or_concat front with rfl | ⟨front, before, rfl⟩
  · have first := (begins receipt rfl).operation
    rw [dropped] at first
    cases first
  · have related := (List.isChain_append.mp linked).2.2 before (by simp) receipt rfl
    have version := ((validateNextReceipt_ok _ _ _).mp related).2
    simp only [dropped, nextVersion] at version
    have member : before ∈ receipts ++ [receipt] := by
      refine permuted.mem_iff.mp ?_
      rw [split]
      simp
    have ordered : receiptLe before receipt = true :=
      (List.pairwise_append.mp sorted).2.2 before (by simp) receipt (by simp)
    have apart : before ≠ receipt :=
      (List.pairwise_append.mp distinct).2.2 before (by simp) receipt (by simp)
    -- The receipt sorted before the drop has its version, so it is what the drop follows.
    have same : before = last := by
      refine rank_injective follows member lastMember ?_
      cases written : before.operation with
      | upsert => rw [rank, rank, written, next.1, ← version, next.2]
      | drop =>
          refine absurd (rank_injective follows member (by simp) ?_) apart
          rw [rank, rank, written, dropped, version]
    subst same
    rw [receiptLe_iff] at ordered
    rcases ordered with below | ⟨_, before | ⟨equal, _⟩⟩
    · rw [next.2] at below
      exact absurd below (UInt64.lt_irrefl _)
    · exact le_of_lt before
    · exact le_of_eq equal

end

end LakeCat
