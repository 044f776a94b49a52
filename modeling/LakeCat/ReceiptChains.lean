import LakeCat.NamespaceContainment
import LakeCat.PoliciesRestrict
import LakeCat.ViewChains

/-!
The receipt chains that the service reports beside the store's validator. Both
group the receipts by stable id and sort each group by version and time; of two
receipts that are equal in both, the store puts the upsert first and the service
the operation whose name is smaller as text.
-/

namespace LakeCat

open Fallible ViewVersionReceipt

structure ViewVersionReceiptResponse where
  stableId : String
  warehouse : String
  ns : List String
  name : String
  viewVersion : UInt64
  previousViewVersion : Option UInt64
  previousReceiptHash : Option String
  operation : String
  viewHash : String
  receiptHash : String
  principalSubject : String
  principalKind : String
  recordedAt : String
  deriving DecidableEq

structure ViewVersionReceiptChainResponse where
  stableId : String
  warehouse : String
  ns : List String
  name : String
  chainHash : String
  chainVerified : Bool
  latestViewVersion : UInt64
  latestOperation : String
  tombstoned : Bool
  receiptCount : Nat
  receipts : List ViewVersionReceiptResponse

/-- The comparison of the service: version, time, then the name of the operation. -/
def reportOrder (left right : ViewVersionReceipt) : Ordering :=
  (compare left.viewVersion right.viewVersion).then <|
    (compare left.recordedAt right.recordedAt).then <|
      compare left.operation.asStr right.operation.asStr

def reportLe (left right : ViewVersionReceipt) : Bool :=
  (reportOrder left right).isLE

/-- One entry of `view_version_receipt_chain_verified`, after the entry before it. -/
def receiptVerified (previous : Option ViewVersionReceiptResponse)
    (receipt : ViewVersionReceiptResponse) : Bool :=
  if receipt.viewVersion = 0 then false
  else match previous with
  | none =>
      receipt.operation = "upsert" && receipt.viewVersion = 1 &&
        receipt.previousViewVersion.isNone && receipt.previousReceiptHash.isNone
  | some previous =>
      if receipt.previousReceiptHash ≠ some previous.receiptHash then false
      else if receipt.operation = "upsert" then
        receipt.previousViewVersion = some previous.viewVersion &&
          receipt.viewVersion = saturatingSucc previous.viewVersion
      else if receipt.operation = "drop" then
        receipt.previousViewVersion = some previous.viewVersion &&
          receipt.viewVersion = previous.viewVersion
      else false

def receiptsVerified (previous : Option ViewVersionReceiptResponse) :
    List ViewVersionReceiptResponse → Bool
  | [] => true
  | receipt :: rest =>
      receiptVerified previous receipt && receiptsVerified (some receipt) rest

def viewVersionReceiptChainVerified (receipts : List ViewVersionReceiptResponse) : Bool :=
  !receipts.isEmpty && receiptsVerified none receipts

section
variable [External]

def viewVersionReceiptResponse (receipt : ViewVersionReceipt) : ViewVersionReceiptResponse where
  stableId := receipt.stableId
  warehouse := receipt.warehouse.value
  ns := receipt.ns.parts
  name := receipt.name.value
  viewVersion := receipt.viewVersion
  previousViewVersion := receipt.previousViewVersion
  previousReceiptHash := receipt.previousReceiptHash
  operation := receipt.operation.asStr
  viewHash := receipt.viewHash
  receiptHash := viewReceiptHash receipt
  principalSubject := receipt.principal.subject
  principalKind := receipt.principal.kind.asStr
  recordedAt := External.toRfc3339 receipt.recordedAt

def viewVersionReceiptChainHash (receipts : List ViewVersionReceiptResponse) :
    LakeCatResult String := do
  let latest ← okOr receipts.getLast?
    (.invalidArgument "view receipt-chain hash requires at least one receipt")
  return contentHashJson (.object [("stable-id", .str latest.stableId),
    ("warehouse", .str latest.warehouse), ("namespace", .arr (latest.ns.map .str)),
    ("name", .str latest.name), ("latest-view-version", ofU64 latest.viewVersion),
    ("latest-operation", .str latest.operation),
    ("tombstoned", .bool (latest.operation = "drop")),
    ("receipt-hashes", .arr (receipts.map fun receipt => .str receipt.receiptHash))])

def chainResponse (receipts : List ViewVersionReceipt) (latest : ViewVersionReceipt) :
    LakeCatResult ViewVersionReceiptChainResponse := do
  let responses := receipts.map viewVersionReceiptResponse
  let chainHash ← viewVersionReceiptChainHash responses
  return {
    stableId := latest.stableId
    warehouse := latest.warehouse.value
    ns := latest.ns.parts
    name := latest.name.value
    chainHash := chainHash
    chainVerified := viewVersionReceiptChainVerified responses
    latestViewVersion := latest.viewVersion
    latestOperation := latest.operation.asStr
    tombstoned := latest.operation = .drop
    receiptCount := responses.length
    receipts := responses
  }

/-- The chain of one group; a group without a receipt has none. -/
def chainOfGroup (group : List ViewVersionReceipt) :
    Option (LakeCatResult ViewVersionReceiptChainResponse) :=
  let receipts := group.mergeSort reportLe
  receipts.getLast?.map (chainResponse receipts)

def viewVersionReceiptChains (receipts : List ViewVersionReceipt) :
    LakeCatResult (List ViewVersionReceiptChainResponse) :=
  collect id ((groupReceipts receipts).filterMap chainOfGroup)

/-- A chain as the store sees its group of receipts. -/
structure Reports (group : List ViewVersionReceipt) (chain : ViewVersionReceiptChainResponse) :
    Prop where
  verified : chain.chainVerified = true
  listed : chain.receipts = (group.mergeSort receiptLe).map viewVersionReceiptResponse
  latest : ∃ last, (group.mergeSort receiptLe).getLast? = some last ∧
    chain.stableId = last.stableId ∧ chain.latestViewVersion = last.viewVersion ∧
    (chain.tombstoned = true ↔ last.operation = .drop)

/-- The service reports one chain for each group of the store's validator. -/
def ReportsChains (receipts : List ViewVersionReceipt) : Prop :=
  ∃ chains, viewVersionReceiptChains receipts = .ok chains ∧
    List.Forall₂ Reports (groupReceipts receipts) chains

omit [External] in
/-- No version of a view was stored and dropped at one time. -/
def Untied (receipts : List ViewVersionReceipt) : Prop :=
  ∀ stored ∈ receipts, ∀ dropped ∈ receipts, stored.operation = .upsert →
    dropped.operation = .drop → stored.stableId = dropped.stableId →
    stored.viewVersion = dropped.viewVersion → stored.recordedAt ≠ dropped.recordedAt

omit [External] in
instance (receipts : List ViewVersionReceipt) : Decidable (Untied receipts) :=
  inferInstanceAs (Decidable (∀ _ ∈ _, ∀ _ ∈ _, _ → _ → _ → _ → _))

omit [External] in
theorem reportLe_iff (left right : ViewVersionReceipt) :
    reportLe left right = true ↔ left.viewVersion < right.viewVersion ∨
      left.viewVersion = right.viewVersion ∧ (left.recordedAt < right.recordedAt ∨
        left.recordedAt = right.recordedAt ∧ right.operation.order ≤ left.operation.order) := by
  have names : (compare left.operation.asStr right.operation.asStr).isLE = true ↔
      right.operation.order ≤ left.operation.order := by
    cases left.operation <;> cases right.operation <;> decide
  simp only [reportLe, reportOrder, Ordering.isLE_then_iff_or, Std.compare_eq_lt,
    Std.compare_eq_iff_eq, names]

omit [External] in
theorem reportLe_trans (first second third : ViewVersionReceipt)
    (lower : reportLe first second = true) (upper : reportLe second third = true) :
    reportLe first third = true := by
  rw [reportLe_iff] at *
  grind

omit [External] in
theorem reportLe_total (left right : ViewVersionReceipt) :
    (reportLe left right || reportLe right left) = true := by
  rw [Bool.or_eq_true, reportLe_iff, reportLe_iff]
  grind

omit [External] in
/-- The two comparisons differ only where an upsert and a drop are equal but for the operation. -/
theorem reportLe_eq_receiptLe {receipts : List ViewVersionReceipt} (untied : Untied receipts)
    {left right : ViewVersionReceipt} (leftMember : left ∈ receipts)
    (rightMember : right ∈ receipts) (same : left.stableId = right.stableId) :
    reportLe left right = receiptLe left right := by
  have apart := untied left leftMember right rightMember
  have apart' := untied right rightMember left leftMember
  rw [Bool.eq_iff_iff, reportLe_iff, receiptLe_iff]
  cases leftOperation : left.operation <;> cases rightOperation : right.operation
  · simp
  · have := apart leftOperation rightOperation same
    grind
  · have := apart' rightOperation leftOperation same.symm
    grind
  · simp

omit [External] in
theorem mergeSort_congr {α : Type} {first second : α → α → Bool} {items : List α}
    (same : ∀ left ∈ items, ∀ right ∈ items, first left right = second left right) :
    items.mergeSort first = items.mergeSort second := by
  have mapped : (items.mergeSort first).map id = (items.map id).mergeSort second :=
    List.map_mergeSort same
  rwa [List.map_id, List.map_id] at mapped

theorem receiptVerified_next (previous receipt : ViewVersionReceipt)
    (valid : receipt.validate = .ok ()) :
    receiptVerified (some (viewVersionReceiptResponse previous))
        (viewVersionReceiptResponse receipt) = true ↔
      validateNextReceipt previous receipt = .ok () := by
  have numbered := ((validateViewReceipt_ok _ _).mp valid).numbered
  rw [validateNextReceipt_ok, receiptVerified, Linked, viewVersionReceiptResponse,
    viewVersionReceiptResponse]
  cases receipt.operation <;>
    simp [numbered, nextVersion, ViewVersionOperation.asStr, and_assoc] <;> tauto

theorem receiptVerified_first (receipt : ViewVersionReceipt) (valid : receipt.validate = .ok ()) :
    receiptVerified none (viewVersionReceiptResponse receipt) = true ↔
      validateFirstReceipt receipt = .ok () := by
  have numbered := ((validateViewReceipt_ok _ _).mp valid).numbered
  rw [validateFirstReceipt, rejectIf_ok, receiptVerified, viewVersionReceiptResponse]
  cases receipt.operation <;> simp [numbered, ViewVersionOperation.asStr, and_assoc]

/-- The service's check of a list of receipts is the store's. -/
theorem receiptsVerified_iff (previous : Option ViewVersionReceipt)
    (receipts : List ViewVersionReceipt) (valid : ∀ receipt ∈ receipts, receipt.validate = .ok ()) :
    receiptsVerified (previous.map viewVersionReceiptResponse)
        (receipts.map viewVersionReceiptResponse) = true ↔
      validateChain previous receipts = .ok () := by
  induction receipts generalizing previous with
  | nil => simp [receiptsVerified, validateChain]
  | cons receipt rest ih =>
      obtain ⟨own, others⟩ := List.forall_mem_cons.mp valid
      rw [List.map_cons, receiptsVerified, validateChain, Bool.and_eq_true,
        ← Option.map_some, ih (some receipt) others, bind_unit_eq_ok, own]
      cases previous with
      | none => simp [receiptVerified_first receipt own, bind_unit_eq_ok]
      | some previous => simp [receiptVerified_next previous receipt own, bind_unit_eq_ok]

/-- An upsert that the service sorts after the drop of its version is not linked to what it
follows there. -/
theorem untied_of_verified {receipts : List ViewVersionReceipt}
    (accepted : validateChain none (receipts.mergeSort reportLe) = .ok ()) : Untied receipts := by
  intro stored storedMember dropped droppedMember upsert drop _ version time
  obtain ⟨valid, begins, linked⟩ := (validateChain_begin _).mp accepted
  have sorted := List.pairwise_mergeSort reportLe_trans reportLe_total receipts
  obtain ⟨front, back, split⟩ := List.append_of_mem (List.mem_mergeSort.mpr storedMember)
  have place : dropped ∈ receipts.mergeSort reportLe := List.mem_mergeSort.mpr droppedMember
  rw [split] at valid begins linked sorted place
  have after : ¬reportLe stored dropped = true := by
    rw [reportLe_iff, upsert, drop, version, time]
    have irreflexive := UInt64.lt_irrefl dropped.viewVersion
    simp [irreflexive, ViewVersionOperation.order]
  obtain ⟨_, tail, across⟩ := List.pairwise_append.mp sorted
  have earlier : dropped ∈ front := by
    rcases List.mem_append.mp place with before | later
    · exact before
    · rcases List.mem_cons.mp later with rfl | later
      · rw [upsert] at drop
        cases drop
      · exact absurd ((List.pairwise_cons.mp tail).1 dropped later) after
  rcases List.eq_nil_or_concat front with rfl | ⟨front, previous, rfl⟩
  · cases earlier
  rw [List.concat_eq_append] at *
  have next := (List.isChain_append.mp linked).2.2 previous (by simp) stored rfl
  have link := ((validateNextReceipt_ok _ _ _).mp next).1.1
  have grows := ((validateViewReceipt_ok _ _).mp (valid stored (by simp))).previous
  rw [upsert] at grows
  have below := grows _ link
  have between : reportLe dropped previous = true ∨ dropped = previous := by
    rcases List.mem_append.mp earlier with before | last
    · have inFront := (List.pairwise_append.mp sorted).1
      exact .inl ((List.pairwise_append.mp inFront).2.2 dropped before previous (by simp))
    · exact .inr (List.mem_singleton.mp last)
  rw [version] at below
  rcases between with ordered | rfl
  · rw [reportLe_iff] at ordered
    grind
  · exact absurd below (UInt64.lt_irrefl _)

theorem chainOfGroup_ok {group : List ViewVersionReceipt} (some : group ≠ []) :
    ∃ chain last, chainOfGroup group = .some (.ok chain) ∧
      (group.mergeSort reportLe).getLast? = .some last ∧
      chain.receipts = (group.mergeSort reportLe).map viewVersionReceiptResponse ∧
      chain.chainVerified = viewVersionReceiptChainVerified
        ((group.mergeSort reportLe).map viewVersionReceiptResponse) ∧
      chain.stableId = last.stableId ∧ chain.latestViewVersion = last.viewVersion ∧
      chain.tombstoned = decide (last.operation = .drop) := by
  have present : group.mergeSort reportLe ≠ [] := by
    intro empty
    exact some (List.Perm.eq_nil (empty ▸ (List.mergeSort_perm group reportLe).symm))
  have ends := List.getLast?_eq_getLast_of_ne_nil present
  have responses : ((group.mergeSort reportLe).map viewVersionReceiptResponse).getLast? =
      .some (viewVersionReceiptResponse ((group.mergeSort reportLe).getLast present)) := by
    rw [List.getLast?_map, ends, Option.map_some]
  rw [chainOfGroup, ends, Option.map_some, chainResponse, viewVersionReceiptChainHash, responses,
    okOr_some, ok_bind, pure_eq, ok_bind, pure_eq]
  exact ⟨_, _, rfl, rfl, rfl, rfl, rfl, rfl, rfl⟩

omit [External] in
theorem mem_groupReceipts (receipts group : List ViewVersionReceipt) :
    group ∈ groupReceipts receipts ↔ ∃ receipt ∈ receipts, group =
      receipts.filter fun other => other.stableId = receipt.stableId := by
  simp only [groupReceipts, List.mem_map, List.mem_mergeSort, List.mem_dedup]
  constructor
  · rintro ⟨_, ⟨receipt, member, rfl⟩, rfl⟩
    exact ⟨receipt, member, rfl⟩
  · rintro ⟨receipt, member, rfl⟩
    exact ⟨_, ⟨receipt, member, rfl⟩, rfl⟩

/-- Every group has its chain, in the order of the groups. -/
theorem viewVersionReceiptChains_ok (receipts : List ViewVersionReceipt) :
    ∃ chains, viewVersionReceiptChains receipts = .ok chains ∧
      List.Forall₂ (fun group chain => chainOfGroup group = some (.ok chain))
        (groupReceipts receipts) chains := by
  have every : ∀ group ∈ groupReceipts receipts, group ≠ [] := by
    intro group member
    obtain ⟨receipt, also, rfl⟩ := (mem_groupReceipts _ _).mp member
    exact List.ne_nil_of_mem (List.mem_filter.mpr ⟨also, decide_eq_true rfl⟩)
  rw [viewVersionReceiptChains]
  generalize groupReceipts receipts = groups at every
  induction groups with
  | nil => exact ⟨[], rfl, .nil⟩
  | cons group rest ih =>
      obtain ⟨present, others⟩ := List.forall_mem_cons.mp every
      obtain ⟨chains, collected, each⟩ := ih others
      obtain ⟨chain, _, made, _⟩ := chainOfGroup_ok present
      refine ⟨chain :: chains, ?_, .cons made each⟩
      rw [List.filterMap_cons, made, collect, id, ok_bind, collected, ok_bind, pure_eq]

/-- One group is reported as the store has it exactly when no version of it is tied. -/
theorem reports_iff {group : List ViewVersionReceipt} {chain : ViewVersionReceiptChainResponse}
    (id : String) (named : ∀ receipt ∈ group, receipt.stableId = id)
    (accepted : validateChain none (group.mergeSort receiptLe) = .ok ())
    (made : chainOfGroup group = some (.ok chain)) : Reports group chain ↔ Untied group := by
  have valid : ∀ receipt ∈ group.mergeSort reportLe, receipt.validate = .ok () := by
    intro receipt member
    refine ((validateChain_begin _).mp accepted).1 receipt ?_
    exact List.mem_mergeSort.mpr (List.mem_mergeSort.mp member)
  have present : group ≠ [] := by
    rintro rfl
    rw [chainOfGroup, List.mergeSort_nil] at made
    cases made
  obtain ⟨own, last, same, ends, listed, verified, stableId, version, tombstoned⟩ :=
    chainOfGroup_ok present
  cases same.symm.trans made
  have checked : chain.chainVerified = true ↔
      validateChain none (group.mergeSort reportLe) = .ok () := by
    have some : ((group.mergeSort reportLe).map viewVersionReceiptResponse).isEmpty = false := by
      rw [List.isEmpty_eq_false_iff, ne_eq, List.map_eq_nil_iff]
      intro empty
      rw [empty] at ends
      cases ends
    rw [verified, viewVersionReceiptChainVerified, some, Bool.not_false, Bool.true_and]
    exact receiptsVerified_iff none _ valid
  constructor
  · intro reports
    exact untied_of_verified (checked.mp reports.verified)
  · intro untied
    have sorted : group.mergeSort reportLe = group.mergeSort receiptLe :=
      mergeSort_congr fun left leftMember right rightMember =>
        reportLe_eq_receiptLe untied leftMember rightMember
          ((named left leftMember).trans (named right rightMember).symm)
    rw [sorted] at checked listed ends
    refine ⟨checked.mpr accepted, listed, last, ends, stableId, version, ?_⟩
    rw [tombstoned, decide_eq_true_eq]

omit [External] in
theorem untied_iff_groups (receipts : List ViewVersionReceipt) :
    Untied receipts ↔ ∀ group ∈ groupReceipts receipts, Untied group := by
  constructor
  · intro untied group member
    obtain ⟨receipt, _, rfl⟩ := (mem_groupReceipts _ _).mp member
    intro stored storedMember dropped droppedMember
    exact untied stored (List.mem_filter.mp storedMember).1 dropped
      (List.mem_filter.mp droppedMember).1
  · intro each stored storedMember dropped droppedMember upsert drop same
    refine each _ ((mem_groupReceipts _ _).mpr ⟨stored, storedMember, rfl⟩) stored ?_ dropped ?_
      upsert drop same
    · exact List.mem_filter.mpr ⟨storedMember, decide_eq_true rfl⟩
    · exact List.mem_filter.mpr ⟨droppedMember, decide_eq_true same.symm⟩

/-- The service agrees with the store on accepted receipts exactly when none of them are tied. -/
theorem reportsChains_iff_untied {receipts : List ViewVersionReceipt}
    (accepted : validateViewReceiptChains receipts = .ok ()) :
    ReportsChains receipts ↔ Untied receipts := by
  obtain ⟨chains, reported, made⟩ := viewVersionReceiptChains_ok receipts
  have same : ReportsChains receipts ↔ List.Forall₂ Reports (groupReceipts receipts) chains := by
    constructor
    · rintro ⟨others, again, reports⟩
      cases reported.symm.trans again
      exact reports
    · exact fun reports => ⟨chains, reported, reports⟩
  rw [same, untied_iff_groups]
  have each : ∀ group ∈ groupReceipts receipts, (∃ id, ∀ receipt ∈ group, receipt.stableId = id) ∧
      validateChain none (group.mergeSort receiptLe) = .ok () := by
    intro group member
    obtain ⟨receipt, also, rfl⟩ := (mem_groupReceipts _ _).mp member
    refine ⟨⟨receipt.stableId, fun other inside => ?_⟩,
      (validateViewReceiptChains_ok receipts ()).mp accepted receipt also⟩
    exact of_decide_eq_true (List.mem_filter.mp inside).2
  clear same reported accepted
  generalize groupReceipts receipts = groups at made each
  induction made with
  | nil => simp
  | cons own others ih =>
      obtain ⟨⟨⟨id, named⟩, accepted⟩, rest⟩ := List.forall_mem_cons.mp each
      rw [List.forall₂_cons, List.forall_mem_cons]
      exact and_congr (reports_iff id named accepted own) (ih rest)

/-- The sample view stored at time five and dropped at the given one. -/
def sampleReceipts (dropped : Timestamp) : List ViewVersionReceipt :=
  let stored := ViewVersionReceipt.upsert none none MemoryState.sampleView .anonymous 5
  [stored, .drop MemoryState.sampleView (some (viewReceiptHash stored)) .anonymous dropped]

theorem sampleReceipts_named (dropped : Timestamp) : ∀ receipt ∈ sampleReceipts dropped,
    receipt.stableId = viewStableId MemoryState.sampleView := by
  simp [sampleReceipts, ViewVersionReceipt.upsert, ViewVersionReceipt.drop]

/-- The store accepts them as long as the drop is not the earlier one. -/
theorem sampleReceipts_accepted {dropped : Timestamp} (later : 5 ≤ dropped) :
    validateViewReceiptChains (sampleReceipts dropped) = .ok () ∧
      validateChain none ((sampleReceipts dropped).mergeSort receiptLe) = .ok () := by
  have single := validateViewReceiptChains_single _ (sampleReceipts_named dropped) ()
  rw [single, and_self]
  have numbered : MemoryState.sampleView.viewVersion ≠ 0 := by decide
  have chain : ViewChain (sampleReceipts dropped) := by
    refine ⟨?_, ?_, .cons_cons ⟨rfl, rfl⟩ (.singleton _), .cons_cons ⟨rfl, rfl⟩ (.singleton _)⟩
    · intro receipt member
      rcases List.mem_pair.mp member with rfl | rfl
      · refine (validateViewReceipt_ok _ _).mpr ⟨rfl, numbered, ?_, contentHashJson_evidence _, ?_⟩
        · exact fun _ none => nomatch none
        · exact fun _ none => nomatch none
      · refine (validateViewReceipt_ok _ _).mpr ⟨rfl, numbered, rfl, contentHashJson_evidence _, ?_⟩
        rintro _ ⟨⟩
        exact contentHashJson_evidence _
    · rintro receipt ⟨⟩
      exact ⟨rfl, rfl, rfl, rfl⟩
  have timely : (sampleReceipts dropped).IsChain Timely :=
    .cons_cons (fun _ => later) (.singleton _)
  rw [mergeSort_receipts chain.follows timely (List.Perm.refl _)]
  exact chain.validated

omit [External] in
theorem laterDrop_reported : ∃ (_ : External) (receipts : List ViewVersionReceipt),
    validateViewReceiptChains receipts = .ok () ∧ receipts.length = 2 ∧ ReportsChains receipts := by
  let _ := constantExternal
  have accepted := (sampleReceipts_accepted (show (5 : Timestamp) ≤ 6 by decide)).1
  exact ⟨constantExternal, sampleReceipts 6, accepted, rfl,
    (reportsChains_iff_untied accepted).mpr (by decide)⟩

omit [External] in
/-- A view stored and dropped at one time is not reported as the store has it. -/
theorem tiedDrop_misreported : ∃ (_ : External) (receipts : List ViewVersionReceipt),
    validateViewReceiptChains receipts = .ok () ∧ ¬ReportsChains receipts := by
  let _ := constantExternal
  obtain ⟨accepted, chain⟩ := sampleReceipts_accepted (le_refl (5 : Timestamp))
  refine ⟨constantExternal, sampleReceipts 5, accepted, ?_⟩
  rintro ⟨chains, reported, each⟩
  obtain ⟨others, again, made⟩ := viewVersionReceiptChains_ok (sampleReceipts 5)
  cases reported.symm.trans again
  have named := sampleReceipts_named 5
  rw [groupReceipts_single _ named (by decide)] at each made
  cases each with
  | cons own _ =>
      cases made with
      | cons built _ =>
          exact absurd ((reports_iff _ named chain built).mp own) (by decide)

end

end LakeCat
