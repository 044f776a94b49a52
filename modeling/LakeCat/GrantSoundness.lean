import LakeCat.Operability
import LakeCat.PoliciesRestrict
import LakeCat.ScanGrants

/-!
A grant is used again only over the state it was issued for. Grants stay in the
store as they were issued; what is read from the catalog and decided by the
engine at a later time is compared with them, piece by piece.
-/

namespace LakeCat

open Fallible OptionalMeet

namespace MemoryState

variable [External]

theorem grants_successor {state next : MemoryState} {op : MemoryOp}
    (successor : Successor state op next) {grantId : String} {grant : GovernedScanGrant}
    (held : state.governedScanGrants[grantId]? = some grant) :
    next.governedScanGrants[grantId]? = some grant := by
  cases successor with
  | administered _ _ _ _ _ _ _ kept => exact kept grantId grant held
  | _ => exact held

/-- A grant stays in the store as it is. -/
theorem grants_run (state : MemoryState) (ops : List MemoryOp) {grantId : String}
    {grant : GovernedScanGrant} (held : state.governedScanGrants[grantId]? = some grant) :
    (state.run ops).governedScanGrants[grantId]? = some grant :=
  Transition.run_invariant_along step (fun _ _ => True)
    (fun state => state.governedScanGrants[grantId]? = some grant)
    (fun state op held _ => grants_successor (step_successor state op) held) state ops held
    (Transition.along_of_forall _ state ops fun _ _ => trivial)

end MemoryState

section Normal

variable {odrl : Json} {policies : List Json} {restriction : FullReadRestriction}

theorem parseU64_lt {text : String} {value : Nat} (parsed : parseU64 text = some value) :
    value < 2 ^ 64 := by
  obtain ⟨-, small⟩ := Option.filter_eq_some_iff.mp parsed
  simpa using small

theorem asU64_lt {value : Json} {number : Nat} (read : value.asU64 = some number) :
    number < 2 ^ 64 := by
  cases value with
  | int held =>
      rw [Json.asU64] at read
      split at read
      next small =>
        cases read
        omega
      · cases read
  | null | bool | float | str | arr | obj => cases read

theorem ttlValue_lt {value : Json} {seconds : Nat} (read : ttlValue value = .ok seconds) :
    seconds < 2 ^ 64 := by
  rw [ttlValue, okOr_ok, jsonldU64Value, Option.or_eq_some_iff] at read
  rcases read with direct | ⟨-, wrapped⟩
  · exact asU64_lt direct
  · obtain ⟨inner, -, found⟩ := Option.bind_eq_some_iff.mp wrapped
    rcases Option.or_eq_some_iff.mp found with number | ⟨-, text⟩
    · exact asU64_lt number
    · obtain ⟨digits, -, parsed⟩ := Option.bind_eq_some_iff.mp text
      exact parseU64_lt parsed

theorem recognised_ttl_lt {seconds : Nat} {strict : Bool}
    (element : Recognises odrl (.ttl seconds strict)) : seconds < 2 ^ 64 := by
  cases element with
  | ttlSpelling _ read => exact ttlValue_lt read
  | ttlConstraint _ read =>
      simp only [ttlConstraint, constraintValue, bind_eq_ok] at read
      obtain ⟨value, -, -, -, own⟩ := read
      exact ttlValue_lt own

theorem rowPredicateValue_object {value predicate : Json}
    (read : rowPredicateValue value = .ok predicate) : predicate.isObject = true := by
  simp only [rowPredicateValue, bind_eq_ok, exists_unit, rejectIf_ok, pure_eq,
    Except.ok.injEq] at read
  obtain ⟨object, rfl⟩ := read
  simpa using object

theorem rowPredicateOf_object (readable : Readable odrl) (predicate : Json)
    (held : rowPredicateOf odrl = some predicate) : predicate.isObject = true := by
  have read := readable.rowPredicate
  rw [rowPredicateFromOdrl, held] at read
  cases spelled : spellings predicatePaths odrl with
  | cons value others =>
      simp only [spelled, bind_eq_ok, pure_eq, Except.ok.injEq, Option.some.injEq] at read
      obtain ⟨own, valued, rfl⟩ := read
      exact rowPredicateValue_object valued
  | nil =>
      simp only [spelled, bind_eq_ok, pure_eq, Except.ok.injEq] at read
      obtain ⟨predicates, collected, found⟩ := read
      refine combine_keeps (fun predicate => predicate.isObject = true) ?_ none _ (by simp) ?_
        predicate found
      · intro left right _ _
        rfl
      · intro bound member value present
        obtain ⟨own, listed, rfl⟩ := List.mem_map.mp member
        obtain ⟨constraint, -, stated⟩ := (mem_collect collected own).mp listed
        simp only [predicateConstraint, constraintValue, bind_eq_ok] at stated
        obtain ⟨operand, -, -, -, valued⟩ := stated
        cases present
        exact rowPredicateValue_object valued

variable [External]

/-- The restriction of a list of policies can be written and read back. -/
theorem normal_of_policies
    (composed : FullReadRestriction.fromOdrlPolicies policies = .ok restriction) :
    restriction.Normal := by
  have whole := (policies_composed policies .unrestricted restriction).mp composed
  constructor
  · intro null
    have object := combine_keeps (fun predicate => predicate.isObject = true)
      (fun left right _ _ => rfl) none (policies.map rowPredicateOf) (by simp)
      (fun bound member value present => by
        obtain ⟨odrl, listed, rfl⟩ := List.mem_map.mp member
        exact rowPredicateOf_object (whole.readable odrl listed) value present)
      .null (whole.rowPredicate.symm.trans null)
    cases object
  · intro seconds held
    obtain ⟨odrl, -, strict, element⟩ := whole.ttl_attained seconds held
    exact recognised_ttl_lt element

end Normal

section Issue

variable [External]

/-- How a grant comes to be issued. -/
structure IssuedFrom (catalogIdentity : String) (capability : TableScanCapability)
    (table : TableRecord) (scan : PlannedScan)
    (requestedProjection effectiveProjection : List String) (now : Timestamp)
    (grant : GovernedScanGrant) (purpose : String) (snapshotId : Int) (identityContext : Json) :
    Prop where
  stated : capability.restriction.purpose = some purpose
  planned : scan.snapshotId = some snapshotId
  current : currentSnapshotId table = some snapshotId
  verified : verifiedIdentityContext capability.receipt = .ok identityContext
  proof : GovernedScanProof.issue (grantEvidence catalogIdentity capability table scan purpose
    snapshotId effectiveProjection identityContext) = .ok grant.proof
  made : grant = grantOf capability table requestedProjection grant.proof now
  valid : grant.validate = .ok ()

theorem issueVerified_ok {catalogIdentity : String} {capability : TableScanCapability}
    {table : TableRecord} {scan : PlannedScan} {purpose : String} {snapshotId : Int}
    {requestedProjection effectiveProjection : List String} {now : Timestamp}
    {identityContext : Json} {grant : GovernedScanGrant}
    (issued : issueVerified catalogIdentity capability table scan purpose snapshotId
      requestedProjection effectiveProjection now identityContext = .ok (some grant)) :
    GovernedScanProof.issue (grantEvidence catalogIdentity capability table scan purpose
      snapshotId effectiveProjection identityContext) = .ok grant.proof ∧
      grant = grantOf capability table requestedProjection grant.proof now ∧
      grant.validate = .ok () := by
  simp only [issueVerified, bind_eq_ok, exists_unit, pure_eq, Except.ok.injEq,
    Option.some.injEq] at issued
  obtain ⟨proof, made, valid, rfl⟩ := issued
  exact ⟨made, rfl, valid⟩

omit [External] in
theorem withVerifiedIdentity_error (error : LakeCatError)
    (issue : Json → LakeCatResult (Option GovernedScanGrant)) (grant : GovernedScanGrant) :
    withVerifiedIdentity (.error error) issue ≠ .ok (some grant) := by
  cases error with
  | conflict message =>
      simp only [withVerifiedIdentity]
      split <;> simp
  | _ => simp [withVerifiedIdentity]

theorem issued_from {catalogIdentity : String} {capability : TableScanCapability}
    {table : TableRecord} {scan : PlannedScan}
    {requestedProjection effectiveProjection : List String} {now : Timestamp}
    {grant : GovernedScanGrant}
    (issued : issueGovernedScanGrant catalogIdentity capability table scan requestedProjection
      effectiveProjection now = .ok (some grant)) :
    ∃ purpose snapshotId identityContext, IssuedFrom catalogIdentity capability table scan
      requestedProjection effectiveProjection now grant purpose snapshotId identityContext := by
  cases held : capability.restriction.purpose with
  | none =>
      simp only [issueGovernedScanGrant, held] at issued
      cases issued
  | some purpose =>
      simp only [issueGovernedScanGrant, held, bind_eq_ok, exists_unit, okOr_ok, rejectIf_ok,
        not_not] at issued
      obtain ⟨snapshotId, planned, current, issued⟩ := issued
      cases verified : verifiedIdentityContext capability.receipt with
      | ok identityContext =>
          rw [verified] at issued
          obtain ⟨proof, made, valid⟩ := issueVerified_ok issued
          exact ⟨purpose, snapshotId, identityContext, held, planned, current, verified, proof,
            made, valid⟩
      | error error =>
          rw [verified] at issued
          exact absurd issued (withVerifiedIdentity_error error _ grant)

/-- What a proof says, apart from its identifier. -/
theorem issue_ok {evidence proof : GovernedScanProof}
    (issued : GovernedScanProof.issue evidence = .ok proof) :
    evidence.validateFields = .ok () ∧ proof = { evidence with
      version := governedScanProofVersion, grantId := evidence.proofDigest } := by
  simp only [GovernedScanProof.issue, bind_eq_ok, exists_unit, pure_eq, Except.ok.injEq] at issued
  exact ⟨issued.1, issued.2.symm⟩

end Issue

section Revalidate

variable [External]

/-- Everything that a revalidation looks at. -/
structure Revalidated (state : LakeCatState) (store : MemoryState) (presented : GovernedScanProof)
    (now : Timestamp) (grant : GovernedScanGrant) (table : TableRecord)
    (bindings : List PolicyBinding) (restriction : FullReadRestriction)
    (receipt : AuthorizationReceipt) : Prop where
  integrity : presented.validateIntegrity = .ok ()
  catalog : presented.catalogIdentity = state.catalogIdentity
  loaded : store.loadGovernedScanGrant presented.grantId = .ok grant
  proof : grant.proof = presented
  found : store.loadTable presented.table = .ok table
  evidence : validateTableEvidence grant table = .ok ()
  bound : store.policyBindingsForTable presented.table = .ok bindings
  composed : readRestrictionFromPolicyBindings bindings = .ok restriction
  authorized : freshAuthorization state grant restriction bindings now = .ok receipt
  freshRestriction : validateFreshRestriction grant restriction = .ok ()
  freshPolicy : validateFreshPolicy grant receipt restriction = .ok ()

theorem revalidate_ok {state : LakeCatState} {store : MemoryState}
    {presented : GovernedScanProof} {now : Timestamp} {result : RevalidatedGovernedScanGrant}
    (accepted : revalidateGovernedScanGrant state store presented now = .ok result) :
    ∃ grant table bindings restriction receipt,
      Revalidated state store presented now grant table bindings restriction receipt := by
  simp only [revalidateGovernedScanGrant, bind_eq_ok, exists_unit, rejectIf_ok, not_not] at accepted
  obtain ⟨integrity, catalog, grant, loaded, proof, table, found, evidence, bindings, bound,
    restriction, composed, receipt, authorized, restricted, policy, -, -⟩ := accepted
  exact ⟨grant, table, bindings, restriction, receipt, integrity, catalog, loaded, proof, found,
    evidence, bound, composed, authorized, restricted, policy⟩

theorem freshAuthorization_ok {state : LakeCatState} {grant : GovernedScanGrant}
    {restriction : FullReadRestriction} {bindings : List PolicyBinding} {now : Timestamp}
    {receipt : AuthorizationReceipt}
    (authorized : freshAuthorization state grant restriction bindings now = .ok receipt) :
    ∃ answer, state.governance now (freshRequest grant restriction bindings) = .ok answer ∧
      answer.allowed = true ∧ answer.withReadRestrictionPolicyHash = .ok receipt := by
  simp only [freshAuthorization, bind_eq_ok, exists_unit, rejectIf_ok,
    Bool.not_eq_false] at authorized
  exact authorized

theorem loadGovernedScanGrant_ok {store : MemoryState} {grantId : String}
    {grant : GovernedScanGrant} (loaded : store.loadGovernedScanGrant grantId = .ok grant) :
    store.governedScanGrants[grantId]? = some grant := by
  simp only [MemoryState.loadGovernedScanGrant, bind_eq_ok, exists_unit, okOr_ok, pure_eq,
    Except.ok.injEq] at loaded
  obtain ⟨-, stored, found, -, rfl⟩ := loaded
  exact found

/-- The two documents do not have one hash. -/
def NoCollision (hash : Json → String) (one other : Json) : Prop :=
  hash one = hash other → one = other

/-- The digests that are compared have no collisions. -/
structure DigestsFaithful (store : MemoryState) (capability : TableScanCapability)
    (table : TableRecord) : Prop where
  metadata : ∀ current, store.loadTable capability.table = .ok current →
    NoCollision (governedEvidenceDigest tableMetadataDomain) current.metadata table.metadata
  restriction : ∀ bindings restriction,
    store.policyBindingsForTable capability.table = .ok bindings →
    readRestrictionFromPolicyBindings bindings = .ok restriction →
    NoCollision (governedEvidenceDigest restrictionDomain) restriction.toJson
      capability.restriction.toJson

/-- The engine allows the scan, and the catalog and its policies are what they were. -/
structure AsIssued (state : LakeCatState) (store : MemoryState) (now : Timestamp)
    (capability : TableScanCapability) (table : TableRecord) (scan : PlannedScan)
    (requestedProjection effectiveProjection : List String) (purpose : String) : Prop where
  allowed : ∃ request receipt, state.governance now request = .ok receipt ∧
    receipt.allowed = true ∧ request.principal = capability.receipt.principal ∧
    request.action = .tablePlanScan ∧ request.table = some capability.table
  table : ∃ current, store.loadTable capability.table = .ok current ∧
    current.ident = capability.table ∧ current.version = table.version ∧
    current.metadata = table.metadata ∧ currentSnapshotId current = scan.snapshotId
  restriction : ∃ bindings, store.policyBindingsForTable capability.table = .ok bindings ∧
    readRestrictionFromPolicyBindings bindings = .ok capability.restriction
  purpose : capability.restriction.purpose = some purpose
  projection :
    capability.restriction.effectiveProjection requestedProjection = .ok effectiveProjection

omit [External] in
theorem receiptRestriction_normal {receipt : AuthorizationReceipt}
    {restriction : FullReadRestriction} (decoded : receiptRestriction receipt = some restriction) :
    restriction.Normal := by
  rw [receiptRestriction] at decoded
  split at decoded
  · exact FullReadRestriction.normal_of_fromJson decoded
  · cases decoded
    exact ⟨nofun, nofun⟩

omit [External] in
/-- A grant that is found in the store is the one that is saved, but for its date. -/
theorem sameStableEvidence_eq {stored grant : GovernedScanGrant}
    (same : stored = grant ∨ stored.hasSameStableEvidence grant = true) :
    stored = { grant with issuedAt := stored.issuedAt } := by
  rcases same with rfl | same
  · rfl
  · simp only [GovernedScanGrant.hasSameStableEvidence, Bool.and_eq_true,
      decide_eq_true_eq] at same
    obtain ⟨⟨⟨⟨⟨⟨⟨proof, principal⟩, projection⟩, engine⟩, hash⟩, context⟩, restriction⟩,
      metadata⟩ := same
    rw [← proof, ← principal, ← projection, ← engine, ← hash, ← context, ← restriction, ← metadata]

theorem validateFreshRestriction_ok {grant : GovernedScanGrant}
    {restriction : FullReadRestriction} :
    validateFreshRestriction grant restriction = .ok () ↔
      restriction.purpose = some grant.proof.purpose ∧
        restriction.effectiveProjection grant.requestedProjection =
          .ok grant.proof.effectiveProjection ∧
        restrictionDigest restriction = grant.readRestrictionDigest := by
  simp only [validateFreshRestriction, bind_eq_ok, exists_unit, rejectIf_ok, not_not]
  constructor
  · rintro ⟨purpose, projection, effective, rfl, digest⟩
    exact ⟨purpose, effective, digest⟩
  · rintro ⟨purpose, effective, digest⟩
    exact ⟨purpose, _, effective, rfl, digest⟩

theorem validateTableEvidence_ok {grant : GovernedScanGrant} {table : TableRecord} :
    validateTableEvidence grant table = .ok () ↔
      currentSnapshotId table = some grant.proof.snapshotId ∧
        table.version = grant.proof.tableVersion ∧
        governedEvidenceDigest tableMetadataDomain table.metadata = grant.tableMetadataDigest := by
  simp only [validateTableEvidence, bind_eq_ok, okOr_ok, rejectIf_ok, not_or, not_not]
  constructor
  · rintro ⟨snapshotId, current, rfl, version, digest⟩
    exact ⟨current, version, digest⟩
  · rintro ⟨current, version, digest⟩
    exact ⟨_, current, rfl, version, digest⟩

/-- Whoever presents the identifier of an issued grant gets through only with the proof that was
issued, and only while everything is as it was. -/
theorem revalidation_sound {state : LakeCatState} {capability : TableScanCapability}
    {table : TableRecord} {scan : PlannedScan}
    {requestedProjection effectiveProjection : List String} {issuedAt now : Timestamp}
    {grant stored : GovernedScanGrant} {before after : MemoryState}
    {presented : GovernedScanProof} {result : RevalidatedGovernedScanGrant}
    (issued : issueGovernedScanGrant state.catalogIdentity capability table scan
      requestedProjection effectiveProjection issuedAt = .ok (some grant))
    (saved : before.saveGovernedScanGrant grant = .ok (stored, after)) (ops : List MemoryOp)
    (faithful : DigestsFaithful (after.run ops) capability table)
    (named : presented.grantId = grant.proof.grantId)
    (accepted : revalidateGovernedScanGrant state (after.run ops) presented now = .ok result) :
    presented = grant.proof ∧ AsIssued state (after.run ops) now capability table scan
      requestedProjection effectiveProjection presented.purpose := by
  obtain ⟨purpose, snapshotId, identityContext, from_⟩ := issued_from issued
  obtain ⟨grants, left, -, kept, stable⟩ :=
    MemoryState.saveGovernedScanGrant_ok before after grant stored saved
  have present : (after.run ops).governedScanGrants[grant.proof.grantId]? = some stored :=
    MemoryState.grants_run after ops (by rw [left]; exact kept)
  obtain ⟨loaded, current, bindings, restriction, receipt, checks⟩ := revalidate_ok accepted
  have same : loaded = stored := by
    have found := loadGovernedScanGrant_ok checks.loaded
    rw [named, present] at found
    exact (Option.some.inj found).symm
  subst same
  have evidence := sameStableEvidence_eq stable
  have sameProof : loaded.proof = grant.proof := by rw [evidence]
  have samePrincipal : loaded.principal = grant.principal := by rw [evidence]
  have sameRequested : loaded.requestedProjection = grant.requestedProjection := by rw [evidence]
  have sameRestriction : loaded.readRestrictionDigest = grant.readRestrictionDigest := by
    rw [evidence]
  have sameMetadata : loaded.tableMetadataDigest = grant.tableMetadataDigest := by rw [evidence]
  have shown : presented = grant.proof := checks.proof.symm.trans sameProof
  obtain ⟨-, proof⟩ := issue_ok from_.proof
  have ident : grant.proof.table = capability.table := by rw [proof]; rfl
  have principal : grant.principal = capability.receipt.principal := by rw [from_.made]; rfl
  have found : (after.run ops).loadTable capability.table = .ok current := by
    rw [← ident, ← shown]
    exact checks.found
  have bound : (after.run ops).policyBindingsForTable capability.table = .ok bindings := by
    rw [← ident, ← shown]
    exact checks.bound
  obtain ⟨snapshot, version, metadata⟩ := validateTableEvidence_ok.mp checks.evidence
  obtain ⟨stated, effective, digest⟩ := validateFreshRestriction_ok.mp checks.freshRestriction
  rw [sameProof] at snapshot version stated effective
  rw [sameRequested] at effective
  have metadataSame : current.metadata = table.metadata := by
    refine faithful.metadata current found ?_
    rw [sameMetadata, from_.made] at metadata
    exact metadata
  have restrictionSame : restriction = capability.restriction := by
    refine FullReadRestriction.toJson_injective (normal_of_policies checks.composed)
      (receiptRestriction_normal capability.decoded) ?_
    refine faithful.restriction bindings restriction bound checks.composed ?_
    rw [sameRestriction, from_.made] at digest
    exact digest
  subst restrictionSame
  refine ⟨shown, ?_, ⟨current, found, ?_, ?_, metadataSame, ?_⟩, ⟨bindings, bound, checks.composed⟩,
    ?_, ?_⟩
  · obtain ⟨answer, answered, allowed, -⟩ := freshAuthorization_ok checks.authorized
    refine ⟨_, answer, answered, allowed, ?_, rfl, ?_⟩
    · rw [freshRequest, samePrincipal, principal]
    · rw [freshRequest, sameProof, ident]
  · exact ((MemoryState.loadTable_ok _ _ _).mp found).2.2.2
  · rw [version, proof]
    rfl
  · rw [snapshot, proof, from_.planned]
    rfl
  · rw [shown]
    exact stated
  · have sameRequest : grant.requestedProjection = requestedProjection := by rw [from_.made]; rfl
    have sameEffect : grant.proof.effectiveProjection = effectiveProjection := by rw [proof]; rfl
    rw [← sameRequest, ← sameEffect]
    exact effective

end Revalidate

end LakeCat
