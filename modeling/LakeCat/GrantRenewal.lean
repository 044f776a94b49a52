import LakeCat.EventIds
import LakeCat.ScanAuthorization

/-!
Grants that nothing speaks against. Over an unchanged catalog every check of a
revalidation passes but one: the policy decision is compared by a digest that
has the engine's own hash in it, and one of the two engines hashes the context
of the request.
-/

namespace LakeCat

open Fallible

section Honest

variable [External]

/-- A grant that a scan request of a verified principal left behind. -/
structure HonestGrant (engine : RepositoryEngine) (state : LakeCatState) (store : MemoryState)
    (identity : RequestIdentity) (ident : TableIdent) (capability : TableScanCapability)
    (table : TableRecord) (scan : PlannedScan)
    (requestedProjection effectiveProjection : List String)
    (authorizedAt issuedAt : Timestamp) (grant : GovernedScanGrant) : Prop where
  governance : state.governance = engine.governance
  authorized : authorizeTableScan state store identity ident authorizedAt = .ok capability
  loaded : store.loadTable ident = .ok table
  projected :
    capability.restriction.effectiveProjection requestedProjection = .ok effectiveProjection
  issued : issueGovernedScanGrant state.catalogIdentity capability table scan
    requestedProjection effectiveProjection issuedAt = .ok (some grant)

/-- The table and the policies are what the grant was issued for. -/
structure Unchanged (store later : MemoryState) (ident : TableIdent) : Prop where
  table : later.loadTable ident = store.loadTable ident
  bindings : later.policyBindingsForTable ident = store.policyBindingsForTable ident

variable {engine : RepositoryEngine} {state : LakeCatState} {store : MemoryState}
  {identity : RequestIdentity} {ident : TableIdent} {capability : TableScanCapability}
  {authorizedAt : Timestamp}

theorem validateFreshPolicy_ok {grant : GovernedScanGrant} {receipt : AuthorizationReceipt}
    {restriction : FullReadRestriction} :
    validateFreshPolicy grant receipt restriction = .ok () ↔
      receipt.principal = grant.principal ∧ receipt.action = .tablePlanScan ∧
        receipt.table = some grant.proof.table ∧ receipt.allowed = true ∧
        receiptRestriction receipt = some restriction ∧
        policyDigest receipt restriction = grant.proof.policyDecisionDigest := by
  simp only [validateFreshPolicy, bind_eq_ok, exists_unit, rejectIf_ok, not_or, not_not,
    fromReceipt_ok]
  constructor
  · rintro ⟨⟨principal, action, table⟩, fresh, ⟨rfl, same⟩, rfl, digest⟩
    exact ⟨principal, action, table, fresh.allowed, fresh.decoded, digest⟩
  · rintro ⟨principal, action, table, allowed, decoded, digest⟩
    exact ⟨⟨principal, action, table⟩,
      ⟨receipt, grant.proof.table, restriction, allowed, action, table, decoded⟩, ⟨rfl, rfl⟩, rfl,
      digest⟩

/-- The receipt that a revalidation gets from the engine. -/
def freshReceipt (engine : RepositoryEngine) (grant : GovernedScanGrant)
    (restriction : FullReadRestriction) (bindings : List PolicyBinding) (now : Timestamp) :
    AuthorizationReceipt :=
  (engine.answer now (freshRequest grant restriction bindings)).hashed restriction

omit [External] in
theorem freshContext_get (grant : GovernedScanGrant) (restriction : FullReadRestriction)
    (bindings : List PolicyBinding) :
    (freshContext grant restriction bindings).get "read-restriction" = some restriction.toJson ∧
      (freshContext grant restriction bindings).get "governed-scan-grant-id" =
        some (.str grant.proof.grantId) := by
  constructor <;> simp [freshContext, List.lookup]

theorem freshAuthorization_eq (governed : state.governance = engine.governance)
    {grant : GovernedScanGrant} {restriction : FullReadRestriction} {bindings : List PolicyBinding}
    {now : Timestamp} (normal : restriction.Normal)
    (allowed : engine.allows (freshRequest grant restriction bindings) = true) :
    freshAuthorization state grant restriction bindings now =
      .ok (freshReceipt engine grant restriction bindings now) := by
  have written : (engine.answer now (freshRequest grant restriction bindings)).context.get
      "read-restriction" = some restriction.toJson :=
    (freshContext_get grant restriction bindings).1
  have hashed := withReadRestrictionPolicyHash_eq written normal
  have accepted : ¬(engine.answer now (freshRequest grant restriction bindings)).allowed = false := by
    rw [RepositoryEngine.answer]
    simpa using allowed
  rw [freshAuthorization, governed, engine.governance_answer, ok_bind, rejectIf_neg _ accepted,
    ok_bind, hashed, freshReceipt]

variable {table : TableRecord} {scan : PlannedScan}
  {requestedProjection effectiveProjection : List String} {issuedAt : Timestamp}
  {grant stored : GovernedScanGrant} {before after : MemoryState}

theorem integrity_of_valid (valid : grant.validate = .ok ()) :
    grant.proof.validateIntegrity = .ok () ∧
      validateGovernedScanGrantId grant.proof.grantId = .ok () := by
  simp only [GovernedScanGrant.validate, bind_eq_ok, exists_unit] at valid
  obtain ⟨-, -, -, -, -, integrity, -⟩ := valid
  refine ⟨integrity, ?_⟩
  simp only [GovernedScanProof.validateIntegrity, GovernedScanProof.validateStructure, bind_eq_ok,
    exists_unit] at integrity
  exact integrity.1.2.1

/-- The grant that is found in the store passes every check that does not look at the engine. -/
structure Reloaded (state : LakeCatState) (later : MemoryState) (table : TableRecord)
    (bindings : List PolicyBinding) (restriction : FullReadRestriction)
    (grant stored : GovernedScanGrant) : Prop where
  evidence : stored = { grant with issuedAt := stored.issuedAt }
  integrity : grant.proof.validateIntegrity = .ok ()
  catalog : grant.proof.catalogIdentity = state.catalogIdentity
  loaded : later.loadGovernedScanGrant grant.proof.grantId = .ok stored
  found : later.loadTable grant.proof.table = .ok table
  current : validateTableEvidence stored table = .ok ()
  bound : later.policyBindingsForTable grant.proof.table = .ok bindings
  composed : readRestrictionFromPolicyBindings bindings = .ok restriction
  restricted : validateFreshRestriction stored restriction = .ok ()

theorem reloaded {purpose : String} {snapshotId : Int} {identityContext : Json}
    {bindings : List PolicyBinding}
    (from_ : IssuedFrom state.catalogIdentity capability table scan requestedProjection
      effectiveProjection issuedAt grant purpose snapshotId identityContext)
    (under : AuthorizedUnder engine store identity ident capability authorizedAt bindings)
    (honest : HonestGrant engine state store identity ident capability table scan
      requestedProjection effectiveProjection authorizedAt issuedAt grant)
    (saved : before.saveGovernedScanGrant grant = .ok (stored, after)) (ops : List MemoryOp)
    (unchanged : Unchanged store (after.run ops) ident) :
    Reloaded state (after.run ops) table bindings capability.restriction grant stored := by
  obtain ⟨grants, left, -, kept, stable⟩ :=
    MemoryState.saveGovernedScanGrant_ok before after grant stored saved
  have evidence := sameStableEvidence_eq stable
  obtain ⟨-, proof⟩ := issue_ok from_.proof
  obtain ⟨integrity, named⟩ := integrity_of_valid from_.valid
  have held : (after.run ops).governedScanGrants[grant.proof.grantId]? = some stored :=
    MemoryState.grants_run after ops (by rw [left]; exact kept)
  have valid : stored.validate = .ok () := by
    rw [evidence]
    exact from_.valid
  have owner : grant.proof.table = ident := by
    rw [proof]
    exact under.table
  refine ⟨evidence, integrity, ?_, ?_, ?_, ?_, ?_, under.composed, ?_⟩
  · rw [proof]
    rfl
  · rw [MemoryState.loadGovernedScanGrant, named, ok_bind, held, okOr_some, ok_bind, valid, ok_bind,
      pure_eq]
  · rw [owner, unchanged.table]
    exact honest.loaded
  · refine validateTableEvidence_ok.mpr ⟨?_, ?_, ?_⟩
    · rw [evidence, proof]
      exact from_.current
    · rw [evidence, proof]
      rfl
    · rw [evidence, from_.made]
      rfl
  · rw [owner, unchanged.bindings]
    exact under.bound
  · refine validateFreshRestriction_ok.mpr ⟨?_, ?_, ?_⟩
    · rw [evidence, proof]
      exact from_.stated
    · rw [evidence, proof, from_.made]
      exact honest.projected
    · rw [evidence, from_.made]
      rfl

/-- A revalidation asks for what the scan was allowed, in a context of its own. -/
theorem freshRequest_eq {purpose : String} {snapshotId : Int} {identityContext : Json}
    (from_ : IssuedFrom state.catalogIdentity capability table scan requestedProjection
      effectiveProjection issuedAt grant purpose snapshotId identityContext)
    (bindings : List PolicyBinding) :
    freshRequest grant capability.restriction bindings =
      ⟨capability.receipt.principal, .tablePlanScan, some capability.table,
        freshContext grant capability.restriction bindings⟩ := by
  have principal : grant.principal = capability.receipt.principal := by rw [from_.made]; rfl
  obtain ⟨-, proof⟩ := issue_ok from_.proof
  rw [freshRequest, principal, proof]
  rfl

/-- All that can speak against an honest grant is the digest of the policy decision. -/
theorem revalidates_iff_digest {bindings : List PolicyBinding}
    (under : AuthorizedUnder engine store identity ident capability authorizedAt bindings)
    (honest : HonestGrant engine state store identity ident capability table scan
      requestedProjection effectiveProjection authorizedAt issuedAt grant)
    (saved : before.saveGovernedScanGrant grant = .ok (stored, after)) (ops : List MemoryOp)
    (unchanged : Unchanged store (after.run ops) ident) (now : Timestamp) :
    (∃ result, revalidateGovernedScanGrant state (after.run ops) grant.proof now = .ok result) ↔
      policyDigest (freshReceipt engine grant capability.restriction bindings now)
        capability.restriction = policyDigest capability.receipt capability.restriction := by
  obtain ⟨purpose, snapshotId, identityContext, from_⟩ := issued_from honest.issued
  have checks := reloaded from_ under honest saved ops unchanged
  have normal := receiptRestriction_normal capability.decoded
  obtain ⟨-, proof⟩ := issue_ok from_.proof
  have asked : freshRequest stored capability.restriction bindings =
      freshRequest grant capability.restriction bindings := by rw [checks.evidence]; rfl
  have request := freshRequest_eq from_ bindings
  have allowed : engine.allows (freshRequest grant capability.restriction bindings) = true := by
    have planned := capability.allowed
    rw [under.receipt, hashed_allowed] at planned
    have decided : engine.allows (freshRequest grant capability.restriction bindings) =
        engine.allows (plannedRequest capability) := by
      rw [request]
      exact engine.allows_congr rfl rfl rfl
    rw [decided]
    exact planned
  have fresh : freshAuthorization state stored capability.restriction bindings now =
      .ok (freshReceipt engine grant capability.restriction bindings now) := by
    rw [← asked] at allowed
    have receipt := @freshAuthorization_eq _ engine state honest.governance _ _ _ now normal allowed
    rw [freshReceipt, asked] at receipt
    exact receipt
  have decision : stored.proof.policyDecisionDigest =
      policyDigest capability.receipt capability.restriction := by
    rw [checks.evidence, proof]
    rfl
  have policy : validateFreshPolicy stored
      (freshReceipt engine grant capability.restriction bindings now) capability.restriction =
        .ok () ↔ policyDigest (freshReceipt engine grant capability.restriction bindings now)
          capability.restriction = policyDigest capability.receipt capability.restriction := by
    rw [validateFreshPolicy_ok, decision]
    refine ⟨fun passed => passed.2.2.2.2.2, fun digest => ⟨?_, ?_, ?_, ?_, ?_, digest⟩⟩
    · rw [freshReceipt, hashed_principal, checks.evidence]
      rfl
    · rw [freshReceipt, hashed_action]
      rfl
    · rw [freshReceipt, hashed_table, checks.evidence]
      rfl
    · rw [freshReceipt, hashed_allowed]
      exact allowed
    · rw [receiptRestriction, freshReceipt, hashed_context]
      have written := (freshContext_get grant capability.restriction bindings).1
      rw [RepositoryEngine.answer, freshRequest, written]
      exact FullReadRestriction.fromJson_toJson normal
  rw [← policy]
  constructor
  · rintro ⟨result, accepted⟩
    obtain ⟨loaded, current, found, restriction, receipt, passed⟩ := revalidate_ok accepted
    cases checks.loaded.symm.trans passed.loaded
    cases checks.bound.symm.trans passed.bound
    cases checks.composed.symm.trans passed.composed
    cases fresh.symm.trans passed.authorized
    exact passed.freshPolicy
  · intro passed
    have same : stored.proof = grant.proof := by rw [checks.evidence]
    simp only [revalidateGovernedScanGrant, checks.integrity, checks.catalog, checks.loaded, same,
      checks.found, checks.current, checks.bound, checks.composed, fresh, checks.restricted, passed,
      ok_bind, ne_eq, not_true_eq_false, rejectIf_neg, not_false_eq_true, pure_eq,
      Except.ok.injEq, exists_eq']

/-- The hashes that go into a policy decision of TypeSec have no collisions between the two
requests. -/
structure DecisionsFaithful (engine : PolicyEngine) (one other : AuthorizationRequest)
    (restriction : FullReadRestriction) : Prop where
  contexts : NoCollision contentHashJson one.context other.context
  decisions : NoCollision contentHashJson
    (typeSecDocument one (engine one.principal.subject (actionName one.action) (resourceName one)))
    (typeSecDocument other
      (engine other.principal.subject (actionName other.action) (resourceName other)))
  hashes : ∀ now later, NoCollision contentHashJson
    (((RepositoryEngine.typeSec engine).answer now one).policyHashDocument
      restriction.policyHashes)
    (((RepositoryEngine.typeSec engine).answer later other).policyHashDocument
      restriction.policyHashes)
  policies : ∀ now later, NoCollision (contentHashDomainJson policyDomain)
    (policyDocument (((RepositoryEngine.typeSec engine).answer now one).hashed restriction)
      restriction)
    (policyDocument (((RepositoryEngine.typeSec engine).answer later other).hashed restriction)
      restriction)

omit [External] in
theorem policyDocument_hash {one other : AuthorizationReceipt} {restriction : FullReadRestriction}
    (same : policyDocument one restriction = policyDocument other restriction) :
    one.policyHash = other.policyHash := by
  have field := congrArg (fun document => document.get "policyHash") same
  simp [policyDocument, List.lookup] at field
  exact ofOptionStr_injective field

omit [External] in
theorem policyHashDocument_hash {one other : AuthorizationReceipt} {policyHashes : List String}
    (same : one.policyHashDocument policyHashes = other.policyHashDocument policyHashes) :
    one.policyHash = other.policyHash := by
  have field := congrArg (fun document => document.get "governance-policy-hash") same
  simp [AuthorizationReceipt.policyHashDocument, List.lookup] at field
  exact ofOptionStr_injective field

theorem typeSecDocument_context {one other : AuthorizationRequest} {first second : PolicyResult}
    (same : typeSecDocument one first = typeSecDocument other second) :
    contentHashJson one.context = contentHashJson other.context := by
  have field := congrArg (fun document => document.get "context-hash") same
  simpa [typeSecDocument, List.lookup] using field

/-- Without collisions one digest means one context. -/
theorem typeSec_context_eq {policyEngine : PolicyEngine} {one other : AuthorizationRequest}
    {restriction : FullReadRestriction} {now later : Timestamp}
    (faithful : DecisionsFaithful policyEngine one other restriction)
    (same : policyDigest (((RepositoryEngine.typeSec policyEngine).answer now one).hashed restriction)
        restriction =
      policyDigest (((RepositoryEngine.typeSec policyEngine).answer later other).hashed restriction)
        restriction) : one.context = other.context := by
  have hash := policyDocument_hash (faithful.policies now later same)
  have own : (RepositoryEngine.typeSec policyEngine).ownHash one =
      (RepositoryEngine.typeSec policyEngine).ownHash other := by
    by_cases empty : restriction.policyHashes = []
    · rw [AuthorizationReceipt.hashed, AuthorizationReceipt.hashed, if_pos empty,
        if_pos empty] at hash
      exact hash
    · rw [AuthorizationReceipt.hashed, AuthorizationReceipt.hashed, if_neg empty,
        if_neg empty] at hash
      exact policyHashDocument_hash (faithful.hashes now later (Option.some.inj hash))
  exact faithful.contexts (typeSecDocument_context (faithful.decisions (Option.some.inj own)))

/-- The context of a planned scan has no grant in it. -/
theorem planned_context_ne {bindings : List PolicyBinding}
    (under : AuthorizedUnder engine store identity ident capability authorizedAt bindings) :
    (plannedRequest capability).context ≠
      (freshRequest grant capability.restriction bindings).context := by
  intro same
  have stored := (freshContext_get grant capability.restriction bindings).2
  have planned : (plannedRequest capability).context.get "governed-scan-grant-id" = none := by
    rw [plannedRequest, under.context, Json.get_set _ _ _ _ rfl, if_neg (by decide),
      baseContext_get]
    simp
  rw [same, freshRequest, stored] at planned
  cases planned

/-- The engine that hashes nothing of its own decides as it did. -/
theorem allowAll_digest {bindings : List PolicyBinding} {purpose : String} {snapshotId : Int}
    {identityContext : Json}
    (under : AuthorizedUnder .allowAll store identity ident capability authorizedAt bindings)
    (from_ : IssuedFrom state.catalogIdentity capability table scan requestedProjection
      effectiveProjection issuedAt grant purpose snapshotId identityContext) (now : Timestamp) :
    policyDigest (freshReceipt .allowAll grant capability.restriction bindings now)
      capability.restriction = policyDigest capability.receipt capability.restriction := by
  rw [under.receipt, freshReceipt, freshRequest_eq from_ bindings]
  by_cases empty : capability.restriction.policyHashes = []
  · simp only [AuthorizationReceipt.hashed, empty, if_true]
    rfl
  · simp only [AuthorizationReceipt.hashed, empty, if_false]
    rfl

/-- TypeSec's engine never decides as it did. -/
theorem typeSec_digest_ne {policyEngine : PolicyEngine} {bindings : List PolicyBinding}
    (under : AuthorizedUnder (.typeSec policyEngine) store identity ident capability authorizedAt
      bindings)
    (faithful : DecisionsFaithful policyEngine (plannedRequest capability)
      (freshRequest grant capability.restriction bindings) capability.restriction)
    (now : Timestamp) :
    policyDigest (freshReceipt (.typeSec policyEngine) grant capability.restriction bindings now)
      capability.restriction ≠ policyDigest capability.receipt capability.restriction := by
  intro same
  rw [under.receipt] at same
  exact planned_context_ne under (typeSec_context_eq faithful same.symm)

/-- An honest grant passes at every later time just when the engine is not TypeSec's. -/
theorem honestGrant_revalidates_iff
    (honest : HonestGrant engine state store identity ident capability table scan
      requestedProjection effectiveProjection authorizedAt issuedAt grant)
    (saved : before.saveGovernedScanGrant grant = .ok (stored, after)) (ops : List MemoryOp)
    (unchanged : Unchanged store (after.run ops) ident)
    (faithful : ∀ policyEngine bindings, engine = .typeSec policyEngine →
      store.policyBindingsForTable ident = .ok bindings →
      DecisionsFaithful policyEngine (plannedRequest capability)
        (freshRequest grant capability.restriction bindings) capability.restriction) :
    (∀ now, ∃ result,
        revalidateGovernedScanGrant state (after.run ops) grant.proof now = .ok result) ↔
      engine = .allowAll := by
  obtain ⟨purpose, snapshotId, identityContext, from_⟩ := issued_from honest.issued
  obtain ⟨bindings, under⟩ := authorized_under honest.governance honest.authorized from_.stated
  have decided := revalidates_iff_digest under honest saved ops unchanged
  constructor
  · intro accepted
    cases engine with
    | allowAll => rfl
    | typeSec policyEngine =>
        have same := (decided authorizedAt).mp (accepted authorizedAt)
        exact absurd same
          (typeSec_digest_ne under (faithful policyEngine bindings rfl under.bound) authorizedAt)
  · rintro rfl now
    exact (decided now).mpr (allowAll_digest under from_ now)

end Honest

section Samples

def auditIdentity : RequestIdentity :=
  ⟨⟨"alice", .human⟩, .obj [("principal", Principal.toJson ⟨"alice", .human⟩)]⟩

def auditTable : TableRecord :=
  .new sampleIdent "s3://lake/orders" none
    (.obj [("current-snapshot-id", .int 1), ("format-version", .int 2)]) .anonymous 0

def auditBinding : PolicyBinding :=
  ⟨"audit", sampleIdent.warehouse, none, none, true, .obj [("purpose", .str "audit")], 0⟩

variable [External]

/-- One table under one policy, which states a purpose. -/
def auditStore : MemoryState :=
  MemoryState.empty.run [.createNamespace sampleIdent.warehouse sampleIdent.ns .default,
    .createTable auditTable, .upsertPolicyBinding auditBinding]

def auditRestriction : FullReadRestriction where
  allowedColumns := none
  rowPredicate := none
  purpose := some "audit"
  maxCredentialTtlSeconds := none
  policyHashes := [contentHashJson auditBinding.odrl]

def auditScan : PlannedScan := ⟨some 1, []⟩

def auditState (engine : RepositoryEngine) : LakeCatState :=
  ⟨sampleIdent.warehouse, "catalog", engine.governance⟩

theorem auditStore_bindings :
    auditStore.policyBindingsForTable sampleIdent = .ok [auditBinding] := by
  have listed : auditStore.policyBindings.toList =
      [(policyBindingKey auditBinding.warehouse auditBinding.policyId, auditBinding)] := rfl
  have kept : collect (fun (entry : String × PolicyBinding) => do
      validatePolicyBindingMapScope entry.2 entry.1
      return entry.2) [(policyBindingKey auditBinding.warehouse auditBinding.policyId,
        auditBinding)] = .ok [auditBinding] := rfl
  have applies : [auditBinding].filter (fun binding => binding.enforced &&
      binding.appliesToTable sampleIdent) = [auditBinding] := rfl
  rw [MemoryState.policyBindingsForTable, listed, kept, ok_bind, applies, pure_eq,
    List.mergeSort_singleton]

def auditProof (capability : TableScanCapability) : GovernedScanProof :=
  let evidence := grantEvidence "catalog" capability auditTable auditScan "audit" 1 ["id"]
    auditIdentity.envelope
  { evidence with version := governedScanProofVersion, grantId := evidence.proofDigest }

/-- The capability for the one scan of the sample. -/
structure ForAudit (engine : RepositoryEngine) (capability : TableScanCapability) : Prop where
  table : capability.table = sampleIdent
  restriction : capability.restriction = auditRestriction
  receipt : ∃ now, capability.receipt = (engine.answer now
    (scanRequest auditIdentity sampleIdent [auditBinding] auditRestriction)).hashed auditRestriction

section Capability

variable {engine : RepositoryEngine} {capability : TableScanCapability}

theorem ForAudit.principal (audit : ForAudit engine capability) :
    capability.receipt.principal = ⟨"alice", .human⟩ := by
  obtain ⟨now, receipt⟩ := audit.receipt
  rw [receipt, hashed_principal]
  rfl

theorem ForAudit.engine_name (audit : ForAudit engine capability) :
    capability.receipt.engine = engine.name := by
  obtain ⟨now, receipt⟩ := audit.receipt
  rw [receipt, hashed_engine]
  rfl

theorem ForAudit.verified (audit : ForAudit engine capability) :
    verifiedIdentityContext capability.receipt = .ok auditIdentity.envelope := by
  obtain ⟨now, receipt⟩ := audit.receipt
  have context : capability.receipt.context.get "request-identity" =
      some auditIdentity.envelope := by
    rw [receipt, hashed_context]
    exact scanRequest_get.2
  rw [verifiedIdentityContext, context, audit.principal]
  rfl

theorem ForAudit.proof (audit : ForAudit engine capability) :
    (auditProof capability).validateFields = .ok () := by
  have named : validateGovernedScanTable sampleIdent = .ok () := by decide
  have projected : validateGovernedScanProjection ["id"] = .ok () := by decide
  have texts : validateGovernedScanText "catalog" = .ok () ∧
      validateGovernedScanText "alice" = .ok () ∧ validateGovernedScanText "audit" = .ok () := by
    decide
  simp only [GovernedScanProof.validateFields, auditProof, grantEvidence, audit.table,
    audit.principal, named, projected, texts, ok_bind, checkEach, governedPlanDigest,
    authorizationDigest, policyDigest, governedEvidenceDigest, contentHashDomainJson,
    validateGovernedSha256Digest_hash]
  rfl

theorem ForAudit.integrity (audit : ForAudit engine capability) :
    (auditProof capability).validateIntegrity = .ok () := by
  have digest : validateGovernedSha256Digest (auditProof capability).grantId "grant id" = .ok () :=
    validateGovernedSha256Digest_hash _ _
  rw [GovernedScanProof.validateIntegrity, GovernedScanProof.validateStructure, digest, audit.proof]
  simp only [auditProof, ne_eq, not_true_eq_false, not_false_eq_true, rejectIf_neg, ok_bind]
  exact rejectIf_neg _ (not_not.mpr rfl)

theorem ForAudit.valid (audit : ForAudit engine capability) :
    (grantOf capability auditTable ["id"] (auditProof capability) 0).validate = .ok () := by
  have projected : validateGovernedScanRequestedProjection ["id"] = .ok () := by decide
  have subject : validateGovernedScanText "alice" = .ok () := by decide
  have allowAll : validateGovernedScanText "lakecat-allow-all-local" = .ok () := by decide
  have typeSec : validateGovernedScanText "typesec" = .ok () := by decide
  have engines : validateGovernedScanText engine.name = .ok () := by
    cases engine with
    | allowAll => exact allowAll
    | typeSec => exact typeSec
  have hashes : checkSome (fun digest => validateGovernedSha256Digest digest "policy")
      (capability.receipt.policyHash.map fun hash =>
        contentHashBytes (policyHashDomain ++ "\x00" ++ (Json.str hash).compact)) = .ok () := by
    cases capability.receipt.policyHash with
    | none => rfl
    | some hash => exact validateGovernedSha256Digest_hash _ _
  have owner : ¬"alice" ≠ (auditProof capability).principalSubject := by
    rw [auditProof, grantEvidence, audit.principal, not_not]
  simp only [GovernedScanGrant.validate, grantOf, audit.principal, audit.engine_name, projected,
    subject, engines, ok_bind, checkEach, restrictionDigest, governedEvidenceDigest,
    contentHashDomainJson, validateGovernedSha256Digest_hash, audit.integrity, hashes,
    rejectIf_neg _ owner]

theorem ForAudit.issued (audit : ForAudit engine capability) :
    issueGovernedScanGrant "catalog" capability auditTable auditScan ["id"] ["id"] 0 =
      .ok (some (grantOf capability auditTable ["id"] (auditProof capability) 0)) := by
  have purpose : capability.restriction.purpose = some "audit" := by
    rw [audit.restriction]
    rfl
  have planned : auditScan.snapshotId = some 1 := rfl
  have current : ¬currentSnapshotId auditTable ≠ some 1 := by decide
  have proof : GovernedScanProof.issue (grantEvidence "catalog" capability auditTable auditScan
      "audit" 1 ["id"] auditIdentity.envelope) = .ok (auditProof capability) := by
    have fields : (grantEvidence "catalog" capability auditTable auditScan "audit" 1 ["id"]
      auditIdentity.envelope).validateFields = .ok () := audit.proof
    rw [GovernedScanProof.issue, fields]
    rfl
  simp only [issueGovernedScanGrant, purpose, planned, okOr_some, ok_bind, audit.verified,
    withVerifiedIdentity, issueVerified]
  rw [rejectIf_neg _ current, ok_bind, proof, ok_bind, audit.valid, ok_bind, pure_eq]

end Capability

/-- The sample's grant is an honest one, whichever engine allowed its scan. -/
theorem audit_honest {engine : RepositoryEngine} (allowed : engine.allows
      (scanRequest auditIdentity sampleIdent [auditBinding] auditRestriction) = true) :
    ∃ capability, ForAudit engine capability ∧
      HonestGrant engine (auditState engine) auditStore auditIdentity sampleIdent capability
        auditTable auditScan ["id"] ["id"] 0 0
        (grantOf capability auditTable ["id"] (auditProof capability) 0) := by
  obtain ⟨capability, authorized, table, restriction, receipt⟩ :=
    @authorizeTableScan_ok _ engine (auditState engine) auditStore auditIdentity sampleIdent 0
      [auditBinding] auditRestriction rfl auditStore_bindings rfl rfl allowed
  have audit : ForAudit engine capability := ⟨table, restriction, 0, receipt⟩
  refine ⟨capability, audit, rfl, authorized, rfl, ?_, audit.issued⟩
  rw [restriction]
  rfl

theorem audit_saved {engine : RepositoryEngine} {capability : TableScanCapability}
    (audit : ForAudit engine capability) :
    ∃ after, auditStore.saveGovernedScanGrant
      (grantOf capability auditTable ["id"] (auditProof capability) 0) =
        .ok (grantOf capability auditTable ["id"] (auditProof capability) 0, after) ∧
      Unchanged auditStore (after.run []) sampleIdent := by
  have absent (grantId : String) : auditStore.governedScanGrants[grantId]? = none :=
    Std.ExtTreeMap.getElem?_empty
  rw [MemoryState.saveGovernedScanGrant, audit.valid, ok_bind]
  simp only [absent]
  exact ⟨_, rfl, rfl, rfl⟩

end Samples

theorem revalidation_sound_audit : ∃ (_ : External) (capability : TableScanCapability)
    (after : MemoryState) (presented : GovernedScanProof) (result : RevalidatedGovernedScanGrant),
    revalidateGovernedScanGrant (auditState .allowAll) after presented 0 = .ok result ∧
      AsIssued (auditState .allowAll) after 0 capability auditTable auditScan ["id"] ["id"]
        presented.purpose := by
  let _ := constantExternal
  obtain ⟨capability, audit, honest⟩ := @audit_honest _ .allowAll rfl
  obtain ⟨after, saved, unchanged⟩ := audit_saved audit
  obtain ⟨purpose, snapshotId, identityContext, from_⟩ := issued_from honest.issued
  obtain ⟨bindings, under⟩ := authorized_under honest.governance honest.authorized from_.stated
  obtain ⟨result, accepted⟩ := (revalidates_iff_digest under honest saved [] unchanged 0).mpr
    (allowAll_digest under from_ 0)
  have faithful : DigestsFaithful (after.run []) capability auditTable := by
    constructor
    · intro current found _
      rw [audit.table, unchanged.table, honest.loaded] at found
      rw [Except.ok.inj found]
    · intro present restriction bound composed _
      rw [audit.table, unchanged.bindings, auditStore_bindings] at bound
      rw [← Except.ok.inj bound] at composed
      have same : restriction = auditRestriction := (Except.ok.inj composed).symm
      rw [same, audit.restriction]
  exact ⟨constantExternal, capability, after.run [], _, result, accepted,
    (revalidation_sound honest.issued saved [] faithful rfl accepted).2⟩

theorem honestGrant_revalidates_audit : ∃ (_ : External) (capability : TableScanCapability)
    (after : MemoryState), ForAudit .allowAll capability ∧
      ∀ now, ∃ result, revalidateGovernedScanGrant (auditState .allowAll) after
        (auditProof capability) now = .ok result := by
  let _ := constantExternal
  obtain ⟨capability, audit, honest⟩ := @audit_honest _ .allowAll rfl
  obtain ⟨after, saved, unchanged⟩ := audit_saved audit
  exact ⟨constantExternal, capability, after.run [], audit,
    (honestGrant_revalidates_iff honest saved [] unchanged fun _ _ same => nomatch same).mpr rfl⟩

/-! A hash that counts one of the hexadecimal digits, and tells the two contexts apart. -/

def flagDigest (flag : Bool) : Sha256Hex where
  text := String.ofList ((if flag then 'f' else '0') :: List.replicate 63 '0')
  length := by cases flag <;> simp
  digits := by cases flag <;> decide

def flagHash (flag : Bool) : String := "sha256:" ++ (flagDigest flag).text

def flagOf (text : List Char) : Bool :=
  if text.getD 4 ' ' = 'v' then true
  else if text.getD 4 ' ' = 'l' then false
  else text.count 'f' % 2 = 1

@[reducible] def flagExternal : External where
  sha256 text := flagDigest (flagOf text.toList)
  parseUrl _ := none
  toRfc3339 _ := ""
  serializeTimestamp _ := ""
  constraintText text := text

def Json.marks (value : Json) : Nat := value.compact.toList.count 'f'

theorem count_intercalate (texts : List (List Char)) :
    (List.intercalate [','] texts).count 'f' = (texts.map (List.count 'f')).sum := by
  induction texts with
  | nil => rfl
  | cons text rest ih =>
      cases rest with
      | nil => simp
      | cons next later =>
          rw [List.intercalate_cons_cons, List.count_append, List.count_append, ih]
          simp

theorem Json.marks_obj (fields : List (String × Json)) :
    (Json.obj fields).marks =
      (fields.map fun field => (Json.str field.1).marks + field.2.marks).sum := by
  have texts : ((compactFields fields).map String.toList).map (List.count 'f') =
      fields.map fun field => (Json.str field.1).marks + field.2.marks := by
    induction fields with
    | nil => rfl
    | cons field rest ih =>
        obtain ⟨key, value⟩ := field
        rw [compactFields, List.map_cons, List.map_cons, ih, List.map_cons]
        simp [marks, compact]
  rw [← texts, ← count_intercalate, marks, compact, joinText]
  simp [String.toList_intercalate]

/-- One hash has the digit, and the other has not. -/
def Opposite (one other : String) : Prop :=
  ∃ flag, one = flagHash flag ∧ other = flagHash !flag

theorem Opposite.marks {one other : String} (opposite : Opposite one other) :
    (Json.str one).marks = (Json.str other).marks + 1 ∨
      (Json.str other).marks = (Json.str one).marks + 1 := by
  have counts : (Json.str (flagHash true)).marks = (Json.str (flagHash false)).marks + 1 := by
    decide
  obtain ⟨flag, rfl, rfl⟩ := opposite
  cases flag with
  | true => exact .inl counts
  | false => exact .inr counts

theorem Opposite.ne {one other : String} (opposite : Opposite one other) : one ≠ other := by
  rintro rfl
  have marks := opposite.marks
  omega

theorem opposite_of_marks {one other : List Char} {mark : Char}
    (first : one.getD 4 ' ' = mark) (second : other.getD 4 ' ' = mark)
    (plain : mark ≠ 'v' ∧ mark ≠ 'l')
    (marks : one.count 'f' = other.count 'f' + 1 ∨ other.count 'f' = one.count 'f' + 1) :
    Opposite (flagHash (flagOf one)) (flagHash (flagOf other)) := by
  refine ⟨flagOf one, rfl, congrArg flagHash ?_⟩
  simp only [flagOf, first, second, plain, if_false, ← decide_not]
  exact decide_eq_decide.mpr (by omega)

/-- The hashes of two documents that differ in an opposite pair are opposite. -/
theorem opposite_documents (leading : List Char) (before rest : List (String × Json))
    (key : String) {one other : String} {mark : Char} (opposite : Opposite one other)
    (plain : mark ≠ 'v' ∧ mark ≠ 'l')
    (marked : ∀ fields,
      (leading ++ (Json.obj (before ++ fields)).compact.toList).getD 4 ' ' = mark) :
    Opposite
      (flagHash (flagOf (leading ++
        (Json.obj (before ++ (key, .str one) :: rest)).compact.toList)))
      (flagHash (flagOf (leading ++
        (Json.obj (before ++ (key, .str other) :: rest)).compact.toList))) := by
  refine opposite_of_marks (marked _) (marked _) plain ?_
  have first := Json.marks_obj (before ++ (key, .str one) :: rest)
  have second := Json.marks_obj (before ++ (key, .str other) :: rest)
  have marks := opposite.marks
  simp only [List.map_append, List.map_cons, List.sum_append, List.sum_cons] at first second
  rw [Json.marks] at first second
  rw [List.count_append, List.count_append, first, second]
  omega

/-- The documents of an action begin with its name. -/
theorem action_mark (action : Json) (before fields : List (String × Json)) :
    ([] ++ (Json.obj (("action", action) :: before ++ fields)).compact.toList).getD 4 ' ' = 't' := by
  rw [List.nil_append, List.cons_append]
  exact compact_mark (by rfl : "action".toList = 'a' :: 'c' :: 't' :: _) (by decide) _ _

theorem typeSecDocument_fields [External] (request : AuthorizationRequest)
    (decision : PolicyResult) : typeSecDocument request decision = .obj
      ([("action", .str (actionName request.action))] ++
        ("context-hash", .str (contentHashJson request.context)) ::
        [("decision", .str (policyResultName decision)), ("engine", .str "typesec"),
          ("resource", .str (resourceName request)),
          ("subject", .str request.principal.subject)]) := by
  simp +decide [typeSecDocument, Json.object, Json.insertField]

theorem policyHashDocument_fields (receipt : AuthorizationReceipt) (policyHashes : List String)
    (hash : String) (own : receipt.policyHash = some hash) :
    receipt.policyHashDocument policyHashes = .obj
      ([("action", receipt.action.toJson), ("engine", .str receipt.engine)] ++
        ("governance-policy-hash", .str hash) ::
        [("read-restriction-policy-hashes", .arr (policyHashes.map .str)),
          ("table", Json.ofOption TableIdent.toJson receipt.table)]) := by
  simp +decide [AuthorizationReceipt.policyHashDocument, own, Json.object, Json.insertField,
    ofOptionStr, Json.ofOption]

theorem policyDocument_fields (receipt : AuthorizationReceipt) (restriction : FullReadRestriction)
    (hash : String) (own : receipt.policyHash = some hash) :
    policyDocument receipt restriction = .obj
      ([("action", receipt.action.toJson), ("allowed", .bool receipt.allowed),
        ("engine", .str receipt.engine)] ++ ("policyHash", .str hash) ::
        [("principal", receipt.principal.toJson), ("readRestriction", restriction.toJson),
          ("table", Json.ofOption TableIdent.toJson receipt.table)]) := by
  simp +decide [policyDocument, own, Json.object, Json.insertField, ofOptionStr, Json.ofOption]

theorem flagExternal_hash (value : Json) :
    @contentHashJson flagExternal value = flagHash (flagOf value.compact.toList) := rfl

theorem planned_fields (identity : RequestIdentity) (ident : TableIdent)
    (bindings : List PolicyBinding) (restriction : FullReadRestriction) : ∃ value rest,
    (scanRequest identity ident bindings restriction).context =
      .obj (("policy-bindings", value) :: rest) := by
  simp +decide [scanRequest, baseContext, Json.object, Json.insertField, Json.set]

theorem fresh_fields (grant : GovernedScanGrant) (restriction : FullReadRestriction)
    (bindings : List PolicyBinding) : ∃ value rest,
    freshContext grant restriction bindings =
      .obj (("governed-scan-grant-id", value) :: rest) := by
  simp +decide [freshContext, Json.object, Json.insertField]

theorem contexts_opposite (identity : RequestIdentity) (ident : TableIdent)
    (bindings : List PolicyBinding) (restriction : FullReadRestriction)
    (grant : GovernedScanGrant) :
    Opposite (@contentHashJson flagExternal
        (scanRequest identity ident bindings restriction).context)
      (@contentHashJson flagExternal (freshContext grant restriction bindings)) := by
  obtain ⟨first, rest, planned⟩ := planned_fields identity ident bindings restriction
  obtain ⟨second, others, fresh⟩ := fresh_fields grant restriction bindings
  have plannedMark := compact_mark (by rfl : "policy-bindings".toList = 'p' :: 'o' :: 'l' :: _)
    (by decide) first rest
  have freshMark := compact_mark
    (by rfl : "governed-scan-grant-id".toList = 'g' :: 'o' :: 'v' :: _) (by decide) second others
  refine ⟨false, ?_, ?_⟩
  · rw [planned, flagExternal_hash, flagOf, plannedMark]
    rfl
  · rw [fresh, flagExternal_hash, flagOf, freshMark]
    rfl

def allowing : PolicyEngine := fun _ _ _ => .allow

section Faithful

variable {one other : AuthorizationRequest} {restriction : FullReadRestriction}

theorem decisions_opposite (action : one.action = other.action)
    (table : one.table = other.table) (principal : one.principal = other.principal)
    (contexts : Opposite (@contentHashJson flagExternal one.context)
      (@contentHashJson flagExternal other.context)) :
    Opposite (@contentHashJson flagExternal (@typeSecDocument flagExternal one .allow))
      (@contentHashJson flagExternal (@typeSecDocument flagExternal other .allow)) := by
  let _ := flagExternal
  have named : resourceName one = resourceName other := by rw [resourceName, resourceName, table]
  rw [typeSecDocument_fields, typeSecDocument_fields, action, named, principal, flagExternal_hash,
    flagExternal_hash]
  have documents := opposite_documents [] [("action", .str (actionName other.action))]
    [("decision", .str (policyResultName .allow)), ("engine", .str "typesec"),
      ("resource", .str (resourceName other)), ("subject", .str other.principal.subject)]
    "context-hash" contexts (by decide) (action_mark _ _)
  rw [List.nil_append, List.nil_append] at documents
  exact documents

theorem hashes_opposite {first second : AuthorizationReceipt} {one other : String}
    (owned : first.policyHash = some one ∧ second.policyHash = some other)
    (action : first.action = second.action) (table : first.table = second.table)
    (engine : first.engine = second.engine) (hashes : Opposite one other)
    (policyHashes : List String) :
    Opposite (@contentHashJson flagExternal (first.policyHashDocument policyHashes))
      (@contentHashJson flagExternal (second.policyHashDocument policyHashes)) := by
  rw [policyHashDocument_fields _ _ _ owned.1, policyHashDocument_fields _ _ _ owned.2, action,
    table, engine, flagExternal_hash, flagExternal_hash]
  have documents := opposite_documents []
    [("action", second.action.toJson), ("engine", .str second.engine)]
    [("read-restriction-policy-hashes", .arr (policyHashes.map .str)),
      ("table", Json.ofOption TableIdent.toJson second.table)]
    "governance-policy-hash" hashes (by decide) (action_mark _ _)
  rw [List.nil_append, List.nil_append] at documents
  exact documents

theorem policies_opposite {first second : AuthorizationReceipt} {one other : String}
    (owned : first.policyHash = some one ∧ second.policyHash = some other)
    (action : first.action = second.action) (table : first.table = second.table)
    (engine : first.engine = second.engine) (principal : first.principal = second.principal)
    (allowed : first.allowed = second.allowed) (hashes : Opposite one other) :
    Opposite
      (@contentHashDomainJson flagExternal policyDomain (policyDocument first restriction))
      (@contentHashDomainJson flagExternal policyDomain (policyDocument second restriction)) := by
  let _ := flagExternal
  have digest (document : Json) : contentHashDomainJson policyDomain document =
      flagHash (flagOf ((policyDomain ++ "\x00").toList ++ document.compact.toList)) := by
    rw [contentHashDomainJson, ← String.toList_append]
    rfl
  rw [digest, digest, policyDocument_fields _ _ _ owned.1,
    policyDocument_fields _ _ _ owned.2, action, table, engine, principal, allowed]
  refine opposite_documents _ _ _ _ hashes (by decide : 'c' ≠ 'v' ∧ 'c' ≠ 'l') fun fields => ?_
  have domain : (policyDomain ++ "\x00").toList = ['l', 'a', 'k', 'e', 'c'] ++
      (policyDomain ++ "\x00").toList.drop 5 := by decide
  rw [domain]
  rfl

theorem hashed_policyHash (receipt : AuthorizationReceipt) [External]
    (governed : restriction.policyHashes ≠ []) : (receipt.hashed restriction).policyHash =
      some (contentHashJson (receipt.policyHashDocument restriction.policyHashes)) := by
  rw [AuthorizationReceipt.hashed, if_neg governed]

/-- Contexts with opposite hashes give decisions without collisions. -/
theorem faithful_of_opposite (action : one.action = other.action)
    (table : one.table = other.table) (principal : one.principal = other.principal)
    (contexts : Opposite (@contentHashJson flagExternal one.context)
      (@contentHashJson flagExternal other.context)) (governed : restriction.policyHashes ≠ []) :
    @DecisionsFaithful flagExternal allowing one other restriction := by
  let _ := flagExternal
  have decisions := decisions_opposite action table principal contexts
  have hashes (now later : Timestamp) := @hashes_opposite
    ((RepositoryEngine.typeSec allowing).answer now one)
    ((RepositoryEngine.typeSec allowing).answer later other) _ _ ⟨rfl, rfl⟩ action table rfl
    decisions restriction.policyHashes
  constructor
  · exact fun same => absurd same contexts.ne
  · exact fun same => absurd same decisions.ne
  · exact fun now later same => absurd same (hashes now later).ne
  · intro now later same
    refine absurd same (Opposite.ne ?_)
    refine policies_opposite ⟨hashed_policyHash _ governed, hashed_policyHash _ governed⟩ ?_ ?_ ?_
      ?_ ?_ (hashes now later)
    · rw [hashed_action, hashed_action]
      exact action
    · rw [hashed_table, hashed_table]
      exact table
    · rw [hashed_engine, hashed_engine]
      rfl
    · rw [hashed_principal, hashed_principal]
      exact principal
    · rw [hashed_allowed, hashed_allowed]
      rfl

end Faithful

/-- A grant that TypeSec's engine allowed is refused when it is first presented. -/
theorem typeSec_refuses_audit : ∃ (_ : External) (policyEngine : PolicyEngine)
    (capability : TableScanCapability) (after : MemoryState),
    HonestGrant (.typeSec policyEngine) (auditState (.typeSec policyEngine)) auditStore
      auditIdentity sampleIdent capability auditTable auditScan ["id"] ["id"] 0 0
      (grantOf capability auditTable ["id"] (auditProof capability) 0) ∧
    auditStore.saveGovernedScanGrant
      (grantOf capability auditTable ["id"] (auditProof capability) 0) =
        .ok (grantOf capability auditTable ["id"] (auditProof capability) 0, after) ∧
    Unchanged auditStore after sampleIdent ∧
    ¬∃ result, revalidateGovernedScanGrant (auditState (.typeSec policyEngine)) after
      (auditProof capability) 0 = .ok result := by
  let _ := flagExternal
  obtain ⟨capability, audit, honest⟩ := @audit_honest _ (.typeSec allowing) (by decide)
  obtain ⟨after, saved, unchanged⟩ := audit_saved audit
  refine ⟨flagExternal, allowing, capability, after, honest, saved, unchanged, fun accepted => ?_⟩
  obtain ⟨purpose, snapshotId, identityContext, from_⟩ := issued_from honest.issued
  obtain ⟨bindings, under⟩ := authorized_under honest.governance honest.authorized from_.stated
  cases Except.ok.inj (auditStore_bindings.symm.trans under.bound)
  have planned : plannedRequest capability =
      scanRequest auditIdentity sampleIdent [auditBinding] auditRestriction := by
    rw [plannedRequest, under.context, audit.table, audit.principal, audit.restriction]
    rfl
  have faithful : DecisionsFaithful allowing (plannedRequest capability)
      (freshRequest (grantOf capability auditTable ["id"] (auditProof capability) 0)
        capability.restriction [auditBinding]) capability.restriction := by
    rw [planned, audit.restriction]
    refine faithful_of_opposite rfl ?_ ?_ (contexts_opposite _ _ _ _ _) (List.cons_ne_nil _ _)
    · exact congrArg some audit.table.symm
    · exact audit.principal.symm
  exact typeSec_digest_ne under faithful 0
    ((revalidates_iff_digest under honest saved [] unchanged 0).mp accepted)

end LakeCat
