import LakeCat.GrantSoundness

/-!
What an authorization of a scan comes to under the two engines of the
repository: the restriction of the policies, written into the context of a
receipt that the engine answers with.
-/

namespace LakeCat

open Fallible

section Engines

variable [External]

/-- The engines of the repository. -/
inductive RepositoryEngine where
  | allowAll
  | typeSec (engine : PolicyEngine)

namespace RepositoryEngine

def governance : RepositoryEngine → GovernanceEngine
  | allowAll => allowAllGovernanceEngine
  | typeSec engine => typeSecGovernanceEngine engine

/-- The hash that the engine itself puts into a receipt. -/
def ownHash : RepositoryEngine → AuthorizationRequest → Option String
  | allowAll, _ => none
  | typeSec engine, request => some (contentHashJson (typeSecDocument request
      (engine request.principal.subject (actionName request.action) (resourceName request))))

def name : RepositoryEngine → String
  | allowAll => "lakecat-allow-all-local"
  | typeSec _ => "typesec"

def allows : RepositoryEngine → AuthorizationRequest → Bool
  | allowAll, _ => true
  | typeSec engine, request =>
      engine request.principal.subject (actionName request.action) (resourceName request) = .allow

/-- Both engines return what they were asked, with their decision. -/
def answer (engine : RepositoryEngine) (now : Timestamp) (request : AuthorizationRequest) :
    AuthorizationReceipt where
  principal := request.principal
  action := request.action
  table := request.table
  allowed := engine.allows request
  engine := engine.name
  policyHash := engine.ownHash request
  context := request.context
  checkedAt := now

theorem governance_answer (engine : RepositoryEngine) (now : Timestamp)
    (request : AuthorizationRequest) :
    engine.governance now request = .ok (engine.answer now request) := by
  cases engine <;> rfl

omit [External] in
/-- The context of a request does not change the decision. -/
theorem allows_congr (engine : RepositoryEngine) {one other : AuthorizationRequest}
    (principal : one.principal = other.principal) (action : one.action = other.action)
    (table : one.table = other.table) : engine.allows one = engine.allows other := by
  cases engine with
  | allowAll => rfl
  | typeSec engine =>
      have named : resourceName one = resourceName other := by
        rw [resourceName, resourceName, table]
      exact decide_eq_decide.mpr (by rw [principal, action, named])

end RepositoryEngine

/-- The receipt after `with_read_restriction_policy_hash`. -/
def AuthorizationReceipt.hashed (receipt : AuthorizationReceipt)
    (restriction : FullReadRestriction) : AuthorizationReceipt :=
  if restriction.policyHashes = [] then receipt
  else {
    receipt with
    policyHash := some (contentHashJson (receipt.policyHashDocument restriction.policyHashes)) }

theorem withReadRestrictionPolicyHash_eq {receipt : AuthorizationReceipt}
    {restriction : FullReadRestriction}
    (written : receipt.context.get "read-restriction" = some restriction.toJson)
    (normal : restriction.Normal) :
    receipt.withReadRestrictionPolicyHash = .ok (receipt.hashed restriction) := by
  simp only [AuthorizationReceipt.withReadRestrictionPolicyHash, written,
    FullReadRestriction.fromJson_toJson normal, okOr_some, ok_bind, AuthorizationReceipt.hashed]
  split <;> rfl

end Engines

section Fields

variable [External] (receipt : AuthorizationReceipt) (restriction : FullReadRestriction)

@[simp] theorem hashed_principal : (receipt.hashed restriction).principal = receipt.principal := by
  unfold AuthorizationReceipt.hashed
  split <;> rfl

@[simp] theorem hashed_action : (receipt.hashed restriction).action = receipt.action := by
  unfold AuthorizationReceipt.hashed
  split <;> rfl

@[simp] theorem hashed_table : (receipt.hashed restriction).table = receipt.table := by
  unfold AuthorizationReceipt.hashed
  split <;> rfl

@[simp] theorem hashed_allowed : (receipt.hashed restriction).allowed = receipt.allowed := by
  unfold AuthorizationReceipt.hashed
  split <;> rfl

@[simp] theorem hashed_engine : (receipt.hashed restriction).engine = receipt.engine := by
  unfold AuthorizationReceipt.hashed
  split <;> rfl

@[simp] theorem hashed_context : (receipt.hashed restriction).context = receipt.context := by
  unfold AuthorizationReceipt.hashed
  split <;> rfl

end Fields

section Authorized

variable [External]

/-- The request that was authorized when the scan was planned. -/
def plannedRequest (capability : TableScanCapability) : AuthorizationRequest :=
  ⟨capability.receipt.principal, .tablePlanScan, some capability.table, capability.receipt.context⟩

/-- What an authorization of a scan under a restriction comes to. -/
structure AuthorizedUnder (engine : RepositoryEngine) (store : MemoryState)
    (identity : RequestIdentity) (ident : TableIdent) (capability : TableScanCapability)
    (authorizedAt : Timestamp) (bindings : List PolicyBinding) : Prop where
  table : capability.table = ident
  bound : store.policyBindingsForTable ident = .ok bindings
  composed : readRestrictionFromPolicyBindings bindings = .ok capability.restriction
  context : capability.receipt.context =
    (baseContext ident.warehouse identity bindings).set "read-restriction"
      capability.restriction.toJson
  receipt : capability.receipt =
    (engine.answer authorizedAt (plannedRequest capability)).hashed capability.restriction

omit [External] in
theorem readCapability_ok {action : CatalogAction} {description : String}
    {receipt : AuthorizationReceipt} {ident : TableIdent} {capability : TableReadCapability action} :
    TableReadCapability.fromReceipt description receipt ident = .ok capability ↔
      capability.receipt = receipt ∧ capability.table = ident := by
  obtain ⟨own, table, restriction, allowed, forAction, forTable, decoded⟩ := capability
  constructor
  · intro made
    simp only [TableReadCapability.fromReceipt] at made
    split at made
    · split at made
      · split at made
        · split at made
          · cases made
            exact ⟨rfl, rfl⟩
          · cases made
        · cases made
      · cases made
    · cases made
  · rintro ⟨rfl, rfl⟩
    simp only [TableReadCapability.fromReceipt, allowed, forAction, forTable, dif_pos]
    split
    next found same =>
      rw [decoded] at same
      cases same
      rfl
    next same =>
      rw [decoded] at same
      cases same

omit [External] in
theorem fromReceipt_ok {receipt : AuthorizationReceipt} {ident : TableIdent}
    {capability : TableScanCapability} :
    TableScanCapability.fromReceipt receipt ident = .ok capability ↔
      capability.receipt = receipt ∧ capability.table = ident :=
  readCapability_ok

theorem actionRestriction_scan {bindings : List PolicyBinding}
    {restriction : Option FullReadRestriction}
    (read : actionRestriction .tablePlanScan bindings = .ok restriction) :
    restriction = none ∨ ∃ composed, restriction = some composed ∧
      readRestrictionFromPolicyBindings bindings = .ok composed := by
  rw [actionRestriction] at read
  split at read
  · simp only [bind_eq_ok, pure_eq, Except.ok.injEq] at read
    obtain ⟨composed, own, rfl⟩ := read
    exact .inr ⟨composed, rfl, own⟩
  · cases read
    exact .inl rfl

variable {engine : RepositoryEngine} {state : LakeCatState} {store : MemoryState}
  {identity : RequestIdentity} {ident : TableIdent} {capability : TableScanCapability}
  {authorizedAt : Timestamp}

omit [External] in
theorem baseContext_get (warehouse : WarehouseName) (bindings : List PolicyBinding)
    (key : String) : (baseContext warehouse identity bindings).get key =
      if key = "policy-bindings" then some (policyBindingResponses bindings)
      else if key = "request-identity" then some identity.envelope
      else if key = "warehouse" then some (.str warehouse.value) else none := by
  rw [baseContext, Json.get_object]
  simp only [List.reverse_cons, List.reverse_nil, List.nil_append, List.cons_append,
    Json.lookup_field, List.lookup_nil]

/-- A scan that has a purpose was authorized under a restriction that its receipt carries. -/
theorem authorized_under (governed : state.governance = engine.governance)
    (authorized : authorizeTableScan state store identity ident authorizedAt = .ok capability)
    {purpose : String} (stated : capability.restriction.purpose = some purpose) :
    ∃ bindings,
      AuthorizedUnder engine store identity ident capability authorizedAt bindings := by
  simp only [authorizeTableScan, authorize, authorizeWithOperationContext, requestBindings,
    insertOperationContext, governed, engine.governance_answer, bind_eq_ok, exists_unit,
    rejectIf_ok, Except.ok.injEq, Option.map_some, Option.getD_some, fromReceipt_ok] at authorized
  obtain ⟨receipt, ⟨bindings, bound, found, read, context, rfl, answer, rfl, allowed, hashed⟩, rfl,
    rfl⟩ := authorized
  have decoded := capability.decoded
  rcases actionRestriction_scan read with rfl | ⟨composed, rfl, own⟩
  · have absent : (engine.answer authorizedAt ⟨identity.principal, .tablePlanScan,
        some capability.table, restrictedContext (baseContext capability.table.warehouse identity
          bindings) .tablePlanScan identity.principal none⟩).context.get "read-restriction" =
            none := by
      rw [RepositoryEngine.answer, restrictedContext, baseContext_get]
      simp
    rw [AuthorizationReceipt.withReadRestrictionPolicyHash, absent] at hashed
    rw [receiptRestriction, ← Except.ok.inj hashed, absent] at decoded
    rw [← Option.some.inj decoded] at stated
    cases stated
  · have normal := normal_of_policies own
    have written : (engine.answer authorizedAt ⟨identity.principal, .tablePlanScan,
        some capability.table, restrictedContext (baseContext capability.table.warehouse identity
          bindings) .tablePlanScan identity.principal (some composed)⟩).context.get
            "read-restriction" = some composed.toJson := by
      rw [RepositoryEngine.answer, restrictedContext, if_neg (by decide), Json.get_set _ _ _ _ rfl,
        if_pos rfl]
    rw [withReadRestrictionPolicyHash_eq written normal] at hashed
    have receipt := (Except.ok.inj hashed).symm
    have restriction : capability.restriction = composed := by
      rw [receiptRestriction, receipt, hashed_context, written] at decoded
      exact Option.some.inj (decoded.symm.trans (FullReadRestriction.fromJson_toJson normal))
    have asked : plannedRequest capability = ⟨identity.principal, .tablePlanScan,
        some capability.table, restrictedContext (baseContext capability.table.warehouse identity
          bindings) .tablePlanScan identity.principal (some composed)⟩ := by
      rw [plannedRequest, receipt, hashed_principal, hashed_context]
      rfl
    refine ⟨bindings, rfl, bound, restriction ▸ own, ?_, ?_⟩
    · rw [receipt, hashed_context, restriction]
      rfl
    · rw [asked, restriction]
      exact receipt

variable {bindings : List PolicyBinding} {restriction : FullReadRestriction}

/-- The request of a scan under a restriction. -/
def scanRequest (identity : RequestIdentity) (ident : TableIdent) (bindings : List PolicyBinding)
    (restriction : FullReadRestriction) : AuthorizationRequest :=
  ⟨identity.principal, .tablePlanScan, some ident,
    (baseContext ident.warehouse identity bindings).set "read-restriction" restriction.toJson⟩

omit [External] in
theorem scanRequest_get :
    (scanRequest identity ident bindings restriction).context.get "read-restriction" =
        some restriction.toJson ∧
      (scanRequest identity ident bindings restriction).context.get "request-identity" =
        some identity.envelope := by
  constructor
  · rw [scanRequest, Json.get_set _ _ _ _ rfl, if_pos rfl]
  · rw [scanRequest, Json.get_set _ _ _ _ rfl, if_neg (by decide), baseContext_get]
    simp

/-- A scan is authorized under the restriction of its policies whenever the engine allows it. -/
theorem authorizeTableScan_ok (governed : state.governance = engine.governance)
    (bound : store.policyBindingsForTable ident = .ok bindings)
    (restricted : bindings.isEmpty = false)
    (composed : readRestrictionFromPolicyBindings bindings = .ok restriction)
    (allowed : engine.allows (scanRequest identity ident bindings restriction) = true) :
    ∃ capability, authorizeTableScan state store identity ident authorizedAt = .ok capability ∧
      capability.table = ident ∧ capability.restriction = restriction ∧
      capability.receipt =
        (engine.answer authorizedAt (scanRequest identity ident bindings restriction)).hashed
          restriction := by
  have normal := normal_of_policies composed
  have written := (@scanRequest_get identity ident bindings restriction).1
  have decoded : receiptRestriction ((engine.answer authorizedAt
      (scanRequest identity ident bindings restriction)).hashed restriction) = some restriction := by
    rw [receiptRestriction, hashed_context, RepositoryEngine.answer, written]
    exact FullReadRestriction.fromJson_toJson normal
  have accepted :
      ¬(engine.answer authorizedAt (scanRequest identity ident bindings restriction)).allowed = false := by
    rw [RepositoryEngine.answer, allowed]
    exact Bool.noConfusion
  have receipt : authorize state store identity .tablePlanScan (some ident) authorizedAt = .ok
      ((engine.answer authorizedAt (scanRequest identity ident bindings restriction)).hashed
        restriction) := by
    simp only [authorize, authorizeWithOperationContext, requestBindings, bound, ok_bind,
      actionRestriction, restricted, or_false, and_self, if_true, composed, restrictedContext,
      insertOperationContext, governed, engine.governance_answer, pure_eq, Option.map_some,
      Option.getD_some, reduceCtorEq, if_false]
    change (do
      rejectIf ((engine.answer authorizedAt (scanRequest identity ident bindings restriction)).allowed =
        false) _
      AuthorizationReceipt.withReadRestrictionPolicyHash _) = _
    rw [rejectIf_neg _ accepted, ok_bind]
    exact withReadRestrictionPolicyHash_eq written normal
  rw [authorizeTableScan, receipt, ok_bind]
  exact ⟨⟨_, ident, restriction, (hashed_allowed _ _).trans allowed, hashed_action _ _,
    hashed_table _ _, decoded⟩, fromReceipt_ok.mpr ⟨rfl, rfl⟩, rfl, rfl, rfl⟩

end Authorized

end LakeCat
