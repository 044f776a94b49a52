import LakeCat.Authorization
import LakeCat.MemoryStore

/-!
The service's side of governed scans: how a request is authorized, the grant
that a planned scan leaves behind, and the fresh look at the catalog and the
policies that a grant has to pass before it is used again.
-/

namespace LakeCat

open Fallible

namespace PolicyBinding

def appliesToTable (binding : PolicyBinding) (table : TableIdent) : Bool :=
  binding.warehouse = table.warehouse &&
    match binding.ns, binding.table with
    | none, none => true
    | some ns, none => ns = table.ns
    | some ns, some name => ns = table.ns && name = table.name
    | none, some _ => false

end PolicyBinding

def policyBindingResponse (binding : PolicyBinding) : Json :=
  .object [("policy-id", .str binding.policyId), ("warehouse", .str binding.warehouse.value),
    ("namespace", Json.ofOption Namespace.toJson binding.ns),
    ("table", Json.ofOption TableName.toJson binding.table),
    ("enforced", .bool binding.enforced), ("odrl", binding.odrl)]

def policyBindingResponses (bindings : List PolicyBinding) : Json :=
  .arr (bindings.map policyBindingResponse)

section Store

variable [External]

def MemoryState.policyBindingsForTable (state : MemoryState) (table : TableIdent) :
    LakeCatResult (List PolicyBinding) := do
  let bindings ← collect (fun (key, binding) => do
      validatePolicyBindingMapScope binding key
      return binding) state.policyBindings.toList
  return (bindings.filter fun binding =>
      binding.enforced && binding.appliesToTable table).mergeSort
    fun left right => (compare left.policyId right.policyId).isLE

def readRestrictionFromPolicyBindings (bindings : List PolicyBinding) :
    LakeCatResult FullReadRestriction :=
  FullReadRestriction.fromOdrlPolicies (bindings.map PolicyBinding.odrl)

end Store

/-- The part of the service that governs scans. -/
structure LakeCatState where
  warehouse : WarehouseName
  catalogIdentity : String
  governance : GovernanceEngine

/-- Who asks, after `verify_typedid_identity`. -/
structure RequestIdentity where
  principal : Principal
  envelope : Json

section Authorize

variable [External]

def rawCredentialExceptionContext (restriction : FullReadRestriction) (principal : Principal) :
    Json :=
  let governedReadRequired := restriction.requiresGovernedRead
  let trustedHuman := principal.kind = .human
  .object [("requested", .bool true), ("allowed", .bool (!governedReadRequired || trustedHuman)),
    ("reason", .str (
      if !governedReadRequired then
        "restriction is compatible with short-lived credential vending"
      else if trustedHuman then
        "trusted human principal may use audited raw credential vending"
      else "fine-grained read restriction requires Sail-planned reads"))]

def baseContext (warehouse : WarehouseName) (identity : RequestIdentity)
    (bindings : List PolicyBinding) : Json :=
  .object [("warehouse", .str warehouse.value), ("request-identity", identity.envelope),
    ("policy-bindings", policyBindingResponses bindings)]

/-- The restriction is looked at for the two actions that hand out data. -/
def actionRestriction (action : CatalogAction) (bindings : List PolicyBinding) :
    LakeCatResult (Option FullReadRestriction) :=
  if (action = .tablePlanScan ∨ action = .credentialsVend) ∧ bindings.isEmpty = false then do
    return some (← readRestrictionFromPolicyBindings bindings)
  else return none

def restrictedContext (context : Json) (action : CatalogAction) (principal : Principal) :
    Option FullReadRestriction → Json
  | none => context
  | some restriction =>
      let context := context.set "read-restriction" restriction.toJson
      if action = .credentialsVend then
        context.set "lakecat:raw-credential-exception"
          (rawCredentialExceptionContext restriction principal)
      else context

def insertOperationContext (context : Json) : List (String × Json) → LakeCatResult Json
  | [] => .ok context
  | (key, value) :: rest => do
      rejectIf ((context.get key).isSome)
        (.internal "operation authorization context must not replace base context")
      insertOperationContext (context.set key value) rest

def requestBindings (store : MemoryState) : Option TableIdent → LakeCatResult (List PolicyBinding)
  | some table => store.policyBindingsForTable table
  | none => .ok []

def authorizeWithOperationContext (state : LakeCatState) (store : MemoryState)
    (identity : RequestIdentity) (action : CatalogAction) (table : Option TableIdent)
    (operationContext : List (String × Json)) (now : Timestamp) :
    LakeCatResult AuthorizationReceipt := do
  let policyBindings ← requestBindings store table
  let restriction ← actionRestriction action policyBindings
  let warehouse := (table.map TableIdent.warehouse).getD state.warehouse
  let context ← insertOperationContext
    (restrictedContext (baseContext warehouse identity policyBindings) action identity.principal
      restriction) operationContext
  let receipt ← state.governance now ⟨identity.principal, action, table, context⟩
  rejectIf (receipt.allowed = false) (.forbidden "authorization denied")
  receipt.withReadRestrictionPolicyHash

def authorize (state : LakeCatState) (store : MemoryState) (identity : RequestIdentity)
    (action : CatalogAction) (table : Option TableIdent) (now : Timestamp) :
    LakeCatResult AuthorizationReceipt :=
  authorizeWithOperationContext state store identity action table [] now

def authorizeTableScan (state : LakeCatState) (store : MemoryState) (identity : RequestIdentity)
    (table : TableIdent) (now : Timestamp) : LakeCatResult TableScanCapability := do
  let receipt ← authorize state store identity .tablePlanScan (some table) now
  TableScanCapability.fromReceipt receipt table

end Authorize

section Digests

variable [External]

def restrictionDomain : String := "lakecat.scan-read-restriction.digest.v1"
def authorizationContextDomain : String := "lakecat.scan-authorization-context.digest.v1"
def tableMetadataDomain : String := "lakecat.table-metadata.digest.v1"
def identityContextDomain : String := "lakecat.verified-identity-context.digest.v1"
def policyHashDomain : String := "lakecat.scan-policy-hash.digest.v1"
def planDomain : String := "lakecat.governed-scan-plan.digest.v1"
def authorizationDomain : String := "lakecat.authorization-decision.digest.v1"
def policyDomain : String := "lakecat.scan-policy-decision.digest.v1"
def snapshotDomain : String := "lakecat.governed-scan-snapshot.digest.v1"
def sourceScopeDomain : String := "lakecat.governed-scan-source-scope.digest.v1"

/-- `governed_evidence_digest`, whose domains are all constants that it accepts. Objects are
sorted already, so `canonicalize_json` changes nothing. -/
def governedEvidenceDigest (domain : String) (evidence : Json) : String :=
  contentHashDomainJson domain evidence

def governedPlanDigest (planTasks : List Json) : String :=
  contentHashDomainJson planDomain (.object [("planTasks", .arr planTasks)])

def authorizationDocument (receipt : AuthorizationReceipt) : Json :=
  .object [("principal", receipt.principal.toJson), ("action", receipt.action.toJson),
    ("table", Json.ofOption TableIdent.toJson receipt.table), ("allowed", .bool receipt.allowed),
    ("engine", .str receipt.engine), ("policyHash", ofOptionStr receipt.policyHash),
    ("context", receipt.context), ("checkedAt", serializeTimestamp receipt.checkedAt)]

def authorizationDigest (receipt : AuthorizationReceipt) : String :=
  contentHashDomainJson authorizationDomain (authorizationDocument receipt)

def policyDocument (receipt : AuthorizationReceipt) (restriction : FullReadRestriction) : Json :=
  .object [("principal", receipt.principal.toJson), ("action", receipt.action.toJson),
    ("table", Json.ofOption TableIdent.toJson receipt.table), ("allowed", .bool receipt.allowed),
    ("engine", .str receipt.engine), ("policyHash", ofOptionStr receipt.policyHash),
    ("readRestriction", restriction.toJson)]

def policyDigest (receipt : AuthorizationReceipt) (restriction : FullReadRestriction) : String :=
  contentHashDomainJson policyDomain (policyDocument receipt restriction)

def restrictionDigest (restriction : FullReadRestriction) : String :=
  governedEvidenceDigest restrictionDomain restriction.toJson

/-- `GovernedScanProof::issue` on evidence that is a proof without an identifier. -/
def GovernedScanProof.issue (evidence : GovernedScanProof) : LakeCatResult GovernedScanProof := do
  evidence.validateFields
  return { evidence with version := governedScanProofVersion, grantId := evidence.proofDigest }

end Digests

section Issue

variable [External]

/-- What a grant takes from a plan. -/
structure PlannedScan where
  snapshotId : Option Int
  scanTasks : List Json

def currentSnapshotId (table : TableRecord) : Option Int :=
  (table.metadata.get "current-snapshot-id").bind Json.asI64

/-- The detail that the decoder gives is left out of the text on a malformed principal. -/
def verifiedIdentityContext (receipt : AuthorizationReceipt) : LakeCatResult Json := do
  let identity ← okOr (receipt.context.get "request-identity")
    (.conflict "governed scan authorization is missing request identity evidence")
  let encoded ← okOr (identity.get "principal")
    (.conflict "governed scan identity evidence is missing its principal")
  let principal ← okOr (Principal.fromJson encoded)
    (.conflict "governed scan identity principal is malformed")
  rejectIf (principal ≠ receipt.principal)
    (.conflict "governed scan identity principal does not match authorization")
  rejectIf (receipt.principal.kind = .agent ∧
      (identity.get "attestation-state").bind Json.asStr ≠ some "verified")
    (.conflict "governed agent scan requires verified TypeDID identity evidence")
  return identity

def grantEvidence (catalogIdentity : String) (capability : TableScanCapability)
    (table : TableRecord) (scan : PlannedScan) (purpose : String) (snapshotId : Int)
    (effectiveProjection : List String) (identityContext : Json) : GovernedScanProof where
  version := governedScanProofVersion
  grantId := ""
  catalogIdentity := catalogIdentity
  table := capability.table
  tableVersion := table.version
  snapshotId := snapshotId
  planTaskDigest := governedPlanDigest scan.scanTasks
  principalSubject := capability.receipt.principal.subject
  purpose := purpose
  effectiveProjection := effectiveProjection
  identityContextDigest := governedEvidenceDigest identityContextDomain identityContext
  authorizationReceiptDigest := authorizationDigest capability.receipt
  policyDecisionDigest := policyDigest capability.receipt capability.restriction

def grantOf (capability : TableScanCapability) (table : TableRecord)
    (requestedProjection : List String) (proof : GovernedScanProof) (now : Timestamp) :
    GovernedScanGrant where
  proof := proof
  principal := capability.receipt.principal
  requestedProjection := requestedProjection
  policyEngine := capability.receipt.engine
  policyHashDigest := capability.receipt.policyHash.map fun hash =>
    governedEvidenceDigest policyHashDomain (.str hash)
  authorizationContextDigest :=
    governedEvidenceDigest authorizationContextDomain capability.receipt.context
  readRestrictionDigest := restrictionDigest capability.restriction
  tableMetadataDigest := governedEvidenceDigest tableMetadataDomain table.metadata
  issuedAt := now

def issueVerified (catalogIdentity : String) (capability : TableScanCapability)
    (table : TableRecord) (scan : PlannedScan) (purpose : String) (snapshotId : Int)
    (requestedProjection effectiveProjection : List String) (now : Timestamp)
    (identityContext : Json) : LakeCatResult (Option GovernedScanGrant) := do
  let proof ← GovernedScanProof.issue (grantEvidence catalogIdentity capability table scan purpose
    snapshotId effectiveProjection identityContext)
  let grant := grantOf capability table requestedProjection proof now
  grant.validate
  return some grant

/-- Agents that the catalog did not verify get no grant, and no error. -/
def withVerifiedIdentity (verified : LakeCatResult Json)
    (issue : Json → LakeCatResult (Option GovernedScanGrant)) :
    LakeCatResult (Option GovernedScanGrant) :=
  match verified with
  | .ok identityContext => issue identityContext
  | .error (.conflict message) =>
      if containsText message "requires verified TypeDID identity evidence" then .ok none
      else .error (.conflict message)
  | .error error => .error error

def issueGovernedScanGrant (catalogIdentity : String) (capability : TableScanCapability)
    (table : TableRecord) (scan : PlannedScan)
    (requestedProjection effectiveProjection : List String) (now : Timestamp) :
    LakeCatResult (Option GovernedScanGrant) :=
  match capability.restriction.purpose with
  | none => .ok none
  | some purpose => do
      let snapshotId ← okOr scan.snapshotId
        (.conflict "governed scan planning did not bind a table snapshot")
      rejectIf (currentSnapshotId table ≠ some snapshotId)
        (.conflict "governed scan plan does not match the current table snapshot")
      withVerifiedIdentity (verifiedIdentityContext capability.receipt)
        (issueVerified catalogIdentity capability table scan purpose snapshotId
          requestedProjection effectiveProjection now)

end Issue

section Revalidate

variable [External]

def validateTableEvidence (grant : GovernedScanGrant) (table : TableRecord) :
    LakeCatResult Unit := do
  let currentSnapshot ← okOr (currentSnapshotId table)
    (.conflict "current table metadata does not contain a governed snapshot")
  rejectIf (currentSnapshot ≠ grant.proof.snapshotId ∨ table.version ≠ grant.proof.tableVersion ∨
      governedEvidenceDigest tableMetadataDomain table.metadata ≠ grant.tableMetadataDigest)
    (.conflict "governed scan grant is stale relative to current table evidence")

def validateFreshRestriction (grant : GovernedScanGrant) (restriction : FullReadRestriction) :
    LakeCatResult Unit := do
  rejectIf (restriction.purpose ≠ some grant.proof.purpose)
    (.conflict "governed scan purpose is no longer authorized")
  let projection ← restriction.effectiveProjection grant.requestedProjection
  rejectIf (projection ≠ grant.proof.effectiveProjection)
    (.conflict "governed scan projection changed since planning")
  rejectIf (restrictionDigest restriction ≠ grant.readRestrictionDigest)
    (.conflict "governed scan read restriction changed since planning")

def freshContext (grant : GovernedScanGrant) (restriction : FullReadRestriction)
    (bindings : List PolicyBinding) : Json :=
  .object [("warehouse", .str grant.proof.table.warehouse.value),
    ("request-identity", .object [("principal", grant.principal.toJson),
      ("attestation-state", .str "governed-scan-revalidation"),
      ("original-authorization-context-digest", .str grant.authorizationContextDigest)]),
    ("policy-bindings", policyBindingResponses bindings),
    ("read-restriction", restriction.toJson),
    ("governed-scan-grant-id", .str grant.proof.grantId)]

def freshRequest (grant : GovernedScanGrant) (restriction : FullReadRestriction)
    (bindings : List PolicyBinding) : AuthorizationRequest :=
  ⟨grant.principal, .tablePlanScan, some grant.proof.table, freshContext grant restriction bindings⟩

def freshAuthorization (state : LakeCatState) (grant : GovernedScanGrant)
    (restriction : FullReadRestriction) (bindings : List PolicyBinding) (now : Timestamp) :
    LakeCatResult AuthorizationReceipt := do
  let receipt ← state.governance now (freshRequest grant restriction bindings)
  rejectIf (receipt.allowed = false) (.forbidden "governed scan authorization was revoked")
  receipt.withReadRestrictionPolicyHash

def validateFreshPolicy (grant : GovernedScanGrant) (receipt : AuthorizationReceipt)
    (restriction : FullReadRestriction) : LakeCatResult Unit := do
  rejectIf (receipt.principal ≠ grant.principal ∨ receipt.action ≠ .tablePlanScan ∨
      receipt.table ≠ some grant.proof.table)
    (.conflict "fresh governed scan authorization has different authority scope")
  let freshCapability ← TableScanCapability.fromReceipt receipt grant.proof.table
  rejectIf (freshCapability.restriction ≠ restriction)
    (.conflict "fresh governed scan authorization carries different read restrictions")
  rejectIf (policyDigest receipt restriction ≠ grant.proof.policyDecisionDigest)
    (.conflict "governed scan policy decision changed since planning")

structure RevalidatedGovernedScanGrant where
  proof : GovernedScanProof
  snapshotDigest : String
  sourceScopeDigest : String
  freshAuthorizationDigest : String
  freshPolicyDecisionDigest : String
  revalidatedAt : Timestamp

def snapshotDigest (proof : GovernedScanProof) : String :=
  contentHashDomainJson snapshotDomain (.object [
    ("version", .str "lakecat.governed-scan-snapshot.v1"),
    ("catalogIdentity", .str proof.catalogIdentity), ("table", proof.table.toJson),
    ("tableVersion", .int proof.tableVersion.toNat), ("snapshotId", .int proof.snapshotId)])

def sourceScopeDigest (proof : GovernedScanProof) : String :=
  contentHashDomainJson sourceScopeDomain (.object [
    ("version", .str "lakecat.governed-scan-source-scope.v1"),
    ("snapshotDigest", .str (snapshotDigest proof)), ("grantId", .str proof.grantId)])

def revalidateGovernedScanGrant (state : LakeCatState) (store : MemoryState)
    (presented : GovernedScanProof) (now : Timestamp) :
    LakeCatResult RevalidatedGovernedScanGrant := do
  presented.validateIntegrity
  rejectIf (presented.catalogIdentity ≠ state.catalogIdentity)
    (.conflict "governed scan proof belongs to a different configured catalog")
  let grant ← store.loadGovernedScanGrant presented.grantId
  rejectIf (grant.proof ≠ presented)
    (.conflict "presented governed scan proof differs from durable grant evidence")
  let table ← store.loadTable presented.table
  validateTableEvidence grant table
  let bindings ← store.policyBindingsForTable presented.table
  let restriction ← readRestrictionFromPolicyBindings bindings
  let receipt ← freshAuthorization state grant restriction bindings now
  validateFreshRestriction grant restriction
  validateFreshPolicy grant receipt restriction
  grant.proof.validateIntegrity
  return {
    proof := grant.proof
    snapshotDigest := snapshotDigest grant.proof
    sourceScopeDigest := sourceScopeDigest grant.proof
    freshAuthorizationDigest := authorizationDigest receipt
    freshPolicyDecisionDigest := policyDigest receipt restriction
    revalidatedAt := now }

end Revalidate

end LakeCat
