import LakeCat.EvidenceFields

/-!
What the evidence of an event asks of the authorization receipt it carries:
who was allowed what, by which engine and when.
-/

namespace LakeCat

open Fallible

def authorizationReceiptEvidenceFields : List String :=
  ["principal", "action", "table", "allowed", "engine", "policy_hash", "context",
    "request-identity", "checked_at"]

def authorizationReceiptContextEvidenceFields : List String :=
  ["warehouse", "policy-bindings", "destination-table", "destination-policy-bindings",
    "read-restriction", "lakecat:raw-credential-exception", "request-identity"]

def authorizationReceiptContextPolicyBindingFields : List String :=
  ["policy-id", "warehouse", "namespace", "table", "enforced", "odrl"]

namespace CatalogAction

def all : List CatalogAction :=
  [catalogConfig, namespaceCreate, namespaceList, namespaceLoad, namespaceUpdate, namespaceDrop,
    tableCreate, tableRegister, tableRename, tableLoad, tablePlanScan, tableCommit, tableDrop,
    tableRestore, credentialsVend, viewLoad, viewDrop, serverManage, projectManage,
    warehouseManage, storageProfileManage, viewManage, policyManage, graphRead, lineageRead]

/-- A unit variant is read from its name. -/
def ofVariant (text : String) : Option CatalogAction :=
  all.find? fun action => action.asStr = text

theorem ofVariant_asStr (action : CatalogAction) : ofVariant action.asStr = some action := by
  cases action <;> rfl

theorem asStr_shown (action : CatalogAction) : isBlank action.asStr = false := by
  cases action <;> rfl

end CatalogAction

theorem PrincipalKind.ofVariant_asStr (kind : PrincipalKind) :
    ofVariant kind.asStr = some kind := by
  cases kind <;> rfl

theorem PrincipalKind.asStr_shown (kind : PrincipalKind) : isBlank kind.asStr = false := by
  cases kind <;> rfl

theorem Principal.get_toJson (principal : Principal) :
    principal.toJson.get "subject" = some (.str principal.subject) ∧
      principal.toJson.get "kind" = some (.str principal.kind.asStr) := by
  simp [Principal.toJson, List.lookup]

theorem Principal.fromJson_toJson (principal : Principal) :
    fromJson principal.toJson = some principal := by
  obtain ⟨subject, kind⟩ := principal.get_toJson
  obtain ⟨fields, object⟩ : ∃ fields, principal.toJson = .obj fields := ⟨_, rfl⟩
  rw [object] at subject kind ⊢
  simp only [fromJson, subject, kind, Option.bind_eq_bind, Option.bind_some, Option.pure_def,
    Json.asStr, PrincipalKind.fromJson, PrincipalKind.ofVariant_asStr]

theorem Principal.toJson_only (principal : Principal) :
    principal.toJson.HasOnly principalEvidenceFields :=
  Json.hasOnly_object (by simp [principalEvidenceFields])

/-- The action that the receipt of an event of this type is for. -/
def eventAction : String → Option CatalogAction
  | "catalog.config-read" => some .catalogConfig
  | "credentials.vend-attempted" => some .credentialsVend
  | "namespace.created" => some .namespaceCreate
  | "namespace.dropped" => some .namespaceDrop
  | "namespace.listed" => some .namespaceList
  | "namespace.loaded" => some .namespaceLoad
  | "namespace.properties-updated" => some .namespaceUpdate
  | "policy-binding.listed" | "policy-binding.upserted" => some .policyManage
  | "project.listed" | "project.upserted" => some .projectManage
  | "querygraph.bootstrap" => some .graphRead
  | "server.listed" | "server.upserted" => some .serverManage
  | "storage-profile.listed" | "storage-profile.upserted" => some .storageProfileManage
  | "table.commit" => some .tableCommit
  | "table.commits-listed" | "table.loaded" => some .tableLoad
  | "table.created" => some .tableCreate
  | "table.registered" => some .tableRegister
  | "table.renamed" => some .tableRename
  | "table.deleted" => some .tableDrop
  | "table.restored" => some .tableRestore
  | "table.scan-planned" | "table.scan-tasks-fetched" => some .tablePlanScan
  | "view.dropped" => some .viewDrop
  | "view.listed" => some .viewLoad
  | "view.loaded" | "view.version-receipts-listed" | "view.version-receipt-chains-listed" =>
      some .viewLoad
  | "view.upserted" => some .viewManage
  | "warehouse.listed" | "warehouse.upserted" => some .warehouseManage
  | _ => none

def authorizationReceiptActionMatchesEvent (eventType : String) (action : CatalogAction) : Bool :=
  eventAction eventType = some action

section
variable [External]

def validatePolicyHashes (event : OutboxEvent) (evidenceLabel : String) (policyHashes : Json) :
    LakeCatResult Unit := do
  let policyHashes ← okOr policyHashes.asArray
    (outboxEvidenceError event (evidenceLabel ++ " policy-hashes must be an array"))
  rejectIf (policyHashes = [])
    (outboxEvidenceError event (evidenceLabel ++ " policy-hashes must not be empty"))
  checkEach (fun policyHash =>
      rejectIf (policyHash.asStr.any isSha256Evidence = false) (outboxEvidenceError event
        (evidenceLabel ++ " policy-hashes must contain full SHA-256 digest evidence")))
    policyHashes
  rejectIf (¬(policyHashes.filterMap Json.asStr).Nodup)
    (outboxEvidenceError event (evidenceLabel ++ " policy-hashes must be duplicate-free"))

def validateReadRestrictionPolicyHashes (event : OutboxEvent) (restriction : Option Json)
    (evidenceLabel : String) : LakeCatResult Unit :=
  checkSome (validatePolicyHashes event evidenceLabel)
    (restriction.bind (Json.get · "policy-hashes"))

omit [External] in
def authorizationReceiptReadRestriction (payload : Json) : Option Json := do
  let receipt ← payload.get "authorization-receipt"
  let context ← receipt.get "context"
  context.get "read-restriction"

def decodeOutboxPrincipalValue (event : OutboxEvent) (principal : Json) (label : String) :
    LakeCatResult Principal := do
  checkWhen (principal.isObject = true)
    (validateObjectEvidenceSchema event principal label principalEvidenceFields)
  okOr (Principal.fromJson principal)
    (outboxEvidenceError event (label ++ " must be a valid principal"))

theorem decodeOutboxPrincipalValue_toJson (event : OutboxEvent) (principal : Principal)
    (label : String) : decodeOutboxPrincipalValue event principal.toJson label = .ok principal := by
  have schema : checkWhen (principal.toJson.isObject = true)
      (validateObjectEvidenceSchema event principal.toJson label principalEvidenceFields) =
        .ok () := by
    rw [checkWhen_ok]
    intro _
    exact (validateObjectEvidenceSchema_ok _ _ _ _ ()).mpr principal.toJson_only
  rw [decodeOutboxPrincipalValue, schema, ok_bind, principal.fromJson_toJson, okOr_some]

def validatePolicyBindingsEvidence (event : OutboxEvent) (label : String) (bindings : Json) :
    LakeCatResult Unit := do
  let bindings ← okOr bindings.asArray
    (outboxEvidenceError event (label ++ " must be an array"))
  checkEach (fun binding =>
      validateObjectEvidenceSchema event binding label
        authorizationReceiptContextPolicyBindingFields)
    bindings

def validateAuthorizationReceiptContextPolicyBindings (event : OutboxEvent) (context : Json)
    (label : String) : LakeCatResult Unit := do
  checkSome (validatePolicyBindingsEvidence event label) (context.get "policy-bindings")
  checkSome (validatePolicyBindingsEvidence event (label ++ " destination-policy-bindings"))
    (context.get "destination-policy-bindings")

def validateAuthorizationReceiptContext (event : OutboxEvent) (label : String) (context : Json) :
    LakeCatResult Unit := do
  validateObjectEvidenceSchema event context (label ++ " authorization receipt context")
    authorizationReceiptContextEvidenceFields
  validateAuthorizationReceiptContextPolicyBindings event context
    (label ++ " authorization receipt context policy-bindings")

def validateAuthorizationReceiptSchema (event : OutboxEvent) (label : String) (receipt : Json) :
    LakeCatResult Unit := do
  validateObjectEvidenceSchema event receipt (label ++ " authorization receipt")
    authorizationReceiptEvidenceFields
  checkSome (validateAuthorizationReceiptContext event label) (receipt.get "context")

def validateAuthorizationReceiptEvidenceSchema (event : OutboxEvent) (payload : Json)
    (label : String) : LakeCatResult Unit :=
  checkSome (validateAuthorizationReceiptSchema event label)
    ((payload.get "authorization-receipt").filter Json.isObject)

omit [External] in
def receiptField (payload : Json) (field : String) : Option Json :=
  (payload.get "authorization-receipt").bind (Json.get · field)

def validateAuthorizationReceiptAction (event : OutboxEvent) (payload : Json) (label : String) :
    LakeCatResult Unit := do
  let action ← okOr ((receiptField payload "action").bind Json.asStr)
    (outboxEvidenceError event (label ++ " evidence must contain authorization receipt action"))
  rejectIf (isBlank action)
    (outboxEvidenceError event (label ++ " authorization receipt action must be non-empty"))
  let action ← okOr (CatalogAction.ofVariant action) (outboxEvidenceError event
    (label ++ " authorization receipt action must be a known catalog action"))
  rejectIf (authorizationReceiptActionMatchesEvent event.eventType action = false)
    (outboxEvidenceError event
      (label ++ " authorization receipt action does not match outbox event type"))

def validateAuthorizationReceiptAllowed (event : OutboxEvent) (payload : Json) (label : String) :
    LakeCatResult Unit := do
  let allowed ← okOr ((receiptField payload "allowed").bind Json.asBool) (outboxEvidenceError event
    (label ++ " evidence must contain authorization receipt allowed decision"))
  rejectIf (allowed = false) (outboxEvidenceError event
    (label ++ " authorization receipt must allow replay projection"))

def validateAuthorizationReceiptEngine (event : OutboxEvent) (payload : Json) (label : String) :
    LakeCatResult Unit := do
  let engine ← okOr ((receiptField payload "engine").bind Json.asStr)
    (outboxEvidenceError event (label ++ " evidence must contain authorization receipt engine"))
  rejectIf (isBlank engine)
    (outboxEvidenceError event (label ++ " authorization receipt engine must be non-empty"))

def timestampRefused (event : OutboxEvent) (label detail : String) : LakeCatError :=
  outboxEvidenceError event (label ++ " must be RFC3339: " ++ detail)

variable [TimestampParser]

def validateRfc3339Text (event : OutboxEvent) (label timestamp : String) : LakeCatResult Unit := do
  rejectIf (isBlank timestamp) (outboxEvidenceError event (label ++ " must be non-empty"))
  match TimestampParser.parseFromRfc3339 timestamp with
  | .ok _ => .ok ()
  | .error detail => .error (timestampRefused event label detail)

theorem validateRfc3339Text_readable (event : OutboxEvent) (label : String) {time : Timestamp}
    (readable : ReadableTime time) :
    validateRfc3339Text event label (External.serializeTimestamp time) = .ok () := by
  obtain ⟨back, read⟩ := readable.read
  rw [validateRfc3339Text, rejectIf_neg _ (by rw [readable.shown]; exact Bool.noConfusion), ok_bind,
    read]

def validateAuthorizationReceiptCheckedAt (event : OutboxEvent) (payload : Json)
    (label : String) : LakeCatResult Unit := do
  let checkedAt ← okOr ((receiptField payload "checked_at").bind Json.asStr)
    (outboxEvidenceError event
      (label ++ " evidence must contain authorization receipt checked_at timestamp"))
  validateRfc3339Text event (label ++ " authorization receipt checked_at timestamp") checkedAt

/-- The principal that the receipt of a payload names. -/
def authorizationReceiptPrincipal (event : OutboxEvent) (payload : Json) (label : String) :
    LakeCatResult Principal := do
  let principal ← okOr (receiptField payload "principal") (outboxEvidenceError event
    (label ++ " evidence must contain authorization receipt principal"))
  decodeOutboxPrincipalValue event principal (label ++ " authorization receipt principal")

/-- The four checks that follow the principal wherever a receipt is looked at. -/
def validateAuthorizationReceiptDecision (event : OutboxEvent) (payload : Json) (label : String) :
    LakeCatResult Unit := do
  validateAuthorizationReceiptAction event payload label
  validateAuthorizationReceiptAllowed event payload label
  validateAuthorizationReceiptEngine event payload label
  validateAuthorizationReceiptCheckedAt event payload label

def validateAuthorizationReceiptPrincipal (event : OutboxEvent) (payload : Json)
    (label : String) : LakeCatResult Unit := do
  validateAuthorizationReceiptEvidenceSchema event payload label
  let _ ← authorizationReceiptPrincipal event payload label
  validateAuthorizationReceiptDecision event payload label

/-- A receipt whose decision stands as the evidence of an event of this type. -/
structure DecisionShown (eventType : String) (receipt : AuthorizationReceipt) : Prop where
  action : eventAction eventType = some receipt.action
  allowed : receipt.allowed = true
  engine : isBlank receipt.engine = false
  checked : ReadableTime receipt.checkedAt

omit [External] [TimestampParser] in
/-- A context with the fields that the handlers and the engines write. -/
structure ContextShown (context : Json) : Prop where
  fields : context.HasOnly authorizationReceiptContextEvidenceFields
  bindings : ∀ field ∈ ["policy-bindings", "destination-policy-bindings"], ∀ value,
    context.get field = some value → ∃ bindings, value = policyBindingResponses bindings

omit [TimestampParser] in
theorem receiptField_toJson {payload : Json} {receipt : AuthorizationReceipt}
    (carried : payload.get "authorization-receipt" = some receipt.toJson) :
    receiptField payload "principal" = some receipt.principal.toJson ∧
      receiptField payload "action" = some (.str receipt.action.asStr) ∧
      receiptField payload "allowed" = some (.bool receipt.allowed) ∧
      receiptField payload "engine" = some (.str receipt.engine) ∧
      receiptField payload "context" = some receipt.context ∧
      receiptField payload "checked_at" =
        some (.str (External.serializeTimestamp receipt.checkedAt)) := by
  simp [receiptField, carried, AuthorizationReceipt.toJson, List.lookup, CatalogAction.toJson,
    serializeTimestamp]

theorem validateAuthorizationReceiptDecision_shown {event : OutboxEvent} {payload : Json}
    {receipt : AuthorizationReceipt} (label : String)
    (carried : payload.get "authorization-receipt" = some receipt.toJson)
    (shown : DecisionShown event.eventType receipt) :
    validateAuthorizationReceiptDecision event payload label = .ok () := by
  obtain ⟨-, action, allowed, engine, -, checkedAt⟩ := receiptField_toJson carried
  have actionPasses : validateAuthorizationReceiptAction event payload label = .ok () := by
    simp only [validateAuthorizationReceiptAction, action, Option.bind_some, Json.asStr, okOr_some,
      ok_bind, CatalogAction.asStr_shown, CatalogAction.ofVariant_asStr,
      authorizationReceiptActionMatchesEvent, shown.action, decide_true, Bool.false_eq_true,
      Bool.true_eq_false, rejectIf_bind, rejectIf_ok, not_false_eq_true, and_self]
  have allowedPasses : validateAuthorizationReceiptAllowed event payload label = .ok () := by
    simp only [validateAuthorizationReceiptAllowed, allowed, Option.bind_some, Json.asBool,
      okOr_some, ok_bind, shown.allowed, rejectIf_ok, Bool.true_eq_false, not_false_eq_true]
  have enginePasses : validateAuthorizationReceiptEngine event payload label = .ok () := by
    simp only [validateAuthorizationReceiptEngine, engine, Option.bind_some, Json.asStr, okOr_some,
      ok_bind, shown.engine, rejectIf_ok, Bool.false_eq_true, not_false_eq_true]
  have checkedPasses : validateAuthorizationReceiptCheckedAt event payload label = .ok () := by
    simp only [validateAuthorizationReceiptCheckedAt, checkedAt, Option.bind_some, Json.asStr,
      okOr_some, ok_bind]
    exact validateRfc3339Text_readable event _ shown.checked
  rw [validateAuthorizationReceiptDecision, actionPasses, ok_bind, allowedPasses, ok_bind,
    enginePasses, ok_bind, checkedPasses]

omit [TimestampParser] in
theorem authorizationReceiptPrincipal_shown {event : OutboxEvent} {payload : Json}
    {receipt : AuthorizationReceipt} (label : String)
    (carried : payload.get "authorization-receipt" = some receipt.toJson) :
    authorizationReceiptPrincipal event payload label = .ok receipt.principal := by
  rw [authorizationReceiptPrincipal, (receiptField_toJson carried).1, okOr_some, ok_bind]
  exact decodeOutboxPrincipalValue_toJson event _ _

omit [TimestampParser] in
theorem validatePolicyBindingsEvidence_responses (event : OutboxEvent) (label : String)
    (bindings : List PolicyBinding) :
    validatePolicyBindingsEvidence event label (policyBindingResponses bindings) = .ok () := by
  rw [validatePolicyBindingsEvidence, policyBindingResponses]
  dsimp only [Json.asArray]
  rw [okOr_some, ok_bind, checkEach_ok]
  intro item member
  obtain ⟨binding, -, rfl⟩ := List.mem_map.mp member
  refine (validateObjectEvidenceSchema_ok _ _ _ _ ()).mpr (Json.hasOnly_object ?_)
  simp [authorizationReceiptContextPolicyBindingFields]

omit [TimestampParser] in
theorem AuthorizationReceipt.toJson_only (receipt : AuthorizationReceipt) :
    receipt.toJson.HasOnly authorizationReceiptEvidenceFields :=
  Json.hasOnly_object (by simp [authorizationReceiptEvidenceFields])

omit [TimestampParser] in
theorem validateAuthorizationReceiptEvidenceSchema_shown {event : OutboxEvent} {payload : Json}
    {receipt : AuthorizationReceipt} (label : String)
    (carried : payload.get "authorization-receipt" = some receipt.toJson)
    (context : ContextShown receipt.context) :
    validateAuthorizationReceiptEvidenceSchema event payload label = .ok () := by
  rw [validateAuthorizationReceiptEvidenceSchema, checkSome_ok]
  intro value found
  obtain ⟨present, -⟩ := Option.filter_eq_some_iff.mp found
  obtain rfl := Option.some.inj (carried.symm.trans present)
  rw [validateAuthorizationReceiptSchema, bind_unit_eq_ok, validateObjectEvidenceSchema_ok,
    checkSome_ok]
  refine ⟨receipt.toJson_only, ?_⟩
  intro own held
  have same : own = receipt.context := by
    have field := (receiptField_toJson carried).2.2.2.2.1
    rw [receiptField, carried, Option.bind_some, held] at field
    exact Option.some.inj field
  subst same
  rw [validateAuthorizationReceiptContext, bind_unit_eq_ok, validateObjectEvidenceSchema_ok,
    validateAuthorizationReceiptContextPolicyBindings, bind_unit_eq_ok, checkSome_ok, checkSome_ok]
  refine ⟨context.fields, ?_, ?_⟩
  · intro bindings listed
    obtain ⟨bound, rfl⟩ := context.bindings "policy-bindings" (by simp) bindings listed
    exact validatePolicyBindingsEvidence_responses event _ bound
  · intro bindings listed
    obtain ⟨bound, rfl⟩ := context.bindings "destination-policy-bindings" (by simp) bindings listed
    exact validatePolicyBindingsEvidence_responses event _ bound

theorem validateAuthorizationReceiptPrincipal_shown {event : OutboxEvent} {payload : Json}
    {receipt : AuthorizationReceipt} (label : String)
    (carried : payload.get "authorization-receipt" = some receipt.toJson)
    (context : ContextShown receipt.context) (shown : DecisionShown event.eventType receipt) :
    validateAuthorizationReceiptPrincipal event payload label = .ok () := by
  rw [validateAuthorizationReceiptPrincipal,
    validateAuthorizationReceiptEvidenceSchema_shown label carried context, ok_bind,
    authorizationReceiptPrincipal_shown label carried, ok_bind,
    validateAuthorizationReceiptDecision_shown label carried shown]

end

end LakeCat
