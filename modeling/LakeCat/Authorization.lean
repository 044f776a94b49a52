import LakeCat.CatalogRecords
import LakeCat.OdrlPolicies

/-!
Requests for authorization, the engines that answer them and the receipts of
their answers. A capability is a receipt that has been checked against the
action and the table it is used for.
-/

namespace LakeCat

open Fallible

inductive CatalogAction where
  | catalogConfig
  | namespaceCreate
  | namespaceList
  | namespaceLoad
  | namespaceUpdate
  | namespaceDrop
  | tableCreate
  | tableRegister
  | tableRename
  | tableLoad
  | tablePlanScan
  | tableCommit
  | tableDrop
  | tableRestore
  | credentialsVend
  | viewLoad
  | viewDrop
  | serverManage
  | projectManage
  | warehouseManage
  | storageProfileManage
  | viewManage
  | policyManage
  | graphRead
  | lineageRead
  deriving DecidableEq

namespace CatalogAction

/-- `rename_all = "kebab-case"`. -/
def asStr : CatalogAction → String
  | catalogConfig => "catalog-config"
  | namespaceCreate => "namespace-create"
  | namespaceList => "namespace-list"
  | namespaceLoad => "namespace-load"
  | namespaceUpdate => "namespace-update"
  | namespaceDrop => "namespace-drop"
  | tableCreate => "table-create"
  | tableRegister => "table-register"
  | tableRename => "table-rename"
  | tableLoad => "table-load"
  | tablePlanScan => "table-plan-scan"
  | tableCommit => "table-commit"
  | tableDrop => "table-drop"
  | tableRestore => "table-restore"
  | credentialsVend => "credentials-vend"
  | viewLoad => "view-load"
  | viewDrop => "view-drop"
  | serverManage => "server-manage"
  | projectManage => "project-manage"
  | warehouseManage => "warehouse-manage"
  | storageProfileManage => "storage-profile-manage"
  | viewManage => "view-manage"
  | policyManage => "policy-manage"
  | graphRead => "graph-read"
  | lineageRead => "lineage-read"

def toJson (action : CatalogAction) : Json := .str action.asStr

end CatalogAction

def actionName : CatalogAction → String
  | .catalogConfig => "catalog.config"
  | .namespaceCreate => "namespace.create"
  | .namespaceList => "namespace.list"
  | .namespaceLoad => "namespace.load"
  | .namespaceUpdate => "namespace.update"
  | .namespaceDrop => "namespace.drop"
  | .tableCreate => "table.create"
  | .tableRegister => "table.register"
  | .tableRename => "table.rename"
  | .tableLoad => "table.load"
  | .tablePlanScan => "table.plan_scan"
  | .tableCommit => "table.commit"
  | .tableDrop => "table.drop"
  | .tableRestore => "table.restore"
  | .credentialsVend => "credentials.vend"
  | .viewLoad => "view.load"
  | .viewDrop => "view.drop"
  | .serverManage => "server.manage"
  | .projectManage => "project.manage"
  | .warehouseManage => "warehouse.manage"
  | .storageProfileManage => "storage_profile.manage"
  | .viewManage => "view.manage"
  | .policyManage => "policy.manage"
  | .graphRead => "graph.read"
  | .lineageRead => "lineage.read"

structure AuthorizationRequest where
  principal : Principal
  action : CatalogAction
  table : Option TableIdent
  context : Json

def resourceName (request : AuthorizationRequest) : String :=
  (request.table.map TableIdent.stableId).getD "lakecat:catalog"

structure AuthorizationReceipt where
  principal : Principal
  action : CatalogAction
  table : Option TableIdent
  allowed : Bool
  engine : String
  policyHash : Option String
  context : Json
  checkedAt : Timestamp

/-- An engine reads the clock when it answers. -/
abbrev GovernanceEngine := Timestamp → AuthorizationRequest → LakeCatResult AuthorizationReceipt

namespace FullReadRestriction

/-- Absent fields are left out. -/
def toJson (restriction : FullReadRestriction) : Json :=
  .object (
    Json.presentField "allowed-columns" (fun columns => .arr (columns.map .str))
      restriction.allowedColumns ++
    Json.presentField "row-predicate" id restriction.rowPredicate ++
    Json.presentField "purpose" .str restriction.purpose ++
    Json.presentField "max-credential-ttl-seconds" (fun seconds => .int seconds)
      restriction.maxCredentialTtlSeconds ++
    Json.presentField "policy-hashes" (fun hashes => .arr (hashes.map .str))
      (if restriction.policyHashes = [] then none else some restriction.policyHashes))

/-- An `Option` field: an absent or null value is `None`. -/
def optionField (read : Json → Option α) : Option Json → Option (Option α)
  | none | some .null => some none
  | some value => (read value).map some

def stringItems (value : Json) : Option (List String) := do
  (← value.asArray).mapM Json.asStr

/-- A derived struct is read from an object, or from an array of its fields in order. -/
def structFields (count : Nat) : Json → Option (String → Nat → Option Json)
  | .obj fields => some fun key _ => (Json.obj fields).get key
  | .arr items => if items.length ≤ count then some fun _ index => items[index]? else none
  | _ => none

def policyHashesField : Option Json → Option (List String)
  | none => some []
  | some hashes => stringItems hashes

/-- Fields that are not there have their defaults. -/
def fromJson (value : Json) : Option FullReadRestriction := do
  let field ← structFields 5 value
  let allowedColumns ← optionField stringItems (field "allowed-columns" 0)
  let rowPredicate ← optionField some (field "row-predicate" 1)
  let purpose ← optionField Json.asStr (field "purpose" 2)
  let maxCredentialTtlSeconds ← optionField Json.asU64 (field "max-credential-ttl-seconds" 3)
  let policyHashes ← policyHashesField (field "policy-hashes" 4)
  return {
    allowedColumns := allowedColumns
    rowPredicate := rowPredicate
    purpose := purpose
    maxCredentialTtlSeconds := maxCredentialTtlSeconds
    policyHashes := policyHashes }

/-- What the decoder can return: no predicate is null, and a lifetime is a `u64`. -/
structure Normal (restriction : FullReadRestriction) : Prop where
  predicate : restriction.rowPredicate ≠ some .null
  ttl : ∀ seconds, restriction.maxCredentialTtlSeconds = some seconds → seconds < 2 ^ 64

theorem lookup_presentField (key query : String) (encode : α → Json) (value : Option α) :
    (Json.presentField key encode value).reverse.lookup query =
      if query = key then value.map encode else none := by
  cases value with
  | none => simp [Json.presentField]
  | some held =>
      rw [Json.presentField, List.reverse_singleton, Json.lookup_field]
      rfl

theorem get_toJson (restriction : FullReadRestriction) (key : String) :
    restriction.toJson.get key =
      if key = "policy-hashes" then
        if restriction.policyHashes = [] then none
        else some (.arr (restriction.policyHashes.map .str))
      else if key = "max-credential-ttl-seconds" then
        restriction.maxCredentialTtlSeconds.map fun seconds => .int seconds
      else if key = "purpose" then restriction.purpose.map .str
      else if key = "row-predicate" then restriction.rowPredicate
      else if key = "allowed-columns" then
        restriction.allowedColumns.map fun columns => .arr (columns.map .str)
      else none := by
  rw [toJson, Json.get_object]
  simp only [List.reverse_append, List.lookup_append, lookup_presentField]
  split
  next hashes =>
    subst hashes
    by_cases empty : restriction.policyHashes = [] <;> simp [empty]
  next =>
    by_cases ttl : key = "max-credential-ttl-seconds"
    · subst ttl
      cases restriction.maxCredentialTtlSeconds <;> simp
    · by_cases purpose : key = "purpose"
      · subst purpose
        simp
      · by_cases predicate : key = "row-predicate"
        · subst predicate
          simp
        · simp [ttl, purpose, predicate]

theorem stringItems_strings (texts : List String) :
    stringItems (.arr (texts.map .str)) = some texts := by
  simp only [stringItems, Json.asArray, Option.bind_eq_bind, Option.bind_some]
  induction texts with
  | nil => rfl
  | cons text rest ih =>
      rw [List.map_cons, List.mapM_cons, ih]
      rfl

/-- A restriction that is written can be read back. -/
theorem fromJson_toJson {restriction : FullReadRestriction} (normal : restriction.Normal) :
    fromJson restriction.toJson = some restriction := by
  have columns : optionField stringItems (restriction.toJson.get "allowed-columns") =
      some restriction.allowedColumns := by
    rw [get_toJson]
    cases restriction.allowedColumns <;> simp [optionField, stringItems_strings]
  have predicate : optionField some (restriction.toJson.get "row-predicate") =
      some restriction.rowPredicate := by
    rw [get_toJson]
    have present := normal.predicate
    cases held : restriction.rowPredicate with
    | none => simp [optionField]
    | some value => cases value <;> simp_all [optionField]
  have purpose : optionField Json.asStr (restriction.toJson.get "purpose") =
      some restriction.purpose := by
    rw [get_toJson]
    cases restriction.purpose <;> simp [optionField, Json.asStr]
  have ttl : optionField Json.asU64 (restriction.toJson.get "max-credential-ttl-seconds") =
      some restriction.maxCredentialTtlSeconds := by
    rw [get_toJson]
    cases held : restriction.maxCredentialTtlSeconds with
    | none => simp [optionField]
    | some seconds =>
        have bound := normal.ttl seconds held
        simp [optionField, Json.asU64]
        omega
  have hashes : policyHashesField (restriction.toJson.get "policy-hashes") =
      some restriction.policyHashes := by
    rw [get_toJson]
    by_cases empty : restriction.policyHashes = [] <;>
      simp [empty, policyHashesField, stringItems_strings]
  have object : ∃ fields, restriction.toJson = .obj fields := ⟨_, rfl⟩
  obtain ⟨fields, written⟩ := object
  rw [written] at columns predicate purpose ttl hashes ⊢
  simp only [fromJson, structFields, Option.bind_eq_bind, Option.bind_some, columns, predicate,
    purpose, ttl, hashes]
  rfl

theorem toJson_injective {one other : FullReadRestriction} (first : one.Normal)
    (second : other.Normal) (same : one.toJson = other.toJson) : one = other := by
  have read := fromJson_toJson first
  rw [same, fromJson_toJson second] at read
  exact (Option.some.inj read).symm

theorem optionField_eq_some {α : Type} {read : Json → Option α} {field : Option Json} {held : α}
    (present : optionField read field = some (some held)) :
    ∃ value, value ≠ .null ∧ read value = some held := by
  unfold optionField at present
  split at present
  · cases present
  · cases present
  next value notNull =>
    obtain ⟨own, found, same⟩ := Option.map_eq_some_iff.mp present
    cases same
    exact ⟨value, notNull, found⟩

theorem normal_of_fromJson {value : Json} {restriction : FullReadRestriction}
    (read : fromJson value = some restriction) : restriction.Normal := by
  simp only [fromJson, Option.bind_eq_bind, Option.bind_eq_some_iff] at read
  obtain ⟨field, -, columns, -, predicate, predicateRead, purpose, -, ttl, ttlRead, hashes, -,
    made⟩ := read
  cases made
  constructor
  · rintro rfl
    obtain ⟨own, present, same⟩ := optionField_eq_some predicateRead
    exact present (Option.some.inj same)
  · rintro seconds rfl
    obtain ⟨own, -, same⟩ := optionField_eq_some ttlRead
    cases own with
    | int number =>
        rw [Json.asU64] at same
        split at same
        next bound =>
          cases same
          omega
        · cases same
    | null | bool | float | str | arr | obj => cases same

end FullReadRestriction

/-- The detail that the decoder gives is left out of the text. -/
def invalidReadRestriction : LakeCatError :=
  .invalidArgument "authorization receipt carries invalid read restriction"

section Receipts

variable [External]

namespace AuthorizationReceipt

def policyHashDocument (receipt : AuthorizationReceipt) (policyHashes : List String) : Json :=
  .object [("engine", .str receipt.engine),
    ("governance-policy-hash", ofOptionStr receipt.policyHash),
    ("read-restriction-policy-hashes", .arr (policyHashes.map .str)),
    ("action", receipt.action.toJson), ("table", Json.ofOption TableIdent.toJson receipt.table)]

def withReadRestrictionPolicyHash (receipt : AuthorizationReceipt) :
    LakeCatResult AuthorizationReceipt :=
  match receipt.context.get "read-restriction" with
  | none => .ok receipt
  | some restriction => do
      let restriction ← okOr (FullReadRestriction.fromJson restriction) invalidReadRestriction
      if restriction.policyHashes = [] then return receipt
      else return {
        receipt with
        policyHash := some
          (contentHashJson (receipt.policyHashDocument restriction.policyHashes)) }

def toJson (receipt : AuthorizationReceipt) : Json :=
  .object [("principal", receipt.principal.toJson), ("action", receipt.action.toJson),
    ("table", Json.ofOption TableIdent.toJson receipt.table), ("allowed", .bool receipt.allowed),
    ("engine", .str receipt.engine), ("policy_hash", ofOptionStr receipt.policyHash),
    ("context", receipt.context), ("checked_at", serializeTimestamp receipt.checkedAt)]

end AuthorizationReceipt

/-- The restriction of a receipt, or nothing where it is malformed. -/
def receiptRestriction (receipt : AuthorizationReceipt) : Option FullReadRestriction :=
  match receipt.context.get "read-restriction" with
  | some value => FullReadRestriction.fromJson value
  | none => some .unrestricted

/-- A read capability: what its receipt allows, with the restriction of the receipt decoded. -/
structure TableReadCapability (action : CatalogAction) where
  receipt : AuthorizationReceipt
  table : TableIdent
  restriction : FullReadRestriction
  allowed : receipt.allowed = true
  forAction : receipt.action = action
  forTable : receipt.table = some table
  decoded : receiptRestriction receipt = some restriction

abbrev TableScanCapability := TableReadCapability .tablePlanScan

/-- The debug text of the receipt's action is left out of the second error. -/
def TableReadCapability.fromReceipt {action : CatalogAction} (actionDescription : String)
    (receipt : AuthorizationReceipt) (table : TableIdent) :
    LakeCatResult (TableReadCapability action) :=
  if allowed : receipt.allowed = true then
    if forAction : receipt.action = action then
      if forTable : receipt.table = some table then
        match decoded : receiptRestriction receipt with
        | some restriction =>
            .ok ⟨receipt, table, restriction, allowed, forAction, forTable, decoded⟩
        | none => .error invalidReadRestriction
      else .error
        (.invalidArgument "authorization receipt table does not match authorized table")
    else .error (.invalidArgument s!"authorization receipt action cannot {actionDescription}")
  else .error (.conflict "authorization receipt is not allowed")

def TableScanCapability.fromReceipt (receipt : AuthorizationReceipt) (table : TableIdent) :
    LakeCatResult TableScanCapability :=
  TableReadCapability.fromReceipt "plan table scans" receipt table

end Receipts

section Engines

variable [External]

def allowAllGovernanceEngine : GovernanceEngine := fun now request =>
  .ok {
    principal := request.principal
    action := request.action
    table := request.table
    allowed := true
    engine := "lakecat-allow-all-local"
    policyHash := none
    context := request.context
    checkedAt := now }

/-- What a policy engine of TypeSec decides; the payloads are not read. -/
inductive PolicyResult where
  | allow
  | deny
  | delegate
  | unknown
  deriving DecidableEq

def policyResultName : PolicyResult → String
  | .allow => "allow"
  | .deny => "deny"
  | .delegate => "delegate"
  | .unknown => "unknown"

/-- `PolicyEngine::check` on a subject, an action and a resource. -/
abbrev PolicyEngine := String → String → String → PolicyResult

def typeSecDocument (request : AuthorizationRequest) (decision : PolicyResult) : Json :=
  .object [("engine", .str "typesec"), ("subject", .str request.principal.subject),
    ("action", .str (actionName request.action)), ("resource", .str (resourceName request)),
    ("decision", .str (policyResultName decision)),
    ("context-hash", .str (contentHashJson request.context))]

def typeSecGovernanceEngine (engine : PolicyEngine) : GovernanceEngine := fun now request =>
  let decision :=
    engine request.principal.subject (actionName request.action) (resourceName request)
  .ok {
    principal := request.principal
    action := request.action
    table := request.table
    allowed := decision = .allow
    engine := "typesec"
    policyHash := some (contentHashJson (typeSecDocument request decision))
    context := request.context
    checkedAt := now }

end Engines

end LakeCat
