import LakeCat.ScanAuthorization
import LakeCat.ServiceRequests

/-!
What an engine can tell apart. TypeSec's engine decides on a subject, an action
and the name of a resource; the name is that of the table which a request is
on, and the name of the catalog for all other requests.
-/

namespace LakeCat

open Fallible

section Names

/-- The actions in the order of their declaration. -/
def allActions : List CatalogAction :=
  [.catalogConfig, .namespaceCreate, .namespaceList, .namespaceLoad, .namespaceUpdate,
    .namespaceDrop, .tableCreate, .tableRegister, .tableRename, .tableLoad, .tablePlanScan,
    .tableCommit, .tableDrop, .tableRestore, .credentialsVend, .viewLoad, .viewDrop, .serverManage,
    .projectManage, .warehouseManage, .storageProfileManage, .viewManage, .policyManage, .graphRead,
    .lineageRead]

theorem actionName_injective : Function.Injective actionName := by
  have found (action : CatalogAction) :
      allActions.find? (fun other => actionName other = actionName action) = some action := by
    cases action <;> decide
  intro one other same
  have first := found one
  rw [same, found other] at first
  exact (Option.some.inj first).symm

/-- The names of two tables agree only when all that is written into them does. -/
theorem stableId_parts {one other : TableIdent} (made : one.Made) (otherMade : other.Made)
    (same : one.stableId = other.stableId) :
    one.warehouse = other.warehouse ∧ one.ns.path = other.ns.path ∧ one.name = other.name := by
  have chars := congrArg String.toList same
  have colon : ":".toList = [':'] := rfl
  unfold TableIdent.stableId at chars
  generalize "lakecat:table:" = head at chars
  simp only [String.toList_append, colon, List.append_assoc, List.cons_append, List.nil_append,
    List.append_cancel_left_eq] at chars
  obtain ⟨warehouse, inner⟩ := append_separator_inj made.warehouse.text.colon
    otherMade.warehouse.text.colon chars
  obtain ⟨path, name⟩ := append_separator_inj (isNameText_path made.ns.text).colon
    (isNameText_path otherMade.ns.text).colon inner
  exact ⟨congrArg WarehouseName.mk (String.toList_inj.mp warehouse), String.toList_inj.mp path,
    congrArg TableName.mk (String.toList_inj.mp name)⟩

theorem named_ne_catalog (rest : String) : "lakecat:table:" ++ rest ≠ "lakecat:catalog" := by
  intro same
  have chars := congrArg String.toList same
  simp at chars

theorem stableId_ne_catalog (ident : TableIdent) : ident.stableId ≠ "lakecat:catalog" := by
  have parts : ident.stableId = "lakecat:table:" ++
      (ident.warehouse.value ++ (":" ++ (ident.ns.path ++ (":" ++ ident.name.value)))) := by
    unfold TableIdent.stableId
    rw [String.append_assoc, String.append_assoc, String.append_assoc, String.append_assoc]
  rw [parts]
  exact named_ne_catalog _

end Names

section Handed

variable [External] {state : LakeCatState} {store : MemoryState} {identity : RequestIdentity}
  {access : Access} {request : AuthorizationRequest}

/-- The engine is asked what is handed to it, and nothing else is. -/
theorem authorize_handed (access : Access) (state : LakeCatState) (store : MemoryState)
    (identity : RequestIdentity) (now : Timestamp) :
    access.authorize state store identity now = (do
      let request ← access.handed state store identity
      let receipt ← state.governance now request
      rejectIf (receipt.allowed = false) (.forbidden "authorization denied")
      receipt.withReadRestrictionPolicyHash) := by
  simp only [Access.authorize, Access.handed, authorizeWithOperationContext, bind_assoc, pure_bind]

theorem handed_ok (handed : access.handed state store identity = .ok request) :
    request.principal = identity.principal ∧ request.action = access.action ∧
      request.table = access.table := by
  simp only [Access.handed, bind_eq_ok, pure_eq, Except.ok.injEq] at handed
  obtain ⟨operation, -, bindings, -, restriction, -, context, -, rfl⟩ := handed
  exact ⟨rfl, rfl, rfl⟩

end Handed

section Told

/-- What TypeSec's engine looks at. -/
def decidedOn (request : AuthorizationRequest) : String × String × String :=
  (request.principal.subject, actionName request.action, resourceName request)

/-- Some policy lets the one through and not the other. -/
def ToldApart [External] (one other : AuthorizationRequest) : Prop :=
  ∃ engine : PolicyEngine, ∀ now,
    (typeSecGovernanceEngine engine now one).map AuthorizationReceipt.allowed = .ok true ∧
    (typeSecGovernanceEngine engine now other).map AuthorizationReceipt.allowed = .ok false

theorem toldApart_iff [External] {one other : AuthorizationRequest} :
    ToldApart one other ↔ decidedOn one ≠ decidedOn other := by
  constructor
  · rintro ⟨engine, told⟩ same
    obtain ⟨allowed, denied⟩ := told 0
    simp only [decidedOn, Prod.mk.injEq] at same
    obtain ⟨subject, action, resource⟩ := same
    simp only [typeSecGovernanceEngine, Except.map, Except.ok.injEq, subject, action,
      resource] at allowed denied
    rw [allowed] at denied
    cases denied
  · intro different
    refine ⟨fun subject action resource =>
      if (subject, action, resource) = decidedOn one then .allow else .deny, fun now => ?_⟩
    have same : (one.principal.subject, actionName one.action, resourceName one) =
        decidedOn one := rfl
    have unlike : ¬(other.principal.subject, actionName other.action, resourceName other) =
        decidedOn one := fun agrees => different agrees.symm
    constructor
    · simp only [typeSecGovernanceEngine, same, if_true, Except.map]
      rfl
    · simp only [typeSecGovernanceEngine, unlike, if_false, Except.map]
      rfl

end Told

/-- The handlers that authorize a table. -/
def ServiceRequest.onTable : ServiceRequest → Bool
  | .createTable .. | .registerTable .. | .renameTable .. | .loadTable .. | .commitTable ..
  | .deleteTable .. | .planTableScan .. | .fetchScanTasks .. | .loadCredentials ..
  | .restoreTable .. | .listTableCommits .. => true
  | _ => false

/-- An access is on a table that was made of valid names, or on none. -/
structure Access.Formed (access : Access) (onTable : Bool) : Prop where
  isSome : access.table.isSome = onTable
  made : ∀ ident, access.table = some ident → ident.Made
  own : ∀ ident, access.table = some ident → access.object.warehouse? = some ident.warehouse

theorem onCatalog_formed (action : CatalogAction) (object : CatalogObject) :
    (Access.onCatalog action object).Formed false :=
  ⟨rfl, nofun, nofun⟩

theorem onTable_formed {action : CatalogAction} {ident : TableIdent} (made : ident.Made) :
    (Access.onTable action ident).Formed true where
  isSome := rfl
  made _ same := Option.some.inj same ▸ made
  own _ same :=
    congrArg (fun ident : TableIdent => some ident.warehouse) (Option.some.inj same)

theorem restTableIdent_made {warehouse : WarehouseName} {ns table : String} {ident : TableIdent}
    (made : restTableIdent warehouse ns table = .ok ident) : ident.Made := by
  simp only [restTableIdent, parseRestNamespace, bind_eq_ok, pure_eq, Except.ok.injEq] at made
  obtain ⟨owner, first, space, second, name, third, rfl⟩ := made
  exact ⟨⟨_, first⟩, ⟨_, second⟩, ⟨_, third⟩⟩

section Accesses

variable [External] {state : LakeCatState} {store : MemoryState}

theorem prefix_made (owner : state.warehouse.Made) {catalogPrefix : CatalogPrefix}
    {warehouse : WarehouseName} (read : catalogPrefix.warehouse state store = .ok warehouse) :
    warehouse.Made := by
  cases catalogPrefix with
  | default =>
      cases read
      exact owner
  | named text =>
      simp only [CatalogPrefix.warehouse, prefixedCatalogWarehouse, bind_eq_ok, pure_eq,
        Except.ok.injEq] at read
      obtain ⟨name, made, -, -, rfl⟩ := read
      exact ⟨_, made⟩

theorem inWarehouse_formed {catalogPrefix : CatalogPrefix} {action : CatalogAction}
    {object : WarehouseName → LakeCatResult CatalogObject} {access : Access}
    (read : ServiceRequest.inWarehouse state store catalogPrefix action object = .ok access) :
    access.Formed false := by
  simp only [ServiceRequest.inWarehouse, bind_eq_ok, pure_eq, Except.ok.injEq] at read
  obtain ⟨warehouse, -, held, -, rfl⟩ := read
  exact onCatalog_formed _ _

theorem inTable_formed {catalogPrefix : CatalogPrefix} {action : CatalogAction}
    {ns table : String} {access : Access}
    (read : ServiceRequest.inTable state store catalogPrefix ns table action = .ok access) :
    access.Formed true := by
  simp only [ServiceRequest.inTable, bind_eq_ok, pure_eq, Except.ok.injEq] at read
  obtain ⟨warehouse, -, ident, made, rfl⟩ := read
  exact onTable_formed (restTableIdent_made made)

omit [External] in
theorem manage_formed {warehouse : String} {action : CatalogAction}
    {object : WarehouseName → CatalogObject} {access : Access}
    (read : ServiceRequest.manage warehouse action object = .ok access) : access.Formed false := by
  simp only [ServiceRequest.manage, bind_eq_ok, pure_eq, Except.ok.injEq] at read
  obtain ⟨owner, -, rfl⟩ := read
  exact onCatalog_formed _ _

omit [External] in
theorem manageNamespace_formed {warehouse ns : String} {action : CatalogAction}
    {object : WarehouseName → Namespace → CatalogObject} {access : Access}
    (read : ServiceRequest.manageNamespace warehouse ns action object = .ok access) :
    access.Formed false := by
  simp only [ServiceRequest.manageNamespace, bind_eq_ok, pure_eq, Except.ok.injEq] at read
  obtain ⟨owner, -, space, -, rfl⟩ := read
  exact onCatalog_formed _ _

omit [External] in
theorem manageView_formed {warehouse ns view : String} {action : CatalogAction} {access : Access}
    (read : ServiceRequest.manageView warehouse ns view action = .ok access) :
    access.Formed false := by
  simp only [ServiceRequest.manageView, bind_eq_ok, pure_eq, Except.ok.injEq] at read
  obtain ⟨owner, -, space, -, name, -, rfl⟩ := read
  exact onCatalog_formed _ _

omit [External] in
theorem manageTable_formed {warehouse ns table : String} {action : CatalogAction} {access : Access}
    (read : ServiceRequest.manageTable warehouse ns table action = .ok access) :
    access.Formed true := by
  simp only [ServiceRequest.manageTable, bind_eq_ok, pure_eq, Except.ok.injEq] at read
  obtain ⟨owner, -, ident, made, rfl⟩ := read
  exact onTable_formed (restTableIdent_made made)

theorem renamedTable_formed (owner : state.warehouse.Made) {catalogPrefix : CatalogPrefix}
    {source destination : TableIdentifier} {access : Access}
    (read : ServiceRequest.renamedTable state store catalogPrefix source destination =
      .ok access) : access.Formed true := by
  simp only [ServiceRequest.renamedTable, tableIdentifierInWarehouse, TableRenameTarget.new,
    bind_eq_ok, exists_unit, pure_eq, Except.ok.injEq] at read
  obtain ⟨warehouse, within, from_, ⟨ns, first, name, second, rfl⟩, target, -, pair, ⟨-, rfl⟩,
    rfl⟩ := read
  refine ⟨rfl, fun ident same => ?_, fun ident same => ?_⟩
  · rw [← Option.some.inj same]
    exact ⟨prefix_made owner within, ⟨_, first⟩, ⟨_, second⟩⟩
  · rw [← Option.some.inj same]
    rfl

/-- Every handler asks for a table exactly when it is one of those on a table. -/
theorem access_formed (owner : state.warehouse.Made) {request : ServiceRequest} {access : Access}
    (read : request.access state store = .ok access) : access.Formed request.onTable := by
  cases request with
  | getConfig | createNamespace | listNamespaces | listTables | loadNamespace
  | updateNamespaceProperties | dropNamespace => exact inWarehouse_formed read
  | createTable | registerTable | loadTable | commitTable | deleteTable | planTableScan
  | fetchScanTasks | loadCredentials => exact inTable_formed read
  | renameTable => exact renamedTable_formed owner read
  | restoreTable | listTableCommits => exact manageTable_formed read
  | catalogLoadView | catalogUpsertView | catalogDropView | listViewVersionReceipts | upsertView
  | dropView => exact manageView_formed read
  | catalogListViews | listViews | listViewVersionReceiptChains => exact manageNamespace_formed read
  | upsertProjectWarehouse | upsertWarehouse | listStorageProfiles | upsertStorageProfile
  | listPolicyBindings | upsertPolicyBinding | listModelPublications | publishModel =>
      exact manage_formed read
  | listProjects | upsertProject | listProjectWarehouses | listWarehouses | listServers
  | upsertServer | drainLineageOutbox | querygraphBootstrap =>
      cases read
      exact onCatalog_formed _ _

end Accesses

section Context

variable [External] {state : LakeCatState} {store : MemoryState} {identity : RequestIdentity}
  {access : Access} {request : AuthorizationRequest}

omit [External] in
theorem insertOperationContext_get {key : String} {value : Json} :
    ∀ {operation : List (String × Json)} {context made : Json}, context.isObject = true →
      context.get key = some value → insertOperationContext context operation = .ok made →
      made.get key = some value
  | [], _, _, _, present, inserted => Except.ok.inj inserted ▸ present
  | (added, entry) :: _, context, _, shape, present, inserted => by
      simp only [insertOperationContext, bind_eq_ok, exists_unit, rejectIf_ok] at inserted
      obtain ⟨fresh, inserted⟩ := inserted
      refine insertOperationContext_get (Json.isObject_set _ _ _ shape) ?_ inserted
      have other : key ≠ added := by
        rintro rfl
        rw [present] at fresh
        exact fresh rfl
      rw [Json.get_set _ _ _ _ shape, if_neg other]
      exact present

omit [External] in
theorem restrictedContext_warehouse (context : Json) (action : CatalogAction)
    (principal : Principal) (restriction : Option FullReadRestriction)
    (shape : context.isObject = true) :
    (restrictedContext context action principal restriction).isObject = true ∧
      (restrictedContext context action principal restriction).get "warehouse" =
        context.get "warehouse" := by
  cases restriction with
  | none => exact ⟨shape, rfl⟩
  | some restriction =>
      have set := Json.isObject_set context "read-restriction" restriction.toJson shape
      have kept : (context.set "read-restriction" restriction.toJson).get "warehouse" =
          context.get "warehouse" := by
        rw [Json.get_set _ _ _ _ shape, if_neg (by decide)]
      simp only [restrictedContext]
      split
      · refine ⟨Json.isObject_set _ _ _ set, ?_⟩
        rw [Json.get_set _ _ _ _ set, if_neg (by decide), kept]
      · exact ⟨set, kept⟩

/-- The context names the warehouse of the table, and without a table that of the service. -/
theorem handed_warehouse (handed : access.handed state store identity = .ok request) :
    request.context.get "warehouse" =
      some (.str ((access.table.map TableIdent.warehouse).getD state.warehouse).value) := by
  simp only [Access.handed, bind_eq_ok, pure_eq, Except.ok.injEq] at handed
  obtain ⟨operation, -, bindings, -, restriction, -, context, inserted, rfl⟩ := handed
  have base := restrictedContext_warehouse
    (baseContext ((access.table.map TableIdent.warehouse).getD state.warehouse) identity bindings)
    access.action identity.principal restriction rfl
  refine insertOperationContext_get base.1 (base.2.trans ?_) inserted
  rw [baseContext_get]
  simp

end Context

/-- What two requests are on can be told by the names that the engine sees. -/
def TablesDiffer : Option TableIdent → Option TableIdent → Prop
  | none, none => False
  | some one, some other =>
      one.warehouse ≠ other.warehouse ∨ one.ns.path ≠ other.ns.path ∨ one.name ≠ other.name
  | _, _ => True

theorem resourceName_ne {one other : AuthorizationRequest}
    (made : ∀ ident, one.table = some ident → ident.Made)
    (otherMade : ∀ ident, other.table = some ident → ident.Made)
    (differ : TablesDiffer one.table other.table) : resourceName one ≠ resourceName other := by
  rw [resourceName, resourceName]
  cases first : one.table with
  | none =>
      cases second : other.table with
      | none =>
          rw [first, second] at differ
          exact differ.elim
      | some ident => exact (stableId_ne_catalog ident).symm
  | some ident =>
      cases second : other.table with
      | none => exact stableId_ne_catalog ident
      | some another =>
          rw [first, second] at differ
          intro same
          obtain ⟨warehouse, path, name⟩ :=
            stableId_parts (made ident first) (otherMade another second) same
          rcases differ with unlike | unlike | unlike
          · exact unlike warehouse
          · exact unlike path
          · exact unlike name

/-- A policy can tell requests apart by who asks, for what, and on which table; two requests that
are on no table it can tell apart only by the first two. -/
theorem requests_toldApart [External] {state : LakeCatState} {store : MemoryState}
    (owner : state.warehouse.Made) {identity otherIdentity : RequestIdentity}
    {asked otherAsked : ServiceRequest} {access otherAccess : Access}
    {request other : AuthorizationRequest} (read : asked.access state store = .ok access)
    (otherRead : otherAsked.access state store = .ok otherAccess)
    (handed : access.handed state store identity = .ok request)
    (otherHanded : otherAccess.handed state store otherIdentity = .ok other) :
    (identity.principal.subject ≠ otherIdentity.principal.subject ∨
        access.action ≠ otherAccess.action ∨ TablesDiffer access.table otherAccess.table →
      ToldApart request other) ∧
    (asked.onTable = false → otherAsked.onTable = false → (ToldApart request other ↔
      identity.principal.subject ≠ otherIdentity.principal.subject ∨
        access.action ≠ otherAccess.action)) ∧
    (asked.onTable = true → ∃ warehouse, access.object.warehouse? = some warehouse ∧
      request.context.get "warehouse" = some (.str warehouse.value)) := by
  obtain ⟨principal, action, table⟩ := handed_ok handed
  obtain ⟨otherPrincipal, otherAction, otherTable⟩ := handed_ok otherHanded
  have formed := access_formed owner read
  have otherFormed := access_formed owner otherRead
  have told : ToldApart request other ↔
      identity.principal.subject ≠ otherIdentity.principal.subject ∨
        access.action ≠ otherAccess.action ∨ resourceName request ≠ resourceName other := by
    rw [toldApart_iff, decidedOn, decidedOn, principal, otherPrincipal, action, otherAction, ne_eq,
      Prod.mk.injEq, Prod.mk.injEq, actionName_injective.eq_iff, not_and_or, not_and_or]
  refine ⟨?_, ?_, ?_⟩
  · rw [told]
    rintro (subject | actions | tables)
    · exact .inl subject
    · exact .inr (.inl actions)
    · refine .inr (.inr (resourceName_ne ?_ ?_ (table ▸ otherTable ▸ tables)))
      · intro ident same
        exact formed.made ident (table ▸ same)
      · intro ident same
        exact otherFormed.made ident (otherTable ▸ same)
  · intro onNone otherOnNone
    have absent : access.table = none := by simpa [onNone] using formed.isSome
    have otherAbsent : otherAccess.table = none := by simpa [otherOnNone] using otherFormed.isSome
    have one : resourceName request = resourceName other := by
      rw [resourceName, resourceName, table, otherTable, absent, otherAbsent]
    rw [told, one]
    simp
  · intro onSome
    obtain ⟨ident, present⟩ := Option.isSome_iff_exists.mp (formed.isSome.trans onSome)
    refine ⟨ident.warehouse, formed.own ident present, ?_⟩
    rw [handed_warehouse handed, present]
    rfl

section Samples

variable [External]

def mainState : LakeCatState :=
  ⟨⟨"main"⟩, "catalog", allowAllGovernanceEngine⟩

def anonymousIdentity : RequestIdentity := ⟨.anonymous, .null⟩

theorem emptyBindings (ident : TableIdent) :
    MemoryState.empty.policyBindingsForTable ident = .ok [] := by
  have listed : MemoryState.empty.policyBindings.toList = [] := rfl
  rw [MemoryState.policyBindingsForTable, listed]
  simp [collect]

/-- A request for a table of an empty catalog. -/
def loadRequest (ident : TableIdent) : AuthorizationRequest :=
  ⟨.anonymous, .tableLoad, some ident, baseContext ident.warehouse anonymousIdentity []⟩

theorem loadRequest_handed (ident : TableIdent) :
    (Access.onTable .tableLoad ident).handed mainState MemoryState.empty anonymousIdentity =
      .ok (loadRequest ident) := by
  simp only [Access.handed, Access.onTable, operationContext, requestBindings, emptyBindings,
    ok_bind]
  rfl

end Samples

theorem requests_toldApart_orders : ∃ _ : External,
    ToldApart (loadRequest ⟨⟨"main"⟩, ⟨["sales"]⟩, ⟨"orders"⟩⟩)
      (loadRequest ⟨⟨"main"⟩, ⟨["sales"]⟩, ⟨"items"⟩⟩) := by
  let _ := constantExternal
  have orders : (ServiceRequest.loadTable .default "sales" "orders").access mainState
      MemoryState.empty = .ok (.onTable .tableLoad ⟨⟨"main"⟩, ⟨["sales"]⟩, ⟨"orders"⟩⟩) := rfl
  have items : (ServiceRequest.loadTable .default "sales" "items").access mainState
      MemoryState.empty = .ok (.onTable .tableLoad ⟨⟨"main"⟩, ⟨["sales"]⟩, ⟨"items"⟩⟩) := rfl
  have apart := requests_toldApart ⟨"main", rfl⟩ orders items (loadRequest_handed _)
    (loadRequest_handed _)
  exact ⟨constantExternal, apart.1 (.inr (.inr (.inr (.inr (by decide)))))⟩

/-- Two views of different warehouses, of which no policy can allow just one; the engine is told
that both are in the first. Two tables whose namespaces are written alike are not told apart
either. -/
theorem requests_notToldApart : ∃ _ : External,
    (∃ access otherAccess request other,
      (ServiceRequest.listViews "main" "sales").access mainState MemoryState.empty = .ok access ∧
      (ServiceRequest.listViews "other" "sales").access mainState MemoryState.empty =
        .ok otherAccess ∧
      access.object ≠ otherAccess.object ∧
      access.handed mainState MemoryState.empty anonymousIdentity = .ok request ∧
      otherAccess.handed mainState MemoryState.empty anonymousIdentity = .ok other ∧
      ¬ToldApart request other ∧
      otherAccess.object.warehouse? = some ⟨"other"⟩ ∧
      other.context.get "warehouse" = some (.str "main")) ∧
    (∃ access otherAccess request other,
      (ServiceRequest.loadTable .default "a.b" "orders").access mainState MemoryState.empty =
        .ok access ∧
      (ServiceRequest.loadTable .default "a\x1fb" "orders").access mainState MemoryState.empty =
        .ok otherAccess ∧
      access.object ≠ otherAccess.object ∧
      access.handed mainState MemoryState.empty anonymousIdentity = .ok request ∧
      otherAccess.handed mainState MemoryState.empty anonymousIdentity = .ok other ∧
      ¬ToldApart request other) := by
  let _ := constantExternal
  refine ⟨constantExternal, ⟨_, _, _, _, rfl, rfl, by decide, rfl, rfl, ?_, rfl, ?_⟩,
    ⟨.onTable .tableLoad ⟨⟨"main"⟩, ⟨["a.b"]⟩, ⟨"orders"⟩⟩,
      .onTable .tableLoad ⟨⟨"main"⟩, ⟨["a", "b"]⟩, ⟨"orders"⟩⟩, _, _, rfl, rfl, by decide,
      loadRequest_handed _, loadRequest_handed _, ?_⟩⟩
  · rw [toldApart_iff, not_not]
    rfl
  · refine (baseContext_get _ _ _).trans ?_
    simp
    rfl
  · rw [toldApart_iff, not_not]
    decide

end LakeCat
