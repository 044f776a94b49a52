import LakeCat.CatalogProvider
import LakeCat.ScanAuthorization

/-!
The provider asks for leave first. Each method comes to the store and the
planner only after the engine has allowed its own action, on the same table
where it is about one.
-/

namespace LakeCat

open Fallible Asking

namespace ProviderCall

/-- All but the question to the engine and what is read to put it. -/
def IsContent : ProviderCall → Prop
  | .authorize _ | .policyBindingsForTable _ => False
  | _ => True

/-- The calls that an allowed action is leave for, on a table or on the catalog. -/
def Licensed (action : CatalogAction) (table : Option TableIdent) : ProviderCall → Prop
  | .authorize _ | .policyBindingsForTable _ => False
  | .createNamespace .. => action = .namespaceCreate ∧ table = none
  | .listNamespaces _ | .listTables _ => action = .namespaceList ∧ table = none
  | .dropNamespace .. => action = .namespaceDrop ∧ table = none
  | .createTable record => action = .tableCreate ∧ table = some record.ident
  | .loadTable ident =>
      (action = .tableLoad ∨ action = .tablePlanScan ∨ action = .tableCommit) ∧
        table = some ident
  | .softDeleteTable ident .. => action = .tableDrop ∧ table = some ident
  | .prepareCommit request => action = .tableCommit ∧ table = some request.table
  | .commitTable ident _ => action = .tableCommit ∧ table = some ident
  | .planScan _ request => action = .tablePlanScan ∧ table = some request.table
  | .fetchScanTasks _ request => action = .tablePlanScan ∧ table = some request.table
  | .tableCommitRecords .. => False
  | .loadNamespace .. | .upsertView _ => action = .viewManage ∧ table = none
  | .loadView .. => (action = .viewManage ∨ action = .viewLoad) ∧ table = none
  | .listViews .. => action = .viewLoad ∧ table = none
  | .dropView .. => action = .viewDrop ∧ table = none

end ProviderCall

abbrev ProviderHistory := List (Exchange ProviderCall ProviderCall.Answer)

/-- The engine has allowed the action to the principal of the provider. -/
def Grants (provider : LakeCatCatalogProvider) (action : CatalogAction)
    (table : Option TableIdent) (history : ProviderHistory) : Prop :=
  ∃ (request : AuthorizationRequest) (receipt : AuthorizationReceipt),
    (⟨.authorize request, .ok receipt⟩ : Exchange ProviderCall ProviderCall.Answer) ∈ history ∧
    receipt.allowed = true ∧ request.principal = provider.principal ∧
    request.action = action ∧ request.table = table

/-- Content is asked for once the engine has allowed the action that is leave for it. -/
def AfterLeave (provider : LakeCatCatalogProvider) (action : CatalogAction)
    (history : ProviderHistory) (call : ProviderCall) : Prop :=
  call.IsContent → ∃ table, Grants provider action table history ∧ call.Licensed action table

/-- The engine has allowed nothing. -/
def Denies (history : ProviderHistory) : Prop :=
  ∀ (request : AuthorizationRequest) (receipt : AuthorizationReceipt),
    (⟨.authorize request, .ok receipt⟩ : Exchange ProviderCall ProviderCall.Answer) ∈ history →
    receipt.allowed = false

/-- Where the engine allows nothing the method fails. -/
def FailsDenied {α : Type} (history : ProviderHistory) (result : CatalogResult α) : Prop :=
  Denies history → ∃ error, result = .error error

theorem Grants.append {provider : LakeCatCatalogProvider} {action : CatalogAction}
    {table : Option TableIdent} {history : ProviderHistory}
    (grants : Grants provider action table history) (later : ProviderHistory) :
    Grants provider action table (history ++ later) := by
  obtain ⟨request, receipt, member, rest⟩ := grants
  exact ⟨request, receipt, List.mem_append_left later member, rest⟩

theorem Grants.not_denies {provider : LakeCatCatalogProvider} {action : CatalogAction}
    {table : Option TableIdent} {history : ProviderHistory}
    (grants : Grants provider action table history) : ¬Denies history := by
  obtain ⟨request, receipt, member, allowed, _⟩ := grants
  intro denies
  rw [denies request receipt member] at allowed
  cases allowed

/-- The method has leave for what it gives, and has asked for no content before. -/
def TakesLeave (provider : LakeCatCatalogProvider) (action : CatalogAction) {α : Type}
    (table : α → Option TableIdent) (method : ProviderMethod α) : Prop :=
  ∀ (permitted : ProviderHistory → ProviderCall → Prop) (history : ProviderHistory),
    (∀ history call, ¬call.IsContent → permitted history call) →
    method.run.Obeys permitted (fun history result =>
      match result with
      | .ok value => Grants provider action (table value) history
      | .error _ => True) history

section

variable {provider : LakeCatCatalogProvider} {action : CatalogAction}
  {α β : Type}

/-- A check of what the method gives, which keeps the table that the leave is for. -/
theorem TakesLeave.bind_ofExcept {given : β → Option TableIdent} {made : α → Option TableIdent}
    {method : ProviderMethod β} (leave : TakesLeave provider action given method)
    {result : β → CatalogResult α}
    (same : ∀ value checked, result value = .ok checked → made checked = given value) :
    TakesLeave provider action made (method >>= fun value => Method.ofExcept (result value)) := by
  intro permitted history harmless
  apply Method.obeys_bind
  apply (leave permitted history harmless).imp
  intro history given final
  cases given with
  | error error => trivial
  | ok value =>
      apply Method.obeys_ofExcept
      cases checked : result value with
      | ok kept =>
          simp only [same value kept checked]
          exact final
      | error error => trivial

/-- What follows a method that has leave may ask for what the leave is for. -/
theorem TakesLeave.then {table : β → Option TableIdent} {first : ProviderMethod β}
    {next : β → ProviderMethod α} (leave : TakesLeave provider action table first)
    (asks : ∀ value, (next value).run.Asks (ProviderCall.Licensed action (table value)))
    (history : ProviderHistory) :
    (first >>= next).run.Obeys (AfterLeave provider action) FailsDenied history := by
  apply Method.obeys_bind
  apply (leave (AfterLeave provider action) history
    (fun _ _ harmless content => absurd content harmless)).imp
  intro history given final
  cases given with
  | error error => exact fun _ => ⟨error, rfl⟩
  | ok value =>
      apply (asks value).obeys
      · intro later call licensed _
        exact ⟨table value, final.append later, licensed⟩
      · intro later result denies
        exact absurd denies (final.append later).not_denies

/-- A method that is all leave asks for no content. -/
theorem TakesLeave.obeys {table : α → Option TableIdent} {method : ProviderMethod α}
    (leave : TakesLeave provider action table method) {history : ProviderHistory} :
    method.run.Obeys (AfterLeave provider action) FailsDenied history := by
  apply (leave (AfterLeave provider action) history
    (fun _ _ harmless content => absurd content harmless)).imp
  intro history given final
  cases given with
  | error error => exact fun _ => ⟨error, rfl⟩
  | ok value => exact fun denies => absurd denies final.not_denies

/-- A response made of what the method gives. -/
theorem failsDenied_return {method : ProviderMethod β} (make : β → α) {history : ProviderHistory}
    {permitted : ProviderHistory → ProviderCall → Prop}
    (obeys : method.run.Obeys permitted FailsDenied history) :
    (method >>= fun value => pure (make value)).run.Obeys permitted FailsDenied history := by
  apply Method.obeys_bind
  apply obeys.imp
  intro history given final
  cases given with
  | error error => exact fun _ => ⟨error, rfl⟩
  | ok value =>
      intro denies
      obtain ⟨error, failed⟩ := final denies
      cases failed

/-- A pure step before the rest of a method. -/
theorem failsDenied_ofExcept {result : CatalogResult β} {next : β → ProviderMethod α}
    {history : ProviderHistory} {permitted : ProviderHistory → ProviderCall → Prop}
    (obeys : ∀ value, (next value).run.Obeys permitted FailsDenied history) :
    (Method.ofExcept result >>= next).run.Obeys permitted FailsDenied history :=
  Method.obeys_ofExcept_bind (fun value _ => obeys value) fun error _ _ => ⟨error, rfl⟩

end

namespace LakeCatCatalogProvider

variable (provider : LakeCatCatalogProvider)

theorem authorizeAs_takesLeave (request : AuthorizationRequest)
    (own : request.principal = provider.principal) :
    TakesLeave provider request.action (fun _ => request.table) (authorizeAs request) := by
  intro permitted history harmless
  apply Method.obeys_request_bind (harmless _ (.authorize request) (fun content => content))
  intro answer
  apply Method.obeys_ofExcept_bind
  · intro receipt received
    cases answer with
    | error error => cases received
    | ok given =>
        cases received
        split
        next allowed =>
          apply Method.obeys_pure
          exact ⟨request, _, List.mem_append_right _ List.mem_cons_self, allowed, own, rfl, rfl⟩
        next => exact Method.obeys_fail trivial
  · intro error _
    trivial

theorem authorizeCatalog_takesLeave (action : CatalogAction) :
    TakesLeave provider action (fun _ => none) (provider.authorizeCatalog action) :=
  provider.authorizeAs_takesLeave ⟨provider.principal, action, none, provider.providerContext⟩ rfl

section

variable [External]

theorem authorizeTableWithContext_takesLeave (action : CatalogAction) (table : TableIdent)
    (context : Json) :
    TakesLeave provider action (fun _ => some table)
      (provider.authorizeTableWithContext action table context) :=
  (provider.authorizeAs_takesLeave ⟨provider.principal, action, some table, context⟩
    rfl).bind_ofExcept fun _ _ _ => rfl

theorem tableCapability_takesLeave (action : CatalogAction) (description : String)
    (ident : TableIdent) :
    TakesLeave provider action (fun _ => some ident)
      (provider.tableCapability action description ident) := by
  intro permitted history harmless
  apply Method.obeys_bind
  apply (provider.authorizeTableWithContext_takesLeave action ident _ permitted history
    harmless).imp
  intro history given final
  cases given with
  | error error => trivial
  | ok receipt =>
      apply Method.obeys_ofExcept_bind
      · intro _ _
        exact Method.obeys_pure final
      · intro error _
        trivial

omit [External] in
theorem mapError_ok {result : LakeCatResult α} {value : α}
    (succeeded : result.mapError catalogError = .ok value) : result = .ok value := by
  cases result with
  | ok given => exact congrArg Except.ok (Except.ok.inj succeeded)
  | error error => cases succeeded

theorem authorizeTableScanForIdent_takesLeave (ident : TableIdent) :
    TakesLeave provider .tablePlanScan (fun capability => some capability.table)
      (provider.authorizeTableScanForIdent ident) := by
  intro permitted history harmless
  apply Method.obeys_request_bind
    (harmless _ (.policyBindingsForTable ident) (fun content => content))
  intro bindings
  apply Method.obeys_ofExcept_bind
  · intro bindings _
    apply Method.obeys_ofExcept_bind
    · intro restriction _
      apply (provider.authorizeTableWithContext_takesLeave .tablePlanScan ident _).bind_ofExcept
        _ permitted _ harmless
      intro receipt capability made
      rw [(fromReceipt_ok.mp (mapError_ok made)).2]
    · intro error _
      trivial
  · intro error _
    trivial

theorem authorizeTableScan_takesLeave (database : List String) (table : String) :
    TakesLeave provider .tablePlanScan (fun capability => some capability.table)
      (provider.authorizeTableScan database table) := by
  intro permitted history harmless
  apply Method.obeys_ofExcept_bind
  · intro ident _
    exact provider.authorizeTableScanForIdent_takesLeave ident permitted history harmless
  · intro error _
    trivial

omit [External] in
/-- A scan under a capability stays on the table of the capability. -/
theorem planWithCapability_asks (capability : TableScanCapability)
    (request : ProviderScanPlanningRequest) :
    (planWithCapability capability request).run.Asks
      (ProviderCall.Licensed .tablePlanScan (some capability.table)) := by
  apply Method.asks_bind (Method.asks_ofExcept _)
  intro projection
  apply Method.asks_bind (Method.asks_request ⟨.inr (.inl rfl), rfl⟩)
  intro answer
  apply Method.asks_bind (Method.asks_ofExcept _)
  intro record
  apply Method.asks_bind (Method.asks_request ⟨rfl, rfl⟩)
  intro plan
  exact Method.asks_ofExcept _

omit [External] in
theorem fetchWithCapability_asks (capability : TableScanCapability) (planTask : String) :
    (fetchWithCapability capability planTask).run.Asks
      (ProviderCall.Licensed .tablePlanScan (some capability.table)) := by
  apply Method.asks_bind (Method.asks_request ⟨.inr (.inl rfl), rfl⟩)
  intro answer
  apply Method.asks_bind (Method.asks_ofExcept _)
  intro record
  apply Method.asks_bind (Method.asks_ofExcept _)
  intro projection
  apply Method.asks_bind (Method.asks_request ⟨rfl, rfl⟩)
  intro plan
  exact Method.asks_ofExcept _

end

/-- The action that a method is about. -/
def actionOf [External] [SailCatalog] : ProviderRequest → CatalogAction
  | .authorizeTableScan .. | .authorizeTableScanForIdent _ | .planTableScan ..
  | .planTableScanForIdent .. | .planAuthorizedTableScan .. | .fetchTableScanTasks ..
  | .fetchTableScanTasksForIdent .. | .fetchAuthorizedTableScanTasks .. => .tablePlanScan
  | .createDatabase _ => .namespaceCreate
  | .getDatabase _ | .listDatabases _ | .listTables _ => .namespaceList
  | .dropDatabase .. => .namespaceDrop
  | .createTable .. => .tableCreate
  | .getTable .. | .getTableCommits .. => .tableLoad
  | .dropTable .. => .tableDrop
  | .alterTable | .commitTable .. => .tableCommit
  | .createView .. => .viewManage
  | .getView .. | .listViews _ => .viewLoad
  | .dropView .. => .viewDrop

/-- The capability of a method that another boundary has authorized. -/
def handedCapability [External] [SailCatalog] : ProviderRequest → Option TableScanCapability
  | .planAuthorizedTableScan capability _ | .fetchAuthorizedTableScanTasks capability _ =>
      some capability
  | _ => none

section Methods

variable (history : ProviderHistory)

theorem createDatabase_obeys (database : List String) :
    (provider.createDatabase database).run.Obeys (AfterLeave provider .namespaceCreate)
      FailsDenied history := by
  apply (provider.authorizeCatalog_takesLeave .namespaceCreate).then
  intro receipt
  apply Method.asks_bind (Method.asks_ofExcept _)
  intro ns
  apply Method.asks_bind (Method.asks_request ⟨rfl, rfl⟩)
  intro created
  exact Method.asks_bind (Method.asks_ofExcept _) fun _ => Method.asks_pure _

theorem getDatabase_obeys (database : List String) :
    (provider.getDatabase database).run.Obeys (AfterLeave provider .namespaceList)
      FailsDenied history := by
  apply (provider.authorizeCatalog_takesLeave .namespaceList).then
  intro receipt
  apply Method.asks_bind (Method.asks_ofExcept _)
  intro ns
  apply Method.asks_bind (Method.asks_request ⟨rfl, rfl⟩)
  intro listed
  apply Method.asks_bind (Method.asks_ofExcept _)
  intro namespaces
  split
  · exact Method.asks_pure _
  · exact Method.asks_ofExcept _

theorem listDatabases_obeys (head : Option (List String)) :
    (provider.listDatabases head).run.Obeys (AfterLeave provider .namespaceList)
      FailsDenied history := by
  apply (provider.authorizeCatalog_takesLeave .namespaceList).then
  intro receipt
  apply Method.asks_bind (Method.asks_ofExcept _)
  intro head
  apply Method.asks_bind (Method.asks_request ⟨rfl, rfl⟩)
  intro listed
  exact Method.asks_bind (Method.asks_ofExcept _) fun _ => Method.asks_pure _

theorem dropDatabase_obeys (database : List String) (options : DropDatabaseOptions) :
    (provider.dropDatabase database options).run.Obeys (AfterLeave provider .namespaceDrop)
      FailsDenied history := by
  apply (provider.authorizeCatalog_takesLeave .namespaceDrop).then
  intro receipt
  apply Method.asks_bind (Method.asks_ofExcept _)
  intro checked
  apply Method.asks_bind (Method.asks_ofExcept _)
  intro ns
  split
  · exact Method.asks_ofExcept _
  · exact Method.asks_bind (Method.asks_request ⟨rfl, rfl⟩) fun _ => Method.asks_ofExcept _

theorem dropView_obeys (database : List String) (view : String) (options : DropViewOptions) :
    (provider.dropView database view options).run.Obeys (AfterLeave provider .viewDrop)
      FailsDenied history := by
  apply (provider.authorizeCatalog_takesLeave .viewDrop).then
  intro receipt
  apply Method.asks_bind (Method.asks_ofExcept _)
  intro checked
  apply Method.asks_bind (Method.asks_ofExcept _)
  intro ns
  apply Method.asks_bind (Method.asks_ofExcept _)
  intro viewName
  exact Method.asks_bind (Method.asks_request ⟨rfl, rfl⟩) fun _ => Method.asks_ofExcept _

theorem alterTable_obeys :
    (alterTable).run.Obeys (AfterLeave provider .tableCommit) FailsDenied history :=
  Method.obeys_fail fun _ => ⟨_, rfl⟩

section

variable [External]

theorem dropTable_obeys (database : List String) (table : String) :
    (provider.dropTable database table).run.Obeys (AfterLeave provider .tableDrop)
      FailsDenied history := by
  apply failsDenied_ofExcept
  intro ident
  apply (provider.tableCapability_takesLeave .tableDrop _ ident).then
  intro receipt
  exact Method.asks_bind (Method.asks_request ⟨rfl, rfl⟩) fun _ => Method.asks_ofExcept _

end

section

variable [SailCatalog]

theorem listTables_obeys (database : List String) :
    (provider.listTables database).run.Obeys (AfterLeave provider .namespaceList)
      FailsDenied history := by
  apply (provider.authorizeCatalog_takesLeave .namespaceList).then
  intro receipt
  apply Method.asks_bind (Method.asks_ofExcept _)
  intro ns
  apply Method.asks_bind (Method.asks_request ⟨rfl, rfl⟩)
  intro listed
  exact Method.asks_bind (Method.asks_ofExcept _) fun _ => Method.asks_pure _

theorem getView_obeys (database : List String) (view : String) :
    (provider.getView database view).run.Obeys (AfterLeave provider .viewLoad)
      FailsDenied history := by
  apply (provider.authorizeCatalog_takesLeave .viewLoad).then
  intro receipt
  apply Method.asks_bind (Method.asks_ofExcept _)
  intro checked
  apply Method.asks_bind (Method.asks_ofExcept _)
  intro ns
  apply Method.asks_bind (Method.asks_ofExcept _)
  intro viewName
  apply Method.asks_bind (Method.asks_request ⟨.inr rfl, rfl⟩)
  intro loaded
  exact Method.asks_bind (Method.asks_ofExcept _) fun _ => Method.asks_ofExcept _

theorem listViews_obeys (database : List String) :
    (provider.listViews database).run.Obeys (AfterLeave provider .viewLoad)
      FailsDenied history := by
  apply (provider.authorizeCatalog_takesLeave .viewLoad).then
  intro receipt
  apply Method.asks_bind (Method.asks_ofExcept _)
  intro checked
  apply Method.asks_bind (Method.asks_ofExcept _)
  intro ns
  apply Method.asks_bind (Method.asks_request ⟨rfl, rfl⟩)
  intro listed
  exact Method.asks_bind (Method.asks_ofExcept _) fun _ => Method.asks_ofExcept _

end

variable [External] [SailCatalog]

theorem createTable_obeys (now : Timestamp) (database : List String) (table : String)
    (options : CreateTableOptions) :
    (provider.createTable now database table options).run.Obeys
      (AfterLeave provider .tableCreate) FailsDenied history := by
  apply failsDenied_ofExcept
  intro ident
  apply (provider.tableCapability_takesLeave .tableCreate _ ident).then
  intro receipt
  apply Method.asks_bind (Method.asks_ofExcept _)
  intro location
  apply Method.asks_bind (Method.asks_ofExcept _)
  intro supported
  apply Method.asks_bind (Method.asks_request ⟨rfl, rfl⟩)
  intro created
  exact Method.asks_bind (Method.asks_ofExcept _) fun _ => Method.asks_pure _

theorem getTable_obeys (database : List String) (table : String) :
    (provider.getTable database table).run.Obeys (AfterLeave provider .tableLoad)
      FailsDenied history := by
  apply failsDenied_ofExcept
  intro ident
  apply (provider.tableCapability_takesLeave .tableLoad _ ident).then
  intro receipt
  apply Method.asks_bind (Method.asks_request ⟨.inl rfl, rfl⟩)
  intro loaded
  exact Method.asks_bind (Method.asks_ofExcept _) fun _ => Method.asks_pure _

theorem commitTable_obeys (database : List String) (table : String)
    (options : CommitTableOptions) :
    (provider.commitTable database table options).run.Obeys (AfterLeave provider .tableCommit)
      FailsDenied history := by
  apply failsDenied_ofExcept
  intro supported
  apply failsDenied_ofExcept
  intro ident
  apply (provider.tableCapability_takesLeave .tableCommit _ ident).then
  intro receipt
  apply Method.asks_bind (Method.asks_request ⟨.inr (.inr rfl), rfl⟩)
  intro loaded
  apply Method.asks_bind (Method.asks_ofExcept _)
  intro current
  apply Method.asks_bind (Method.asks_request ⟨rfl, rfl⟩)
  intro prepared
  apply Method.asks_bind (Method.asks_ofExcept _)
  intro plan
  apply Method.asks_bind (Method.asks_request ⟨rfl, rfl⟩)
  intro committed
  exact Method.asks_bind (Method.asks_ofExcept _) fun _ => Method.asks_pure _

theorem createView_obeys (now : Timestamp) (database : List String) (view : String)
    (options : CreateViewOptions) :
    (provider.createView now database view options).run.Obeys (AfterLeave provider .viewManage)
      FailsDenied history := by
  apply (provider.authorizeCatalog_takesLeave .viewManage).then
  intro receipt
  apply Method.asks_bind (Method.asks_ofExcept _)
  intro checked
  apply Method.asks_bind (Method.asks_ofExcept _)
  intro ns
  apply Method.asks_bind (Method.asks_request ⟨rfl, rfl⟩)
  intro loaded
  apply Method.asks_bind (Method.asks_ofExcept _)
  intro there
  apply Method.asks_bind (Method.asks_ofExcept _)
  intro viewName
  apply Method.asks_bind (Method.asks_request ⟨.inl rfl, rfl⟩)
  intro existing
  apply Method.asks_bind (Method.asks_ofExcept _)
  intro kept
  cases kept with
  | some record => exact Method.asks_ofExcept _
  | none =>
      apply Method.asks_bind (Method.asks_ofExcept _)
      intro record
      apply Method.asks_bind (Method.asks_request ⟨rfl, rfl⟩)
      intro upserted
      exact Method.asks_bind (Method.asks_ofExcept _) fun _ => Method.asks_ofExcept _

end Methods

end LakeCatCatalogProvider

open LakeCatCatalogProvider

/-- What a method has to do before it asks for content: to get leave of the engine or, where a
capability is handed to it, to stay on the table of that capability in its own warehouse. -/
def AccessRule [External] [SailCatalog] (provider : LakeCatCatalogProvider)
    (request : ProviderRequest) (history : ProviderHistory) (call : ProviderCall) : Prop :=
  match handedCapability request with
  | none => AfterLeave provider (actionOf request) history call
  | some capability => capability.table.warehouse = provider.warehouse ∧
      call.Licensed .tablePlanScan (some capability.table)

/-- The answer fails where the engine allows nothing, unless a capability was handed over. -/
def AnswerRule [External] [SailCatalog] (request : ProviderRequest) (history : ProviderHistory)
    (result : CatalogResult ProviderResponse) : Prop :=
  handedCapability request = none → FailsDenied history result

section

variable [External] [SailCatalog] (provider : LakeCatCatalogProvider)

/-- A method under a capability checks its warehouse first. -/
theorem LakeCatCatalogProvider.handed_obeys {α : Type} {capability : TableScanCapability}
    {next : ProviderMethod α}
    (asks : next.run.Asks (ProviderCall.Licensed .tablePlanScan (some capability.table)))
    (make : α → ProviderResponse) (history : ProviderHistory) :
    ((Method.ofExcept (provider.ensureCapabilityWarehouse capability) >>= fun _ => next) >>=
        fun value => pure (make value) : ProviderMethod ProviderResponse).run.Obeys
      (fun _ call => capability.table.warehouse = provider.warehouse ∧
        call.Licensed .tablePlanScan (some capability.table)) (fun _ _ => True) history := by
  apply Method.obeys_bind
  apply Method.obeys_ofExcept_bind
  · intro own checked
    rw [ensureCapabilityWarehouse, rejectIf_ok, not_not] at checked
    apply asks.obeys
    · intro later call licensed
      exact ⟨checked, licensed⟩
    · intro later result
      cases result with
      | ok value => exact Method.obeys_pure trivial
      | error error => trivial
  · intro error _
    trivial

/-- Every method keeps its rule, save the one that lists commits. -/
theorem LakeCatCatalogProvider.answer_obeys (request : ProviderRequest)
    (other : ∀ database table options, request ≠ .getTableCommits database table options) :
    (provider.answer request).run.Obeys (AccessRule provider request) (AnswerRule request) [] := by
  have asked {α : Type} {method : ProviderMethod α} (make : α → ProviderResponse)
      (own : handedCapability request = none)
      (obeys : method.run.Obeys (AfterLeave provider (actionOf request)) FailsDenied []) :
      (method >>= fun value => pure (make value)).run.Obeys (AccessRule provider request)
        (AnswerRule request) [] := by
    have rule : AccessRule provider request = AfterLeave provider (actionOf request) := by
      funext history call
      rw [AccessRule, own]
    rw [rule]
    exact (failsDenied_return make obeys).imp fun _ _ final _ => final
  have scan := provider.authorizeTableScan_takesLeave
  have scanIdent := provider.authorizeTableScanForIdent_takesLeave
  cases request with
  | authorizeTableScan database table =>
      exact asked _ rfl (scan database table).obeys
  | authorizeTableScanForIdent ident =>
      exact asked _ rfl (scanIdent ident).obeys
  | planTableScan database table request =>
      apply asked _ rfl
      exact (scan database table).then
        (fun capability => planWithCapability_asks capability request) []
  | planTableScanForIdent table request =>
      apply asked _ rfl
      exact (scanIdent table).then
        (fun capability => planWithCapability_asks capability request) []
  | planAuthorizedTableScan capability request =>
      apply (provider.handed_obeys (planWithCapability_asks capability request) _ []).imp
      intro history result _ own
      cases own
  | fetchTableScanTasks database table planTask =>
      apply asked _ rfl
      exact (scan database table).then
        (fun capability => fetchWithCapability_asks capability planTask) []
  | fetchTableScanTasksForIdent table planTask =>
      apply asked _ rfl
      exact (scanIdent table).then
        (fun capability => fetchWithCapability_asks capability planTask) []
  | fetchAuthorizedTableScanTasks capability planTask =>
      apply (provider.handed_obeys (fetchWithCapability_asks capability planTask) _ []).imp
      intro history result _ own
      cases own
  | createDatabase database => exact asked _ rfl (provider.createDatabase_obeys [] database)
  | getDatabase database => exact asked _ rfl (provider.getDatabase_obeys [] database)
  | listDatabases head => exact asked _ rfl (provider.listDatabases_obeys [] head)
  | dropDatabase database options =>
      exact asked _ rfl (provider.dropDatabase_obeys [] database options)
  | createTable now database table options =>
      exact asked _ rfl (provider.createTable_obeys [] now database table options)
  | getTable database table => exact asked _ rfl (provider.getTable_obeys [] database table)
  | listTables database => exact asked _ rfl (provider.listTables_obeys [] database)
  | dropTable database table => exact asked _ rfl (provider.dropTable_obeys [] database table)
  | alterTable => exact asked _ rfl (provider.alterTable_obeys [])
  | commitTable database table options =>
      exact asked _ rfl (provider.commitTable_obeys [] database table options)
  | getTableCommits database table options => exact absurd rfl (other database table options)
  | createView now database view options =>
      exact asked _ rfl (provider.createView_obeys [] now database view options)
  | getView database view => exact asked _ rfl (provider.getView_obeys [] database view)
  | listViews database => exact asked _ rfl (provider.listViews_obeys [] database)
  | dropView database view options =>
      exact asked _ rfl (provider.dropView_obeys [] database view options)

/-- Whatever the engine, the store and the planner answer, a method asks for content only with
leave for its own action, and for nothing where the engine denies everything; a method that
was handed a capability stays on the table of the capability. -/
theorem providerAccess_authorized (request : ProviderRequest)
    (other : ∀ database table options, request ≠ .getTableCommits database table options) :
    (∀ history rest, (provider.answer request).run.Reaches history rest →
      Program.Permitted (AccessRule provider request) history) ∧
    ∀ history result, (provider.answer request).run.Runs history result →
      handedCapability request = none → Denies history →
      (∃ error, result = .error error) ∧ ∀ exchange ∈ history, ¬exchange.1.IsContent := by
  have obeys := provider.answer_obeys request other
  constructor
  · intro history rest reached
    exact obeys.history reached
  · intro history result ran own denies
    refine ⟨obeys.runs ran own denies, ?_⟩
    intro exchange member content
    obtain ⟨before, after, rfl⟩ := List.append_of_mem member
    have rule := obeys.history ran before exchange after rfl
    rw [AccessRule, own] at rule
    obtain ⟨table, grants, _⟩ := rule content
    exact (grants.append (exchange :: after)).not_denies denies

end

/-- A catalog whose types carry nothing. -/
@[reducible] def plainCatalog : SailCatalog where
  TableStatus := Unit
  tableStatus _ _ := ()
  viewStatus _ _ := .ok ()
  TableCommitInfo := Unit
  tableCommitInfo _ := .ok ()
  ColumnOptions := Unit
  validateConstraintsSupported _ := .ok ()
  tableMetadata _ _ _ := .object [("format-version", .int 3)]
  ViewColumns := Unit
  viewColumnsFromSail _ := .ok []

def sampleProvider : LakeCatCatalogProvider :=
  ⟨"lake", ⟨"main"⟩, ⟨"user:ada", .human⟩⟩

section Sample

attribute [local instance] constantExternal plainCatalog

/-- A table that the engine does not let the provider load is not read. -/
theorem providerAccess_authorized_getTable : ∃ question error,
    let history : ProviderHistory := [⟨.authorize question, .error (.notFound "policy" "orders")⟩]
    (sampleProvider.answer (.getTable ["sales"] "orders")).run.Runs history (.error error) ∧
      Program.Permitted (AccessRule sampleProvider (.getTable ["sales"] "orders")) history ∧
      ∀ exchange ∈ history, ¬exchange.1.IsContent := by
  obtain ⟨question, next, asks, result, ends⟩ : ∃ question next,
      (sampleProvider.answer (.getTable ["sales"] "orders")).run =
        .ask (.authorize question) next ∧
      ∃ result, next (.error (.notFound "policy" "orders")) = .done result := ⟨_, _, rfl, _, rfl⟩
  have started : (sampleProvider.answer (.getTable ["sales"] "orders")).run.Reaches []
      (.ask (.authorize question) next) := by
    rw [← asks]
    exact .start
  have ran := started.step (.error (.notFound "policy" "orders"))
  rw [ends] at ran
  have rule := providerAccess_authorized sampleProvider (.getTable ["sales"] "orders")
    (fun _ _ _ same => by cases same)
  obtain ⟨⟨error, rfl⟩, unread⟩ := rule.2 _ result ran rfl (by
    intro request receipt member
    cases List.mem_singleton.mp member)
  exact ⟨question, error, ran, rule.1 _ _ ran, unread⟩

end Sample

/-- The receipt of a scan that the boundary of the service has authorized. -/
def scanCapability : TableScanCapability where
  receipt := ⟨sampleProvider.principal, .tablePlanScan, some sampleIdent, true, "allow-all", none,
    .object [], 0⟩
  table := sampleIdent
  restriction := .unrestricted
  allowed := rfl
  forAction := rfl
  forTable := rfl
  decoded := rfl

/-- A scan under a handed capability reads the table without asking the engine again. -/
theorem planAuthorizedTableScan_unasked :
    ¬∀ (_ : External) (_ : SailCatalog) (provider : LakeCatCatalogProvider)
      (request : ProviderRequest) history rest,
      (provider.answer request).run.Reaches history rest →
      Program.Permitted (AfterLeave provider (actionOf request)) history := by
  intro authorized
  let _ := constantExternal
  let _ := plainCatalog
  let request : ProviderRequest :=
    .planAuthorizedTableScan scanCapability ⟨[], [], none, none, none, none⟩
  have asks : ∃ next, (sampleProvider.answer request).run = .ask (.loadTable sampleIdent) next :=
    ⟨_, rfl⟩
  obtain ⟨next, first⟩ := asks
  have started : (sampleProvider.answer request).run.Reaches []
      (.ask (.loadTable sampleIdent) next) := by
    rw [← first]
    exact .start
  have reached := started.step (.error (.notFound "table" "orders"))
  have rule := authorized _ _ sampleProvider request _ _ reached [] _ [] rfl trivial
  obtain ⟨table, ⟨asked, receipt, member, _⟩, _⟩ := rule
  cases member

end LakeCat
