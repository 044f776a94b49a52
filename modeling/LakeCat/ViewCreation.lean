import LakeCat.ProviderAccess
import LakeCat.ViewLocking

/-!
Providers that create and drop one view over the memory store, in any order of their
steps. A create looks for the view and stores it in two calls; another create may
store the view between them, and is then written over.
-/

namespace LakeCat

open Fallible Asking Transition MemoryState

variable {α β : Type}

abbrev ProviderExchange := Exchange ProviderCall ProviderCall.Answer

/-- The name that all callers use. -/
structure ViewSite where
  warehouse : WarehouseName
  database : List String
  view : String

namespace ViewSite

/-- The name as the store has it. -/
def IsAt (site : ViewSite) (warehouse : WarehouseName) (ns : Namespace) (name : TableName) :
    Prop :=
  warehouse = site.warehouse ∧ lakecatNamespace site.database = .ok ns ∧
    TableName.new site.view = .ok name

theorem IsAt.key {site : ViewSite} {warehouse other : WarehouseName} {ns otherNs : Namespace}
    {name otherName : TableName} (one : site.IsAt warehouse ns name)
    (another : site.IsAt other otherNs otherName) :
    viewKeyParts warehouse ns name = viewKeyParts other otherNs otherName := by
  obtain ⟨rfl, parsed, named⟩ := one
  obtain ⟨rfl, otherParsed, otherNamed⟩ := another
  cases parsed.symm.trans otherParsed
  cases named.symm.trans otherNamed
  rfl

end ViewSite

/-- A create without `replace`, or a drop. -/
inductive ViewManageCall [SailCatalog] where
  | create (now : Timestamp) (options : CreateViewOptions) (keeps : options.replace = false)
  | drop (options : DropViewOptions)

/-- A provider with its name, its principal and its call. -/
structure ViewCaller [SailCatalog] where
  name : String
  principal : Principal
  call : ViewManageCall

/-- When the store answers, and what is answered to the calls that are not about views. -/
structure StoreTurn where
  now : Timestamp
  others : (call : ProviderCall) → call.Answer

section

variable [External] [SailCatalog]

def ViewManageCall.request (site : ViewSite) : ViewManageCall → ProviderRequest
  | .create now options _ => .createView now site.database site.view options
  | .drop options => .dropView site.database site.view options

namespace ViewCaller

def provider (site : ViewSite) (caller : ViewCaller) : LakeCatCatalogProvider :=
  ⟨caller.name, site.warehouse, caller.principal⟩

def program (site : ViewSite) (caller : ViewCaller) :
    Program ProviderCall ProviderCall.Answer (CatalogResult ProviderResponse) :=
  ((caller.provider site).answer (caller.call.request site)).run

end ViewCaller

omit [SailCatalog] in
/-- The memory store behind a provider. -/
def serveViews (_ : Nat) (turn : StoreTurn) (state : MemoryState) :
    (call : ProviderCall) → call.Answer × MemoryState
  | .loadNamespace warehouse ns => ((state.loadNamespace warehouse ns).map fun _ => (), state)
  | .loadView warehouse ns view => (state.loadView warehouse ns view, state)
  | .upsertView record => atomic state (state.upsertViewIfVersion record none turn.now)
  | .dropView warehouse ns view principal =>
      state.dropViewIfVersion warehouse ns view principal none turn.now
  | call => (turn.others call, state)

abbrev ViewPool :=
  Pool MemoryState ProviderCall ProviderCall.Answer (CatalogResult ProviderResponse)

namespace ViewPool

def start (site : ViewSite) (callers : Nat → ViewCaller) (state : MemoryState) : ViewPool :=
  Pool.start state fun caller => (callers caller).program site

def step (pool : ViewPool) (turn : Nat × StoreTurn) : ViewPool :=
  Pool.step serveViews pool turn

def run (pool : ViewPool) (turns : List (Nat × StoreTurn)) : ViewPool :=
  Transition.run step pool turns

end ViewPool

/-! What the exchanges of the callers did to the view. -/

inductive ViewEvent where
  | stored
  | dropped
  | looked
  | other
  deriving DecidableEq

omit [External] [SailCatalog] in
def viewEvent : ProviderExchange → ViewEvent
  | ⟨.upsertView _, .ok _⟩ => .stored
  | ⟨.dropView .., .ok _⟩ => .dropped
  | ⟨.loadView .., _⟩ => .looked
  | _ => .other

abbrev ViewLog := List (Entry MemoryState ProviderCall ProviderCall.Answer)

/-- A create has stored the view since this caller last looked for it, and no drop has removed
the view after that. -/
def overtaken (caller : Nat) : ViewLog → Bool
  | [] => false
  | entry :: earlier =>
      match viewEvent entry.exchange with
      | .stored => true
      | .dropped => false
      | .looked => if entry.caller = caller then false else overtaken caller earlier
      | .other => overtaken caller earlier

/-- A create has stored the view, and no drop has removed it since. -/
def standing : ViewLog → Bool
  | [] => false
  | entry :: earlier =>
      match viewEvent entry.exchange with
      | .stored => true
      | .dropped => false
      | .looked | .other => standing earlier

/-- The store would take the upsert of a create that has been overtaken. -/
def Overwrites (pool : ViewPool) (turn : Nat × StoreTurn) : Prop :=
  ∃ record next, pool.programs turn.1 = .ask (.upsertView record) next ∧
    (pool.state.upsertViewIfVersion record none turn.2.now).isOk = true ∧
    overtaken turn.1 pool.log = true

/-! What the callers may expect. -/

/-- An upsert that reaches the store leaves a view that is there as it is. -/
def KeepsView (pool : ViewPool) (turn : Nat × StoreTurn) : Prop :=
  ∀ record next, pool.programs turn.1 = .ask (.upsertView record) next →
    ∀ view, pool.state.views[viewKey record]? = some view →
      (pool.step turn).state.views[viewKey record]? = some view

/-- Between two creates that stored the view there is a drop that removed it. The newest
exchange comes first. -/
def CreatesApart (log : ViewLog) : Prop :=
  ∀ later second between first earlier, log = later ++ second :: (between ++ first :: earlier) →
    viewEvent second.exchange = .stored → viewEvent first.exchange = .stored →
    ∃ entry ∈ between, viewEvent entry.exchange = .dropped

/-- The receipt of an engine that allows the operation, or the error of a provider. -/
def leaveOf (answer : LakeCatResult AuthorizationReceipt) : CatalogResult AuthorizationReceipt := do
  let receipt ← answer.mapError catalogError
  if receipt.allowed then return receipt else .error deniedOperation

/-- The leave to manage views, or the error of a provider that does not have it. -/
def manageLeave (answer : LakeCatResult AuthorizationReceipt) :
    CatalogResult AuthorizationReceipt := do
  let receipt ← leaveOf answer
  (catalogCapabilityFromReceipt receipt .viewManage "manage views").mapError catalogError

/-- Why a create fails that neither stores the view nor finds it. -/
inductive CreateRefused (provider : LakeCatCatalogProvider) (site : ViewSite) (now : Timestamp)
    (options : CreateViewOptions) : ProviderHistory → CatalogError → Prop
  | denied (request : AuthorizationRequest) (answer : LakeCatResult AuthorizationReceipt)
      (error : CatalogError) (refused : manageLeave answer = .error error) :
      CreateRefused provider site now options [⟨.authorize request, answer⟩] error
  | misnamed (history : ProviderHistory) (error : LakeCatError)
      (refused : lakecatNamespace site.database = .error error ∨
        TableName.new site.view = .error error) :
      CreateRefused provider site now options history (catalogError error)
  | homeless (earlier : ProviderHistory) (warehouse : WarehouseName) (ns : Namespace)
      (error : LakeCatError) :
      CreateRefused provider site now options
        (earlier ++ [⟨.loadNamespace warehouse ns, .error error⟩]) (catalogError error)
  | unreadable (earlier : ProviderHistory) (warehouse : WarehouseName) (ns : Namespace)
      (name : TableName) (error : LakeCatError)
      (found : ∀ object missing, error ≠ .notFound object missing) :
      CreateRefused provider site now options
        (earlier ++ [⟨.loadView warehouse ns name, .error error⟩]) (catalogError error)
  | malformed (history : ProviderHistory) (ns : Namespace) (name : TableName)
      (principal : Principal) (error : CatalogError)
      (refused : provider.viewRecord now ns name principal options = .error error) :
      CreateRefused provider site now options history error
  | unstored (earlier : ProviderHistory) (record : ViewRecord) (error : LakeCatError) :
      CreateRefused provider site now options
        (earlier ++ [⟨.upsertView record, .error error⟩]) (catalogError error)

/-- How a create ends: it stores the view, it finds the view, or it is refused. -/
inductive CreateEnds (provider : LakeCatCatalogProvider) (site : ViewSite) (now : Timestamp)
    (options : CreateViewOptions) : ProviderHistory → CatalogResult ProviderResponse → Prop
  | stored (earlier : ProviderHistory) (record stored : ViewRecord) :
      CreateEnds provider site now options (earlier ++ [⟨.upsertView record, .ok stored⟩])
        ((SailCatalog.viewStatus provider.name stored).map .table)
  | kept (earlier : ProviderHistory) (warehouse : WarehouseName) (ns : Namespace)
      (name : TableName) (record : ViewRecord) (asked : options.ifNotExists = true) :
      CreateEnds provider site now options
        (earlier ++ [⟨.loadView warehouse ns name, .ok record⟩])
        ((SailCatalog.viewStatus provider.name record).map .table)
  | alreadyExists (earlier : ProviderHistory) (warehouse : WarehouseName) (ns : Namespace)
      (name : TableName) (record : ViewRecord) (asked : options.ifNotExists = false) :
      CreateEnds provider site now options
        (earlier ++ [⟨.loadView warehouse ns name, .ok record⟩])
        (.error (.alreadyExists .view site.view))
  | refused (history : ProviderHistory) (error : CatalogError)
      (cause : CreateRefused provider site now options history error) :
      CreateEnds provider site now options history (.error error)

/-! What the programs of the callers ask. -/

/-- The calls about views are about the view of the site, and an upsert comes right after a
lookup that did not find the view. -/
def ViewRule (site : ViewSite) (history : ProviderHistory) : ProviderCall → Prop
  | .authorize _ | .loadNamespace .. => True
  | .loadView warehouse ns name => site.IsAt warehouse ns name
  | .dropView warehouse ns name _ => site.IsAt warehouse ns name
  | .upsertView record => site.IsAt record.warehouse record.ns record.name ∧
      ∃ earlier warehouse ns name object missing, site.IsAt warehouse ns name ∧
        history = earlier ++ [⟨.loadView warehouse ns name, .error (.notFound object missing)⟩]
  | _ => False

omit [SailCatalog] [External] in
theorem obeys_orCatalogError_bind {permitted : ProviderHistory → ProviderCall → Prop}
    {ends : ProviderHistory → CatalogResult β → Prop} {history : ProviderHistory}
    {result : LakeCatResult α} {next : α → ProviderMethod β}
    (succeeds : ∀ value, result = .ok value → (next value).run.Obeys permitted ends history)
    (fails : ∀ error, result = .error error → ends history (.error (catalogError error))) :
    (orCatalogError result >>= next).run.Obeys permitted ends history := by
  apply Method.obeys_ofExcept_bind
  · intro value given
    cases result with
    | ok given => cases given; exact succeeds _ rfl
    | error error => cases given
  · intro error given
    cases result with
    | ok value => cases given
    | error error => cases given; exact fails _ rfl

theorem viewRecord_ok {provider : LakeCatCatalogProvider} {now : Timestamp} {ns : Namespace}
    {name : TableName} {principal : Principal} {options : CreateViewOptions} {record : ViewRecord}
    (made : provider.viewRecord now ns name principal options = .ok record) :
    record.warehouse = provider.warehouse ∧ record.ns = ns ∧ record.name = name := by
  simp only [LakeCatCatalogProvider.viewRecord, bind_eq_ok, exists_unit, pure_eq,
    Except.ok.injEq] at made
  obtain ⟨_, columns, _, _, rfl⟩ := made
  exact ⟨rfl, rfl, rfl⟩

omit [External] [SailCatalog] in
theorem obeys_authorizeCatalog_bind {permitted : ProviderHistory → ProviderCall → Prop}
    {ends : ProviderHistory → CatalogResult α → Prop} {history : ProviderHistory}
    {provider : LakeCatCatalogProvider} {action : CatalogAction}
    {next : AuthorizationReceipt → ProviderMethod α}
    (asks : ∀ request, permitted history (.authorize request))
    (allowed : ∀ request receipt, leaveOf (.ok receipt) = .ok receipt →
      (next receipt).run.Obeys permitted ends (history ++ [⟨.authorize request, .ok receipt⟩]))
    (denied : ∀ request answer error, leaveOf answer = .error error →
      ends (history ++ [⟨.authorize request, answer⟩]) (.error error)) :
    (provider.authorizeCatalog action >>= next).run.Obeys permitted ends history := by
  apply Method.obeys_bind
  apply Method.obeys_request_bind (asks _)
  intro answer
  apply obeys_orCatalogError_bind
  · intro receipt given
    subst given
    split
    next leave => exact allowed _ _ (if_pos leave)
    next refused => exact denied _ _ _ (if_neg refused)
  · intro error given
    subst given
    exact denied _ _ _ rfl

/-- From its lookup on, a create stores a view that was not found, and nothing else. -/
theorem createFound_follows {provider : LakeCatCatalogProvider} {site : ViewSite}
    {now : Timestamp} {options : CreateViewOptions} {ns : Namespace} {viewName : TableName}
    {principal : Principal} {history : ProviderHistory}
    (located : site.IsAt provider.warehouse ns viewName) (existing : LakeCatResult ViewRecord)
    (keeps : options.replace = false) :
    (do
      let kept ← Method.ofExcept
        (LakeCatCatalogProvider.viewToCreate site.view options existing)
      match kept with
      | some record => Method.ofExcept (SailCatalog.viewStatus provider.name record)
      | none => do
          let record ← Method.ofExcept
            (provider.viewRecord now ns viewName principal options)
          let record ← Method.request (.upsertView record)
          let record ← orCatalogError record
          Method.ofExcept (SailCatalog.viewStatus provider.name record) :
      ProviderMethod SailCatalog.TableStatus).run.Obeys (ViewRule site)
      (fun history result => CreateEnds provider site now options history (result.map .table))
      (history ++ [⟨.loadView provider.warehouse ns viewName, existing⟩]) := by
  apply Method.obeys_ofExcept_bind
  · intro kept chosen
    cases existing with
    | ok record =>
        rw [LakeCatCatalogProvider.viewToCreate, keeps] at chosen
        split at chosen
        next asked =>
          cases chosen
          exact .kept _ _ _ _ _ asked
        next => cases chosen
    | error error =>
        cases error with
        | notFound object missing =>
            cases chosen
            apply Method.obeys_ofExcept_bind
            · intro record made
              obtain ⟨warehouse, sameNs, sameName⟩ := viewRecord_ok made
              apply Method.obeys_request_bind
              · refine ⟨?_, _, _, _, _, _, _, located, rfl⟩
                rw [warehouse, sameNs, sameName]
                exact located
              · intro answer
                apply obeys_orCatalogError_bind
                · intro stored taken
                  subst taken
                  exact .stored _ _ _
                · intro error refused
                  subst refused
                  exact .refused _ _ (.unstored _ _ _)
            · intro error refused
              exact .refused _ _ (.malformed _ _ _ _ _ refused)
        | _ => cases chosen
  · intro error chosen
    cases existing with
    | ok record =>
        rw [LakeCatCatalogProvider.viewToCreate, keeps] at chosen
        split at chosen
        next => cases chosen
        next plain =>
          cases chosen
          exact .alreadyExists _ _ _ _ _ (Bool.not_eq_true _ ▸ plain)
    | error failed =>
        have unfound : ∀ object missing, failed ≠ .notFound object missing := by
          rintro object missing rfl
          cases chosen
        have same : error = catalogError failed := by
          cases failed <;> cases chosen <;> rfl
        rw [same]
        exact .refused _ _ (.unreadable _ _ _ _ _ unfound)

theorem createView_follows (provider : LakeCatCatalogProvider) (site : ViewSite)
    (home : provider.warehouse = site.warehouse) (now : Timestamp) (options : CreateViewOptions)
    (keeps : options.replace = false) :
    (provider.createView now site.database site.view options).run.Obeys (ViewRule site)
      (fun history result => CreateEnds provider site now options history (result.map .table))
      [] := by
  apply obeys_authorizeCatalog_bind fun _ => trivial
  · intro request receipt leave
    apply obeys_orCatalogError_bind
    · intro capability taken
      apply obeys_orCatalogError_bind
      · intro ns parsed
        apply Method.obeys_request_bind trivial
        intro loaded
        apply obeys_orCatalogError_bind
        · intro present there
          apply obeys_orCatalogError_bind
          · intro viewName named
            have located := (⟨home, parsed, named⟩ : site.IsAt provider.warehouse ns viewName)
            apply Method.obeys_request_bind located
            intro existing
            exact createFound_follows located existing keeps
          · intro error refused
            exact .refused _ _ (.misnamed _ _ (.inr refused))
        · intro error refused
          subst refused
          exact .refused _ _ (.homeless _ _ _ _)
      · intro error refused
        exact .refused _ _ (.misnamed _ _ (.inl refused))
    · intro error refused
      refine .refused _ _ (.denied _ _ _ ?_)
      rw [manageLeave, leave, ok_bind, refused]
      rfl
  · intro request answer error refused
    refine .refused _ _ (.denied _ _ _ ?_)
    rw [manageLeave, refused]
    rfl

omit [External] [SailCatalog] in
theorem dropView_follows (provider : LakeCatCatalogProvider) (site : ViewSite)
    (home : provider.warehouse = site.warehouse) (options : DropViewOptions) :
    (provider.dropView site.database site.view options).run.Obeys (ViewRule site)
      (fun _ _ => True) [] := by
  apply obeys_authorizeCatalog_bind (fun _ => trivial) ?_ fun _ _ _ _ => trivial
  intro request receipt leave
  apply obeys_orCatalogError_bind ?_ fun _ _ => trivial
  intro capability taken
  apply obeys_orCatalogError_bind ?_ fun _ _ => trivial
  intro ns parsed
  apply obeys_orCatalogError_bind ?_ fun _ _ => trivial
  intro viewName named
  apply Method.obeys_request_bind
  · exact (⟨home, parsed, named⟩ : site.IsAt provider.warehouse ns viewName)
  · intro dropped
    exact Method.obeys_ofExcept trivial

/-- What a caller may end with. -/
def CallEnds (site : ViewSite) (caller : ViewCaller) (history : ProviderHistory)
    (result : CatalogResult ProviderResponse) : Prop :=
  match caller.call with
  | .create now options _ => CreateEnds (caller.provider site) site now options history result
  | .drop _ => True

theorem program_follows (site : ViewSite) (caller : ViewCaller) :
    (caller.program site).Obeys (ViewRule site) (CallEnds site caller) [] := by
  obtain ⟨name, principal, call⟩ := caller
  cases call with
  | create now options keeps =>
      apply Method.obeys_bind
      apply (createView_follows _ site rfl now options keeps).imp
      intro history result ends
      cases result with
      | ok status => exact Method.obeys_pure ends
      | error error => exact ends
  | drop options =>
      apply Method.obeys_bind
      apply (dropView_follows _ site rfl options).imp
      intro history result ends
      cases result with
      | ok status => exact Method.obeys_pure trivial
      | error error => trivial

end

end LakeCat
