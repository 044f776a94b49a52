import LakeCat.LoadCredentials
import LakeCat.PoliciesRestrict
import LakeCat.ScanAuthorization

/-!
What vended credentials open. A table whose reads are governed yields none to
anyone but a trusted human; every credential of another table is for the prefix
of the storage profile that its location selects, whatever else lies there.
-/

namespace LakeCat

open Fallible

section Scope

/-- All credentials are for the prefix of the profile. -/
def ScopedTo (profile : StorageProfile) (credentials : List StorageCredential) : Prop :=
  ∀ credential ∈ credentials, credential.locationPrefix = profile.locationPrefix

/-- Giving credentials another configuration does not change what they open. -/
theorem ScopedTo.map {profile : StorageProfile} {credentials : List StorageCredential}
    (scoped_ : ScopedTo profile credentials) {change : StorageCredential → StorageCredential}
    (kept : ∀ credential, (change credential).locationPrefix = credential.locationPrefix) :
    ScopedTo profile (credentials.map change) := by
  intro credential own
  obtain ⟨before, member, rfl⟩ := List.mem_map.mp own
  rw [kept]
  exact scoped_ before member

theorem ScopedTo.nil (profile : StorageProfile) : ScopedTo profile [] := by
  intro credential own
  cases own

theorem ScopedTo.singleton (profile : StorageProfile) (config : List ConfigEntry) :
    ScopedTo profile [⟨profile.locationPrefix, config⟩] := by
  intro credential own
  rw [List.mem_singleton.mp own]

theorem applyCredentialTtlCap_scoped {profile : StorageProfile}
    {credentials : List StorageCredential} (scoped_ : ScopedTo profile credentials)
    (ttl : Option Nat) : ScopedTo profile (applyCredentialTtlCap credentials ttl) := by
  cases ttl with
  | none => exact scoped_
  | some seconds => exact scoped_.map fun credential => rfl

variable [External]

theorem applySecretRefProviderEvidence_scoped {profile : StorageProfile}
    {credentials : List StorageCredential} (scoped_ : ScopedTo profile credentials)
    (other : StorageProfile) :
    ScopedTo profile (applySecretRefProviderEvidence credentials other) := by
  rw [applySecretRefProviderEvidence]
  split
  · exact scoped_
  · split
    · exact scoped_
    · exact scoped_.map fun credential => rfl

theorem canonicalizeCredentialResponseEvidence_scoped {profile : StorageProfile}
    {credentials : List StorageCredential} (scoped_ : ScopedTo profile credentials)
    (receipt : AuthorizationReceipt) (governed : Bool) (ttl : Option Nat) :
    ScopedTo profile
      (canonicalizeCredentialResponseEvidence credentials profile receipt governed ttl) := by
  rw [canonicalizeCredentialResponseEvidence]
  refine applySecretRefProviderEvidence_scoped (scoped_.map ?_) profile
  intro credential
  rfl

variable [LocationUrls]

theorem issuedCredentialsForProfile_scoped {profile : StorageProfile}
    {credentials issued : List StorageCredential} {ttl : Option Nat}
    (scoped_ : ScopedTo profile credentials)
    (passed : issuedCredentialsForProfile credentials profile ttl = .ok issued) :
    ScopedTo profile issued := by
  simp only [issuedCredentialsForProfile, bind_eq_ok, exists_unit, pure_eq,
    Except.ok.injEq] at passed
  obtain ⟨_, rfl⟩ := passed
  exact applySecretRefProviderEvidence_scoped (applyCredentialTtlCap_scoped scoped_ ttl) profile

variable {request : CredentialIssuanceRequest}
  {credentials : List StorageCredential}

omit [External] [LocationUrls] in
theorem resolvedCredential_scoped {config : LakeCatResult (List ConfigEntry)}
    (resolved : resolvedCredential request config = .ok credentials) :
    ScopedTo request.profile credentials := by
  simp only [resolvedCredential, bind_eq_ok, pure_eq, Except.ok.injEq] at resolved
  obtain ⟨entries, _, rfl⟩ := resolved
  exact ScopedTo.singleton request.profile entries

theorem issuePublic_scoped (issued : issuePublic request = .ok credentials) :
    ScopedTo request.profile credentials :=
  issuedCredentialsForProfile_scoped (ScopedTo.singleton request.profile _) issued

variable [SecretSources]

namespace SecretRefCredentialResolver

/-- Every resolver answers for the prefix of the profile; a backend's answer is passed on. -/
theorem resolveRef_scoped {secretRef : String} {resolver : SecretRefCredentialResolver}
    (resolved : resolver.resolveRef request secretRef = .ok credentials) :
    ScopedTo request.profile credentials := by
  induction resolver generalizing credentials with
  | noop =>
      cases resolved
      exact ScopedTo.nil request.profile
  | static entries =>
      cases resolved
      cases entries[secretRef]? with
      | none => exact ScopedTo.nil request.profile
      | some config => exact ScopedTo.singleton request.profile config
  | environment reader => exact resolvedCredential_scoped resolved
  | vault resolver => exact resolvedCredential_scoped resolved
  | file provider root => exact resolvedCredential_scoped resolved
  | external reader vaultResolver configured backends ih =>
      rw [resolveRef.eq_def] at resolved
      simp only [bind_eq_ok] at resolved
      obtain ⟨provider, _, resolved⟩ := resolved
      split at resolved
      · exact resolvedCredential_scoped resolved
      · split at resolved
        · cases resolved
        · exact resolvedCredential_scoped resolved
      · split at resolved
        next =>
          cases answer : (backends provider).resolveRef request secretRef with
          | error error =>
              rw [answer] at resolved
              cases resolved
          | ok found =>
              rw [answer] at resolved
              cases resolved
              exact ih provider answer
        next => cases resolved

theorem resolve_scoped {resolver : SecretRefCredentialResolver}
    (resolved : resolver.resolve request = .ok credentials) :
    ScopedTo request.profile credentials := by
  rw [resolve] at resolved
  split at resolved
  · cases resolved
    exact ScopedTo.nil request.profile
  · exact resolveRef_scoped resolved

end SecretRefCredentialResolver

theorem issue_scoped {issuer : CredentialIssuer} (issued : issuer.issue request = .ok credentials) :
    ScopedTo request.profile credentials := by
  cases issuer with
  | conservative =>
      rw [CredentialIssuer.issue] at issued
      split at issued
      · exact issuePublic_scoped issued
      · cases issued
        exact ScopedTo.nil request.profile
  | typeSec engine resolver =>
      rw [CredentialIssuer.issue] at issued
      split at issued
      · exact issuePublic_scoped issued
      · split at issued
        · cases issued
          exact ScopedTo.nil request.profile
        · simp only [issueForSecretRef, bind_eq_ok, exists_unit] at issued
          obtain ⟨secretRef, _, provider, _, _, found, resolved, passed⟩ := issued
          exact issuedCredentialsForProfile_scoped
            (SecretRefCredentialResolver.resolve_scoped resolved) passed

variable {issuer : CredentialIssuer} {capability : CredentialsVendCapability} {table : TableRecord}
  {profile : StorageProfile}

theorem issueUnlessBlocked_scoped
    (issued : issueUnlessBlocked issuer capability table profile = .ok credentials) :
    ScopedTo profile credentials := by
  rw [issueUnlessBlocked] at issued
  split at issued
  · cases issued
    exact ScopedTo.nil profile
  · simp only [bind_eq_ok, pure_eq, Except.ok.injEq] at issued
    obtain ⟨own, answered, passed, checked, rfl⟩ := issued
    exact canonicalizeCredentialResponseEvidence_scoped
      (issuedCredentialsForProfile_scoped (issue_scoped answered) checked) _ _ _

end Scope

section Governed

variable [External]

/-- The policies of a table restrict its columns or its rows. -/
def ReadsGoverned (store : MemoryState) (ident : TableIdent) : Prop :=
  ∃ bindings restriction, store.policyBindingsForTable ident = .ok bindings ∧
    readRestrictionFromPolicyBindings bindings = .ok restriction ∧
    restriction.requiresGovernedRead = true

theorem withReadRestrictionPolicyHash_context {receipt hashed : AuthorizationReceipt}
    (done : receipt.withReadRestrictionPolicyHash = .ok hashed) :
    hashed.context = receipt.context := by
  rw [AuthorizationReceipt.withReadRestrictionPolicyHash] at done
  split at done
  · cases done
    rfl
  · simp only [bind_eq_ok] at done
    obtain ⟨restriction, _, done⟩ := done
    split at done
    · cases done
      rfl
    · cases done
      rfl

omit [External] in
/-- The exception in the context is refused to everyone but a human. -/
theorem rawCredentialExceptionContext_refused {restriction : FullReadRestriction}
    {principal : Principal} (governed : restriction.requiresGovernedRead = true)
    (notHuman : principal.kind ≠ .human) :
    ((rawCredentialExceptionContext restriction principal).get "allowed").bind Json.asBool =
      some false := by
  simp [rawCredentialExceptionContext, governed, notHuman, List.lookup, Json.asBool]

variable {engine : RepositoryEngine} {state : LakeCatState} {store : MemoryState}
  {identity : RequestIdentity} {ident : TableIdent} {capability : CredentialsVendCapability}
  {now : Timestamp}

/-- The receipt of a governed table says that the raw exception is refused. -/
theorem authorizeCredentialsVend_refused (enforced : state.governance = engine.governance)
    (governed : ReadsGoverned store ident) (notHuman : identity.principal.kind ≠ .human)
    (authorized : authorizeCredentialsVend state store identity ident now = .ok capability) :
    (credentialBlockReason capability).isSome = true := by
  obtain ⟨bindings, restriction, bound, composed, required⟩ := governed
  have present : bindings.isEmpty = false := by
    cases bindings with
    | nil =>
        cases composed
        cases required
    | cons binding rest => rfl
  simp only [authorizeCredentialsVend, authorize, authorizeWithOperationContext, requestBindings,
    bound, ok_bind, actionRestriction, present, or_true, and_self, if_true, composed, pure_eq,
    insertOperationContext, enforced, engine.governance_answer, bind_eq_ok, exists_unit,
    rejectIf_ok] at authorized
  obtain ⟨receipt, ⟨_, hashed⟩, made⟩ := authorized
  have exception : capability.receipt.context.get "lakecat:raw-credential-exception" =
      some (rawCredentialExceptionContext restriction identity.principal) := by
    rw [(readCapability_ok.mp made).1, withReadRestrictionPolicyHash_context hashed,
      RepositoryEngine.answer, restrictedContext, if_pos rfl, Json.get_set _ _ _ _ rfl, if_pos rfl]
  rw [credentialBlockReason, exception]
  simp only [rawCredentialExceptionContext_refused required notHuman, if_true, Option.isSome_some]

end Governed

section Vending

variable [External]

instance (store : MemoryState) (ident : TableIdent) : Decidable (ReadsGoverned store ident) :=
  decidable_of_iff (((store.policyBindingsForTable ident).bind
      readRestrictionFromPolicyBindings).toOption.any
        FullReadRestriction.requiresGovernedRead = true) (by
    constructor
    · intro evaluated
      obtain ⟨restriction, read, required⟩ := exists_ok_of_any evaluated
      obtain ⟨bindings, bound, composed⟩ := (bind_eq_ok _ _ _).mp read
      exact ⟨bindings, restriction, bound, composed, required⟩
    · rintro ⟨bindings, restriction, bound, composed, required⟩
      rw [bound, Except.bind, composed]
      exact required)

variable [LocationUrls] [SecretSources]

/-- While the reads of a table are governed, vending gives none but a human credentials for it;
what is vended for a table is for the prefix of the storage profile that its location selects. -/
theorem loadCredentials_withinProfile (engine : RepositoryEngine) (state : LakeCatState)
    (issuer : CredentialIssuer) (store : MemoryState) (identity : RequestIdentity)
    (warehouse : WarehouseName) (ident : TableIdent) (now : Timestamp)
    (enforced : state.governance = engine.governance)
    (notHuman : identity.principal.kind ≠ .human) (governed : ReadsGoverned store ident) :
    (∀ ns table credentials recorded, restTableIdent warehouse ns table = .ok ident →
      loadCredentialsInWarehouse warehouse state issuer store identity ns table now =
        .ok (credentials, recorded) → credentials = []) ∧
    ∀ ns table credentials recorded,
      loadCredentialsInWarehouse warehouse state issuer store identity ns table now =
        .ok (credentials, recorded) →
      ∃ other otherTable profile, restTableIdent warehouse ns table = .ok other ∧
        store.loadTable other = .ok otherTable ∧
        store.storageProfileForTable otherTable = .ok profile ∧
        SelectedFor (store.storageProfiles.toList.map Prod.snd) otherTable profile ∧
        ScopedTo profile credentials ∧
        ∀ governedTable, store.loadTable ident = .ok governedTable →
          locationMatchesStorageProfilePrefix governedTable.location profile.locationPrefix =
            false →
          ∀ credential ∈ credentials, locationMatchesStorageProfilePrefix governedTable.location
            credential.locationPrefix = false := by
  constructor
  · intro ns table credentials recorded named loaded
    simp only [loadCredentialsInWarehouse, named, bind_eq_ok, pure_eq, Except.ok.injEq,
      Prod.exists, Prod.mk.injEq] at loaded
    obtain ⟨_, rfl, capability, authorized, record, _, profile, _, issued, answer, _, _, _, rfl,
      _⟩ := loaded
    rw [issueUnlessBlocked,
      if_pos (authorizeCredentialsVend_refused enforced governed notHuman authorized)] at answer
    exact (Except.ok.inj answer).symm
  · intro ns table credentials recorded loaded
    simp only [loadCredentialsInWarehouse, bind_eq_ok, pure_eq, Except.ok.injEq, Prod.exists,
      Prod.mk.injEq] at loaded
    obtain ⟨other, named, capability, authorized, record, found, profile, selected, issued, answer,
      _, _, _, rfl, _⟩ := loaded
    have own : capability.table = other := by
      simp only [authorizeCredentialsVend, bind_eq_ok] at authorized
      obtain ⟨receipt, _, made⟩ := authorized
      exact (readCapability_ok.mp made).2
    rw [own] at found
    have within := issueUnlessBlocked_scoped answer
    refine ⟨other, record, profile, named, found, selected, storageProfileForTable_selects selected,
      within, fun governedTable _ apart credential vended => ?_⟩
    rw [within credential vended]
    exact apart

end Vending

section Samples

@[reducible] def lakeExternal : External :=
  { constantExternal with parseUrl := fun _ => some ⟨"file", "", none, none, none⟩ }

@[reducible] def lakeUrls : LocationUrls :=
  ⟨fun text => (stripHead text "file://").map fun path =>
    ⟨"file", "", none, none, none, path, none, none⟩⟩

@[reducible] def noSecrets : SecretSources :=
  ⟨fun path => .error path, fun text => .error text, Json.compact⟩

def lakeIdent (name : String) : TableIdent := ⟨⟨"main"⟩, ⟨["sales"]⟩, ⟨name⟩⟩

def lakeTable (name : String) : TableRecord :=
  .new (lakeIdent name) ("file:///lake/" ++ name) none (.obj [("format-version", .int 2)])
    .anonymous 0

def lakeProfile : StorageProfile :=
  ⟨"lake", ⟨"main"⟩, "file:///lake", .file, .localFileNoSecret, none, ∅⟩

/-- Only the orders are restricted. -/
def ordersBinding : PolicyBinding :=
  ⟨"columns", ⟨"main"⟩, some ⟨["sales"]⟩, some ⟨"orders"⟩, true,
    .obj [("allowed-columns", .arr [.str "id"])], 0⟩

def agentIdentity : RequestIdentity := ⟨⟨"agent-7", .agent⟩, .null⟩

variable [External]

/-- Two tables below one profile. -/
def lakeStore : MemoryState :=
  MemoryState.empty.run [.createNamespace ⟨"main"⟩ ⟨["sales"]⟩ .default,
    .createTable (lakeTable "orders"), .createTable (lakeTable "items"),
    .upsertStorageProfile lakeProfile, .upsertPolicyBinding ordersBinding]

def lakeState : LakeCatState := ⟨⟨"main"⟩, "catalog", RepositoryEngine.allowAll.governance⟩

variable [LocationUrls] [SecretSources]

/-- What the agent gets for a table of the sample. -/
def lakeCredentials (table : String) : LakeCatResult (List StorageCredential × MemoryState) :=
  loadCredentialsInWarehouse ⟨"main"⟩ lakeState .conservative lakeStore agentIdentity "sales" table
    0

omit [External] [LocationUrls] [SecretSources] in
theorem loadCredentials_withinProfile_lake :
    ∃ (_ : External) (_ : LocationUrls) (_ : SecretSources),
      ReadsGoverned lakeStore (lakeIdent "orders") ∧
      (∃ recorded, lakeCredentials "orders" = .ok ([], recorded)) ∧
      ∃ credentials recorded, lakeCredentials "items" = .ok (credentials, recorded) ∧
        ∃ profile, ScopedTo profile credentials := by
  let _ := lakeExternal
  let _ := lakeUrls
  let _ := noSecrets
  have governed : ReadsGoverned lakeStore (lakeIdent "orders") := by decide +kernel
  have confined := loadCredentials_withinProfile .allowAll lakeState .conservative lakeStore
    agentIdentity ⟨"main"⟩ (lakeIdent "orders") 0 rfl (by decide) governed
  obtain ⟨⟨none, unchanged⟩, orders, _⟩ : ∃ answer, lakeCredentials "orders" = .ok answer ∧
      true = true := exists_ok_of_any (by decide +kernel)
  obtain ⟨⟨credentials, recorded⟩, items, _⟩ : ∃ answer, lakeCredentials "items" = .ok answer ∧
      true = true := exists_ok_of_any (by decide +kernel)
  have empty := confined.1 "sales" "orders" none unchanged (by decide +kernel) orders
  obtain ⟨_, _, profile, _, _, _, _, within, _⟩ := confined.2 "sales" "items" credentials recorded
    items
  exact ⟨inferInstance, inferInstance, inferInstance, governed, ⟨unchanged, empty ▸ orders⟩,
    credentials, recorded, items, profile, within⟩

omit [External] [LocationUrls] [SecretSources] in
/-- A credential for the items, which nothing restricts, opens the orders as well: one profile
covers both. -/
theorem sharedProfile_opensGovernedTable :
    ∃ (_ : External) (_ : LocationUrls) (_ : SecretSources),
      ReadsGoverned lakeStore (lakeIdent "orders") ∧
      agentIdentity.principal.kind ≠ .human ∧
      (∃ governedTable, lakeStore.loadTable (lakeIdent "orders") = .ok governedTable ∧
        governedTable.location = "file:///lake/orders") ∧
      ∃ answer, lakeCredentials "items" = .ok answer ∧
        ∃ credential ∈ answer.1, locationMatchesStorageProfilePrefix "file:///lake/orders"
          credential.locationPrefix = true := by
  let _ := lakeExternal
  let _ := lakeUrls
  let _ := noSecrets
  have governed : ReadsGoverned lakeStore (lakeIdent "orders") := by decide +kernel
  obtain ⟨stored, loaded, located⟩ : ∃ stored, lakeStore.loadTable (lakeIdent "orders") =
      .ok stored ∧ decide (stored.location = "file:///lake/orders") = true :=
    exists_ok_of_any (by decide +kernel)
  obtain ⟨answer, items, opens⟩ : ∃ answer, lakeCredentials "items" = .ok answer ∧
      (answer.1.any fun credential => locationMatchesStorageProfilePrefix "file:///lake/orders"
        credential.locationPrefix) = true := exists_ok_of_any (by decide +kernel)
  exact ⟨inferInstance, inferInstance, inferInstance, governed, by decide,
    ⟨stored, loaded, of_decide_eq_true located⟩, answer, items, List.any_eq_true.mp opens⟩

end Samples

end LakeCat
