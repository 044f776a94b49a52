import LakeCat.RedactedRecords
import LakeCat.ChangeAtomicity
import LakeCat.CredentialScope
import LakeCat.SubjectIdentity

/-!
Two runs of one request that differ in secrets: what each of them records is the
same but for digests of the secrets.
-/

namespace LakeCat

open Fallible

/-- The requests that carry secrets, or that reach them in the store. -/
inductive SealedRequest where
  | loadCredentials (catalogPrefix : CatalogPrefix) (ns table : String)
  | upsertServer (server : String) (request : UpsertServerRequest)
  | upsertWarehouse (warehouse : String) (request : UpsertWarehouseRequest)
  | upsertProjectWarehouse (project warehouse : String) (request : UpsertWarehouseRequest)
  | upsertStorageProfile (warehouse profile : String) (request : UpsertStorageProfileRequest)

/-- The service with its verifier, its issuer and what the issuer reads secrets from. -/
structure CatalogService where
  state : LakeCatState
  verifier : TypeDidVerifier
  issuer : CredentialIssuer
  sources : SecretSources

section
variable [External] [LocationUrls]

/-- What a request leaves in the store. -/
def SealedRequest.answer (service : CatalogService) (store : MemoryState)
    (headers : HeaderMap) (clock : RequestClock) : SealedRequest → LakeCatResult MemoryState
  | loadCredentials catalogPrefix ns table => do
      let warehouse ← catalogPrefix.warehouse service.state store
      let identity ← identify service.verifier headers
      let answered ← @loadCredentialsInWarehouse _ _ service.sources warehouse service.state
        service.issuer store identity ns table clock.now
      return answered.2
  | upsertServer server request =>
      (upsertServerHandler server request).answer service.state service.verifier store headers clock
  | upsertWarehouse warehouse request => do
      let handler ← upsertWarehouseHandler warehouse request
      handler.answer service.state service.verifier store headers clock
  | upsertProjectWarehouse project warehouse request => do
      let handler ← upsertProjectWarehouseHandler project warehouse request
      handler.answer service.state service.verifier store headers clock
  | upsertStorageProfile warehouse profile request => do
      let handler ← upsertStorageProfileHandler warehouse profile request
      handler.answer service.state service.verifier store headers clock

variable (secret : String → String → Prop)

/-- Requests that differ in the secrets of their bodies. -/
inductive RequestsAlike : SealedRequest → SealedRequest → Prop where
  | loadCredentials (catalogPrefix : CatalogPrefix) (ns table : String) :
      RequestsAlike (.loadCredentials catalogPrefix ns table)
        (.loadCredentials catalogPrefix ns table)
  | upsertServer (server : String) (displayName : Option String) (properties : BTreeMap String)
      {endpointUrl twin : Option String} (held : Option.Rel (Sealed secret) endpointUrl twin) :
      RequestsAlike (.upsertServer server ⟨displayName, endpointUrl, properties⟩)
        (.upsertServer server ⟨displayName, twin, properties⟩)
  | upsertWarehouse (warehouse : String) (projectId : Option String) (properties : BTreeMap String)
      {storageRoot twin : Option String} (held : Option.Rel (Sealed secret) storageRoot twin) :
      RequestsAlike (.upsertWarehouse warehouse ⟨projectId, storageRoot, properties⟩)
        (.upsertWarehouse warehouse ⟨projectId, twin, properties⟩)
  | upsertProjectWarehouse (project warehouse : String) (projectId : Option String)
      (properties : BTreeMap String) {storageRoot twin : Option String}
      (held : Option.Rel (Sealed secret) storageRoot twin) :
      RequestsAlike
        (.upsertProjectWarehouse project warehouse ⟨projectId, storageRoot, properties⟩)
        (.upsertProjectWarehouse project warehouse ⟨projectId, twin, properties⟩)
  | upsertStorageProfile (warehouse profile locationPrefix provider issuanceMode : String)
      (publicConfig : BTreeMap String) {secretRef twin : Option String}
      (held : Option.Rel (fun secretRef twin => Sealed secret secretRef twin ∧
        secretRefProviderLabel secretRef = secretRefProviderLabel twin) secretRef twin) :
      RequestsAlike
        (.upsertStorageProfile warehouse profile
          ⟨locationPrefix, provider, issuanceMode, secretRef, publicConfig⟩)
        (.upsertStorageProfile warehouse profile
          ⟨locationPrefix, provider, issuanceMode, twin, publicConfig⟩)

/-- Stores that differ in the secret references of their profiles, as far as these requests
read them. -/
structure StoresAlike (store twin : MemoryState) : Prop where
  policyBindings : store.policyBindings = twin.policyBindings
  tables : store.tables = twin.tables
  softDeletes : store.softDeletes = twin.softDeletes
  profiles : List.Forall₂ (fun entry other => entry.1 = other.1 ∧
    ProfilesAlike secret entry.2 other.2) store.storageProfiles.toList twin.storageProfiles.toList

/-- Requests to an issuer that differ in secrets. -/
structure IssuanceAlike (request twin : CredentialIssuanceRequest) : Prop where
  table : request.table = twin.table
  profile : ProfilesAlike secret request.profile twin.profile
  receipt : ReceiptsAlike secret request.authorizationReceipt twin.authorizationReceipt
  ttl : request.maxCredentialTtlSeconds = twin.maxCredentialTtlSeconds

def CatalogService.issue (service : CatalogService) (request : CredentialIssuanceRequest) :
    LakeCatResult (List StorageCredential) :=
  @CredentialIssuer.issue _ _ service.sources request service.issuer

/-- Services that differ in what they issue under the keys of the issuer. -/
structure ServicesAlike (engine : RepositoryEngine) (service twin : CatalogService) : Prop where
  state : service.state = twin.state
  verifier : service.verifier = twin.verifier
  governed : service.state.governance = engine.governance
  attested : AttestedAlike secret service.verifier
  issued : ∀ request other, IssuanceAlike secret request other →
    ∀ credentials others, service.issue request = .ok credentials →
      twin.issue other = .ok others →
        List.Forall₂ (CredentialsRelated (EntriesIssued secret)) credentials others

variable {secret}

section Load

omit [LocationUrls] in
theorem readCapabilities_alike {receipt twin : AuthorizationReceipt}
    (alike : ReceiptsAlike secret receipt twin) {description : String} {table : TableIdent}
    {capability other : CredentialsVendCapability}
    (found : TableReadCapability.fromReceipt description receipt table = .ok capability)
    (twinFound : TableReadCapability.fromReceipt description twin table = .ok other) :
    CapabilitiesAlike secret capability other := by
  obtain ⟨rfl, rfl⟩ := readCapability_ok.mp found
  obtain ⟨rfl, named⟩ := readCapability_ok.mp twinFound
  have decoded := capability.decoded
  rw [receiptRestriction, alike.context.again "read-restriction" (by decide)] at decoded
  exact ⟨alike, named.symm, Option.some.inj (decoded.symm.trans other.decoded)⟩

omit [LocationUrls] in
theorem longestProfile_alike {table : TableRecord} {best twinBest found twinFound :
      Option StorageProfile} {profiles twins : List StorageProfile}
    (alike : List.Forall₂ (ProfilesAlike secret) profiles twins)
    (begun : Option.Rel (ProfilesAlike secret) best twinBest)
    (selected : longestStorageProfile table best profiles = .ok found)
    (twinSelected : longestStorageProfile table twinBest twins = .ok twinFound) :
    Option.Rel (ProfilesAlike secret) found twinFound := by
  induction alike generalizing best twinBest with
  | nil =>
      cases begun with
      | none =>
          obtain rfl := Except.ok.inj selected
          obtain rfl := Except.ok.inj twinSelected
          exact .none
      | some related =>
          obtain rfl := Except.ok.inj selected
          obtain rfl := Except.ok.inj twinSelected
          exact .some related
  | cons first _ ih =>
      cases begun with
      | none => exact ih (.some first) selected twinSelected
      | some related =>
          rw [longestStorageProfile, related.locationPrefix, first.locationPrefix] at selected
          rw [longestStorageProfile] at twinSelected
          split at selected
          next longer =>
            rw [if_pos longer] at twinSelected
            exact ih (.some first) selected twinSelected
          next notLonger =>
            rw [if_neg notLonger] at twinSelected
            split at selected
            next => cases selected
            next different =>
              rw [if_neg different] at twinSelected
              exact ih (.some related) selected twinSelected

omit [LocationUrls] in
theorem profileForTable_alike {store twin : MemoryState} (alike : StoresAlike secret store twin)
    {table : TableRecord} {profile other : StorageProfile}
    (found : store.storageProfileForTable table = .ok profile)
    (twinFound : twin.storageProfileForTable table = .ok other) :
    ProfilesAlike secret profile other := by
  have kept (entry : String × StorageProfile) (result : StorageProfile) :
      (do validateStorageProfileMapScope entry.2 entry.1
          return entry.2 : LakeCatResult StorageProfile) = .ok result ↔
        validateStorageProfileMapScope entry.2 entry.1 = .ok () ∧ result = entry.2 := by
    simp only [bind_eq_ok, exists_unit, pure_eq, Except.ok.injEq]
    exact and_congr_right fun _ => eq_comm
  simp only [MemoryState.storageProfileForTable, bind_eq_ok, pure_eq, Except.ok.injEq]
    at found twinFound
  obtain ⟨_, read, best, matched, rfl⟩ := found
  obtain ⟨_, twinRead, twinBest, twinMatched, rfl⟩ := twinFound
  obtain ⟨-, rfl⟩ := (collect_checked _ _ _ kept _ _).mp read
  obtain ⟨-, rfl⟩ := (collect_checked _ _ _ kept _ _).mp twinRead
  have profiles : List.Forall₂ (ProfilesAlike secret)
      (store.storageProfiles.toList.map Prod.snd) (twin.storageProfiles.toList.map Prod.snd) := by
    rw [List.forall₂_map_left_iff, List.forall₂_map_right_iff]
    exact alike.profiles.imp fun _ _ entry => entry.2
  have within : List.Forall₂ (ProfilesAlike secret)
      ((store.storageProfiles.toList.map Prod.snd).filter fun profile => profile.matchesTable table)
      ((twin.storageProfiles.toList.map Prod.snd).filter fun profile =>
        profile.matchesTable table) := by
    generalize store.storageProfiles.toList.map Prod.snd = all at profiles
    generalize twin.storageProfiles.toList.map Prod.snd = others at profiles
    induction profiles with
    | nil => exact .nil
    | @cons profile other _ _ first _ ih =>
        have same : profile.matchesTable table = other.matchesTable table := by
          rw [StorageProfile.matchesTable, StorageProfile.matchesTable, first.warehouse,
            first.locationPrefix]
        rw [List.filter_cons, List.filter_cons, same]
        split
        · exact .cons first ih
        · exact ih
  have selected := longestProfile_alike within .none matched twinMatched
  cases selected with
  | none => exact .refl _
  | some related => exact related

theorem issued_alike {engine : RepositoryEngine} {service twin : CatalogService}
    (services : ServicesAlike secret engine service twin)
    {capability other : CredentialsVendCapability}
    (capabilities : CapabilitiesAlike secret capability other) {table : TableRecord}
    {profile twinProfile : StorageProfile} (profiles : ProfilesAlike secret profile twinProfile)
    {credentials others : List StorageCredential}
    (found : @issueUnlessBlocked _ _ service.sources service.issuer capability table profile =
      .ok credentials)
    (twinFound : @issueUnlessBlocked _ _ twin.sources twin.issuer other table twinProfile =
      .ok others) :
    List.Forall₂ (CredentialsRelated (EntriesReturned secret)) credentials others := by
  simp only [issueUnlessBlocked, ← blockReason_same capabilities] at found twinFound
  cases blocked : credentialBlockReason capability with
  | some reason =>
      rw [blocked] at found twinFound
      obtain rfl := Except.ok.inj found
      obtain rfl := Except.ok.inj twinFound
      exact .nil
  | none =>
      rw [blocked] at found twinFound
      simp only [Option.isSome_none, Bool.false_eq_true, if_false, bind_eq_ok, pure_eq,
        Except.ok.injEq] at found twinFound
      obtain ⟨issued, issuedOk, kept, keptOk, rfl⟩ := found
      obtain ⟨twinIssued, twinIssuedOk, twinKept, twinKeptOk, rfl⟩ := twinFound
      rw [← capabilities.restriction] at twinIssuedOk twinKeptOk ⊢
      have related := services.issued ⟨table, profile, capability.receipt, _⟩
        ⟨table, twinProfile, other.receipt, _⟩ ⟨rfl, profiles, capabilities.receipt, rfl⟩ _ _
        issuedOk twinIssuedOk
      exact canonicalized_returned profiles capabilities.receipt.principal
        (issuedForProfile_related profiles related keptOk twinKeptOk) _ _

end Load

/-- The store after one event more is recorded. -/
def MemoryState.recording (store : MemoryState) (event : CatalogAuditEvent) (next : MemoryState) :
    Prop :=
  next.auditEvents = store.auditEvents ++ [event] ∧
    next.outboxEvents = store.outboxEvents ++ [auditOutbox event]

omit [LocationUrls] in
theorem recordAuditEvent_recording {store recorded : MemoryState} {event : CatalogAuditEvent}
    {done : Unit} (found : store.recordAuditEvent event = .ok (done, recorded)) :
    store.recording event recorded := by
  obtain ⟨_, _, rfl⟩ := (MemoryState.recordAuditEvent_ok _ _ _ _).mp found
  exact ⟨rfl, rfl⟩

theorem loadCredentials_alike {engine : RepositoryEngine} {service twin : CatalogService}
    (services : ServicesAlike secret engine service twin) {store twinStore : MemoryState}
    (stores : StoresAlike secret store twinStore) {headers twinHeaders : HeaderMap}
    (alike : HeadersAlike secret headers twinHeaders) {catalogPrefix : CatalogPrefix}
    {ns table : String} {clock : RequestClock} {next twinNext : MemoryState}
    (answered : (SealedRequest.loadCredentials catalogPrefix ns table).answer service store headers
      clock = .ok next)
    (twinAnswered : (SealedRequest.loadCredentials catalogPrefix ns table).answer twin twinStore
      twinHeaders clock = .ok twinNext) :
    ∃ event other, store.recording event next ∧ twinStore.recording other twinNext ∧
      AuditsAlike secret event other := by
  have kept (prefixed : CatalogPrefix) {warehouse other : WarehouseName}
      (found : prefixed.warehouse service.state store = .ok warehouse)
      (twinFound : prefixed.warehouse twin.state twinStore = .ok other) : warehouse = other := by
    cases prefixed with
    | default =>
        rw [CatalogPrefix.warehouse, ← services.state] at twinFound
        exact Except.ok.inj (found.symm.trans twinFound)
    | named name =>
        simp only [CatalogPrefix.warehouse, prefixedCatalogWarehouse, bind_eq_ok, pure_eq,
          Except.ok.injEq] at found twinFound
        obtain ⟨_, named, _, _, rfl⟩ := found
        obtain ⟨_, twinNamed, _, _, rfl⟩ := twinFound
        exact Except.ok.inj (named.symm.trans twinNamed)
  simp only [SealedRequest.answer, loadCredentialsInWarehouse, authorizeCredentialsVend, authorize,
    bind_eq_ok, pure_eq, Except.ok.injEq, Prod.exists, Prod.mk.injEq] at answered twinAnswered
  obtain ⟨warehouse, warehouseOk, identity, identified, _, _, ⟨ident, identOk, capability,
    ⟨receipt, authorized, capabilityOk⟩, record, loaded, profile, selected, credentials, issued,
    _, _, recorded, rfl, rfl⟩, rfl⟩ := answered
  obtain ⟨twinWarehouse, twinWarehouseOk, twinIdentity, twinIdentified, _, _, ⟨twinIdent,
    twinIdentOk, twinCapability, ⟨twinReceipt, twinAuthorized, twinCapabilityOk⟩, twinRecord,
    twinLoaded, twinProfile, twinSelected, twinCredentials, twinIssued, _, _, twinRecorded, rfl,
    rfl⟩, rfl⟩ := twinAnswered
  obtain rfl := kept catalogPrefix warehouseOk twinWarehouseOk
  obtain rfl := Except.ok.inj (identOk.symm.trans twinIdentOk)
  rw [← services.verifier] at twinIdentified
  rw [← services.state] at twinAuthorized
  have receipts := authorize_alike services.governed stores.policyBindings
    (identify_alike services.attested alike identified twinIdentified) authorized twinAuthorized
  have capabilities := readCapabilities_alike receipts capabilityOk twinCapabilityOk
  have same : record = twinRecord := by
    rw [MemoryState.loadTable_ok] at loaded twinLoaded
    rw [← capabilities.table, ← stores.tables] at twinLoaded
    exact Option.some.inj (loaded.2.1.symm.trans twinLoaded.2.1)
  subst same
  have profiles := profileForTable_alike stores selected twinSelected
  have returned := issued_alike services capabilities profiles issued twinIssued
  exact ⟨_, _, recordAuditEvent_recording recorded, recordAuditEvent_recording twinRecorded,
    vendAuditEvent_alike capabilities record profiles returned clock.now⟩

/-! The management routes. -/

/-- Handlers that ask for one action, and make changes that differ in secrets. -/
structure HandlersAlike (secret : String → String → Prop) (one other : ManageHandler) : Prop where
  action : one.action = other.action
  description : one.description = other.description
  change : ∀ principal twin now change changed, one.change principal now = .ok change →
    other.change twin now = .ok changed → ChangesAlike secret change changed

omit [External] [LocationUrls] in
theorem catalogCapability_ok {receipt kept : AuthorizationReceipt} {action : CatalogAction}
    {description : String}
    (found : catalogCapabilityFromReceipt receipt action description = .ok kept) :
    kept = receipt := by
  simp only [catalogCapabilityFromReceipt, bind_eq_ok, exists_unit, pure_eq, Except.ok.injEq]
    at found
  exact found.2.2.2.symm

/-- The first of the two calls of a change leaves the logs as they are. -/
def ChangeRequest.KeepsLogs (request : ChangeRequest) : Prop :=
  ∀ (store : MemoryState) (receipt : AuthorizationReceipt) (now : Timestamp),
    (store.step (request.change receipt now)).auditEvents = store.auditEvents ∧
      (store.step (request.change receipt now)).outboxEvents = store.outboxEvents

omit [External] [LocationUrls] in
theorem atomic_logs {α : Type} {store : MemoryState} {result : LakeCatResult (α × MemoryState)}
    (kept : ∀ value next, result = .ok (value, next) →
      next.auditEvents = store.auditEvents ∧ next.outboxEvents = store.outboxEvents) :
    (atomic store result).2.auditEvents = store.auditEvents ∧
      (atomic store result).2.outboxEvents = store.outboxEvents := by
  rcases atomic_cases store result with ⟨value, stored⟩ | ⟨_, _, same⟩
  · exact kept value _ stored
  · rw [same]
    exact ⟨rfl, rfl⟩

omit [LocationUrls] in
theorem upsertServer_logs (server : ServerRecord) :
    (ChangeRequest.upsertServer server).KeepsLogs := by
  intro store _ _
  refine atomic_logs fun result next stored => ?_
  obtain ⟨servers, rfl⟩ := MemoryState.upsertServer_ok store next server result stored
  exact ⟨rfl, rfl⟩

omit [LocationUrls] in
theorem upsertWarehouse_logs (warehouse : WarehouseRecord) :
    (ChangeRequest.upsertWarehouse warehouse).KeepsLogs := by
  intro store _ _
  refine atomic_logs fun result next stored => ?_
  obtain ⟨warehouses, rfl⟩ := MemoryState.upsertWarehouse_ok store next warehouse result stored
  exact ⟨rfl, rfl⟩

omit [LocationUrls] in
theorem upsertStorageProfile_logs (profile : StorageProfile) :
    (ChangeRequest.upsertStorageProfile profile).KeepsLogs := by
  intro store _ _
  refine atomic_logs fun result next stored => ?_
  obtain ⟨profiles, rfl⟩ := MemoryState.upsertStorageProfile_ok store next profile result stored
  exact ⟨rfl, rfl⟩

omit [LocationUrls] in
theorem upsert_logs {one other : ChangeRequest} (alike : ChangesAlike secret one other) :
    one.KeepsLogs ∧ other.KeepsLogs := by
  cases alike with
  | upsertServer => exact ⟨upsertServer_logs _, upsertServer_logs _⟩
  | upsertWarehouse | upsertProjectWarehouse =>
      exact ⟨upsertWarehouse_logs _, upsertWarehouse_logs _⟩
  | upsertStorageProfile => exact ⟨upsertStorageProfile_logs _, upsertStorageProfile_logs _⟩

omit [LocationUrls] in
theorem recordChange_recording {change : ChangeRequest} (keeps : change.KeepsLogs)
    {store recorded : MemoryState} {receipt : AuthorizationReceipt} {now : Timestamp}
    {event : CatalogAuditEvent} {done : Unit}
    (found : (store.step (change.change receipt now)).recordAuditEvent event =
      .ok (done, recorded)) : store.recording event recorded := by
  obtain ⟨audits, outbox⟩ := recordAuditEvent_recording found
  obtain ⟨keptAudits, keptOutbox⟩ := keeps store receipt now
  rw [keptAudits] at audits
  rw [keptOutbox] at outbox
  exact ⟨audits, outbox⟩

theorem manage_alike {engine : RepositoryEngine} {service twin : CatalogService}
    (services : ServicesAlike secret engine service twin) {store twinStore : MemoryState}
    (stores : StoresAlike secret store twinStore) {headers twinHeaders : HeaderMap}
    (alike : HeadersAlike secret headers twinHeaders) {handler other : ManageHandler}
    (handlers : HandlersAlike secret handler other) {clock : RequestClock}
    {next twinNext : MemoryState}
    (answered : handler.answer service.state service.verifier store headers clock = .ok next)
    (twinAnswered : other.answer twin.state twin.verifier twinStore twinHeaders clock =
      .ok twinNext) :
    ∃ event other, store.recording event next ∧ twinStore.recording other twinNext ∧
      AuditsAlike secret event other := by
  simp only [ManageHandler.answer, authorize, recordChange, bind_eq_ok, pure_eq, Except.ok.injEq,
    Prod.exists, exists_unit] at answered twinAnswered
  obtain ⟨identity, identified, receipt, authorized, kept, keptOk, change, changed, event, made,
    _, recorded, rfl⟩ := answered
  obtain ⟨twinIdentity, twinIdentified, twinReceipt, twinAuthorized, twinKept, twinKeptOk,
    twinChange, twinChanged, twinEvent, twinMade, _, twinRecorded, rfl⟩ := twinAnswered
  obtain rfl := catalogCapability_ok keptOk
  obtain rfl := catalogCapability_ok twinKeptOk
  rw [← services.verifier] at twinIdentified
  rw [← services.state, ← handlers.action] at twinAuthorized
  have receipts := authorize_alike services.governed stores.policyBindings
    (identify_alike services.attested alike identified twinIdentified) authorized twinAuthorized
  have changes := handlers.change _ _ _ _ _ changed twinChanged
  have keeps := upsert_logs changes
  exact ⟨event, twinEvent, recordChange_recording keeps.1 recorded,
    recordChange_recording keeps.2 twinRecorded, change_event_alike changes receipts made twinMade⟩

omit [LocationUrls] in
/-- What the routes make of bodies that differ in secrets. -/
theorem serverHandler_alike (server : String) (displayName : Option String)
    (properties : BTreeMap String) {endpointUrl twin : Option String}
    (held : Option.Rel (Sealed secret) endpointUrl twin) :
    HandlersAlike secret (upsertServerHandler server ⟨displayName, endpointUrl, properties⟩)
      (upsertServerHandler server ⟨displayName, twin, properties⟩) where
  action := rfl
  description := rfl
  change principal twin now change changed found twinFound := by
    simp only [upsertServerHandler, ServerRecord.new, bind_eq_ok, exists_unit, pure_eq,
      Except.ok.injEq] at found twinFound
    obtain ⟨_, ⟨_, rfl⟩, rfl⟩ := found
    obtain ⟨_, ⟨_, rfl⟩, rfl⟩ := twinFound
    exact .upsertServer ⟨rfl, rfl, rfl, held⟩

omit [LocationUrls] in
theorem warehouseHandler_alike {warehouse : String} {projectId : Option String}
    {properties : BTreeMap String} {storageRoot twin : Option String}
    (held : Option.Rel (Sealed secret) storageRoot twin) {handler other : ManageHandler}
    (found : upsertWarehouseHandler warehouse ⟨projectId, storageRoot, properties⟩ = .ok handler)
    (twinFound : upsertWarehouseHandler warehouse ⟨projectId, twin, properties⟩ = .ok other) :
    HandlersAlike secret handler other := by
  simp only [upsertWarehouseHandler, bind_eq_ok, pure_eq, Except.ok.injEq] at found twinFound
  obtain ⟨name, named, rfl⟩ := found
  obtain ⟨other, twinNamed, rfl⟩ := twinFound
  obtain rfl := Except.ok.inj (named.symm.trans twinNamed)
  refine ⟨rfl, rfl, fun principal twin now change changed found twinFound => ?_⟩
  simp only [WarehouseRecord.new, bind_eq_ok, exists_unit, pure_eq, Except.ok.injEq]
    at found twinFound
  obtain ⟨_, ⟨_, rfl⟩, rfl⟩ := found
  obtain ⟨_, ⟨_, rfl⟩, rfl⟩ := twinFound
  exact .upsertWarehouse ⟨rfl, rfl, rfl, held⟩

omit [LocationUrls] in
theorem projectWarehouseHandler_alike {project warehouse : String} {projectId : Option String}
    {properties : BTreeMap String} {storageRoot twin : Option String}
    (held : Option.Rel (Sealed secret) storageRoot twin) {handler other : ManageHandler}
    (found : upsertProjectWarehouseHandler project warehouse ⟨projectId, storageRoot, properties⟩ =
      .ok handler)
    (twinFound : upsertProjectWarehouseHandler project warehouse ⟨projectId, twin, properties⟩ =
      .ok other) : HandlersAlike secret handler other := by
  simp only [upsertProjectWarehouseHandler, bind_eq_ok, exists_unit, pure_eq, Except.ok.injEq]
    at found twinFound
  obtain ⟨-, name, named, rfl⟩ := found
  obtain ⟨-, other, twinNamed, rfl⟩ := twinFound
  obtain rfl := Except.ok.inj (named.symm.trans twinNamed)
  refine ⟨rfl, rfl, fun principal twin now change changed found twinFound => ?_⟩
  simp only [WarehouseRecord.new, bind_eq_ok, exists_unit, pure_eq, Except.ok.injEq]
    at found twinFound
  obtain ⟨_, ⟨_, rfl⟩, rfl⟩ := found
  obtain ⟨_, ⟨_, rfl⟩, rfl⟩ := twinFound
  exact .upsertProjectWarehouse ⟨rfl, rfl, rfl, held⟩

omit [LocationUrls] in
theorem profileHandler_alike {warehouse profile locationPrefix provider issuanceMode : String}
    {publicConfig : BTreeMap String} {secretRef twin : Option String}
    (held : Option.Rel (fun secretRef twin => Sealed secret secretRef twin ∧
      secretRefProviderLabel secretRef = secretRefProviderLabel twin) secretRef twin)
    {handler other : ManageHandler}
    (found : upsertStorageProfileHandler warehouse profile
      ⟨locationPrefix, provider, issuanceMode, secretRef, publicConfig⟩ = .ok handler)
    (twinFound : upsertStorageProfileHandler warehouse profile
      ⟨locationPrefix, provider, issuanceMode, twin, publicConfig⟩ = .ok other) :
    HandlersAlike secret handler other := by
  simp only [upsertStorageProfileHandler, bind_eq_ok, pure_eq, Except.ok.injEq] at found twinFound
  obtain ⟨name, named, rfl⟩ := found
  obtain ⟨other, twinNamed, rfl⟩ := twinFound
  obtain rfl := Except.ok.inj (named.symm.trans twinNamed)
  refine ⟨rfl, rfl, fun principal twin now change changed found twinFound => ?_⟩
  simp only [StorageProfile.new, bind_eq_ok, exists_unit, pure_eq, Except.ok.injEq]
    at found twinFound
  obtain ⟨own, ownOk, mode, modeOk, _, ⟨_, _, _, _, _, _, _, _, _, rfl⟩, rfl⟩ := found
  obtain ⟨twinOwn, twinOwnOk, twinMode, twinModeOk, _, ⟨_, _, _, _, _, _, _, _, _, rfl⟩, rfl⟩ :=
    twinFound
  obtain rfl := Except.ok.inj (ownOk.symm.trans twinOwnOk)
  obtain rfl := Except.ok.inj (modeOk.symm.trans twinModeOk)
  exact .upsertStorageProfile ⟨rfl, rfl, rfl, rfl, rfl, rfl, held⟩

/-- Two answered runs each record one event, the same but for digests. -/
theorem answered_alike {engine : RepositoryEngine} {service twin : CatalogService}
    (services : ServicesAlike secret engine service twin) {store twinStore : MemoryState}
    (stores : StoresAlike secret store twinStore) {headers twinHeaders : HeaderMap}
    (alike : HeadersAlike secret headers twinHeaders) {request other : SealedRequest}
    (requests : RequestsAlike secret request other) {clock : RequestClock}
    {next twinNext : MemoryState}
    (answered : request.answer service store headers clock = .ok next)
    (twinAnswered : other.answer twin twinStore twinHeaders clock = .ok twinNext) :
    ∃ event other, store.recording event next ∧ twinStore.recording other twinNext ∧
      AuditsAlike secret event other := by
  cases requests with
  | loadCredentials => exact loadCredentials_alike services stores alike answered twinAnswered
  | upsertServer server displayName properties held =>
      exact manage_alike services stores alike
        (serverHandler_alike server displayName properties held) answered twinAnswered
  | upsertWarehouse warehouse projectId properties held =>
      simp only [SealedRequest.answer, bind_eq_ok] at answered twinAnswered
      obtain ⟨handler, found, answered⟩ := answered
      obtain ⟨twinHandler, twinFound, twinAnswered⟩ := twinAnswered
      exact manage_alike services stores alike (warehouseHandler_alike held found twinFound)
        answered twinAnswered
  | upsertProjectWarehouse project warehouse projectId properties held =>
      simp only [SealedRequest.answer, bind_eq_ok] at answered twinAnswered
      obtain ⟨handler, found, answered⟩ := answered
      obtain ⟨twinHandler, twinFound, twinAnswered⟩ := twinAnswered
      exact manage_alike services stores alike (projectWarehouseHandler_alike held found twinFound)
        answered twinAnswered
  | upsertStorageProfile warehouse profile locationPrefix provider issuanceMode publicConfig held =>
      simp only [SealedRequest.answer, bind_eq_ok] at answered twinAnswered
      obtain ⟨handler, found, answered⟩ := answered
      obtain ⟨twinHandler, twinFound, twinAnswered⟩ := twinAnswered
      exact manage_alike services stores alike (profileHandler_alike held found twinFound)
        answered twinAnswered

/-- Of two answered runs that differ in secrets, each records one event and its outbox event, the
same but for digests; and so are the receipts of whatever they are authorized to do. -/
theorem SealedRequest.answered_noninterference {engine : RepositoryEngine}
    {service twin : CatalogService} (services : ServicesAlike secret engine service twin)
    {store twinStore : MemoryState} (stores : StoresAlike secret store twinStore)
    {headers twinHeaders : HeaderMap} (alike : HeadersAlike secret headers twinHeaders) :
    (∀ {request other : SealedRequest} {clock : RequestClock} {next twinNext : MemoryState},
      RequestsAlike secret request other → request.answer service store headers clock = .ok next →
      other.answer twin twinStore twinHeaders clock = .ok twinNext →
      ∃ event other, store.recording event next ∧ twinStore.recording other twinNext ∧
        AuditsAlike secret event other ∧
          OutboxesAlike secret (MemoryState.auditOutbox event) (MemoryState.auditOutbox other)) ∧
    ∀ {identity other : RequestIdentity} {action : CatalogAction} {table : Option TableIdent}
      {operationContext : List (String × Json)} {now : Timestamp}
      {receipt twinReceipt : AuthorizationReceipt},
      identify service.verifier headers = .ok identity →
      identify twin.verifier twinHeaders = .ok other →
      authorizeWithOperationContext service.state store identity action table operationContext
        now = .ok receipt →
      authorizeWithOperationContext twin.state twinStore other action table operationContext
        now = .ok twinReceipt →
      Shown secret receipt.toJson twinReceipt.toJson := by
  constructor
  · intro request other clock next twinNext requests answered twinAnswered
    obtain ⟨event, other, recorded, twinRecorded, audits⟩ :=
      answered_alike services stores alike requests answered twinAnswered
    exact ⟨event, other, recorded, twinRecorded, audits, audits.outbox⟩
  · intro identity other action table operationContext now receipt twinReceipt identified
      twinIdentified authorized twinAuthorized
    rw [← services.verifier] at twinIdentified
    rw [← services.state] at twinAuthorized
    have receipts := authorize_alike services.governed stores.policyBindings
      (identify_alike services.attested alike identified twinIdentified) authorized twinAuthorized
    exact receipts.shown

/-- The issuer that only returns public credentials returns the same to both. -/
theorem conservative_issued [SecretSources] {request twin : CredentialIssuanceRequest}
    (alike : IssuanceAlike secret request twin) {credentials others : List StorageCredential}
    (found : CredentialIssuer.conservative.issue request = .ok credentials)
    (twinFound : CredentialIssuer.conservative.issue twin = .ok others) :
    List.Forall₂ (CredentialsRelated (EntriesIssued secret)) credentials others := by
  have open_ : request.profile.canReturnPublicCredential =
      twin.profile.canReturnPublicCredential := by
    rw [StorageProfile.canReturnPublicCredential, StorageProfile.canReturnPublicCredential,
      alike.profile.issuanceMode]
  have same : List.Forall₂ (CredentialsRelated (EntriesIssued secret))
      (publicStorageCredentialsForProfile request.profile)
      (publicStorageCredentialsForProfile twin.profile) := by
    rw [publicStorageCredentialsForProfile, publicStorageCredentialsForProfile,
      alike.profile.locationPrefix, alike.profile.profileId, alike.profile.publicConfig]
    exact .cons ⟨rfl, List.forall₂_same.mpr fun entry _ => entriesIssued_same entry⟩ .nil
  rw [CredentialIssuer.issue] at found twinFound
  rw [← open_] at twinFound
  split at found
  next allowed =>
    rw [if_pos allowed, issuePublic, ← alike.ttl] at twinFound
    exact issuedForProfile_related alike.profile same found twinFound
  next refused =>
    rw [if_neg refused] at twinFound
    obtain rfl := Except.ok.inj found
    obtain rfl := Except.ok.inj twinFound
    exact .nil

end

section Samples

/-- One header beside those that are left out. -/
def onlyHeader (name value : String) : HeaderMap :=
  fun asked => if asked = name then [some value] else []

/-- Any two texts may be what two runs differ in. -/
def anySecret (one other : String) : Prop := one ≠ other

theorem onlyHeader_token (token twin : String) :
    HeadersAlike anySecret (onlyHeader "authorization" ("Bearer " ++ token))
      (onlyHeader "authorization" ("Bearer " ++ twin)) where
  plain name _ open_ := by simp [onlyHeader, open_]
  kept name member := by
    have other : name ≠ "authorization" := by
      rintro rfl
      exact absurd member (by decide)
    simp [onlyHeader, other]
  authorization := by
    refine .cons (.some ?_) .nil
    by_cases same : token = twin
    · exact .inl (by rw [same])
    · exact .inr ⟨token, twin, rfl, rfl, same⟩

theorem onlyHeader_envelope {envelope twin : String} (different : envelope ≠ twin) :
    HeadersAlike anySecret (onlyHeader "x-lakecat-typedid-envelope" envelope)
      (onlyHeader "x-lakecat-typedid-envelope" twin) where
  plain name outside _ := by
    have other : name ≠ "x-lakecat-typedid-envelope" := by
      rintro rfl
      exact absurd (by decide) outside
    simp [onlyHeader, other]
  kept name member := by
    by_cases own : name = "x-lakecat-typedid-envelope"
    · subst own
      exact .cons (.some (.inr different)) .nil
    · simp [onlyHeader, own]
  authorization := .nil

theorem storesAlike_empty : StoresAlike anySecret .empty .empty :=
  ⟨rfl, rfl, rfl, List.forall₂_same.mpr fun entry _ => ⟨rfl, .refl entry.2⟩⟩

theorem isOk_exists {ε α : Type} {result : Except ε α} (passed : result.isOk = true) :
    ∃ value, result = .ok value := by
  cases result with
  | ok value => exact ⟨value, rfl⟩
  | error => cases passed

/-- A server without a record of where it is. -/
def mainServer : SealedRequest := .upsertServer "main" ⟨none, none, ∅⟩

def localService [External] (verifier : TypeDidVerifier) : CatalogService :=
  ⟨mainState, verifier, .conservative, noSecrets⟩

theorem SealedRequest.answered_noninterference_tokens :
    let _ := datedExternal
    let _ := lakeUrls
    ∃ next twinNext event other,
      mainServer.answer (localService conservativeTypeDidVerifier) .empty
        (onlyHeader "authorization" "Bearer ada") ⟨0, 0, 0⟩ = .ok next ∧
      mainServer.answer (localService conservativeTypeDidVerifier) .empty
        (onlyHeader "authorization" "Bearer bob") ⟨0, 0, 0⟩ = .ok twinNext ∧
      MemoryState.empty.recording event next ∧ MemoryState.empty.recording other twinNext ∧
        AuditsAlike anySecret event other := by
  intro _ _
  have services : ServicesAlike anySecret .allowAll (localService conservativeTypeDidVerifier)
      (localService conservativeTypeDidVerifier) := {
    state := rfl
    verifier := rfl
    governed := rfl
    attested := fun _ _ _ _ _ found => nomatch found
    issued := fun _ _ alike _ _ found twinFound =>
      @conservative_issued _ _ _ noSecrets _ _ alike _ _ found twinFound }
  have answers (token : String) (asked : token = "ada" ∨ token = "bob") :
      ∃ next, mainServer.answer (localService conservativeTypeDidVerifier) .empty
        (onlyHeader "authorization" ("Bearer " ++ token)) ⟨0, 0, 0⟩ = .ok next := by
    have passed : (mainServer.answer (localService conservativeTypeDidVerifier) .empty
        (onlyHeader "authorization" ("Bearer " ++ token)) ⟨0, 0, 0⟩).isOk = true := by
      rcases asked with rfl | rfl <;> decide +kernel
    exact isOk_exists passed
  obtain ⟨next, answered⟩ := answers "ada" (.inl rfl)
  obtain ⟨twinNext, twinAnswered⟩ := answers "bob" (.inr rfl)
  obtain ⟨event, other, recorded, twinRecorded, audits, _⟩ :=
    (SealedRequest.answered_noninterference services storesAlike_empty
      (onlyHeader_token "ada" "bob")).1 (.upsertServer "main" none ∅ .none) answered twinAnswered
  exact ⟨next, twinNext, event, other, answered, twinAnswered, recorded, twinRecorded, audits⟩

theorem digestPair_marked [External] {secret : String → String → Prop} {one other : String}
    (pair : DigestPair secret one other) :
    startsWith one "sha256:" = true ∨ startsWith one "bearer:" = true := by
  have marked (mark text : String) : startsWith (mark ++ text) mark = true := by
    rw [startsWith_iff]
    exact ⟨text, rfl⟩
  cases pair with
  | text | document => exact .inl (marked _ _)
  | bearer => exact .inr (marked _ _)

/-- A gateway that finds the agent named in an envelope. -/
def namedAgents : TypeDidVerifier :=
  typeSecTypeDidVerifier fun envelope => .ok ("did:" ++ envelope, .obj [])

/-- Envelopes of two agents show in the events whose they are, and a token that is not one is
refused where another is taken. -/
theorem sealedRuns_told_apart :
    let _ := datedExternal
    let _ := lakeUrls
    StoresAlike anySecret .empty .empty ∧ RequestsAlike anySecret mainServer mainServer ∧
      HeadersAlike anySecret (onlyHeader "x-lakecat-typedid-envelope" "ada")
        (onlyHeader "x-lakecat-typedid-envelope" "bob") ∧
      (∃ next twinNext,
        mainServer.answer (localService namedAgents) .empty
          (onlyHeader "x-lakecat-typedid-envelope" "ada") ⟨0, 0, 0⟩ = .ok next ∧
        mainServer.answer (localService namedAgents) .empty
          (onlyHeader "x-lakecat-typedid-envelope" "bob") ⟨0, 0, 0⟩ = .ok twinNext ∧
        ∀ event other, MemoryState.empty.recording event next →
          MemoryState.empty.recording other twinNext → ¬AuditsAlike anySecret event other) ∧
      HeadersAlike anySecret (onlyHeader "authorization" "Bearer ada")
        (onlyHeader "authorization" "Bearer  ") ∧
      (mainServer.answer (localService namedAgents) .empty
        (onlyHeader "authorization" "Bearer ada") ⟨0, 0, 0⟩).isOk = true ∧
      (mainServer.answer (localService namedAgents) .empty
        (onlyHeader "authorization" "Bearer  ") ⟨0, 0, 0⟩).isOk = false := by
  intro _ _
  have recorded (agent : String) (asked : agent = "ada" ∨ agent = "bob") :
      ∃ next, mainServer.answer (localService namedAgents) .empty
          (onlyHeader "x-lakecat-typedid-envelope" agent) ⟨0, 0, 0⟩ = .ok next ∧
        next.auditEvents.map (fun event => event.principal.subject) = ["did:" ++ agent] := by
    have made : (mainServer.answer (localService namedAgents) .empty
        (onlyHeader "x-lakecat-typedid-envelope" agent) ⟨0, 0, 0⟩).toOption.map
          (fun next => next.auditEvents.map fun event => event.principal.subject) =
            some ["did:" ++ agent] := by
      rcases asked with rfl | rfl <;> decide +kernel
    obtain ⟨next, answered, subjects⟩ := Option.map_eq_some_iff.mp made
    refine ⟨next, ?_, subjects⟩
    cases result : mainServer.answer (localService namedAgents) .empty
        (onlyHeader "x-lakecat-typedid-envelope" agent) ⟨0, 0, 0⟩ with
    | ok own =>
        rw [result] at answered
        rw [Option.some.inj answered]
    | error =>
        rw [result] at answered
        cases answered
  obtain ⟨next, answered, subjects⟩ := recorded "ada" (.inl rfl)
  obtain ⟨twinNext, twinAnswered, twinSubjects⟩ := recorded "bob" (.inr rfl)
  refine ⟨storesAlike_empty, .upsertServer "main" none ∅ .none, onlyHeader_envelope (by decide),
    ⟨next, twinNext, answered, twinAnswered, ?_⟩, onlyHeader_token "ada" " ", by decide +kernel,
    by decide +kernel⟩
  intro event other single twinSingle alike
  have subject : event.principal.subject = "did:ada" := by
    rw [single.1] at subjects
    exact List.head_eq_of_cons_eq subjects
  have twinSubject : other.principal.subject = "did:bob" := by
    rw [twinSingle.1] at twinSubjects
    exact List.head_eq_of_cons_eq twinSubjects
  have covered := alike.principal.subject
  rw [subject, twinSubject] at covered
  rcases covered with same | pair
  · exact absurd same (by decide)
  · rcases digestPair_marked pair with digest | bearer
    · exact absurd digest (by decide)
    · exact absurd bearer (by decide)

end Samples

end LakeCat
