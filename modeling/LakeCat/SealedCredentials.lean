import LakeCat.LoadCredentials
import LakeCat.SealedIdentities

/-!
Credentials that two runs are issued, the same but for the values under the keys
of the issuer: what the service shows of them is the same but for digests.
-/

namespace LakeCat

open Fallible

/-- The keys that the catalog keeps for itself, in any case. -/
def isLakecatKey (key : String) : Bool :=
  startsWith (toAsciiLowercase key) "lakecat."

/-- Entries as issuers return them. What an issuer states under the keys of the catalog's own
evidence is of no account. -/
structure EntriesIssued (secret : String → String → Prop) (entry other : ConfigEntry) : Prop where
  key : entry.key = other.key
  value : entry.value = other.value ∨
    (isLakecatKey entry.key = false ∧ secret entry.value other.value) ∨
      toAsciiLowercase entry.key ∈ lakecatCredentialResponseEvidenceKeys

structure CredentialsRelated (entries : ConfigEntry → ConfigEntry → Prop)
    (one other : StorageCredential) : Prop where
  locationPrefix : one.locationPrefix = other.locationPrefix
  config : List.Forall₂ entries one.config other.config

/-- Profiles that differ in the text of their secret reference, within one scheme. -/
structure ProfilesAlike (secret : String → String → Prop) (one other : StorageProfile) :
    Prop where
  profileId : one.profileId = other.profileId
  warehouse : one.warehouse = other.warehouse
  locationPrefix : one.locationPrefix = other.locationPrefix
  provider : one.provider = other.provider
  issuanceMode : one.issuanceMode = other.issuanceMode
  publicConfig : one.publicConfig = other.publicConfig
  secretRef : Option.Rel (fun secretRef twin => Sealed secret secretRef twin ∧
    secretRefProviderLabel secretRef = secretRefProviderLabel twin) one.secretRef other.secretRef

section Entries

variable {secret : String → String → Prop}

theorem ProfilesAlike.refl (profile : StorageProfile) : ProfilesAlike secret profile profile where
  profileId := rfl
  warehouse := rfl
  locationPrefix := rfl
  provider := rfl
  issuanceMode := rfl
  publicConfig := rfl
  secretRef := by
    cases profile.secretRef with
    | none => exact .none
    | some secretRef => exact .some ⟨.inl rfl, rfl⟩

theorem entriesIssued_same (entry : ConfigEntry) : EntriesIssued secret entry entry :=
  ⟨rfl, .inl rfl⟩

theorem filtered_related {related : ConfigEntry → ConfigEntry → Prop}
    {config twin : List ConfigEntry} (entries : List.Forall₂ related config twin)
    (keys : ∀ entry other, related entry other → entry.key = other.key) (kept : String → Bool) :
    List.Forall₂ related (config.filter fun entry => kept entry.key)
      (twin.filter fun entry => kept entry.key) := by
  induction entries with
  | nil => exact .nil
  | @cons entry other _ _ first _ ih =>
      rw [List.filter_cons, List.filter_cons, keys entry other first]
      split
      · exact .cons first ih
      · exact ih

/-- Time limits are stated under a key of the catalog, and so alike. -/
theorem ttls_same {config twin : List ConfigEntry}
    (entries : List.Forall₂ (EntriesIssued secret) config twin) (isTtl : String → Bool)
    (stated : ∀ key, isTtl key = true → toAsciiLowercase key = ttlKey) (ttl : Option Nat) :
    statedTtl (fun entry => isTtl entry.key) ttl config =
      statedTtl (fun entry => isTtl entry.key) ttl twin := by
  have values : ((config.filter fun entry => isTtl entry.key).filterMap fun entry =>
        parseU64 entry.value) =
      (twin.filter fun entry => isTtl entry.key).filterMap fun entry => parseU64 entry.value := by
    induction entries with
    | nil => rfl
    | @cons entry other _ _ first _ ih =>
        rw [List.filter_cons, List.filter_cons, ← first.key]
        split
        next found =>
          have named := stated _ found
          have same : entry.value = other.value := by
            rcases first.value with same | ⟨outside, -⟩ | evidence
            · exact same
            · rw [isLakecatKey, named] at outside
              exact absurd outside (by decide)
            · rw [named] at evidence
              exact absurd evidence (by decide)
          rw [List.filterMap_cons, List.filterMap_cons, same, ih]
        next => exact ih
  rw [statedTtl, statedTtl, values]

theorem ttlCap_issued {credentials twins : List StorageCredential}
    (issued : List.Forall₂ (CredentialsRelated (EntriesIssued secret)) credentials twins)
    (ttl : Option Nat) :
    List.Forall₂ (CredentialsRelated (EntriesIssued secret))
      (applyCredentialTtlCap credentials ttl) (applyCredentialTtlCap twins ttl) := by
  cases ttl with
  | none => exact issued
  | some seconds =>
      rw [applyCredentialTtlCap, applyCredentialTtlCap, List.forall₂_map_left_iff,
        List.forall₂_map_right_iff]
      refine issued.imp fun credential twin related => ⟨related.locationPrefix, ?_⟩
      have limits := ttls_same related.config (fun key => decide (key = ttlKey))
        (fun key named => by rw [of_decide_eq_true named]; decide) (some seconds)
      dsimp only
      rw [limits]
      refine List.rel_append ?_ (.cons (entriesIssued_same _) .nil)
      exact filtered_related related.config (fun _ _ first => first.key)
        (fun key => !decide (key = ttlKey))

end Entries

section
variable [External] (secret : String → String → Prop)

/-- Entries as the service returns them. -/
structure EntriesReturned (entry other : ConfigEntry) : Prop where
  key : entry.key = other.key
  value : Covered secret entry.value other.value ∨
    isLakecatKey entry.key = false ∧ secret entry.value other.value

variable {secret}

theorem entriesReturned_same (entry : ConfigEntry) : EntriesReturned secret entry entry :=
  ⟨rfl, .inl (.refl _)⟩

/-- The evidence of a secret reference is the same but for the digest of the reference. -/
theorem secretRefEvidence_related {related : ConfigEntry → ConfigEntry → Prop}
    (keys : ∀ entry other, related entry other → entry.key = other.key)
    (same : ∀ entry, related entry entry)
    (hashed : ∀ secretRef twin, Sealed secret secretRef twin →
      related ⟨"lakecat.secret-ref-hash", contentHashBytes secretRef⟩
        ⟨"lakecat.secret-ref-hash", contentHashBytes twin⟩)
    {one other : StorageProfile} (profiles : ProfilesAlike secret one other)
    {credentials twins : List StorageCredential}
    (given : List.Forall₂ (CredentialsRelated related) credentials twins) :
    List.Forall₂ (CredentialsRelated related) (applySecretRefProviderEvidence credentials one)
      (applySecretRefProviderEvidence twins other) := by
  have refs := profiles.secretRef
  rw [applySecretRefProviderEvidence, applySecretRefProviderEvidence]
  generalize one.secretRef = secretRef at refs
  generalize other.secretRef = twinRef at refs
  cases refs with
  | none => exact given
  | @some secretRef twinRef held =>
      dsimp only
      rw [← held.2]
      cases secretRefProviderLabel secretRef with
      | none => exact given
      | some provider =>
          dsimp only
          rw [List.forall₂_map_left_iff, List.forall₂_map_right_iff]
          refine given.imp fun credential twin alike => ⟨alike.locationPrefix, ?_⟩
          refine List.rel_append ?_ (.cons (same _) (.cons (hashed _ _ held.1) .nil))
          exact filtered_related alike.config keys (fun key => decide (toAsciiLowercase key ∉
            ["lakecat.secret-ref-provider", "lakecat.secret-ref-hash"]))

theorem issuedForProfile_related [LocationUrls] {one other : StorageProfile}
    (profiles : ProfilesAlike secret one other)
    {credentials twins returned twinReturned : List StorageCredential} {ttl : Option Nat}
    (issued : List.Forall₂ (CredentialsRelated (EntriesIssued secret)) credentials twins)
    (found : issuedCredentialsForProfile credentials one ttl = .ok returned)
    (twinFound : issuedCredentialsForProfile twins other ttl = .ok twinReturned) :
    List.Forall₂ (CredentialsRelated (EntriesIssued secret)) returned twinReturned := by
  simp only [issuedCredentialsForProfile, bind_eq_ok, exists_unit, pure_eq, Except.ok.injEq]
    at found twinFound
  obtain ⟨-, rfl⟩ := found
  obtain ⟨-, rfl⟩ := twinFound
  have own : toAsciiLowercase "lakecat.secret-ref-hash" ∈ lakecatCredentialResponseEvidenceKeys := by
    decide
  exact secretRefEvidence_related (fun _ _ first => first.key) entriesIssued_same
    (fun _ _ _ => ⟨rfl, .inr (.inr own)⟩) profiles (ttlCap_issued issued ttl)

/-- What the service adds is returned, and what the issuer states in its place is dropped. -/
theorem canonicalized_returned {one other : StorageProfile}
    (profiles : ProfilesAlike secret one other) {receipt twinReceipt : AuthorizationReceipt}
    (principal : PrincipalsAlike secret receipt.principal twinReceipt.principal)
    {credentials twins : List StorageCredential}
    (issued : List.Forall₂ (CredentialsRelated (EntriesIssued secret)) credentials twins)
    (governed : Bool) (ttl : Option Nat) :
    List.Forall₂ (CredentialsRelated (EntriesReturned secret))
      (canonicalizeCredentialResponseEvidence credentials one receipt governed ttl)
      (canonicalizeCredentialResponseEvidence twins other twinReceipt governed ttl) := by
  have kept {config twin : List ConfigEntry}
      (entries : List.Forall₂ (EntriesIssued secret) config twin) :
      List.Forall₂ (EntriesReturned secret)
        (config.filter fun entry => !decide (toAsciiLowercase entry.key = ttlKey) &&
          decide (toAsciiLowercase entry.key ∉ lakecatCredentialResponseEvidenceKeys))
        (twin.filter fun entry => !decide (toAsciiLowercase entry.key = ttlKey) &&
          decide (toAsciiLowercase entry.key ∉ lakecatCredentialResponseEvidenceKeys)) := by
    induction entries with
    | nil => exact .nil
    | @cons entry twin _ _ first _ ih =>
        rw [List.filter_cons, List.filter_cons, ← first.key]
        split
        next own =>
          refine .cons ⟨first.key, ?_⟩ ih
          rcases first.value with equal | outside | evidence
          · exact .inl (.inl equal)
          · exact .inr outside
          · rw [Bool.and_eq_true, decide_eq_true_eq] at own
            exact absurd evidence own.2
        next => exact ih
  refine secretRefEvidence_related (fun _ _ first => first.key) entriesReturned_same
    (fun _ _ held => ⟨rfl, .inl held.hash⟩) profiles ?_
  rw [List.forall₂_map_left_iff, List.forall₂_map_right_iff]
  refine issued.imp fun credential twin related => ⟨related.locationPrefix, ?_⟩
  have limits := ttls_same related.config (fun key => decide (toAsciiLowercase key = ttlKey))
    (fun key named => of_decide_eq_true named) ttl
  dsimp only
  rw [limits, profiles.profileId, profiles.provider, profiles.issuanceMode]
  refine List.rel_append (List.rel_append (kept related.config) ?_)
    (List.forall₂_same.mpr fun _ _ => entriesReturned_same _)
  exact .cons (entriesReturned_same _) (.cons (entriesReturned_same _)
    (.cons (entriesReturned_same _) (.cons ⟨rfl, .inl principal.subject⟩
      (.cons (entriesReturned_same _) .nil))))

/-! What is recorded of credentials that are returned. -/

theorem singleConfigValue_shown {config twin : List ConfigEntry} {key : String}
    (own : isLakecatKey key = true) (entries : List.Forall₂ (EntriesReturned secret) config twin) :
    Shown secret (ofOptionStr (singleConfigValue config key))
      (ofOptionStr (singleConfigValue twin key)) := by
  have kept := filtered_related entries (fun _ _ first => first.key) fun name => decide (name = key)
  have named (entry : ConfigEntry) (member : entry ∈ config.filter fun entry => entry.key = key) :
      entry.key = key :=
    of_decide_eq_true (List.mem_filter.mp member).2
  rw [singleConfigValue, singleConfigValue]
  generalize (config.filter fun entry => entry.key = key) = found at kept named
  generalize (twin.filter fun entry => entry.key = key) = twinFound at kept
  cases kept with
  | nil => exact .same _
  | @cons entry other _ _ first rest =>
      cases rest with
      | nil =>
          refine Covered.shown ?_
          rcases first.value with covered | ⟨outside, -⟩
          · exact covered
          · rw [named entry List.mem_cons_self, own] at outside
            cases outside
      | cons _ _ => exact .same _

/-- The digest of the issuer's own entries takes in their values. -/
theorem issuerEntries_digested {config twin : List ConfigEntry}
    (entries : List.Forall₂ (EntriesReturned secret) config twin) :
    Digested secret (.arr (config.map ConfigEntry.toJson)) (.arr (twin.map ConfigEntry.toJson)) := by
  refine .arr ?_
  rw [List.forall₂_map_left_iff, List.forall₂_map_right_iff]
  refine entries.imp fun entry other first => ?_
  rw [ConfigEntry.toJson, ConfigEntry.toJson, first.key]
  refine .object (.cons ⟨rfl, .same _⟩ (.cons ⟨rfl, ?_⟩ .nil))
  rcases first.value with covered | ⟨-, held⟩
  · exact covered.shown.digested
  · exact .str (.secret held)

theorem credentialEvidence_shown {one other : StorageProfile}
    (profiles : ProfilesAlike secret one other) {receipt twinReceipt : AuthorizationReceipt}
    (principal : PrincipalsAlike secret receipt.principal twinReceipt.principal)
    {credential twin : StorageCredential}
    (related : CredentialsRelated (EntriesReturned secret) credential twin) :
    Shown secret (credentialEvidence one receipt credential)
      (credentialEvidence other twinReceipt twin) := by
  have outside := filtered_related related.config (fun _ _ first => first.key)
    fun key => !startsWith (toAsciiLowercase key) "lakecat."
  have single (key : String) (own : isLakecatKey key = true) :
      Shown secret (ofOptionStr (singleConfigValue credential.config key))
        (ofOptionStr (singleConfigValue twin.config key)) :=
    singleConfigValue_shown own related.config
  rw [credentialEvidence, credentialEvidence]
  dsimp only
  rw [related.locationPrefix, profiles.profileId, outside.length_eq]
  refine .object ?_
  exact .cons ⟨rfl, .same _⟩ (.cons (single _ (by decide)).fieldAlike
    (.cons (single _ (by decide)).fieldAlike (.cons (single _ (by decide)).fieldAlike
      (.cons (single _ (by decide)).fieldAlike (.cons (single _ (by decide)).fieldAlike
        (.cons (single _ (by decide)).fieldAlike (.cons (single _ (by decide)).fieldAlike
          (.cons (single _ (by decide)).fieldAlike (.cons ⟨rfl, .same _⟩
            (.cons (issuerEntries_digested outside).hash.shown.fieldAlike (.cons ⟨rfl, .same _⟩
              (.cons principal.subject.shown.fieldAlike .nil))))))))))))

/-- The fields of a profile's evidence that its secret reference makes. -/
theorem secretRefFields_shown {one other : StorageProfile}
    (profiles : ProfilesAlike secret one other) :
    List.Forall₂ (FieldAlike (DigestPair secret))
      (Json.presentField "secret-ref-provider" .str (one.secretRef.bind secretRefProviderLabel) ++
        Json.presentField "secret-ref-hash" (fun secretRef => .str (contentHashBytes secretRef))
          one.secretRef)
      (Json.presentField "secret-ref-provider" .str (other.secretRef.bind secretRefProviderLabel) ++
        Json.presentField "secret-ref-hash" (fun secretRef => .str (contentHashBytes secretRef))
          other.secretRef) := by
  have refs := profiles.secretRef
  generalize one.secretRef = secretRef at refs
  generalize other.secretRef = twinRef at refs
  cases refs with
  | none => exact .nil
  | @some secretRef twinRef held =>
      rw [Option.bind_some, Option.bind_some, held.2]
      refine List.rel_append (Json.Alike.fields_same _) (.cons ?_ .nil)
      exact held.1.hash.shown.fieldAlike

omit [External] in
theorem secretRef_present {one other : StorageProfile} (profiles : ProfilesAlike secret one other) :
    one.secretRef.isSome = other.secretRef.isSome := by
  have refs := profiles.secretRef
  generalize one.secretRef = secretRef at refs
  generalize other.secretRef = twinRef at refs
  cases refs <;> rfl

theorem storageProfileEvidence_shown {one other : StorageProfile}
    (profiles : ProfilesAlike secret one other) :
    Shown secret (storageProfileEvidence one) (storageProfileEvidence other) := by
  rw [storageProfileEvidence, storageProfileEvidence, profiles.profileId, profiles.warehouse,
    profiles.provider, profiles.issuanceMode, profiles.locationPrefix, secretRef_present profiles,
    List.append_assoc, List.append_assoc]
  exact .object (List.rel_append (Json.Alike.fields_same _) (secretRefFields_shown profiles))

theorem credentialsVendAuditPayload_shown (ident : TableIdent) (table : TableRecord)
    {one other : StorageProfile} (profiles : ProfilesAlike secret one other)
    {receipt twinReceipt : AuthorizationReceipt}
    (receipts : ReceiptsAlike secret receipt twinReceipt)
    {credentials twins : List StorageCredential}
    (returned : List.Forall₂ (CredentialsRelated (EntriesReturned secret)) credentials twins) :
    Shown secret (credentialsVendAuditPayload ident table one credentials receipt)
      (credentialsVendAuditPayload ident table other twins twinReceipt) := by
  have evidence : Shown secret (credentialResponseEvidence credentials one receipt)
      (credentialResponseEvidence twins other twinReceipt) := by
    refine .arr ?_
    rw [List.forall₂_map_left_iff, List.forall₂_map_right_iff]
    exact returned.imp fun _ _ related =>
      credentialEvidence_shown profiles receipts.principal related
  rw [credentialsVendAuditPayload, credentialsVendAuditPayload,
    receipts.context.again "read-restriction" (by decide),
    receipts.context.again "lakecat:raw-credential-exception" (by decide), profiles.profileId,
    profiles.issuanceMode, secretRef_present profiles, returned.length_eq, List.append_assoc,
    List.append_assoc]
  refine .object (List.rel_append ?_ (Json.Alike.fields_same _))
  exact .cons ⟨rfl, .same _⟩ (.cons ⟨rfl, .same _⟩ (.cons receipts.shown.fieldAlike
    (.cons ⟨rfl, .same _⟩ (.cons ⟨rfl, .same _⟩
      (.cons (storageProfileEvidence_shown profiles).fieldAlike (.cons ⟨rfl, .same _⟩
        (.cons ⟨rfl, .same _⟩ (.cons evidence.fieldAlike (.cons ⟨rfl, .same _⟩ .nil)))))))))

/-- Capabilities of receipts that are alike. -/
structure CapabilitiesAlike (secret : String → String → Prop)
    (one other : CredentialsVendCapability) : Prop where
  receipt : ReceiptsAlike secret one.receipt other.receipt
  table : one.table = other.table
  restriction : one.restriction = other.restriction

theorem blockReason_same {one other : CredentialsVendCapability}
    (alike : CapabilitiesAlike secret one other) :
    credentialBlockReason one = credentialBlockReason other := by
  rw [credentialBlockReason, credentialBlockReason, alike.restriction,
    alike.receipt.context.again "lakecat:raw-credential-exception" (by decide)]

theorem vendAuditEvent_alike {one other : CredentialsVendCapability}
    (alike : CapabilitiesAlike secret one other) (table : TableRecord)
    {profile twinProfile : StorageProfile} (profiles : ProfilesAlike secret profile twinProfile)
    {credentials twins : List StorageCredential}
    (returned : List.Forall₂ (CredentialsRelated (EntriesReturned secret)) credentials twins)
    (now : Timestamp) :
    AuditsAlike secret (vendAuditEvent one table profile credentials now)
      (vendAuditEvent other table twinProfile twins now) := by
  have payload := credentialsVendAuditPayload_shown one.table table profiles alike.receipt returned
  rw [vendAuditEvent, vendAuditEvent, blockReason_same alike, ← alike.table]
  refine auditsAlike_new _ _ now alike.receipt.principal ?_
  cases credentialBlockReason other with
  | none => exact payload
  | some reason => exact payload.set _ (.same _)

end

end LakeCat
