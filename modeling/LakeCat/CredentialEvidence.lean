import LakeCat.CredentialScope
import LakeCat.NamespacePages

/-!
The entries that the catalog owns in a vended credential. Three passes edit the
entries of an issuer one after another; what they leave is the other entries of
the issuer and one entry for each key that the catalog has a value for.
-/

namespace LakeCat

open Fallible

/-! The smallest of a list of numbers. -/

theorem foldl_least (values : List Nat) : ∀ start : Option Nat,
    values.foldl (fun effective existing =>
        some ((effective.map (min · existing)).getD existing)) start =
      (start.toList ++ values).min? := by
  induction values with
  | nil =>
      intro start
      cases start <;> rfl
  | cons value values ih =>
      intro start
      rw [List.foldl_cons, ih]
      cases start <;> rfl

/-- Numbers may be replaced by the smallest of them and a number that stays. -/
theorem min?_absorbed {cap least : Nat} {kept removed all : List Nat}
    (smallest : (cap :: removed).min? = some least)
    (members : ∀ value, value ∈ all ↔ value ∈ kept ∨ value ∈ removed) :
    (cap :: (kept ++ [least])).min? = (cap :: all).min? := by
  rw [List.min?_eq_some_iff] at smallest
  obtain ⟨among, below⟩ := smallest
  obtain ⟨total, totalEq⟩ := Option.isSome_iff_exists.mp
    (List.isSome_min?_of_ne_nil (List.cons_ne_nil cap all))
  rw [totalEq, List.min?_eq_some_iff]
  rw [List.min?_eq_some_iff] at totalEq
  obtain ⟨inAll, lowest⟩ := totalEq
  have leastIn : least ∈ cap :: all := by
    rcases List.mem_cons.mp among with rfl | given
    · exact List.mem_cons_self
    · exact List.mem_cons_of_mem _ ((members least).mpr (.inr given))
  constructor
  · rcases List.mem_cons.mp inAll with rfl | given
    · exact List.mem_cons_self
    · rcases (members total).mp given with stays | removed
      · simp [stays]
      · have same : total = least :=
          Nat.le_antisymm (lowest least leastIn) (below total (List.mem_cons_of_mem _ removed))
        simp [same]
  · intro value member
    rcases List.mem_cons.mp member with rfl | member
    · exact lowest value List.mem_cons_self
    · rcases List.mem_append.mp member with stays | last
      · exact lowest value (List.mem_cons_of_mem _ ((members value).mpr (.inl stays)))
      · rw [List.mem_singleton.mp last]
        exact lowest least leastIn

/-! Entries by their keys. -/

def hasKey (key : String) (entry : ConfigEntry) : Bool :=
  decide (toAsciiLowercase entry.key = key)

def evidenceKeys : List String :=
  ["lakecat.storage-profile-id", "lakecat.storage-provider", "lakecat.credential-mode",
    "lakecat.authorization-principal", "lakecat.governed-read-required",
    "lakecat.max-credential-ttl-seconds", "lakecat.secret-ref-provider",
    "lakecat.secret-ref-hash"]

theorem mem_evidenceKeys (key : String) :
    key ∈ evidenceKeys ↔ key = ttlKey ∨ key ∈ lakecatCredentialResponseEvidenceKeys := by
  simp only [evidenceKeys, lakecatCredentialResponseEvidenceKeys, ttlKey, List.mem_cons,
    List.not_mem_nil, or_false]
  tauto

theorem evidenceKeys_nodup : evidenceKeys.Nodup := by decide

theorem evidenceKeys_lowercase : ∀ key ∈ evidenceKeys, toAsciiLowercase key = key := by decide

/-- The entries of an issuer under keys of its own. -/
def issuerEntries (config : List ConfigEntry) : List ConfigEntry :=
  config.filter fun entry => decide (toAsciiLowercase entry.key ∉ evidenceKeys)

def issuerTtls (config : List ConfigEntry) : List Nat :=
  (config.filter (hasKey ttlKey)).filterMap fun entry => parseU64 entry.value

def effectiveTtl (cap : Option Nat) (config : List ConfigEntry) : Option Nat :=
  (cap.toList ++ issuerTtls config).min?

/-- The entries for the keys that have a value. -/
def entriesFor (value : String → Option String) (keys : List String) : List ConfigEntry :=
  keys.filterMap fun key => (value key).map fun text => ⟨key, text⟩

theorem entriesFor_absent {value : String → Option String} {keys : List String} {key : String}
    (lowercase : ∀ key ∈ keys, toAsciiLowercase key = key) (absent : key ∉ keys) :
    (entriesFor value keys).filter (hasKey key) = [] := by
  rw [List.filter_eq_nil_iff]
  intro entry member
  obtain ⟨owner, listed, stated⟩ := List.mem_filterMap.mp member
  obtain ⟨text, _, rfl⟩ := Option.map_eq_some_iff.mp stated
  have own := lowercase owner listed
  simp only [hasKey, decide_eq_true_eq, own]
  rintro rfl
  exact absent listed

theorem entriesFor_present {value : String → Option String} {keys : List String} {key : String}
    (lowercase : ∀ key ∈ keys, toAsciiLowercase key = key) (distinct : keys.Nodup)
    (listed : key ∈ keys) :
    (entriesFor value keys).filter (hasKey key) =
      (value key).toList.map fun text => ⟨key, text⟩ := by
  induction keys with
  | nil => cases listed
  | cons first rest ih =>
      obtain ⟨fresh, distinct⟩ := List.nodup_cons.mp distinct
      have later : ∀ key ∈ rest, toAsciiLowercase key = key := fun key member =>
        lowercase key (List.mem_cons_of_mem _ member)
      have own := lowercase first List.mem_cons_self
      have parts : entriesFor value (first :: rest) =
          ((value first).toList.map fun text => ⟨first, text⟩) ++ entriesFor value rest := by
        cases stated : value first <;> simp [entriesFor, stated]
      rw [parts, List.filter_append]
      by_cases same : key = first
      · subst same
        rw [entriesFor_absent later fresh, List.append_nil, List.filter_eq_self]
        intro entry member
        obtain ⟨text, _, rfl⟩ := List.mem_map.mp member
        simp [hasKey, own]
      · have member := (List.mem_cons.mp listed).resolve_left same
        rw [ih later distinct member]
        have skipped : ((value first).toList.map fun text => (⟨first, text⟩ : ConfigEntry)).filter
            (hasKey key) = [] := by
          rw [List.filter_eq_nil_iff]
          intro entry member
          obtain ⟨text, _, rfl⟩ := List.mem_map.mp member
          simpa [hasKey, own] using Ne.symm same
        rw [skipped, List.nil_append]

theorem entriesFor_owned (value : String → Option String) :
    issuerEntries (entriesFor value evidenceKeys) = [] := by
  rw [issuerEntries, List.filter_eq_nil_iff]
  intro entry member
  obtain ⟨owner, listed, stated⟩ := List.mem_filterMap.mp member
  obtain ⟨text, _, rfl⟩ := Option.map_eq_some_iff.mp stated
  simp [evidenceKeys_lowercase owner listed, listed]

theorem issuerEntries_free {config : List ConfigEntry} {key : String}
    (listed : key ∈ evidenceKeys) : (issuerEntries config).filter (hasKey key) = [] := by
  rw [List.filter_eq_nil_iff]
  intro entry member named
  have free := of_decide_eq_true (List.mem_filter.mp member).2
  rw [of_decide_eq_true named] at free
  exact free listed

/-- The smallest number of the cap and of itself is the smallest number. -/
theorem effectiveTtl_again (cap : Option Nat) (config : List ConfigEntry) :
    (cap.toList ++ (effectiveTtl cap config).toList).min? = effectiveTtl cap config := by
  cases least : effectiveTtl cap config with
  | none =>
      have nothing := List.min?_eq_none_iff.mp least
      rw [(List.append_eq_nil_iff.mp nothing).1]
      rfl
  | some ttl =>
      have lowest := (List.min?_eq_some_iff.mp least).2
      rw [List.min?_eq_some_iff]
      constructor
      · simp
      · intro value member
        rcases List.mem_append.mp member with given | same
        · exact lowest value (List.mem_append_left _ given)
        · simp only [Option.toList_some, List.mem_singleton] at same
          omega

/-! What one pass does to the entries of one credential. -/

def cappedEntries (cap : Option Nat) (config : List ConfigEntry) : List ConfigEntry :=
  match cap with
  | none => config
  | some seconds =>
      let isTtl := fun entry : ConfigEntry => decide (entry.key = ttlKey)
      config.filter (fun entry => !isTtl entry) ++
        [⟨ttlKey, toString ((statedTtl isTtl (some seconds) config).getD seconds)⟩]

theorem ttlCap_entries (credentials : List StorageCredential) (cap : Option Nat) :
    applyCredentialTtlCap credentials cap = credentials.map fun credential =>
      { credential with config := cappedEntries cap credential.config } := by
  cases cap with
  | none => exact (List.map_id credentials).symm
  | some seconds => rfl

theorem statedTtl_least (isTtl : ConfigEntry → Bool) (ttl : Option Nat)
    (config : List ConfigEntry) :
    statedTtl isTtl ttl config =
      (ttl.toList ++ (config.filter isTtl).filterMap fun entry => parseU64 entry.value).min? :=
  foldl_least _ ttl

theorem parseU64_fits {text : String} {value : Nat} (parsed : parseU64 text = some value) :
    value < 2 ^ 64 := by
  obtain ⟨_, small⟩ := Option.filter_eq_some_iff.mp parsed
  simpa using small

theorem effectiveTtl_fits {cap : Option Nat} {config : List ConfigEntry} {ttl : Nat}
    (fits : ∀ seconds ∈ cap, seconds < 2 ^ 64) (least : effectiveTtl cap config = some ttl) :
    ttl < 2 ^ 64 := by
  have member := List.min?_mem least
  rcases List.mem_append.mp member with given | stated
  · exact fits ttl (Option.mem_toList.mp given)
  · obtain ⟨entry, _, parsed⟩ := List.mem_filterMap.mp stated
    exact parseU64_fits parsed

theorem ttlKey_lowercase : toAsciiLowercase ttlKey = ttlKey := by decide

theorem issuerTtls_append (front last : List ConfigEntry) :
    issuerTtls (front ++ last) = issuerTtls front ++ issuerTtls last := by
  simp only [issuerTtls, List.filter_append, List.filterMap_append]

theorem issuerTtls_stated {value : Nat} (fits : value < 2 ^ 64) :
    issuerTtls [⟨ttlKey, toString value⟩] = [value] := by
  have named : hasKey ttlKey ⟨ttlKey, toString value⟩ = true :=
    decide_eq_true ttlKey_lowercase
  simp only [issuerTtls, List.filter_cons, named, if_true, List.filter_nil,
    List.filterMap_cons, parseU64_toString fits, List.filterMap_nil]

theorem issuerEntries_capped (cap : Option Nat) (config : List ConfigEntry) :
    issuerEntries (cappedEntries cap config) = issuerEntries config := by
  cases cap with
  | none => rfl
  | some seconds =>
      have owned : ttlKey ∈ evidenceKeys := by decide
      simp only [cappedEntries, issuerEntries, List.filter_append, List.filter_filter,
        List.filter_cons, ttlKey_lowercase, owned, not_true_eq_false, decide_false,
        Bool.false_eq_true, if_false, List.filter_nil, List.append_nil]
      apply List.filter_congr
      intro entry _
      by_cases exactly : entry.key = ttlKey
      · simp [exactly, ttlKey_lowercase, owned]
      · simp [exactly]

/-- A cap that was applied leaves the smallest number as it is. -/
theorem effectiveTtl_capped {cap : Option Nat} (config : List ConfigEntry)
    (fits : ∀ seconds ∈ cap, seconds < 2 ^ 64) :
    effectiveTtl cap (cappedEntries cap config) = effectiveTtl cap config := by
  cases cap with
  | none => rfl
  | some seconds =>
      let isTtl := fun entry : ConfigEntry => decide (entry.key = ttlKey)
      let removed := (config.filter isTtl).filterMap fun entry => parseU64 entry.value
      obtain ⟨least, smallest⟩ := Option.isSome_iff_exists.mp
        (List.isSome_min?_of_ne_nil (List.cons_ne_nil seconds removed))
      have stated : statedTtl isTtl (some seconds) config = some least := by
        rw [statedTtl_least]
        exact smallest
      have small : least < 2 ^ 64 := by
        rcases List.mem_cons.mp (List.min?_mem smallest) with rfl | given
        · exact fits _ rfl
        · obtain ⟨entry, _, parsed⟩ := List.mem_filterMap.mp given
          exact parseU64_fits parsed
      have entries : cappedEntries (some seconds) config =
          config.filter (fun entry => !isTtl entry) ++ [⟨ttlKey, toString least⟩] := by
        rw [cappedEntries, stated, Option.getD_some]
      have ttls : issuerTtls (cappedEntries (some seconds) config) =
          issuerTtls (config.filter fun entry => !isTtl entry) ++ [least] := by
        rw [entries, issuerTtls_append, issuerTtls_stated small]
      rw [effectiveTtl, ttls, effectiveTtl]
      change (seconds :: (_ ++ [least])).min? = (seconds :: issuerTtls config).min?
      apply min?_absorbed smallest
      intro value
      simp only [issuerTtls, removed, isTtl, List.mem_filterMap, List.mem_filter, hasKey,
        decide_eq_true_eq, Bool.not_eq_true', decide_eq_false_iff_not]
      constructor
      · rintro ⟨entry, ⟨member, named⟩, parsed⟩
        by_cases exactly : entry.key = ttlKey
        · exact .inr ⟨entry, ⟨member, exactly⟩, parsed⟩
        · exact .inl ⟨entry, ⟨⟨member, exactly⟩, named⟩, parsed⟩
      · rintro (⟨entry, ⟨⟨member, _⟩, named⟩, parsed⟩ | ⟨entry, ⟨member, exactly⟩, parsed⟩)
        · exact ⟨entry, ⟨member, named⟩, parsed⟩
        · exact ⟨entry, ⟨member, by rw [exactly, ttlKey_lowercase]⟩, parsed⟩

section Response

variable [External]

def secretRefEntries (profile : StorageProfile) : List ConfigEntry :=
  match profile.secretRef with
  | none => []
  | some secretRef =>
      match secretRefProviderLabel secretRef with
      | none => []
      | some provider => [⟨"lakecat.secret-ref-provider", provider⟩,
          ⟨"lakecat.secret-ref-hash", contentHashBytes secretRef⟩]

def labelledEntries (profile : StorageProfile) (config : List ConfigEntry) : List ConfigEntry :=
  if secretRefEntries profile = [] then config
  else config.filter (fun entry => toAsciiLowercase entry.key ∉
      ["lakecat.secret-ref-provider", "lakecat.secret-ref-hash"]) ++ secretRefEntries profile

theorem secretRef_entries (credentials : List StorageCredential) (profile : StorageProfile) :
    applySecretRefProviderEvidence credentials profile = credentials.map fun credential =>
      { credential with config := labelledEntries profile credential.config } := by
  unfold applySecretRefProviderEvidence labelledEntries secretRefEntries
  cases profile.secretRef with
  | none => exact (List.map_id credentials).symm
  | some secretRef =>
      cases labelled : secretRefProviderLabel secretRef with
      | none => simp [labelled]
      | some provider => simp [labelled]

theorem secretRefEntries_keys (profile : StorageProfile) :
    ∀ entry ∈ secretRefEntries profile, toAsciiLowercase entry.key ∈
      ["lakecat.secret-ref-provider", "lakecat.secret-ref-hash"] := by
  intro entry member
  unfold secretRefEntries at member
  split at member
  · cases member
  · split at member
    · cases member
    · have lowercase : ∀ key ∈ ["lakecat.secret-ref-provider", "lakecat.secret-ref-hash"],
          toAsciiLowercase key = key := by decide
      rcases List.mem_cons.mp member with rfl | member
      · simp [lowercase]
      · simp [List.mem_singleton.mp member, lowercase]

/-- Entries under other keys than the two of the reference are not touched. -/
theorem labelled_filter (profile : StorageProfile) (config : List ConfigEntry)
    (kept : ConfigEntry → Bool)
    (others : ∀ entry, toAsciiLowercase entry.key ∈
      ["lakecat.secret-ref-provider", "lakecat.secret-ref-hash"] → kept entry = false) :
    (labelledEntries profile config).filter kept = config.filter kept := by
  unfold labelledEntries
  split
  · rfl
  · have none : (secretRefEntries profile).filter kept = [] := by
      rw [List.filter_eq_nil_iff]
      intro entry member
      rw [others entry (secretRefEntries_keys profile entry member)]
      exact Bool.false_ne_true
    rw [List.filter_append, none, List.append_nil, List.filter_filter]
    apply List.filter_congr
    intro entry _
    by_cases named : toAsciiLowercase entry.key ∈
        ["lakecat.secret-ref-provider", "lakecat.secret-ref-hash"]
    · rw [others entry named, Bool.false_and]
    · simp only [named, not_false_eq_true, decide_true, Bool.and_true]

theorem issuerEntries_labelled (profile : StorageProfile) (config : List ConfigEntry) :
    issuerEntries (labelledEntries profile config) = issuerEntries config := by
  apply labelled_filter
  intro entry named
  have owned : toAsciiLowercase entry.key ∈ evidenceKeys := by
    simp only [List.mem_cons, List.not_mem_nil, or_false] at named
    rcases named with key | key <;> rw [key] <;> decide
  simp [owned]

theorem issuerTtls_labelled (profile : StorageProfile) (config : List ConfigEntry) :
    issuerTtls (labelledEntries profile config) = issuerTtls config := by
  rw [issuerTtls, labelled_filter, issuerTtls]
  intro entry named
  simp only [List.mem_cons, List.not_mem_nil, or_false] at named
  rw [hasKey, decide_eq_false_iff_not]
  rcases named with key | key <;> rw [key] <;> decide

def canonicalEntries (profile : StorageProfile) (receipt : AuthorizationReceipt)
    (governedReadRequired : Bool) (cap : Option Nat) (config : List ConfigEntry) :
    List ConfigEntry :=
  issuerEntries config ++
    [⟨"lakecat.storage-profile-id", profile.profileId⟩,
      ⟨"lakecat.storage-provider", profile.provider.asStr⟩,
      ⟨"lakecat.credential-mode", profile.issuanceMode.asStr⟩,
      ⟨"lakecat.authorization-principal", receipt.principal.subject⟩,
      ⟨"lakecat.governed-read-required", if governedReadRequired then "true" else "false"⟩] ++
    ((effectiveTtl cap config).map fun seconds => ⟨ttlKey, toString seconds⟩).toList

theorem canonicalized_entries (credentials : List StorageCredential) (profile : StorageProfile)
    (receipt : AuthorizationReceipt) (governedReadRequired : Bool) (cap : Option Nat) :
    canonicalizeCredentialResponseEvidence credentials profile receipt governedReadRequired cap =
      applySecretRefProviderEvidence (credentials.map fun credential =>
        { credential with
          config := canonicalEntries profile receipt governedReadRequired cap
            credential.config }) profile := by
  rw [canonicalizeCredentialResponseEvidence]
  congr 1
  apply List.map_congr_left
  intro credential _
  have others : credential.config.filter (fun entry =>
        !decide (toAsciiLowercase entry.key = ttlKey) &&
          decide (toAsciiLowercase entry.key ∉ lakecatCredentialResponseEvidenceKeys)) =
      issuerEntries credential.config := by
    apply List.filter_congr
    intro entry _
    simp only [mem_evidenceKeys, not_or, Bool.decide_and, decide_not]
  simp only [others, canonicalEntries, effectiveTtl, issuerTtls, statedTtl_least]
  rfl

/-- What the catalog states under each of its keys, if it states something. -/
def catalogValue (profile : StorageProfile) (receipt : AuthorizationReceipt)
    (governedReadRequired : Bool) (ttl : Option Nat) : String → Option String
  | "lakecat.storage-profile-id" => some profile.profileId
  | "lakecat.storage-provider" => some profile.provider.asStr
  | "lakecat.credential-mode" => some profile.issuanceMode.asStr
  | "lakecat.authorization-principal" => some receipt.principal.subject
  | "lakecat.governed-read-required" => some (if governedReadRequired then "true" else "false")
  | "lakecat.max-credential-ttl-seconds" => ttl.map toString
  | "lakecat.secret-ref-provider" => profile.secretRef.bind secretRefProviderLabel
  | "lakecat.secret-ref-hash" => (profile.secretRef.filter fun secretRef =>
      (secretRefProviderLabel secretRef).isSome).map contentHashBytes
  | _ => none

/-- All that the passes leave: what the issuer has of its own, then what the catalog states. -/
def exactEntries (profile : StorageProfile) (receipt : AuthorizationReceipt)
    (governedReadRequired : Bool) (cap : Option Nat) (config : List ConfigEntry) :
    List ConfigEntry :=
  issuerEntries config ++ entriesFor
    (catalogValue profile receipt governedReadRequired (effectiveTtl cap config)) evidenceKeys

theorem labelled_append {profile : StorageProfile} {config : List ConfigEntry}
    (unlabelled : ∀ entry ∈ config, toAsciiLowercase entry.key ∉
      ["lakecat.secret-ref-provider", "lakecat.secret-ref-hash"]) :
    labelledEntries profile config = config ++ secretRefEntries profile := by
  unfold labelledEntries
  split
  next empty => rw [empty, List.append_nil]
  next =>
    congr 1
    rw [List.filter_eq_self]
    intro entry member
    exact decide_eq_true (unlabelled entry member)

omit [External] in
theorem canonical_unlabelled (profile : StorageProfile) (receipt : AuthorizationReceipt)
    (governedReadRequired : Bool) (cap : Option Nat) (config : List ConfigEntry) :
    ∀ entry ∈ canonicalEntries profile receipt governedReadRequired cap config,
      toAsciiLowercase entry.key ∉
        ["lakecat.secret-ref-provider", "lakecat.secret-ref-hash"] := by
  intro entry member named
  rw [canonicalEntries, List.mem_append, List.mem_append] at member
  rcases member with (own | stated) | ttl
  · have free := of_decide_eq_true (List.mem_filter.mp own).2
    apply free
    simp only [List.mem_cons, List.not_mem_nil, or_false] at named
    rcases named with key | key <;> rw [key] <;> decide
  · have foreign : ∀ key ∈ ["lakecat.storage-profile-id", "lakecat.storage-provider",
        "lakecat.credential-mode", "lakecat.authorization-principal",
        "lakecat.governed-read-required"], toAsciiLowercase key ∉
        ["lakecat.secret-ref-provider", "lakecat.secret-ref-hash"] := by decide
    apply foreign entry.key _ named
    have keyMember := List.mem_map_of_mem (f := ConfigEntry.key) stated
    exact keyMember
  · obtain ⟨seconds, _, rfl⟩ := Option.map_eq_some_iff.mp (Option.mem_toList.mp ttl)
    have foreign : toAsciiLowercase ttlKey ∉
        ["lakecat.secret-ref-provider", "lakecat.secret-ref-hash"] := by decide
    exact foreign named

theorem labelled_canonical (profile : StorageProfile) (receipt : AuthorizationReceipt)
    (governedReadRequired : Bool) (cap : Option Nat) (config : List ConfigEntry) :
    labelledEntries profile (canonicalEntries profile receipt governedReadRequired cap config) =
      exactEntries profile receipt governedReadRequired cap config := by
  rw [labelled_append (canonical_unlabelled profile receipt governedReadRequired cap config),
    canonicalEntries, exactEntries, List.append_assoc, List.append_assoc]
  congr 1
  unfold secretRefEntries
  cases effectiveTtl cap config with
  | none =>
      cases given : profile.secretRef with
      | none => simp [entriesFor, evidenceKeys, catalogValue, given]
      | some secretRef =>
          cases labelled : secretRefProviderLabel secretRef <;>
            simp [entriesFor, evidenceKeys, catalogValue, given, labelled]
  | some ttl =>
      cases given : profile.secretRef with
      | none => simp [entriesFor, evidenceKeys, catalogValue, given, ttlKey]
      | some secretRef =>
          cases labelled : secretRefProviderLabel secretRef <;>
            simp [entriesFor, evidenceKeys, catalogValue, given, labelled, ttlKey]

/-- The passes of `issued_credentials_for_profile` change nothing of what is left in the end. -/
theorem exactEntries_issued (profile : StorageProfile) (receipt : AuthorizationReceipt)
    (governedReadRequired : Bool) {cap : Option Nat} (config : List ConfigEntry)
    (fits : ∀ seconds ∈ cap, seconds < 2 ^ 64) :
    exactEntries profile receipt governedReadRequired cap
        (labelledEntries profile (cappedEntries cap config)) =
      exactEntries profile receipt governedReadRequired cap config := by
  have ttl : effectiveTtl cap (labelledEntries profile (cappedEntries cap config)) =
      effectiveTtl cap config := by
    rw [effectiveTtl, issuerTtls_labelled]
    exact effectiveTtl_capped config fits
  rw [exactEntries, issuerEntries_labelled, issuerEntries_capped, ttl, exactEntries]

theorem exactEntries_issuerEntries (profile : StorageProfile) (receipt : AuthorizationReceipt)
    (governedReadRequired : Bool) (cap : Option Nat) (config : List ConfigEntry) :
    issuerEntries (exactEntries profile receipt governedReadRequired cap config) =
      issuerEntries config := by
  have owned := entriesFor_owned
    (catalogValue profile receipt governedReadRequired (effectiveTtl cap config))
  rw [issuerEntries] at owned
  rw [exactEntries, issuerEntries, List.filter_append, owned, List.append_nil]
  exact List.filter_eq_self.mpr fun entry member => (List.mem_filter.mp member).2

theorem exactEntries_hasKey (profile : StorageProfile) (receipt : AuthorizationReceipt)
    (governedReadRequired : Bool) (cap : Option Nat) (config : List ConfigEntry) {key : String}
    (listed : key ∈ evidenceKeys) :
    (exactEntries profile receipt governedReadRequired cap config).filter (hasKey key) =
      (catalogValue profile receipt governedReadRequired
        (effectiveTtl cap config) key).toList.map fun text => ⟨key, text⟩ := by
  rw [exactEntries, List.filter_append, issuerEntries_free listed, List.nil_append]
  exact entriesFor_present evidenceKeys_lowercase evidenceKeys_nodup listed

theorem exactEntries_ttls (profile : StorageProfile) (receipt : AuthorizationReceipt)
    (governedReadRequired : Bool) {cap : Option Nat} (config : List ConfigEntry)
    (fits : ∀ seconds ∈ cap, seconds < 2 ^ 64) :
    issuerTtls (exactEntries profile receipt governedReadRequired cap config) =
      (effectiveTtl cap config).toList := by
  have listed : ttlKey ∈ evidenceKeys := by decide
  rw [issuerTtls, exactEntries_hasKey _ _ _ _ _ listed]
  cases least : effectiveTtl cap config with
  | none => rfl
  | some ttl =>
      have parsed := parseU64_toString (effectiveTtl_fits fits least)
      change [toString ttl].filterMap parseU64 = [ttl]
      rw [List.filterMap_cons_some parsed, List.filterMap_nil]

theorem exactEntries_again (profile : StorageProfile) (receipt : AuthorizationReceipt)
    (governedReadRequired : Bool) {cap : Option Nat} (config : List ConfigEntry)
    (fits : ∀ seconds ∈ cap, seconds < 2 ^ 64) :
    exactEntries profile receipt governedReadRequired cap
        (exactEntries profile receipt governedReadRequired cap config) =
      exactEntries profile receipt governedReadRequired cap config := by
  have ttl : effectiveTtl cap (exactEntries profile receipt governedReadRequired cap config) =
      effectiveTtl cap config := by
    rw [effectiveTtl, exactEntries_ttls profile receipt governedReadRequired config fits]
    exact effectiveTtl_again cap config
  rw [exactEntries, exactEntries_issuerEntries, ttl, ← exactEntries]

variable [LocationUrls]

/-- What a request gets for the credentials that an issuer returned. -/
def credentialResponse (credentials : List StorageCredential) (profile : StorageProfile)
    (receipt : AuthorizationReceipt) (governedReadRequired : Bool) (cap : Option Nat) :
    LakeCatResult (List StorageCredential) := do
  let issued ← issuedCredentialsForProfile credentials profile cap
  return canonicalizeCredentialResponseEvidence issued profile receipt governedReadRequired cap

theorem issueUnlessBlocked_response [SecretSources] (issuer : CredentialIssuer)
    (capability : CredentialsVendCapability) (table : TableRecord) (profile : StorageProfile) :
    issueUnlessBlocked issuer capability table profile =
      if (credentialBlockReason capability).isSome then .ok []
      else (do
        let issued ← issuer.issue ⟨table, profile, capability.receipt,
          capability.restriction.maxCredentialTtlSeconds⟩
        credentialResponse issued profile capability.receipt
          capability.restriction.requiresGovernedRead
          capability.restriction.maxCredentialTtlSeconds) :=
  rfl

theorem credentialResponse_within {credentials : List StorageCredential}
    {profile : StorageProfile} (receipt : AuthorizationReceipt) (governedReadRequired : Bool)
    {cap : Option Nat} (fits : ∀ seconds ∈ cap, seconds < 2 ^ 64)
    (within : ∀ credential ∈ credentials,
      locationIsWithinPrefix credential.locationPrefix profile.locationPrefix = true) :
    credentialResponse credentials profile receipt governedReadRequired cap =
      .ok (credentials.map fun credential => { credential with
        config := exactEntries profile receipt governedReadRequired cap
          credential.config }) := by
  have passed : checkEach (fun credential : StorageCredential =>
      rejectIf (¬locationIsWithinPrefix credential.locationPrefix profile.locationPrefix)
        (outsideStorageProfileScope credential profile)) credentials = .ok () := by
    rw [checkEach_ok]
    intro credential member
    exact rejectIf_neg _ (not_not.mpr (within credential member))
  rw [credentialResponse, issuedCredentialsForProfile, passed]
  simp only [ok_bind, pure_eq, Except.ok.injEq]
  rw [canonicalized_entries, secretRef_entries, secretRef_entries, ttlCap_entries,
    List.map_map, List.map_map, List.map_map]
  apply List.map_congr_left
  intro credential _
  simp only [Function.comp_apply, labelled_canonical, exactEntries_issued _ _ _ _ fits]

theorem credentialResponse_again {credentials : List StorageCredential}
    {profile : StorageProfile} (receipt : AuthorizationReceipt) (governedReadRequired : Bool)
    {cap : Option Nat} (fits : ∀ seconds ∈ cap, seconds < 2 ^ 64)
    (within : ∀ credential ∈ credentials,
      locationIsWithinPrefix credential.locationPrefix profile.locationPrefix = true) :
    let returned := credentials.map fun credential => { credential with
      config := exactEntries profile receipt governedReadRequired cap credential.config }
    credentialResponse returned profile receipt governedReadRequired cap = .ok returned := by
  intro returned
  have inside : ∀ credential ∈ returned,
      locationIsWithinPrefix credential.locationPrefix profile.locationPrefix = true := by
    intro credential member
    obtain ⟨issued, origin, rfl⟩ := List.mem_map.mp member
    exact within issued origin
  rw [credentialResponse_within receipt governedReadRequired fits inside, List.map_map]
  congr 1
  apply List.map_congr_left
  intro credential _
  simp only [Function.comp_apply, exactEntries_again _ _ _ _ fits]

theorem credentialResponse_outside {credentials : List StorageCredential}
    {profile : StorageProfile} (receipt : AuthorizationReceipt) (governedReadRequired : Bool)
    (cap : Option Nat)
    (outside : ∃ credential ∈ credentials,
      ¬locationIsWithinPrefix credential.locationPrefix profile.locationPrefix = true) :
    ∃ credential ∈ credentials,
      ¬locationIsWithinPrefix credential.locationPrefix profile.locationPrefix = true ∧
      credentialResponse credentials profile receipt governedReadRequired cap =
        .error (outsideStorageProfileScope credential profile) := by
  cases checked : checkEach (fun credential : StorageCredential =>
      rejectIf (¬locationIsWithinPrefix credential.locationPrefix profile.locationPrefix)
        (outsideStorageProfileScope credential profile)) credentials with
  | ok done =>
      obtain ⟨credential, member, beyond⟩ := outside
      have passed := (checkEach_ok _ _ _).mp checked credential member
      exact absurd beyond ((rejectIf_ok _ _ _).mp passed)
  | error failure =>
      obtain ⟨credential, member, refused⟩ := checkEach_error _ _ _ checked
      obtain ⟨beyond, rfl⟩ := (rejectIf_error _ _ _).mp refused
      refine ⟨credential, member, beyond, ?_⟩
      rw [credentialResponse, issuedCredentialsForProfile, checked]
      rfl

/-- What is returned for a credential of an issuer. -/
structure EvidenceExact (profile : StorageProfile) (receipt : AuthorizationReceipt)
    (governedReadRequired : Bool) (cap : Option Nat)
    (issued returned : StorageCredential) : Prop where
  samePrefix : returned.locationPrefix = issued.locationPrefix
  within : locationIsWithinPrefix returned.locationPrefix profile.locationPrefix = true
  catalogEntries : ∀ key ∈ ttlKey :: lakecatCredentialResponseEvidenceKeys,
    returned.config.filter (fun entry => toAsciiLowercase entry.key = key) =
      (catalogValue profile receipt governedReadRequired
        (effectiveTtl cap issued.config) key).toList.map fun text => ⟨key, text⟩
  otherEntries : issuerEntries returned.config = issuerEntries issued.config
  audited : ∀ key ∈ ttlKey :: lakecatCredentialResponseEvidenceKeys,
    singleConfigValue returned.config key =
      catalogValue profile receipt governedReadRequired (effectiveTtl cap issued.config) key

theorem exactEntries_exact {profile : StorageProfile} (receipt : AuthorizationReceipt)
    (governedReadRequired : Bool) (cap : Option Nat) (credential : StorageCredential)
    (within : locationIsWithinPrefix credential.locationPrefix profile.locationPrefix = true) :
    EvidenceExact profile receipt governedReadRequired cap credential { credential with
      config := exactEntries profile receipt governedReadRequired cap credential.config } where
  samePrefix := rfl
  within := within
  catalogEntries := by
    intro key listed
    exact exactEntries_hasKey profile receipt governedReadRequired cap credential.config
      ((mem_evidenceKeys key).mpr (List.mem_cons.mp listed))
  otherEntries :=
    exactEntries_issuerEntries profile receipt governedReadRequired cap credential.config
  audited := by
    intro key listed
    have owned : key ∈ evidenceKeys := (mem_evidenceKeys key).mpr (List.mem_cons.mp listed)
    have stated := exactEntries_hasKey profile receipt governedReadRequired cap
      credential.config owned
    have exactly : (exactEntries profile receipt governedReadRequired cap
          credential.config).filter (fun entry => entry.key = key) =
        ((exactEntries profile receipt governedReadRequired cap credential.config).filter
          (hasKey key)).filter fun entry => entry.key = key := by
      rw [List.filter_filter]
      apply List.filter_congr
      intro entry _
      by_cases same : entry.key = key
      · simp [same, hasKey, evidenceKeys_lowercase key owned]
      · simp [same]
    rw [singleConfigValue, exactly, stated]
    cases catalogValue profile receipt governedReadRequired
        (effectiveTtl cap credential.config) key <;> simp

theorem credentialResponse_exact (credentials : List StorageCredential)
    (profile : StorageProfile) (receipt : AuthorizationReceipt) (governedReadRequired : Bool)
    (cap : Option UInt64) :
    let respond := fun given =>
      credentialResponse given profile receipt governedReadRequired (cap.map UInt64.toNat)
    (∃ returned, respond credentials = .ok returned ∧
      List.Forall₂ (EvidenceExact profile receipt governedReadRequired (cap.map UInt64.toNat))
        credentials returned ∧
      respond returned = .ok returned) ∨
    ∃ credential ∈ credentials,
      ¬locationIsWithinPrefix credential.locationPrefix profile.locationPrefix = true ∧
      respond credentials = .error (outsideStorageProfileScope credential profile) := by
  intro respond
  have fits : ∀ seconds ∈ cap.map UInt64.toNat, seconds < 2 ^ 64 := by
    intro seconds given
    obtain ⟨stated, _, rfl⟩ := Option.map_eq_some_iff.mp given
    exact stated.toNat_lt
  by_cases within : ∀ credential ∈ credentials,
      locationIsWithinPrefix credential.locationPrefix profile.locationPrefix = true
  · left
    refine ⟨_, credentialResponse_within receipt governedReadRequired fits within, ?_, ?_⟩
    · rw [List.forall₂_map_right_iff]
      apply List.forall₂_same.mpr
      intro credential member
      exact exactEntries_exact receipt governedReadRequired _ credential
        (within credential member)
    · exact credentialResponse_again receipt governedReadRequired fits within
  · right
    push Not at within
    obtain ⟨credential, member, beyond⟩ := within
    exact credentialResponse_outside receipt governedReadRequired _ ⟨credential, member, beyond⟩

end Response

def lakeReceipt : AuthorizationReceipt :=
  ⟨.anonymous, .credentialsVend, none, true, "allow-all", none, .null, 0⟩

/-- The profile names no secret, so nothing can be stated about one. -/
theorem secretRef_unstated :
    let _ := constantExternal
    let _ := lakeUrls
    ¬∀ (credentials : List StorageCredential) (profile : StorageProfile)
      (receipt : AuthorizationReceipt) (governedReadRequired : Bool) (cap : Option UInt64)
      (returned : List StorageCredential),
      credentialResponse credentials profile receipt governedReadRequired
          (cap.map UInt64.toNat) = .ok returned →
      ∀ credential ∈ returned, ∀ key ∈ ttlKey :: lakecatCredentialResponseEvidenceKeys,
        (credential.config.filter fun entry => toAsciiLowercase entry.key = key).length = 1 := by
  intro _ _ always
  have stated := always [⟨"file:///lake", []⟩] lakeProfile lakeReceipt false none
    [⟨"file:///lake",
      [⟨"lakecat.storage-profile-id", "lake"⟩, ⟨"lakecat.storage-provider", "file"⟩,
        ⟨"lakecat.credential-mode", "local-file-no-secret"⟩,
        ⟨"lakecat.authorization-principal", "anonymous"⟩,
        ⟨"lakecat.governed-read-required", "false"⟩]⟩]
    (by decide +kernel) _ List.mem_cons_self "lakecat.secret-ref-provider" (by decide)
  exact absurd stated (by decide +kernel)

end LakeCat
