import LakeCat.MemoryStore

/-!
Which storage profile governs a location: the longest prefix that matches, or
a profile inferred from the location itself. Prefixes match whole path
segments.
-/

namespace LakeCat

open Fallible

/-- What the service reads of a location that `url::Url` parses. -/
structure LocationUrl where
  scheme : String
  username : String
  password : Option String
  hostStr : Option String
  port : Option Nat
  path : String
  query : Option String
  fragment : Option String
  deriving DecidableEq

/-- `Url::parse`, with `host_str`, `port_or_known_default` and `path` of its result. -/
class LocationUrls where
  parse : String → Option LocationUrl

def locationMatchesStorageProfilePrefix (location locationPrefix : String) : Bool :=
  if location = locationPrefix then true
  else if endsWithChar locationPrefix '/' then startsWith location locationPrefix
  else (stripHead location locationPrefix).any fun suffix => startsWith suffix "/"

def pathIsStrictlyWithinPrefix (location locationPrefix : String) : Bool :=
  if location = locationPrefix then false
  else if endsWithChar locationPrefix '/' then startsWith location locationPrefix
  else (stripHead location locationPrefix).any fun suffix => startsWith suffix "/"

section Urls

variable [LocationUrls]

def locationIsStrictlyWithinPrefix (location locationPrefix : String) : Bool :=
  if location = locationPrefix then false
  else match LocationUrls.parse location, LocationUrls.parse locationPrefix with
    | some locationUrl, some prefixUrl =>
        if locationUrl.scheme = prefixUrl.scheme ∧ locationUrl.username = prefixUrl.username ∧
            locationUrl.password = prefixUrl.password ∧
            locationUrl.hostStr = prefixUrl.hostStr ∧ locationUrl.port = prefixUrl.port then
          pathIsStrictlyWithinPrefix locationUrl.path prefixUrl.path
        else false
    | _, _ => pathIsStrictlyWithinPrefix location locationPrefix

def locationIsWithinPrefix (location locationPrefix : String) : Bool :=
  if location = locationPrefix then true
  else locationIsStrictlyWithinPrefix location locationPrefix

end Urls

namespace StorageProfile

def inferredIssuanceMode : StorageProvider → CredentialIssuanceMode
  | .file => .localFileNoSecret
  | .s3 | .gcs | .azure | .unknown => .governedReadRequired

def inferredForTable (table : TableRecord) : StorageProfile :=
  let provider := StorageProvider.fromLocation table.location
  let issuanceMode := inferredIssuanceMode provider
  {
    profileId := table.ident.warehouse.value ++ ":" ++ provider.asStr
    warehouse := table.ident.warehouse
    locationPrefix := table.location
    provider := provider
    issuanceMode := issuanceMode
    secretRef := none
    publicConfig :=
      (((∅ : BTreeMap String).insert "lakecat.credential-mode" issuanceMode.asStr).insert
        "lakecat.storage-provider" provider.asStr).insert "lakecat.governed-read-required"
          (if issuanceMode = .governedReadRequired then "true" else "false") }

def canReturnPublicCredential (profile : StorageProfile) : Bool :=
  profile.issuanceMode = .localFileNoSecret

def matchesTable (profile : StorageProfile) (table : TableRecord) : Bool :=
  profile.warehouse = table.ident.warehouse &&
    locationMatchesStorageProfilePrefix table.location profile.locationPrefix

end StorageProfile

section Match

variable [External]

def ambiguousStorageProfile (table : TableRecord) (current profile : StorageProfile) :
    LakeCatError :=
  .invalidArgument ("ambiguous storage profile match for " ++ table.ident.stableId ++
    "; location-prefix-hash=" ++ contentHashBytes profile.locationPrefix ++ "; profile-ids=" ++
    current.profileId ++ "," ++ profile.profileId)

/-- The loop of `storage_profile_match` over the profiles that match. -/
def longestStorageProfile (table : TableRecord) :
    Option StorageProfile → List StorageProfile → LakeCatResult (Option StorageProfile)
  | best, [] => .ok best
  | none, profile :: rest => longestStorageProfile table (some profile) rest
  | some current, profile :: rest =>
      if current.locationPrefix.utf8ByteSize < profile.locationPrefix.utf8ByteSize then
        longestStorageProfile table (some profile) rest
      else if profile.locationPrefix.utf8ByteSize = current.locationPrefix.utf8ByteSize then
        .error (ambiguousStorageProfile table current profile)
      else longestStorageProfile table (some current) rest

def storageProfileMatch (profiles : List StorageProfile) (table : TableRecord) :
    LakeCatResult (Option StorageProfile) :=
  longestStorageProfile table none (profiles.filter fun profile => profile.matchesTable table)

def MemoryState.storageProfileForTable (state : MemoryState) (table : TableRecord) :
    LakeCatResult StorageProfile := do
  let profiles ← collect (fun (key, profile) => do
      validateStorageProfileMapScope profile key
      return profile) state.storageProfiles.toList
  let best ← storageProfileMatch profiles table
  return best.getD (StorageProfile.inferredForTable table)

/-- A profile is selected among those that match, and none that matches has a longer prefix. -/
theorem longestStorageProfile_ok (table : TableRecord) {best selected : Option StorageProfile}
    {profiles : List StorageProfile}
    (found : longestStorageProfile table best profiles = .ok selected) :
    (∀ profile ∈ selected, profile ∈ best.toList ++ profiles) ∧
      ∀ profile ∈ best.toList ++ profiles, ∃ chosen ∈ selected,
        profile.locationPrefix.utf8ByteSize ≤ chosen.locationPrefix.utf8ByteSize := by
  induction profiles generalizing best with
  | nil =>
      cases best <;> cases found <;> simp
  | cons profile rest ih =>
      cases best with
      | none => exact ih found
      | some current =>
          rw [longestStorageProfile] at found
          split at found
          next longer =>
            obtain ⟨member, longest⟩ := ih found
            refine ⟨fun chosen own => List.mem_cons_of_mem _ (member chosen own), ?_⟩
            intro other own
            rcases List.mem_cons.mp own with rfl | own
            · obtain ⟨chosen, own, within⟩ := longest profile List.mem_cons_self
              exact ⟨chosen, own, by omega⟩
            · exact longest other own
          next notLonger =>
            split at found
            · cases found
            next different =>
              obtain ⟨member, longest⟩ := ih found
              refine ⟨fun chosen own => ?_, fun other own => ?_⟩
              · rcases List.mem_cons.mp (member chosen own) with rfl | later
                · exact List.mem_cons_self
                · exact List.mem_cons_of_mem _ (List.mem_cons_of_mem _ later)
              · rcases List.mem_cons.mp own with rfl | own
                · exact longest other List.mem_cons_self
                · rcases List.mem_cons.mp own with rfl | later
                  · obtain ⟨chosen, own, within⟩ := longest current List.mem_cons_self
                    exact ⟨chosen, own, by omega⟩
                  · exact longest other (List.mem_cons_of_mem _ later)

/-- What `storage_profile_for_table` selects. -/
structure SelectedFor (profiles : List StorageProfile) (table : TableRecord)
    (selected : StorageProfile) : Prop where
  covers : locationMatchesStorageProfilePrefix table.location selected.locationPrefix = true
  longest : ∀ profile ∈ profiles, profile.matchesTable table = true →
    profile.locationPrefix.utf8ByteSize ≤ selected.locationPrefix.utf8ByteSize
  source : selected ∈ profiles ∨ selected = StorageProfile.inferredForTable table

omit [External] in
theorem locationMatchesStorageProfilePrefix_self (location : String) :
    locationMatchesStorageProfilePrefix location location = true := by
  rw [locationMatchesStorageProfilePrefix, if_pos rfl]

theorem storageProfileMatch_selects {profiles : List StorageProfile} {table : TableRecord}
    {best : Option StorageProfile} (found : storageProfileMatch profiles table = .ok best) :
    SelectedFor profiles table (best.getD (StorageProfile.inferredForTable table)) := by
  obtain ⟨member, longest⟩ := longestStorageProfile_ok table found
  cases best with
  | none =>
      refine ⟨locationMatchesStorageProfilePrefix_self _, fun profile own covers => ?_, .inr rfl⟩
      obtain ⟨chosen, none, _⟩ := longest profile (List.mem_filter.mpr ⟨own, covers⟩)
      cases none
  | some selected =>
      obtain ⟨own, covers⟩ := List.mem_filter.mp (member selected rfl)
      simp only [StorageProfile.matchesTable, Bool.and_eq_true] at covers
      refine ⟨covers.2, fun profile own covers => ?_, .inl own⟩
      obtain ⟨chosen, same, within⟩ := longest profile (List.mem_filter.mpr ⟨own, covers⟩)
      cases same
      exact within

theorem storageProfileForTable_selects {state : MemoryState} {table : TableRecord}
    {selected : StorageProfile} (found : state.storageProfileForTable table = .ok selected) :
    SelectedFor (state.storageProfiles.toList.map Prod.snd) table selected := by
  simp only [MemoryState.storageProfileForTable, bind_eq_ok, pure_eq, Except.ok.injEq] at found
  obtain ⟨profiles, read, best, matched, rfl⟩ := found
  rw [collect_checked _ (fun entry => validateStorageProfileMapScope entry.2 entry.1 = .ok ())
    Prod.snd (fun entry result => by
      simp only [bind_eq_ok, exists_unit, Except.ok.injEq]
      exact and_congr_right fun _ => eq_comm)] at read
  rw [← read.2]
  exact storageProfileMatch_selects matched

end Match

end LakeCat
