import LakeCat.CredentialIssuers
import LakeCat.ServiceRequests

/-!
The handler that vends credentials for a table. Whether credentials are issued
is decided by the restriction of that table; what they open is decided by the
storage profile that its location selects.
-/

namespace LakeCat

open Fallible

def fineGrainedReason : String := "fine-grained read restriction requires Sail-planned reads"

/-- Why a request gets no credentials, if it gets none. -/
def credentialBlockReason (capability : CredentialsVendCapability) : Option String :=
  match capability.receipt.context.get "lakecat:raw-credential-exception" with
  | some exception =>
      if (exception.get "allowed").bind Json.asBool = some false then
        some (((exception.get "reason").bind Json.asStr).getD fineGrainedReason)
      else none
  | none => if capability.restriction.requiresGovernedRead then some fineGrainedReason else none

def singleConfigValue (config : List ConfigEntry) (key : String) : Option String :=
  match config.filter fun entry => entry.key = key with
  | [entry] => some entry.value
  | _ => none

section Evidence

variable [External]

def ConfigEntry.toJson (entry : ConfigEntry) : Json :=
  .object [("key", .str entry.key), ("value", .str entry.value)]

def credentialEvidence (storageProfile : StorageProfile) (receipt : AuthorizationReceipt)
    (credential : StorageCredential) : Json :=
  let nonLakecatConfig := credential.config.filter fun entry =>
    !startsWith (toAsciiLowercase entry.key) "lakecat."
  let single := fun key => ofOptionStr (singleConfigValue credential.config key)
  .object [
    ("prefix-hash", .str (contentHashJson
      (.object [("credential-prefix", .str credential.locationPrefix)]))),
    ("storage-profile-id", single "lakecat.storage-profile-id"),
    ("storage-provider", single "lakecat.storage-provider"),
    ("credential-mode", single "lakecat.credential-mode"),
    ("authorization-principal", single "lakecat.authorization-principal"),
    ("governed-read-required", single "lakecat.governed-read-required"),
    ("max-credential-ttl-seconds", single "lakecat.max-credential-ttl-seconds"),
    ("secret-ref-provider", single "lakecat.secret-ref-provider"),
    ("secret-ref-hash", single "lakecat.secret-ref-hash"),
    ("issuer-config-entry-count", .int nonLakecatConfig.length),
    ("issuer-config-hash", .str (contentHashJson (.arr (nonLakecatConfig.map ConfigEntry.toJson)))),
    ("catalog-profile-id", .str storageProfile.profileId),
    ("receipt-principal", .str receipt.principal.subject)]

def credentialResponseEvidence (storageCredentials : List StorageCredential)
    (storageProfile : StorageProfile) (receipt : AuthorizationReceipt) : Json :=
  .arr (storageCredentials.map (credentialEvidence storageProfile receipt))

def storageProfileEvidence (profile : StorageProfile) : Json :=
  .object ([("profile-id", .str profile.profileId), ("warehouse", .str profile.warehouse.value),
      ("provider", .str profile.provider.asStr),
      ("issuance-mode", .str profile.issuanceMode.asStr),
      ("secret-ref-present", .bool profile.secretRef.isSome),
      ("location-prefix-hash", .str (contentHashJson
        (.object [("location-prefix", .str profile.locationPrefix)])))] ++
    Json.presentField "secret-ref-provider" .str (profile.secretRef.bind secretRefProviderLabel) ++
    Json.presentField "secret-ref-hash" (fun secretRef => .str (contentHashBytes secretRef))
      profile.secretRef)

def credentialsVendAuditPayload (ident : TableIdent) (table : TableRecord)
    (storageProfile : StorageProfile) (storageCredentials : List StorageCredential)
    (receipt : AuthorizationReceipt) : Json :=
  .object ([("event-type", .str "credentials.vend-attempted"), ("table", ident.toJson),
      ("authorization-receipt", receipt.toJson), ("storage-location", .str table.location),
      ("storage-profile-id", .str storageProfile.profileId),
      ("storage-profile", storageProfileEvidence storageProfile),
      ("secret-ref-present", .bool storageProfile.secretRef.isSome),
      ("credential-count", .int storageCredentials.length),
      ("credential-response-evidence",
        credentialResponseEvidence storageCredentials storageProfile receipt),
      ("mode", .str storageProfile.issuanceMode.asStr)] ++
    Json.presentField "read-restriction" id (receipt.context.get "read-restriction") ++
    Json.presentField "lakecat:raw-credential-exception" id
      (receipt.context.get "lakecat:raw-credential-exception"))

end Evidence

section Handler

variable [External] [LocationUrls] [SecretSources]

def authorizeCredentialsVend (state : LakeCatState) (store : MemoryState)
    (identity : RequestIdentity) (table : TableIdent) (now : Timestamp) :
    LakeCatResult CredentialsVendCapability := do
  let receipt ← authorize state store identity .credentialsVend (some table) now
  TableReadCapability.fromReceipt "vend credentials" receipt table

def issueUnlessBlocked (issuer : CredentialIssuer) (capability : CredentialsVendCapability)
    (table : TableRecord) (storageProfile : StorageProfile) :
    LakeCatResult (List StorageCredential) :=
  if (credentialBlockReason capability).isSome then .ok []
  else do
    let ttl := capability.restriction.maxCredentialTtlSeconds
    let issued ← issuer.issue ⟨table, storageProfile, capability.receipt, ttl⟩
    let storageCredentials ← issuedCredentialsForProfile issued storageProfile ttl
    return canonicalizeCredentialResponseEvidence storageCredentials storageProfile
      capability.receipt capability.restriction.requiresGovernedRead ttl

def vendAuditEvent (capability : CredentialsVendCapability) (table : TableRecord)
    (storageProfile : StorageProfile) (storageCredentials : List StorageCredential)
    (now : Timestamp) : CatalogAuditEvent :=
  let payload := credentialsVendAuditPayload capability.table table storageProfile
    storageCredentials capability.receipt
  CatalogAuditEvent.new "credentials.vend-attempted" (some capability.table)
    capability.receipt.principal
    (match credentialBlockReason capability with
      | none => payload
      | some reason => payload.set "lakecat:credential-block-reason" (.str reason)) now

/-- `load_credentials_in_warehouse`, from the two names of its path. -/
def loadCredentialsInWarehouse (warehouse : WarehouseName) (state : LakeCatState)
    (issuer : CredentialIssuer) (store : MemoryState) (identity : RequestIdentity)
    (ns table : String) (now : Timestamp) :
    LakeCatResult (List StorageCredential × MemoryState) := do
  let ident ← restTableIdent warehouse ns table
  let capability ← authorizeCredentialsVend state store identity ident now
  let table ← store.loadTable capability.table
  let storageProfile ← store.storageProfileForTable table
  let storageCredentials ← issueUnlessBlocked issuer capability table storageProfile
  let (_, recorded) ← store.recordAuditEvent
    (vendAuditEvent capability table storageProfile storageCredentials now)
  return (storageCredentials, recorded)

end Handler

end LakeCat
