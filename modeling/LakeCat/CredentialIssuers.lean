import LakeCat.ScanGrants
import LakeCat.OutboxProjection
import LakeCat.StorageProfiles

/-!
The credential issuers of the repository. A credential names the prefix that
it opens; the secrets themselves come from the environment, from a vault or
from files.
-/

namespace LakeCat

open Fallible

structure ConfigEntry where
  key : String
  value : String
  deriving DecidableEq

structure StorageCredential where
  locationPrefix : String
  config : List ConfigEntry
  deriving DecidableEq

abbrev CredentialsVendCapability := TableReadCapability .credentialsVend

structure CredentialIssuanceRequest where
  table : TableRecord
  profile : StorageProfile
  authorizationReceipt : AuthorizationReceipt
  maxCredentialTtlSeconds : Option Nat

/-- `LakeCatError::to_string`. -/
def LakeCatError.text : LakeCatError → String
  | .invalidArgument message => "invalid argument: " ++ message
  | .unprocessableEntity message => "unprocessable entity: " ++ message
  | .notFound object name => object ++ " not found: " ++ name
  | .alreadyExists object name => object ++ " already exists: " ++ name
  | .conflict message => "conflict: " ++ message
  | .forbidden message => "forbidden: " ++ message
  | .notSupported message => "operation is not supported yet: " ++ message
  | .unavailable message => "temporarily unavailable: " ++ message
  | .internal message => "internal error: " ++ message

def publicStorageCredentialsForProfile (profile : StorageProfile) : List StorageCredential :=
  [⟨profile.locationPrefix, ⟨"lakecat.storage-profile-id", profile.profileId⟩ ::
    profile.publicConfig.toList.map fun (key, value) => ⟨key, value⟩⟩]

def ttlKey : String := "lakecat.max-credential-ttl-seconds"

/-- The smallest of a cap and the caps that the entries under the key state. -/
def statedTtl (isTtl : ConfigEntry → Bool) (ttl : Option Nat) (config : List ConfigEntry) :
    Option Nat :=
  ((config.filter isTtl).filterMap fun entry => parseU64 entry.value).foldl
    (fun effective existing => some ((effective.map (min · existing)).getD existing)) ttl

def applyCredentialTtlCap (credentials : List StorageCredential)
    (maxCredentialTtlSeconds : Option Nat) : List StorageCredential :=
  match maxCredentialTtlSeconds with
  | none => credentials
  | some seconds => credentials.map fun credential =>
      let isTtl := fun entry : ConfigEntry => decide (entry.key = ttlKey)
      let effective := (statedTtl isTtl (some seconds) credential.config).getD seconds
      { credential with
        config := credential.config.filter (fun entry => !isTtl entry) ++
          [⟨ttlKey, toString effective⟩] }

section Evidence

variable [External]

def applySecretRefProviderEvidence (credentials : List StorageCredential)
    (profile : StorageProfile) : List StorageCredential :=
  match profile.secretRef with
  | none => credentials
  | some secretRef =>
      match secretRefProviderLabel secretRef with
      | none => credentials
      | some provider => credentials.map fun credential =>
          { credential with
            config := credential.config.filter (fun entry => toAsciiLowercase entry.key ∉
                ["lakecat.secret-ref-provider", "lakecat.secret-ref-hash"]) ++
              [⟨"lakecat.secret-ref-provider", provider⟩,
                ⟨"lakecat.secret-ref-hash", contentHashBytes secretRef⟩] }

def lakecatCredentialResponseEvidenceKeys : List String :=
  ["lakecat.storage-profile-id", "lakecat.storage-provider", "lakecat.credential-mode",
    "lakecat.authorization-principal", "lakecat.governed-read-required",
    "lakecat.secret-ref-provider", "lakecat.secret-ref-hash"]

def canonicalizeCredentialResponseEvidence (credentials : List StorageCredential)
    (profile : StorageProfile) (receipt : AuthorizationReceipt) (governedReadRequired : Bool)
    (maxCredentialTtlSeconds : Option Nat) : List StorageCredential :=
  let canonical := credentials.map fun credential =>
    let isTtl := fun entry : ConfigEntry => decide (toAsciiLowercase entry.key = ttlKey)
    let effective := statedTtl isTtl maxCredentialTtlSeconds credential.config
    { credential with
      config := credential.config.filter (fun entry => !isTtl entry &&
          decide (toAsciiLowercase entry.key ∉ lakecatCredentialResponseEvidenceKeys)) ++
        [⟨"lakecat.storage-profile-id", profile.profileId⟩,
          ⟨"lakecat.storage-provider", profile.provider.asStr⟩,
          ⟨"lakecat.credential-mode", profile.issuanceMode.asStr⟩,
          ⟨"lakecat.authorization-principal", receipt.principal.subject⟩,
          ⟨"lakecat.governed-read-required", if governedReadRequired then "true" else "false"⟩] ++
        (effective.map fun seconds => ⟨ttlKey, toString seconds⟩).toList }
  applySecretRefProviderEvidence canonical profile

variable [LocationUrls]

def outsideStorageProfileScope (credential : StorageCredential) (profile : StorageProfile) :
    LakeCatError :=
  .invalidArgument ("issued credential prefix is outside storage profile scope; " ++
    "credential-prefix-hash=" ++
    contentHashJson (.object [("credential-prefix", .str credential.locationPrefix)]) ++
    "; storage-profile-prefix-hash=" ++
    contentHashJson (.object [("location-prefix", .str profile.locationPrefix)]))

def issuedCredentialsForProfile (credentials : List StorageCredential) (profile : StorageProfile)
    (maxCredentialTtlSeconds : Option Nat) : LakeCatResult (List StorageCredential) := do
  checkEach (fun credential =>
      rejectIf (¬locationIsWithinPrefix credential.locationPrefix profile.locationPrefix)
        (outsideStorageProfileScope credential profile)) credentials
  return applySecretRefProviderEvidence
    (applyCredentialTtlCap credentials maxCredentialTtlSeconds) profile

end Evidence

inductive SecretRefProvider where
  | typeSecEnv
  | typeSec
  | vault
  | awsSecretsManager
  | gcpSecretManager
  | azureKeyVault
  deriving DecidableEq

namespace SecretRefProvider

def asStr : SecretRefProvider → String
  | typeSecEnv => "typesec-env"
  | typeSec => "typesec"
  | vault => "vault"
  | awsSecretsManager => "aws-secrets-manager"
  | gcpSecretManager => "gcp-secret-manager"
  | azureKeyVault => "azure-key-vault"

def supportsFileBackend : SecretRefProvider → Bool
  | awsSecretsManager | gcpSecretManager | azureKeyVault => true
  | typeSecEnv | typeSec | vault => false

end SecretRefProvider

/-- Where secrets are read: `std::env`, `std::fs`, and the texts that `serde_json` decodes. Each
failure carries the text of its error. -/
class SecretSources where
  readFile : String → Except String String
  parseJson : String → Except String Json
  configEntryError : Json → String

/-- `VaultSecretRefCredentialResolver`: the address joined with a path, and what its client reads
there. -/
structure VaultSecretRefCredentialResolver where
  secretUrl : String → String
  readSecret : String → LakeCatResult Json

/-- The resolvers of the repository. A map of backends is its keys and what it holds for them. -/
inductive SecretRefCredentialResolver where
  | noop
  | static (credentials : BTreeMap (List ConfigEntry))
  | environment (reader : String → Except String String)
  | vault (resolver : VaultSecretRefCredentialResolver)
  | file (provider : SecretRefProvider) (root : String)
  | external (reader : String → Except String String)
      (vault : Option VaultSecretRefCredentialResolver)
      (configured : SecretRefProvider → Bool)
      (providerBackends : SecretRefProvider → SecretRefCredentialResolver)

section Resolvers

variable [External]

def secretRefHashContext (secretRef : String) : String := hashContext "secret-ref" secretRef

def errorDetailHashContext (detail : String) : String := hashContext "error-detail" detail

def unresolvedSecret (message secretRef detail : String) : LakeCatError :=
  invalidWith (errorDetailHashContext detail) (withContext (secretRefHashContext secretRef) message)

def rejectDecoratedSecretRefUri (url : LocationUrl) (secretRef : String) : LakeCatResult Unit :=
  rejectIf (url.query.isSome ∨ url.fragment.isSome ∨ url.username ≠ "" ∨ url.password.isSome)
    (invalidWith (secretRefHashContext secretRef)
      "credential secret ref must not include query strings, fragments, or userinfo")

variable [LocationUrls]

def secretRefUrl (secretRef kind : String) : LakeCatResult LocationUrl := do
  let url ← okOr (LocationUrls.parse secretRef)
    (invalidWith (secretRefHashContext secretRef) s!"invalid {kind} URI")
  rejectDecoratedSecretRefUri url secretRef
  return url

def secretRefProvider (secretRef : String) : LakeCatResult SecretRefProvider := do
  let url ← secretRefUrl secretRef "credential secret ref"
  match url.scheme with
  | "typesec" => if url.hostStr = some "env" then .ok .typeSecEnv else .ok .typeSec
  | "vault" => .ok .vault
  | "aws-sm" => .ok .awsSecretsManager
  | "gcp-sm" => .ok .gcpSecretManager
  | "azure-kv" => .ok .azureKeyVault
  | _ => .error (invalidWith (secretRefHashContext secretRef)
      "unsupported credential secret-ref scheme for TypeSec-gated issuance")

/-- `path.trim_start_matches('/')`. -/
def withoutLeadingSlashes (path : String) : String :=
  String.ofList (path.toList.dropWhile fun ch => ch = '/')

def vaultSecretPath (secretRef : String) : LakeCatResult String := do
  let context := secretRefHashContext secretRef
  let url ← secretRefUrl secretRef "Vault"
  rejectIf (url.scheme ≠ "vault")
    (invalidWith context "Vault resolver requires vault:// secret refs")
  let mount ← okOr url.hostStr
    (invalidWith context "Vault secret ref must include a mount name")
  let path := withoutLeadingSlashes url.path
  rejectIf (path = "") (invalidWith context "Vault secret ref must include a secret path")
  return "v1/" ++ mount ++ "/" ++ path

def isEnvironmentVariableChar (ch : Char) : Bool :=
  ('A' ≤ ch && ch ≤ 'Z') || ch.isDigit || ch = '_'

def envSecretVariable (secretRef : String) : LakeCatResult String := do
  let context := secretRefHashContext secretRef
  let url ← secretRefUrl secretRef "TypeSec secret ref"
  rejectIf (url.scheme ≠ "typesec" ∨ url.hostStr ≠ some "env")
    (invalidWith context "environment resolver requires secret refs like typesec://env/VARIABLE")
  let variable_ := withoutLeadingSlashes url.path
  rejectIf (variable_ = "" ∨ ¬variable_.toList.all isEnvironmentVariableChar)
    (invalidWith context
      "environment credential variable must be non-empty and use A-Z, 0-9, or _")
  return variable_

end Resolvers

section Secrets

def validateSecretConfigEntries (entries : List ConfigEntry) : LakeCatResult (List ConfigEntry) := do
  rejectIf (entries.any fun entry => isBlank entry.key)
    (.invalidArgument "credential config keys must not be blank")
  return entries

/-- The entries of an object whose values are strings. -/
def textEntries (kind : String) (fields : List (String × Json)) :
    LakeCatResult (List ConfigEntry) :=
  collect (fun (key, value) => do
      let text ← okOr value.asStr (.invalidArgument s!"{kind} value for {key} must be a string")
      return ⟨key, text⟩) fields

def configEntriesFromVaultSecretJson (value : Json) : LakeCatResult (List ConfigEntry) := do
  let data ← okOr (value.get "data")
    (.invalidArgument "Vault secret response must contain a data object")
  match (data.get "data").getD data with
  | .obj fields => do
      let entries ← textEntries "Vault credential config" fields
      validateSecretConfigEntries entries
  | _ => .error (.invalidArgument "Vault secret data must be a JSON object")

def ConfigEntry.fromJson (value : Json) : Option ConfigEntry := do
  let field ← FullReadRestriction.structFields 2 value
  let key ← (← field "key" 0).asStr
  let text ← (← field "value" 1).asStr
  return ⟨key, text⟩

variable [SecretSources]

def configEntriesFromSecretJson (raw : String) : LakeCatResult (List ConfigEntry) :=
  match SecretSources.parseJson raw with
  | .error detail =>
      .error (.invalidArgument s!"environment credential secret must be JSON: {detail}")
  | .ok (.obj fields) => do
      let entries ← textEntries "credential config" fields
      validateSecretConfigEntries entries
  | .ok (.arr items) => do
      let entries ← collect (fun entry => okOr (ConfigEntry.fromJson entry)
          (.invalidArgument ("credential config entries must match ConfigEntry JSON shape: " ++
            SecretSources.configEntryError entry))) items
      validateSecretConfigEntries entries
  | .ok _ => .error (.invalidArgument
      "environment credential secret must be a JSON object or ConfigEntry array")

end Secrets

section Resolve

variable [External] [LocationUrls] [SecretSources]

def readingSecret (message secretRef : String) : Except String String → LakeCatResult String
  | .ok raw => .ok raw
  | .error detail => .error (unresolvedSecret message secretRef detail)

def decodingSecret (message secretRef : String) :
    LakeCatResult (List ConfigEntry) → LakeCatResult (List ConfigEntry)
  | .ok entries => .ok entries
  | .error error => .error (unresolvedSecret message secretRef error.text)

def environmentConfig (reader : String → Except String String) (secretRef : String) :
    LakeCatResult (List ConfigEntry) := do
  let variable_ ← envSecretVariable secretRef
  let raw ← readingSecret "failed to resolve environment credential secret" secretRef
    (reader variable_)
  decodingSecret "failed to parse environment credential secret" secretRef
    (configEntriesFromSecretJson raw)

def vaultSecret (vault : VaultSecretRefCredentialResolver) (secretRef path : String) :
    LakeCatResult Json :=
  match vault.readSecret (vault.secretUrl path) with
  | .ok secret => .ok secret
  | .error error => .error
      (unresolvedSecret "failed to resolve Vault credential secret" secretRef error.text)

def vaultConfig (vault : VaultSecretRefCredentialResolver) (secretRef : String) :
    LakeCatResult (List ConfigEntry) := do
  let path ← vaultSecretPath secretRef
  let secret ← vaultSecret vault secretRef path
  decodingSecret "failed to parse Vault credential secret" secretRef
    (configEntriesFromVaultSecretJson secret)

/-- `secret_path`: the file is named by the hash of the reference. -/
def fileConfig (provider : SecretRefProvider) (root secretRef : String) :
    LakeCatResult (List ConfigEntry) := do
  let found ← secretRefProvider secretRef
  rejectIf (found ≠ provider) (invalidWith (secretRefHashContext secretRef)
    s!"file-backed {provider.asStr} resolver received mismatched secret provider")
  let raw ← readingSecret s!"failed to read file-backed {provider.asStr} credential secret"
    secretRef (SecretSources.readFile (root ++ "/" ++ (External.sha256 secretRef).text ++ ".json"))
  decodingSecret s!"failed to parse file-backed {provider.asStr} credential secret" secretRef
    (configEntriesFromSecretJson raw)

def providerNotConfigured (provider : SecretRefProvider) (secretRef : String) : LakeCatError :=
  invalidWith (secretRefHashContext secretRef) ("credential secret resolver for " ++
    provider.asStr ++ " is not configured; keep governed reads on Sail " ++
    "or configure a production secret-store backend")

/-- The credential of a request under the configuration found for its reference. -/
def resolvedCredential (request : CredentialIssuanceRequest)
    (config : LakeCatResult (List ConfigEntry)) : LakeCatResult (List StorageCredential) := do
  let config ← config
  return [⟨request.profile.locationPrefix, config⟩]

def resolvedBackend (provider : SecretRefProvider) (secretRef : String) :
    LakeCatResult (List StorageCredential) → LakeCatResult (List StorageCredential)
  | .ok credentials => .ok credentials
  | .error error => .error (unresolvedSecret
      s!"failed to resolve {provider.asStr} credential secret" secretRef error.text)

namespace SecretRefCredentialResolver

def resolveRef (request : CredentialIssuanceRequest) (secretRef : String) :
    SecretRefCredentialResolver → LakeCatResult (List StorageCredential)
  | noop => .ok []
  | static credentials => .ok
      ((credentials[secretRef]?).map fun config => ⟨request.profile.locationPrefix, config⟩).toList
  | environment reader => resolvedCredential request (environmentConfig reader secretRef)
  | vault resolver => resolvedCredential request (vaultConfig resolver secretRef)
  | file provider root => resolvedCredential request (fileConfig provider root secretRef)
  | external reader vaultResolver configured providerBackends => do
      let provider ← secretRefProvider secretRef
      match provider with
      | .typeSecEnv => resolvedCredential request (environmentConfig reader secretRef)
      | .vault =>
          match vaultResolver with
          | none => .error (providerNotConfigured .vault secretRef)
          | some resolver => resolvedCredential request (vaultConfig resolver secretRef)
      | provider =>
          if configured provider then
            resolvedBackend provider secretRef
              ((providerBackends provider).resolveRef request secretRef)
          else .error (providerNotConfigured provider secretRef)

/-- A profile without a reference has nothing to resolve. -/
def resolve (resolver : SecretRefCredentialResolver) (request : CredentialIssuanceRequest) :
    LakeCatResult (List StorageCredential) :=
  match request.profile.secretRef with
  | none => .ok []
  | some secretRef => resolver.resolveRef request secretRef

end SecretRefCredentialResolver

/-- The issuers of the repository. -/
inductive CredentialIssuer where
  | conservative
  | typeSec (engine : PolicyEngine) (resolver : SecretRefCredentialResolver)

/-- The reasons that a decision carries are left out of the texts. -/
def typeSecDecision : PolicyResult → LakeCatResult Unit
  | .allow => .ok ()
  | .deny => .error (.conflict "TypeSec denied credential issuance")
  | .delegate => .error
      (.conflict "TypeSec delegated credential issuance without resolver policy")
  | .unknown => .error
      (.conflict "TypeSec returned an unsupported credential issuance decision")

def issuePublic (request : CredentialIssuanceRequest) : LakeCatResult (List StorageCredential) :=
  issuedCredentialsForProfile (publicStorageCredentialsForProfile request.profile) request.profile
    request.maxCredentialTtlSeconds

def issueForSecretRef (engine : PolicyEngine) (resolver : SecretRefCredentialResolver)
    (request : CredentialIssuanceRequest) : LakeCatResult (List StorageCredential) := do
  let secretRef ← okOr request.profile.secretRef
    (.invalidArgument "short-lived credential issuance requires a secret reference")
  let _ ← secretRefProvider secretRef
  typeSecDecision
    (engine request.authorizationReceipt.principal.subject "credentials.issue" secretRef)
  let credentials ← resolver.resolve request
  issuedCredentialsForProfile credentials request.profile request.maxCredentialTtlSeconds

def CredentialIssuer.issue (request : CredentialIssuanceRequest) :
    CredentialIssuer → LakeCatResult (List StorageCredential)
  | conservative =>
      if request.profile.canReturnPublicCredential then issuePublic request else .ok []
  | typeSec engine resolver =>
      if request.profile.canReturnPublicCredential then issuePublic request
      else if request.profile.issuanceMode ≠ .shortLivedSecretRef then .ok []
      else issueForSecretRef engine resolver request

end Resolve

end LakeCat
