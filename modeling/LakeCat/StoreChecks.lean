import LakeCat.Core

/-!
The checks of the store's helpers that read text only: identifiers, hashes,
locations, URLs, secret references and public configuration.
-/

namespace LakeCat

open Fallible

/-- `table commit idempotency key`: 1 to 128 ASCII bytes from a small alphabet. -/
def isIdempotencyKeyChar (ch : Char) : Bool :=
  isAsciiAlphanumeric ch || ch = '-' || ch = '_' || ch = '.' || ch = ':'

def validateIdempotencyKeyShape (value : String) : LakeCatResult Unit := do
  rejectIf (value.toList = [] ∨ 128 < value.utf8ByteSize ∨
      ¬value.toList.all fun ch => ch.toNat < 128)
    (.invalidArgument "table commit idempotency key must be 1..=128 ASCII characters")
  rejectIf (¬value.toList.all isIdempotencyKeyChar)
    (.invalidArgument
      "table commit idempotency key may only contain A-Z, a-z, 0-9, '-', '_', '.', or ':'")

def validateIdempotencyRequestHashShape (value : String) : LakeCatResult Unit :=
  rejectIf (¬isSha256Evidence value)
    (.invalidArgument "table commit idempotency request hash must be full SHA-256 evidence")

def validateOutboxEventIdShape (value : String) : LakeCatResult Unit :=
  rejectIf (¬isSha256Evidence value)
    (.invalidArgument "outbox event id must be full SHA-256 evidence")

def validateSha256Evidence (value message : String) : LakeCatResult Unit :=
  rejectIf (¬isSha256Evidence value) (.internal message)

/-- The markers of a credential written into a location or a configuration value. -/
def embeddedSecretPatterns : List String :=
  ["password=", "secret=", "token=", "credential=", "api_key=", "apikey=", "access_key=",
    "private_key=", "pass=", "auth=", "aws_access_key_id=", "aws_secret_access_key=",
    "aws_session_token="]

def embedsRawSecretMaterial (value : String) : Bool :=
  embeddedSecretPatterns.any fun pattern => containsText (toAsciiLowercase value) pattern

def hexValue (ch : Char) : Option Nat :=
  if '0' ≤ ch && ch ≤ '9' then some (ch.toNat - '0'.toNat)
  else if 'a' ≤ ch && ch ≤ 'f' then some (ch.toNat - 'a'.toNat + 10)
  else if 'A' ≤ ch && ch ≤ 'F' then some (ch.toNat - 'A'.toNat + 10)
  else none

/-- The decoded bytes; a character outside ASCII stands for its own, none of which is a dot. -/
def percentDecode : List Char → List Nat
  | '%' :: high :: low :: rest =>
      match hexValue high, hexValue low with
      | some upper, some lower => (upper * 16 + lower) :: percentDecode rest
      | _, _ => '%'.toNat :: percentDecode (high :: low :: rest)
  | ch :: rest => ch.toNat :: percentDecode rest
  | [] => []

def isDotPathSegment (segment : String) : Bool :=
  let decoded := percentDecode segment.toList
  decoded = ['.'.toNat] || decoded = ['.'.toNat, '.'.toNat]

def locationHasDotPathSegment (location : String) : Bool :=
  (splitText (beforeAny location ['?', '#']) '/').any isDotPathSegment

def locationPrefixHasDotPathSegment (locationPrefix : String) : Bool :=
  locationHasDotPathSegment locationPrefix

def secretRefHasDotPathSegment (secretRef : String) : Bool :=
  locationHasDotPathSegment secretRef

/-- The messages that name what they are about by its hash only. -/
def withContext (context message : String) : String :=
  message ++ "; " ++ context

def invalidWith (context message : String) : LakeCatError :=
  .invalidArgument (withContext context message)

section
variable [External]

def hashContext (label text : String) : String :=
  label ++ "-hash=" ++ contentHashBytes text

def optionalLocationHash (location : Option String) : String :=
  match location with
  | some location => contentHashBytes location
  | none => "null"

def locationHasQueryFragmentOrUserinfo (location : String) : Bool :=
  ((External.parseUrl location).any fun url =>
      url.query.isSome || url.fragment.isSome || url.username ≠ "" || url.password.isSome) ||
    containsAny location ['?', '#']

def locationPrefixHasQueryFragmentOrUserinfo (locationPrefix : String) : Bool :=
  locationHasQueryFragmentOrUserinfo locationPrefix

/-- The shape shared by project, storage profile and policy identifiers. -/
def validateId (label context id : String) : LakeCatResult Unit := do
  rejectIf (id.toList = []) (.invalidArgument s!"{label} must not be empty")
  rejectIf (¬id.toList.all isNameChar)
    (invalidWith (hashContext context id) s!"{label} contains unsupported characters")

def validateProjectId (id : String) : LakeCatResult Unit :=
  validateId "project id" "project-id" id

def validateProfileId (id : String) : LakeCatResult Unit :=
  validateId "storage profile id" "storage-profile-id" id

def validatePolicyId (id : String) : LakeCatResult Unit :=
  validateId "policy id" "policy-id" id

def validateCommitRecordMetadataLocation (location : Option String) (label : String) :
    LakeCatResult Unit :=
  checkSome (fun location => do
      let context := hashContext "metadata-location" location
      let subject := s!"table commit record {label} metadata location"
      rejectIf (locationHasQueryFragmentOrUserinfo location)
        (.internal (withContext context s!"{subject} must not contain decorated location material"))
      rejectIf (embedsRawSecretMaterial location)
        (.internal (withContext context s!"{subject} must not contain credential material")))
    location

def validateWarehouseStorageRootPath (storageRoot : String) : LakeCatResult Unit := do
  let context := hashContext "warehouse-storage-root" storageRoot
  rejectIf (locationHasQueryFragmentOrUserinfo storageRoot)
    (invalidWith context
      "warehouse storage root must not include query strings, fragments, or userinfo")
  rejectIf (locationHasDotPathSegment storageRoot)
    (invalidWith context "warehouse storage root must not include dot path segments")

def validateServerEndpointUrl (endpointUrl : String) : LakeCatResult Unit := do
  let context := hashContext "server-endpoint-url" endpointUrl
  let url ← okOr (External.parseUrl endpointUrl)
    (invalidWith context "server endpoint URL must be an absolute http or https URL")
  rejectIf (url.scheme ≠ "http" ∧ url.scheme ≠ "https")
    (invalidWith context "server endpoint URL must use http or https scheme")
  rejectIf (locationHasQueryFragmentOrUserinfo endpointUrl)
    (invalidWith context
      "server endpoint URL must not include query strings, fragments, or userinfo")

def validateLocationPrefixPath (locationPrefix : String) : LakeCatResult Unit := do
  let context := hashContext "storage-profile-prefix" locationPrefix
  rejectIf (locationPrefixHasQueryFragmentOrUserinfo locationPrefix)
    (invalidWith context
      "storage profile location prefix must not include query strings, fragments, or userinfo")
  rejectIf (locationPrefixHasDotPathSegment locationPrefix)
    (invalidWith context "storage profile location prefix must not include dot path segments")

def validatePublicConfig (config : BTreeMap String) : LakeCatResult Unit :=
  checkEach (fun (key, value) => do
      let normalized := toAsciiLowercase key
      let context := hashContext "public-config-key" key
      rejectIf (["secret", "token", "password", "credential"].any (containsText normalized))
        (invalidWith context "storage profile public config key may expose secret material")
      rejectIf (embedsRawSecretMaterial value)
        (invalidWith context "storage profile public config value may expose secret material"))
    config.toList

def reservedStorageProfilePublicConfigKeys : List String :=
  ["lakecat.storage-profile-id", "lakecat.storage-provider", "lakecat.credential-mode",
    "lakecat.governed-read-required", "lakecat.authorization-principal",
    "lakecat.max-credential-ttl-seconds", "lakecat.credential-kind"]

def validateStorageProfilePublicConfig (config : BTreeMap String) : LakeCatResult Unit := do
  validatePublicConfig config
  checkEach (fun key =>
      rejectIf (toAsciiLowercase key ∈ reservedStorageProfilePublicConfigKeys)
        (invalidWith (hashContext "public-config-key" key)
          "storage profile public config key is reserved for LakeCat credential evidence"))
    config.keys

def secretRefSchemes : List String := ["typesec", "vault", "aws-sm", "gcp-sm", "azure-kv"]

def validateSecretRef (secretRef : String) : LakeCatResult Unit := do
  let trimmed := trimText secretRef
  let context := hashContext "secret-ref" trimmed
  rejectIf (trimmed.toList = [])
    (.invalidArgument "storage profile secret reference must not be empty")
  let parsed ← okOr (External.parseUrl trimmed)
    (invalidWith context
      "storage profile secret reference must be a valid external secret-store URI")
  rejectIf (parsed.scheme ∉ secretRefSchemes)
    (invalidWith context "storage profile secret reference must use an external secret-store URI")
  rejectIf (parsed.query.isSome ∨ parsed.fragment.isSome ∨ parsed.username ≠ "")
    (invalidWith context
      "storage profile secret reference must not include query strings, fragments, or userinfo")
  rejectIf (parsed.password.isSome)
    (invalidWith context
      "storage profile secret reference must not include query strings, fragments, or userinfo")
  rejectIf (secretRefHasDotPathSegment trimmed)
    (invalidWith context "storage profile secret reference must not include dot path segments")
  rejectIf (embedsRawSecretMaterial trimmed)
    (invalidWith context "storage profile secret reference must not embed raw secret material")

end

end LakeCat
