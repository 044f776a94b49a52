import LakeCat.Core

/-!
The governed scan proof, whose identifier is the digest of its own fields, and
the grant the store keeps behind it.
-/

namespace LakeCat

open Fallible

def governedScanProofVersion : String := "lakecat.governed-scan-proof.v2"

def maxGovernedScanTextBytes : Nat := 4 * 1024
def maxGovernedScanProjectionFields : Nat := 256
def maxGovernedScanProjectionBytes : Nat := 64 * 1024
def maxGovernedScanNamespaceComponents : Nat := 256
def maxGovernedScanNamespaceBytes : Nat := 64 * 1024

def isLowerHex (ch : Char) : Bool :=
  ('0' ≤ ch && ch ≤ '9') || ('a' ≤ ch && ch ≤ 'f')

def isGovernedSha256Digest (digest : String) : Bool :=
  match stripHead digest "sha256:" with
  | some hex => hex.toList.length = 64 && hex.toList.all isLowerHex
  | none => false

def validateGovernedSha256Digest (digest label : String) : LakeCatResult Unit :=
  rejectIf (¬isGovernedSha256Digest digest)
    (.invalidArgument
      s!"governed scan {label} digest must be canonical lowercase SHA-256 evidence")

theorem validateGovernedSha256Digest_hash [External] (text label : String) :
    validateGovernedSha256Digest (contentHashBytes text) label = .ok () := by
  have lower : (External.sha256 text).text.toList.all isLowerHex = true :=
    (External.sha256 text).digits
  rw [validateGovernedSha256Digest, isGovernedSha256Digest, contentHashBytes, stripHead_append]
  simp only [(External.sha256 text).length, lower]
  rfl

def validateGovernedScanText (value : String) : LakeCatResult Unit :=
  rejectIf (value.toList = [] ∨ maxGovernedScanTextBytes < value.utf8ByteSize ∨
      value ≠ trimText value ∨ value.toList.any isControl)
    (.invalidArgument
      s!"governed scan text must be canonical and at most {maxGovernedScanTextBytes} UTF-8 bytes")

def validateStringBudget (values : List String) (label : String) (maximum : Nat) :
    LakeCatResult Unit := do
  checkEach validateGovernedScanText values
  rejectIf (maximum < (values.map String.utf8ByteSize).sum)
    (.invalidArgument s!"governed scan {label} exceeds {maximum} aggregate UTF-8 bytes")

def validateProjection (fields : List String) (allowEmpty : Bool) (label : String) :
    LakeCatResult Unit :=
  if fields = [] then
    rejectIf (¬allowEmpty)
      (.invalidArgument "governed scan proof projection must not be empty")
  else do
    rejectIf (maxGovernedScanProjectionFields < fields.length)
      (.invalidArgument
        s!"governed scan {label} contains more than {maxGovernedScanProjectionFields} fields")
    validateStringBudget fields label maxGovernedScanProjectionBytes
    rejectIf (¬fields.Nodup)
      (.invalidArgument s!"governed scan {label} fields must be unique")

def validateGovernedScanProjection (fields : List String) : LakeCatResult Unit :=
  validateProjection fields false "proof projection"

def validateGovernedScanRequestedProjection (fields : List String) : LakeCatResult Unit :=
  validateProjection fields true "requested projection"

def mapError (result : LakeCatResult Unit) (message : String) : LakeCatResult Unit :=
  match result with
  | .ok () => .ok ()
  | .error _ => .error (.invalidArgument message)

def validateGovernedScanTable (table : TableIdent) : LakeCatResult Unit := do
  validateGovernedScanText table.warehouse.value
  validateGovernedScanText table.name.value
  mapError (validateName "warehouse" table.warehouse.value)
    "governed scan warehouse is not a valid catalog name"
  mapError (validateName "table" table.name.value)
    "governed scan table is not a valid catalog name"
  let parts := table.ns.parts
  let limit := maxGovernedScanNamespaceComponents
  rejectIf (parts = [] ∨ limit < parts.length)
    (.invalidArgument s!"governed scan namespace must contain at most {limit} components")
  validateStringBudget parts "namespace" maxGovernedScanNamespaceBytes
  checkEach (fun part => mapError (validateName "namespace component" part)
    "governed scan namespace contains an invalid catalog name") parts

structure GovernedScanProof where
  version : String
  grantId : String
  catalogIdentity : String
  table : TableIdent
  tableVersion : UInt64
  snapshotId : Int
  planTaskDigest : String
  principalSubject : String
  purpose : String
  effectiveProjection : List String
  identityContextDigest : String
  authorizationReceiptDigest : String
  policyDecisionDigest : String
  deriving DecidableEq

namespace GovernedScanProof

def digestFields (proof : GovernedScanProof) : Json :=
  .object [("version", .str governedScanProofVersion),
    ("catalogIdentity", .str proof.catalogIdentity), ("table", proof.table.toJson),
    ("tableVersion", .int proof.tableVersion.toNat), ("snapshotId", .int proof.snapshotId),
    ("planTaskDigest", .str proof.planTaskDigest),
    ("principalSubject", .str proof.principalSubject), ("purpose", .str proof.purpose),
    ("effectiveProjection", .arr (proof.effectiveProjection.map .str)),
    ("identityContextDigest", .str proof.identityContextDigest),
    ("authorizationReceiptDigest", .str proof.authorizationReceiptDigest),
    ("policyDecisionDigest", .str proof.policyDecisionDigest)]

/-- Objects are sorted already, so `canonicalize_json` changes nothing. -/
def proofDigest [External] (proof : GovernedScanProof) : String :=
  contentHashDomainJson "lakecat.governed-scan-proof.digest.v2" proof.digestFields

def validateFields (proof : GovernedScanProof) : LakeCatResult Unit := do
  rejectIf (proof.snapshotId < 0)
    (.invalidArgument "governed scan proof snapshot identifier must not be negative")
  validateGovernedScanText proof.catalogIdentity
  validateGovernedScanTable proof.table
  validateGovernedScanText proof.principalSubject
  validateGovernedScanText proof.purpose
  validateGovernedScanProjection proof.effectiveProjection
  checkEach (fun (label, digest) => validateGovernedSha256Digest digest label)
    [("plan task", proof.planTaskDigest), ("identity context", proof.identityContextDigest),
      ("authorization receipt", proof.authorizationReceiptDigest),
      ("policy decision", proof.policyDecisionDigest)]

def validateStructure (proof : GovernedScanProof) : LakeCatResult Unit := do
  rejectIf (proof.version ≠ governedScanProofVersion)
    (.invalidArgument "unsupported governed scan proof version")
  validateGovernedSha256Digest proof.grantId "grant id"
  proof.validateFields

def validateIntegrity [External] (proof : GovernedScanProof) : LakeCatResult Unit := do
  proof.validateStructure
  rejectIf (proof.proofDigest ≠ proof.grantId)
    (.conflict "governed scan proof integrity validation failed")

end GovernedScanProof

structure GovernedScanGrant where
  proof : GovernedScanProof
  principal : Principal
  requestedProjection : List String
  policyEngine : String
  policyHashDigest : Option String
  authorizationContextDigest : String
  readRestrictionDigest : String
  tableMetadataDigest : String
  issuedAt : Timestamp

namespace GovernedScanGrant

def validate [External] (grant : GovernedScanGrant) : LakeCatResult Unit := do
  validateGovernedScanText grant.principal.subject
  validateGovernedScanText grant.policyEngine
  validateGovernedScanRequestedProjection grant.requestedProjection
  checkEach (fun (label, digest) => validateGovernedSha256Digest digest label)
    [("authorization context", grant.authorizationContextDigest),
      ("read restriction", grant.readRestrictionDigest),
      ("table metadata", grant.tableMetadataDigest)]
  checkSome (fun digest => validateGovernedSha256Digest digest "policy") grant.policyHashDigest
  grant.proof.validateIntegrity
  rejectIf (grant.principal.subject ≠ grant.proof.principalSubject)
    (.conflict "governed scan grant principal does not match its proof")

def hasSameStableEvidence (grant other : GovernedScanGrant) : Bool :=
  grant.proof = other.proof && grant.principal = other.principal &&
    grant.requestedProjection = other.requestedProjection &&
    grant.policyEngine = other.policyEngine &&
    grant.policyHashDigest = other.policyHashDigest &&
    grant.authorizationContextDigest = other.authorizationContextDigest &&
    grant.readRestrictionDigest = other.readRestrictionDigest &&
    grant.tableMetadataDigest = other.tableMetadataDigest

end GovernedScanGrant

def validateGovernedScanGrantId (value : String) : LakeCatResult Unit :=
  validateGovernedSha256Digest value "grant id"

end LakeCat
