import LakeCat.CommitPlans
import LakeCat.CredentialIssuers
import LakeCat.RequestIdentities

/-!
Objects that hold the metadata of tables: where a location puts one, what is
written there and read there, and what the handlers say when that fails.
-/

namespace LakeCat

open Fallible

/-- Where the client that the service has for a URL puts a path, the bytes of a document, and the
document that is read from bytes: within the limit, unpacked, and parsed. -/
class MetadataFiles where
  Place : Type
  File : Type
  samePlace : DecidableEq Place
  place : LocationUrl → List (List UInt8) → Place
  encode : Json → File
  decode : String → File → LakeCatResult Json

export MetadataFiles (Place File)

instance [MetadataFiles] : DecidableEq Place := MetadataFiles.samePlace

/-- What the object store answers to a write that must not replace anything. -/
inductive PutAnswer where
  | stored
  | alreadyExists
  | failed (detail : String)

/-- An object that is not found counts as deleted. -/
inductive DeleteAnswer where
  | deleted
  | failed (detail : String)

structure PlannedMetadataWrite where
  location : String

section Locations

variable [External] [LocationUrls]

def metadataObjectWriteError (location detail : String) : LakeCatError :=
  .internal ("failed to write metadata object " ++ metadataLocationHashContext location ++ ": " ++
    errorDetailHashContext detail)

def metadataObjectReadError (location detail : String) : LakeCatError :=
  .invalidArgument ("failed to read metadata object " ++ metadataLocationHashContext location ++
    ": " ++ errorDetailHashContext detail)

def metadataCleanupError (location detail : String) : LakeCatError :=
  .internal ("failed to clean up uncommitted metadata object " ++
    metadataLocationHashContext location ++ ": " ++ errorDetailHashContext detail)

def PutAnswer.result (location : String) : PutAnswer → LakeCatResult PlannedMetadataWrite
  | stored => .ok ⟨location⟩
  | alreadyExists => .error (.conflict ("metadata object " ++ metadataLocationHashContext location ++
      " already exists; refusing to overwrite existing metadata"))
  | failed detail => .error (metadataObjectWriteError location detail)

def validatePlannedMetadataLocation (plan : CommitPlan) (currentMetadataLocation : Option String)
    (storageProfile : StorageProfile) : LakeCatResult Unit :=
  if plan.metadataWriteRequired then do
    let location ← okOr plan.newMetadataLocation
      (.invalidArgument "metadata object commit requires a new metadata location")
    validateMetadataObjectLocation location currentMetadataLocation storageProfile
  else .ok ()

/-- The place that is to be written for a plan, and the document. -/
def CommitPlan.object (plan : CommitPlan) : Option (String × Json) :=
  if plan.metadataWriteRequired then
    plan.newMetadataLocation.map fun location => (location, plan.newMetadata)
  else none

/-- Both errors in one, of the kind of the first. -/
def commitErrorWithCleanupFailure (commitError cleanupError : LakeCatError) : LakeCatError :=
  let context := "metadata cleanup also failed; " ++ errorDetailHashContext cleanupError.display
  let both (message : String) := message ++ "; " ++ context
  match commitError with
  | .invalidArgument message => .invalidArgument (both message)
  | .unprocessableEntity message => .unprocessableEntity (both message)
  | .notFound object name => .notFound object (both name)
  | .alreadyExists object name => .alreadyExists object (both name)
  | .conflict message => .conflict (both message)
  | .forbidden message => .forbidden (both message)
  | .notSupported message => .notSupported (both message)
  | .unavailable message => .unavailable (both message)
  | .internal message => .internal (both message)

omit [External] [LocationUrls] in
def registeredTableLocation (metadata : Json) : LakeCatResult String :=
  okOr (((metadata.get "location").bind Json.asStr).filter fun location => !isBlank location)
    (.invalidArgument "registered table metadata must contain a non-empty location")

variable [ObjectStores] [MetadataFiles]

/-- The object of a location. -/
def objectPlace (location : String) : LakeCatResult Place := do
  let opened ← metadataObjectStore location
  return MetadataFiles.place opened.1 opened.2

end Locations

/-! The key of a retried commit. -/

def singleIdempotencyHeader (headers : HeaderMap) (name : String) :
    LakeCatResult (Option String) :=
  match headers name with
  | [] => .ok none
  | [value] => do
      let key ← okOr value (.invalidArgument s!"{name} must be 1..=128 ASCII characters")
      rejectIf (key.toList = [] ∨ 128 < key.utf8ByteSize ∨
          ¬key.toList.all fun ch => ch.toNat < 128)
        (.invalidArgument s!"{name} must be 1..=128 ASCII characters")
      rejectIf (¬key.toList.all isIdempotencyKeyChar)
        (.invalidArgument
          s!"{name} may only contain A-Z, a-z, 0-9, '-', '_', '.', or ':'")
      return some key
  | _ => .error (.invalidArgument s!"{name} must appear at most once")

/-- `request_idempotency_key`: two headers name it, and must agree. -/
def requestIdempotencyKey (headers : HeaderMap) : LakeCatResult (Option String) := do
  let lakecatKey ← singleIdempotencyHeader headers "x-lakecat-idempotency-key"
  let standardKey ← singleIdempotencyHeader headers "idempotency-key"
  rejectIf (lakecatKey.isSome ∧ standardKey.isSome ∧ lakecatKey ≠ standardKey)
    (.invalidArgument
      "Idempotency-Key and x-lakecat-idempotency-key must match when both are present")
  return lakecatKey.or standardKey

/-- What the headers accept the store accepts, too. -/
theorem singleIdempotencyHeader_shape {headers : HeaderMap} {name key : String}
    (accepted : singleIdempotencyHeader headers name = .ok (some key)) :
    validateIdempotencyKeyShape key = .ok () := by
  rw [singleIdempotencyHeader] at accepted
  split at accepted
  next => cases accepted
  next value single =>
    simp only [bind_eq_ok, exists_unit, okOr_ok, rejectIf_ok, pure_eq, Except.ok.injEq,
      Option.some.injEq] at accepted
    obtain ⟨read, -, bounded, spelled, rfl⟩ := accepted
    rw [validateIdempotencyKeyShape, rejectIf_neg _ bounded, ok_bind, rejectIf_neg _ spelled]
  next => cases accepted

theorem requestIdempotencyKey_shape {headers : HeaderMap} {key : String}
    (accepted : requestIdempotencyKey headers = .ok (some key)) :
    validateIdempotencyKeyShape key = .ok () := by
  simp only [requestIdempotencyKey, bind_eq_ok, exists_unit, pure_eq, Except.ok.injEq] at accepted
  obtain ⟨lakecatKey, first, standardKey, second, -, either⟩ := accepted
  cases lakecatKey with
  | some own =>
      obtain rfl := Option.some.inj either
      exact singleIdempotencyHeader_shape first
  | none =>
      rw [Option.none_or] at either
      rw [either] at second
      exact singleIdempotencyHeader_shape second

end LakeCat
