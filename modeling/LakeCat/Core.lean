import LakeCat.Json
import LakeCat.Fallible

/-!
The shared vocabulary of the catalog: errors, names, identifiers, principals
and content hashes, with the JSON each of them is written as.
-/

namespace LakeCat

open Fallible

/-- Each variant carries the text the source builds; `object` is the kind of thing named. -/
inductive LakeCatError where
  | invalidArgument (message : String)
  | unprocessableEntity (message : String)
  | notFound (object name : String)
  | alreadyExists (object name : String)
  | conflict (message : String)
  | forbidden (message : String)
  | notSupported (message : String)
  | unavailable (message : String)
  | internal (message : String)
  deriving DecidableEq

abbrev LakeCatResult := Except LakeCatError

/-- `BTreeMap<String, _>`. -/
abbrev BTreeMap (α : Type) := Std.ExtTreeMap String α

/-- An instant of `DateTime<Utc>`, in nanoseconds from the epoch. -/
abbrev Timestamp := Int

/-- `hex::encode` of a SHA-256 digest. -/
structure Sha256Hex where
  text : String
  length : text.toList.length = 64
  digits : text.toList.all (fun ch => ('0' ≤ ch && ch ≤ '9') || ('a' ≤ ch && ch ≤ 'f')) = true

/-- What the catalog reads of a parsed `url::Url`. -/
structure Url where
  scheme : String
  username : String
  password : Option String
  query : Option String
  fragment : Option String

/-- The crates the catalog calls: `sha2`, `url`, `chrono` and `turso`. -/
class External where
  sha256 : String → Sha256Hex
  parseUrl : String → Option Url
  toRfc3339 : Timestamp → String
  serializeTimestamp : Timestamp → String
  /-- The text of a violated primary key of a table. -/
  constraintText : String → String

def isNameChar (ch : Char) : Bool :=
  isAsciiAlphanumeric ch || ch = '_' || ch = '-' || ch = '.'

def validateName (kind value : String) : LakeCatResult Unit := do
  rejectIf (value.toList = []) (.invalidArgument s!"{kind} name must not be empty")
  rejectIf (¬value.toList.all isNameChar)
    (.invalidArgument s!"{kind} name contains unsupported characters: {value}")

structure WarehouseName where
  value : String
  deriving DecidableEq

namespace WarehouseName

def new (value : String) : LakeCatResult WarehouseName := do
  validateName "warehouse" value
  return ⟨value⟩

def asStr (name : WarehouseName) : String := name.value

def toJson (name : WarehouseName) : Json := .str name.value

end WarehouseName

structure TableName where
  value : String
  deriving DecidableEq

namespace TableName

def new (value : String) : LakeCatResult TableName := do
  validateName "table" value
  return ⟨value⟩

def asStr (name : TableName) : String := name.value

def toJson (name : TableName) : Json := .str name.value

end TableName

structure Namespace where
  parts : List String
  deriving DecidableEq

namespace Namespace

def new (parts : List String) : LakeCatResult Namespace := do
  rejectIf (parts = [])
    (.invalidArgument "namespace must contain at least one component")
  checkEach (validateName "namespace component") parts
  return ⟨parts⟩

def path (name : Namespace) : String :=
  joinText "." name.parts

/-- The length-prefixed encoding that keeps `["a.b"]` and `["a", "b"]` apart. -/
def storageKey (name : Namespace) : String :=
  name.parts.foldl (fun key part => key ++ ":" ++ toString part.utf8ByteSize ++ ":" ++ part) "v1"

def toJson (name : Namespace) : Json := .arr (name.parts.map .str)

/-- The derived `Ord`: the component lists, lexicographically. -/
instance : Ord Namespace where
  compare left right := compare left.parts right.parts

instance : Std.TransOrd Namespace where
  eq_swap {left right} := show compare left.parts right.parts = _ from Std.OrientedOrd.eq_swap
  isLE_trans {first second third} lower upper :=
    show (compare first.parts third.parts).isLE from Std.TransOrd.isLE_trans
      (show (compare first.parts second.parts).isLE from lower) upper

instance : Std.LawfulEqOrd Namespace where
  compare_self {name} := show compare name.parts name.parts = .eq from Std.ReflOrd.compare_self
  eq_of_compare {left right} same := by
    obtain ⟨leftParts⟩ := left
    obtain ⟨rightParts⟩ := right
    exact congrArg Namespace.mk (Std.LawfulEqCmp.eq_of_compare same)

end Namespace

structure TableIdent where
  warehouse : WarehouseName
  ns : Namespace
  name : TableName
  deriving DecidableEq

namespace TableIdent

def stableId (ident : TableIdent) : String :=
  "lakecat:table:" ++ ident.warehouse.value ++ ":" ++ ident.ns.path ++ ":" ++ ident.name.value

def toJson (ident : TableIdent) : Json :=
  .object [("warehouse", ident.warehouse.toJson), ("namespace", ident.ns.toJson),
    ("name", ident.name.toJson)]

end TableIdent

inductive PrincipalKind where
  | anonymous
  | human
  | service
  | agent
  deriving DecidableEq

namespace PrincipalKind

/-- `rename_all = "kebab-case"`. -/
def asStr : PrincipalKind → String
  | .anonymous => "anonymous"
  | .human => "human"
  | .service => "service"
  | .agent => "agent"

def ofVariant (text : String) : Option PrincipalKind :=
  [PrincipalKind.anonymous, .human, .service, .agent].find? fun kind => kind.asStr = text

/-- A unit variant is read from its name, or from an object whose one field is null. -/
def fromJson : Json → Option PrincipalKind
  | .str text => ofVariant text
  | .obj [(text, .null)] => ofVariant text
  | _ => none

end PrincipalKind

structure Principal where
  subject : String
  kind : PrincipalKind
  deriving DecidableEq

namespace Principal

def anonymous : Principal := ⟨"anonymous", .anonymous⟩

def new (subject : String) (kind : PrincipalKind) : LakeCatResult Principal := do
  rejectIf (isBlank subject) (.invalidArgument "principal subject must not be empty")
  return ⟨subject, kind⟩

def toJson (principal : Principal) : Json :=
  .object [("subject", .str principal.subject), ("kind", .str principal.kind.asStr)]

/-- A derived struct is read from an object, or from an array of its fields in order. -/
def fromJson (value : Json) : Option Principal := do
  let (subject, kind) ← match value with
    | .obj _ => do pure (← value.get "subject", ← value.get "kind")
    | .arr [subject, kind] => pure (subject, kind)
    | _ => none
  pure ⟨← subject.asStr, ← PrincipalKind.fromJson kind⟩

end Principal

structure AuditStamp where
  principal : Principal
  time : Timestamp
  deriving DecidableEq

section
variable [External]

def serializeTimestamp (time : Timestamp) : Json := .str (External.serializeTimestamp time)

def AuditStamp.toJson (stamp : AuditStamp) : Json :=
  .object [("principal", stamp.principal.toJson), ("at", serializeTimestamp stamp.time)]

/-- `content_hash_bytes`, on the bytes of a text. -/
def contentHashBytes (text : String) : String :=
  "sha256:" ++ (External.sha256 text).text

def contentHashJson (value : Json) : String :=
  contentHashBytes value.compact

def contentHashDomainJson (domain : String) (value : Json) : String :=
  contentHashBytes (domain ++ "\x00" ++ value.compact)

end

/-- A hexadecimal SHA-256 digest of either case, under its prefix. -/
def isSha256Evidence (value : String) : Bool :=
  match stripHead value "sha256:" with
  | some digest => digest.toList.length = 64 && digest.toList.all isAsciiHexdigit
  | none => false

theorem Sha256Hex.digits_hex (digest : Sha256Hex) :
    digest.text.toList.all isAsciiHexdigit = true := by
  have digits := digest.digits
  simp only [List.all_eq_true, Bool.or_eq_true, Bool.and_eq_true, decide_eq_true_eq,
    isAsciiHexdigit] at digits ⊢
  intro ch member
  rcases digits ch member with digit | lower
  · exact .inl (.inl digit)
  · exact .inr lower

@[simp] theorem contentHashBytes_evidence [External] (text : String) :
    isSha256Evidence (contentHashBytes text) = true := by
  simp [isSha256Evidence, contentHashBytes, Sha256Hex.length, Sha256Hex.digits_hex]

@[simp] theorem contentHashJson_evidence [External] (value : Json) :
    isSha256Evidence (contentHashJson value) = true :=
  contentHashBytes_evidence _

end LakeCat
