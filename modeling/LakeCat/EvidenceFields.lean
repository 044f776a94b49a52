import LakeCat.OutboxDrain

/-!
The checks that the evidence of an event is made of. Each reads one part of a
recorded document and refuses it with an error that names the event.
-/

namespace LakeCat

open Fallible

/-- A check that nothing follows. -/
theorem check_done {ε : Type} (check : Except ε Unit) : (check >>= fun _ => .ok ()) = check := by
  cases check <;> rfl

namespace Json

def keys : Json → List String
  | .obj fields => fields.map Prod.fst
  | _ => []

theorem mem_keys_insertField (key other : String) (value : Json) (fields : List (String × Json)) :
    other ∈ (insertField key value fields).map Prod.fst ↔
      other = key ∨ other ∈ fields.map Prod.fst := by
  induction fields with
  | nil => simp [insertField]
  | cons entry rest ih =>
      obtain ⟨stood, stored⟩ := entry
      rw [insertField]
      split
      next same =>
        subst same
        simp
      next =>
        split
        · simp
        · rw [List.map_cons, List.mem_cons, ih, List.map_cons, List.mem_cons]
          exact or_left_comm

theorem mem_keys_object (fields : List (String × Json)) (key : String) :
    key ∈ (object fields).keys ↔ key ∈ fields.map Prod.fst := by
  have filled (start : List (String × Json)) :
      key ∈ (fields.foldl (fun map field => insertField field.1 field.2 map) start).map Prod.fst ↔
        key ∈ fields.map Prod.fst ∨ key ∈ start.map Prod.fst := by
    induction fields generalizing start with
    | nil => simp
    | cons entry rest ih =>
        rw [List.foldl_cons, ih, mem_keys_insertField, List.map_cons, List.mem_cons, or_assoc]
        exact or_left_comm
  have whole := filled []
  rw [List.map_nil, or_iff_left List.not_mem_nil] at whole
  exact whole

/-- An object with none but these fields. -/
structure HasOnly (allowed : List String) (value : Json) : Prop where
  object : value.isObject = true
  fields : ∀ key ∈ value.keys, key ∈ allowed

theorem hasOnly_object {allowed : List String} {fields : List (String × Json)}
    (listed : ∀ key ∈ fields.map Prod.fst, key ∈ allowed) : HasOnly allowed (object fields) :=
  ⟨rfl, fun key member => listed key ((mem_keys_object fields key).mp member)⟩

theorem hasOnly_set {allowed : List String} {value entry : Json} {key : String}
    (stood : HasOnly allowed value) (listed : key ∈ allowed) :
    HasOnly allowed (value.set key entry) := by
  refine ⟨isObject_set _ _ _ stood.object, ?_⟩
  cases value with
  | obj fields =>
      intro other member
      rcases (mem_keys_insertField key other entry fields).mp member with rfl | earlier
      · exact listed
      · exact stood.fields other earlier
  | null | bool | int | float | str | arr => cases stood.object

end Json

def tableIdentityEvidenceFields : List String := ["warehouse", "namespace", "name"]

def principalEvidenceFields : List String := ["subject", "kind"]

/-- `parse_from_rfc3339`, of which only the success counts, and the text of its error. -/
class TimestampParser where
  parseFromRfc3339 : String → Except String Timestamp

/-- A time that is read back from the text it is written as. -/
structure ReadableTime [External] [TimestampParser] (time : Timestamp) : Prop where
  shown : isBlank (External.serializeTimestamp time) = false
  read : ∃ back, TimestampParser.parseFromRfc3339 (External.serializeTimestamp time) = .ok back

section
variable [External]

def validateObjectEvidenceSchema (event : OutboxEvent) (object : Json) (label : String)
    (allowedFields : List String) : LakeCatResult Unit := do
  rejectIf (object.isObject = false) (outboxEvidenceError event (label ++ " must be an object"))
  checkEach (fun field =>
      rejectIf (field ∉ allowedFields)
        (outboxEvidenceError event (label ++ " contains unexpected field " ++ field)))
    object.keys

theorem validateObjectEvidenceSchema_ok (event : OutboxEvent) (object : Json) (label : String)
    (allowedFields : List String) (done : Unit) :
    validateObjectEvidenceSchema event object label allowedFields = .ok done ↔
      object.HasOnly allowedFields := by
  simp only [validateObjectEvidenceSchema, rejectIf_bind, Bool.not_eq_false, checkEach_ok,
    rejectIf_ok, not_not]
  exact ⟨fun passed => ⟨passed.1, passed.2⟩, fun only => ⟨only.object, only.fields⟩⟩

def requiredStringField (event : OutboxEvent) (object : Json) (field label : String) :
    LakeCatResult String :=
  okOr (((object.get field).bind Json.asStr).filter fun value => value ≠ "")
    (outboxEvidenceError event (label ++ " " ++ field ++ " must be a non-empty string"))

def validateRequiredFullHashField (event : OutboxEvent) (object : Json) (field : String) :
    LakeCatResult Unit :=
  rejectIf (((object.get field).bind Json.asStr).any isSha256Evidence = false)
    (outboxEvidenceError event (field ++ " must contain full SHA-256 digest evidence"))

def validateOptionalFullHashField (event : OutboxEvent) (object : Json) (field : String) :
    LakeCatResult Unit :=
  checkSome (fun value =>
      rejectIf (value.isNull = false ∧ value.asStr.any isSha256Evidence = false)
        (outboxEvidenceError event (field ++ " must contain full SHA-256 digest evidence")))
    (object.get field)

/-- An optional text that is written as its digest, or as null. -/
theorem validateOptionalFullHashField_ofOptionStr (event : OutboxEvent) {object : Json}
    {field : String} {digest : Option String} (found : object.get field = some (ofOptionStr digest))
    (full : ∀ text, digest = some text → isSha256Evidence text = true) :
    validateOptionalFullHashField event object field = .ok () := by
  rw [validateOptionalFullHashField, found, checkSome_ok]
  intro value same
  cases same
  rw [rejectIf_ok]
  rintro ⟨present, broken⟩
  cases digest with
  | none => cases present
  | some text => simp [ofOptionStr, Json.ofOption, Json.asStr, full text rfl] at broken

def optionalStringField (event : OutboxEvent) (object : Json) (field label : String) :
    LakeCatResult (Option String) :=
  match object.get field with
  | some (.str value) => .ok (some value)
  | some .null | none => .ok none
  | _ => .error (outboxEvidenceError event (label ++ " " ++ field ++ " must be a string when present"))

def rejectBlankField (event : OutboxEvent) (field label : String) (value : Option String) :
    LakeCatResult Unit :=
  rejectIf (value.any isBlank)
    (outboxEvidenceError event (label ++ " " ++ field ++ " must be non-empty when present"))

def optionalNonEmptyStringField (event : OutboxEvent) (object : Json) (field label : String) :
    LakeCatResult (Option String) := do
  let value ← optionalStringField event object field label
  rejectBlankField event field label value
  return value

theorem optionalNonEmptyStringField_absent (event : OutboxEvent) {object : Json}
    {field : String} (label : String) (absent : object.get field = none) :
    optionalNonEmptyStringField event object field label = .ok none := by
  simp [optionalNonEmptyStringField, optionalStringField, absent, rejectBlankField, rejectIf]

theorem optionalNonEmptyStringField_ofOptionStr (event : OutboxEvent) {object : Json}
    {field : String} (label : String) {held : Option String}
    (found : object.get field = some (ofOptionStr held))
    (shown : ∀ text, held = some text → isBlank text = false) :
    optionalNonEmptyStringField event object field label = .ok held := by
  have value : optionalStringField event object field label = .ok held := by
    rw [optionalStringField, found]
    cases held <;> rfl
  rw [optionalNonEmptyStringField, value, ok_bind, rejectBlankField]
  rw [rejectIf_neg _ (by rw [Bool.not_eq_true, any_eq_false_iff]; exact shown)]
  rfl

/-- `field.replace('-', "_")`. -/
def underscored (field : String) : String :=
  String.ofList (field.toList.map fun ch => if ch = '-' then '_' else ch)

def requirePositiveI64Field (event : OutboxEvent) (object : Json) (field label : String) :
    LakeCatResult Int := do
  let primary := object.get field
  let alternate := object.get (underscored field)
  rejectIf (primary.isSome ∧ alternate.isSome) (outboxEvidenceError event
    (label ++ " must not carry both " ++ field ++ " and " ++ underscored field ++
      " evidence fields"))
  let value ← okOr (primary.or alternate)
    (outboxEvidenceError event (label ++ " evidence must contain positive " ++ field))
  let value ← okOr value.asI64
    (outboxEvidenceError event (label ++ " " ++ field ++ " must be a positive integer"))
  rejectIf (value ≤ 0) (outboxEvidenceError event (label ++ " " ++ field ++ " must be positive"))
  return value

theorem requirePositiveI64Field_int (event : OutboxEvent) {object : Json} {field : String}
    (label : String) {value : Int} (found : object.get field = some (.int value))
    (alone : object.get (underscored field) = none) (positive : 0 < value)
    (bounded : value < 2 ^ 63) :
    requirePositiveI64Field event object field label = .ok value := by
  have read : (Json.int value).asI64 = some value := by
    rw [Json.asI64, if_pos ⟨by omega, bounded⟩]
  simp only [requirePositiveI64Field, found, alone, Option.or_none, okOr_some, ok_bind, read,
    Option.isSome_none, Bool.false_eq_true, and_false]
  rw [rejectIf_neg _ not_false, ok_bind, rejectIf_neg _ (by omega), ok_bind]
  rfl

/-! Locations. -/

def locationHasUserinfo (location : String) : Bool :=
  (External.parseUrl location).any fun url => url.username ≠ "" || url.password.isSome

omit [External] in
def locationMarkers : List String :=
  ["token=", "secret=", "credential=", "password=", "access_key=", "session_token="]

omit [External] in
def locationNamesSecret (location : String) : Bool :=
  locationMarkers.any fun marker => containsText (toAsciiLowercase location) marker

/-- A location that the evidence of an event may show. -/
structure PlainEvidenceLocation (location : String) : Prop where
  shown : isBlank location = false
  undecorated : containsAny location ['?', '#'] = false
  anonymous : locationHasUserinfo location = false
  unmarked : locationNamesSecret location = false

def validateLocationEvidence (event : OutboxEvent) (label : String) (location : Json) :
    LakeCatResult Unit := do
  let location ← okOr (location.asStr.filter fun location => !isBlank location)
    (outboxEvidenceError event (label ++ " must be a non-empty string"))
  rejectIf (containsAny location ['?', '#'])
    (outboxEvidenceError event (label ++ " must not contain decorated location material"))
  rejectIf (locationHasUserinfo location)
    (outboxEvidenceError event (label ++ " must not include userinfo"))
  rejectIf (locationNamesSecret location)
    (outboxEvidenceError event (label ++ " must not contain credential material"))

def validateOptionalLocationEvidence (event : OutboxEvent) (location : Option Json)
    (label : String) : LakeCatResult Unit :=
  checkSome (validateLocationEvidence event label) location

theorem validateLocationEvidence_ok (event : OutboxEvent) (label : String) (location : Json)
    (done : Unit) : validateLocationEvidence event label location = .ok done ↔
      ∃ text, location = .str text ∧ PlainEvidenceLocation text := by
  simp only [validateLocationEvidence, bind_eq_ok, okOr_ok, exists_unit, rejectIf_ok,
    Bool.not_eq_true, Option.filter_eq_some_iff, Bool.not_eq_true']
  constructor
  · rintro ⟨text, ⟨found, shown⟩, undecorated, anonymous, unmarked⟩
    cases location with
    | str own =>
        obtain rfl := Option.some.inj found
        exact ⟨own, rfl, shown, undecorated, anonymous, unmarked⟩
    | null | bool | int | float | arr | obj => cases found
  · rintro ⟨text, rfl, plain⟩
    exact ⟨text, ⟨rfl, plain.shown⟩, plain.undecorated, plain.anonymous, plain.unmarked⟩

/-- A location that may be missing and is then written as null is refused where it is missing. -/
theorem validateOptionalLocationEvidence_ofOptionStr (event : OutboxEvent) (held : Option String)
    (label : String) (done : Unit) :
    validateOptionalLocationEvidence event (some (ofOptionStr held)) label = .ok done ↔
      ∃ location, held = some location ∧ PlainEvidenceLocation location := by
  simp only [validateOptionalLocationEvidence, checkSome_ok, Option.some.injEq, forall_eq',
    validateLocationEvidence_ok]
  cases held with
  | none => simp [ofOptionStr, Json.ofOption]
  | some location => simp [ofOptionStr, Json.ofOption]

end

end LakeCat
