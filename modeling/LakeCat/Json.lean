import LakeCat.Text

/-!
`serde_json::Value`. An object is a `BTreeMap`, so its fields are kept in the
order of their keys and a key occurs once; an integer is exact, and a number
with a fraction or an exponent is known by its text only.
-/

namespace LakeCat

inductive Json where
  | null
  | bool (value : Bool)
  | int (value : Int)
  | float (literal : String)
  | str (text : String)
  | arr (items : List Json)
  | obj (fields : List (String × Json))

namespace Json

/-- `BTreeMap::insert` on the sorted fields. -/
def insertField (key : String) (value : Json) : List (String × Json) → List (String × Json)
  | [] => [(key, value)]
  | (other, stored) :: rest =>
      if key = other then (key, value) :: rest
      else if compare key other = .lt then (key, value) :: (other, stored) :: rest
      else (other, stored) :: insertField key value rest

/-- `json!({..})`, or a `serde_json::Map` filled field by field. -/
def object (fields : List (String × Json)) : Json :=
  .obj (fields.foldl (fun map field => insertField field.1 field.2 map) [])

def isNull : Json → Bool
  | .null => true
  | _ => false

def isObject : Json → Bool
  | .obj _ => true
  | _ => false

def isArray : Json → Bool
  | .arr _ => true
  | _ => false

/-- `Value::get` with a key: nothing unless the value is an object. -/
def get (value : Json) (key : String) : Option Json :=
  match value with
  | .obj fields => fields.lookup key
  | _ => none

/-- `value[key]` as a read: a missing field reads as null. -/
def field (value : Json) (key : String) : Json :=
  (value.get key).getD .null

/-- `value[key] = entry`; the callers pass an object. -/
def set (value : Json) (key : String) (entry : Json) : Json :=
  match value with
  | .obj fields => .obj (insertField key entry fields)
  | .null => .obj [(key, entry)]
  | other => other

def asStr : Json → Option String
  | .str text => some text
  | _ => none

def asArray : Json → Option (List Json)
  | .arr items => some items
  | _ => none

def asBool : Json → Option Bool
  | .bool value => some value
  | _ => none

/-- `Value::as_i64`. -/
def asI64 : Json → Option Int
  | .int value => if -2 ^ 63 ≤ value ∧ value < 2 ^ 63 then some value else none
  | _ => none

def ofOption (encode : α → Json) : Option α → Json
  | some value => encode value
  | none => .null

/-- A field under `skip_serializing_if = "Option::is_none"`. -/
def presentField (key : String) (encode : α → Json) : Option α → List (String × Json)
  | some value => [(key, encode value)]
  | none => []

def ofStringMap (entries : List (String × String)) : Json :=
  object (entries.map fun entry => (entry.1, .str entry.2))

def hexDigit (digit : Nat) : Char :=
  if digit < 10 then Char.ofNat (48 + digit) else Char.ofNat (87 + digit)

/-- One character of a string as serde_json writes it. -/
def escapeChar (ch : Char) : List Char :=
  if ch = '"' then ['\\', '"']
  else if ch = '\\' then ['\\', '\\']
  else if ch.toNat = 8 then ['\\', 'b']
  else if ch.toNat = 9 then ['\\', 't']
  else if ch.toNat = 10 then ['\\', 'n']
  else if ch.toNat = 12 then ['\\', 'f']
  else if ch.toNat = 13 then ['\\', 'r']
  else if ch.toNat < 32 then
    ['\\', 'u', '0', '0', hexDigit (ch.toNat / 16), hexDigit (ch.toNat % 16)]
  else [ch]

def quote (text : String) : String :=
  "\"" ++ String.ofList (text.toList.flatMap escapeChar) ++ "\""

mutual

/-- `serde_json::to_writer`: compact, fields in the order of their keys. -/
def compact : Json → String
  | .null => "null"
  | .bool value => if value then "true" else "false"
  | .int value => toString value
  | .float literal => literal
  | .str text => quote text
  | .arr items => "[" ++ joinText "," (compactItems items) ++ "]"
  | .obj fields => "\x7b" ++ joinText "," (compactFields fields) ++ "\x7d"

def compactItems : List Json → List String
  | [] => []
  | item :: rest => compact item :: compactItems rest

def compactFields : List (String × Json) → List String
  | [] => []
  | (key, value) :: rest => (quote key ++ ":" ++ compact value) :: compactFields rest

end

mutual

/-- `Value::eq`. -/
def same : Json → Json → Bool
  | .null, .null => true
  | .bool left, .bool right => left = right
  | .int left, .int right => left = right
  | .float left, .float right => left = right
  | .str left, .str right => left = right
  | .arr left, .arr right => sameItems left right
  | .obj left, .obj right => sameFields left right
  | _, _ => false

def sameItems : List Json → List Json → Bool
  | [], [] => true
  | left :: lefts, right :: rights => same left right && sameItems lefts rights
  | _, _ => false

def sameFields : List (String × Json) → List (String × Json) → Bool
  | [], [] => true
  | (key, left) :: lefts, (other, right) :: rights =>
      key = other && same left right && sameFields lefts rights
  | _, _ => false

end

mutual

theorem same_iff : ∀ left right : Json, same left right = true ↔ left = right
  | .null, right => by cases right <;> simp [same]
  | .bool _, right => by cases right <;> simp [same]
  | .int _, right => by cases right <;> simp [same]
  | .float _, right => by cases right <;> simp [same]
  | .str _, right => by cases right <;> simp [same]
  | .arr left, right => by cases right <;> simp [same, sameItems_iff left]
  | .obj left, right => by cases right <;> simp [same, sameFields_iff left]

theorem sameItems_iff : ∀ left right : List Json, sameItems left right = true ↔ left = right
  | [], right => by cases right <;> simp [sameItems]
  | left :: lefts, right => by
      cases right <;> simp [sameItems, same_iff left, sameItems_iff lefts]

theorem sameFields_iff :
    ∀ left right : List (String × Json), sameFields left right = true ↔ left = right
  | [], right => by cases right <;> simp [sameFields]
  | (key, left) :: lefts, right => by
      cases right <;> simp [sameFields, same_iff left, sameFields_iff lefts, Prod.ext_iff]

end

instance : DecidableEq Json := fun left right =>
  decidable_of_iff (same left right = true) (same_iff left right)

theorem lookup_field (key query : String) (value : Json) (rest : List (String × Json)) :
    ((key, value) :: rest).lookup query =
      if query = key then some value else rest.lookup query := by
  by_cases asked : query = key
  · simp [asked]
  · have unequal : (query == key) = false := beq_eq_false_iff_ne.mpr asked
    simp only [List.lookup_cons, unequal, asked, if_false]

theorem lookup_insertField (key query : String) (value : Json) (fields : List (String × Json)) :
    (insertField key value fields).lookup query =
      if query = key then some value else fields.lookup query := by
  induction fields with
  | nil => rw [insertField, lookup_field]
  | cons entry rest ih =>
      obtain ⟨other, stored⟩ := entry
      rw [insertField]
      split
      next same =>
        subst same
        rw [lookup_field, lookup_field]
        split <;> rfl
      next different =>
        split
        · rw [lookup_field]
        · rw [lookup_field, lookup_field, ih]
          by_cases asked : query = key
          · simp [asked, different]
          · simp [asked]

theorem lookup_foldl_insertField (query : String) (fields start : List (String × Json)) :
    (fields.foldl (fun map field => insertField field.1 field.2 map) start).lookup query =
      (fields.reverse.lookup query).or (start.lookup query) := by
  induction fields generalizing start with
  | nil => simp
  | cons entry rest ih =>
      rw [List.foldl_cons, ih, lookup_insertField, List.reverse_cons, List.lookup_append,
        Option.or_assoc, lookup_field]
      by_cases asked : query = entry.1 <;> simp [asked]

/-- Of several values given for a key, the last one stays. -/
@[simp] theorem get_object (fields : List (String × Json)) (key : String) :
    (object fields).get key = fields.reverse.lookup key := by
  simp [object, get, lookup_foldl_insertField]

@[simp] theorem isObject_object (fields : List (String × Json)) :
    (object fields).isObject = true := rfl

@[simp] theorem isObject_set (value : Json) (key : String) (entry : Json)
    (shape : value.isObject = true) : (value.set key entry).isObject = true := by
  cases value <;> simp_all [isObject, set]

theorem get_set (value : Json) (key query : String) (entry : Json)
    (shape : value.isObject = true) :
    (value.set key entry).get query = if query = key then some entry else value.get query := by
  cases value with
  | obj fields => exact lookup_insertField key query entry fields
  | null | bool | int | float | str | arr => cases shape

/-- What an object holds is smaller than the object. -/
theorem sizeOf_get {value child : Json} {key : String} (found : value.get key = some child) :
    sizeOf child < sizeOf value := by
  cases value with
  | obj fields =>
      obtain ⟨before, after, rfl, -⟩ := List.lookup_eq_some_iff.mp found
      have member : (key, child) ∈ before ++ (key, child) :: after := by simp
      have smaller := List.sizeOf_lt_of_mem member
      simp only [Prod.mk.sizeOf_spec] at smaller
      simp only [Json.obj.sizeOf_spec]
      omega
  | null | bool | int | float | str | arr => cases found

end Json

end LakeCat
