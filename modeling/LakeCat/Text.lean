import Mathlib

/-!
The `str` and `char` operations of Rust's standard library that the catalog
uses. Text is a sequence of Unicode scalar values; a length is the number of
bytes of its UTF-8 encoding, as `str::len` counts.
-/

namespace LakeCat

/-- `char::is_whitespace`: the Unicode property `White_Space`. -/
def isWhitespace (ch : Char) : Bool :=
  let code := ch.toNat
  (0x09 ≤ code && code ≤ 0x0d) || code = 0x20 || code = 0x85 || code = 0xa0 || code = 0x1680 ||
    (0x2000 ≤ code && code ≤ 0x200a) || code = 0x2028 || code = 0x2029 || code = 0x202f ||
    code = 0x205f || code = 0x3000

/-- `text.trim().is_empty()`. -/
def isBlank (text : String) : Bool :=
  text.toList.all isWhitespace

/-- `text.trim()`. -/
def trimText (text : String) : String :=
  String.ofList
    ((text.toList.dropWhile isWhitespace).reverse.dropWhile isWhitespace).reverse

/-- `char::is_ascii_alphanumeric`. -/
def isAsciiAlphanumeric (ch : Char) : Bool :=
  ('0' ≤ ch && ch ≤ '9') || ('A' ≤ ch && ch ≤ 'Z') || ('a' ≤ ch && ch ≤ 'z')

/-- `u8::is_ascii_hexdigit`; no byte of a multi-byte character is a digit. -/
def isAsciiHexdigit (ch : Char) : Bool :=
  ('0' ≤ ch && ch ≤ '9') || ('A' ≤ ch && ch ≤ 'F') || ('a' ≤ ch && ch ≤ 'f')

/-- `char::is_control`: the Unicode category `Cc`. -/
def isControl (ch : Char) : Bool :=
  ch.toNat ≤ 0x1f || (0x7f ≤ ch.toNat && ch.toNat ≤ 0x9f)

/-- `str::to_ascii_lowercase`. -/
def toAsciiLowercase (text : String) : String :=
  String.ofList (text.toList.map fun ch =>
    if 'A' ≤ ch && ch ≤ 'Z' then Char.ofNat (ch.toNat + 32) else ch)

/-- `str::starts_with`. -/
def startsWith (text head : String) : Bool :=
  head.toList.isPrefixOf text.toList

/-- `str::ends_with` for one character. -/
def endsWithChar (text : String) (last : Char) : Bool :=
  text.toList.getLast? = some last

/-- `str::strip_prefix`. -/
def stripHead (text head : String) : Option String :=
  if startsWith text head then some (String.ofList (text.toList.drop head.toList.length)) else none

/-- `str::contains` for a string. -/
def containsText (text part : String) : Bool :=
  text.toList.tails.any fun rest => part.toList.isPrefixOf rest

/-- `str::contains` for an array of characters. -/
def containsAny (text : String) (chars : List Char) : Bool :=
  text.toList.any fun ch => chars.contains ch

/-- The pieces between the separators, as `str::split` yields them. -/
def splitChars (isSeparator : Char → Bool) : List Char → List (List Char)
  | [] => [[]]
  | ch :: rest =>
      if isSeparator ch then [] :: splitChars isSeparator rest
      else match splitChars isSeparator rest with
        | [] => [[ch]]
        | piece :: pieces => (ch :: piece) :: pieces

def splitText (text : String) (separator : Char) : List String :=
  (splitChars (fun ch => ch = separator) text.toList).map String.ofList

/-- `str::split_once` for an array of characters, first half, or the whole text. -/
def beforeAny (text : String) (chars : List Char) : String :=
  String.ofList (text.toList.takeWhile fun ch => !chars.contains ch)

/-- `parts.join(separator)`. -/
def joinText (separator : String) (parts : List String) : String :=
  separator.intercalate parts

theorem startsWith_append (head rest : String) : startsWith (head ++ rest) head = true := by
  simp [startsWith, List.isPrefixOf_iff_prefix]

theorem startsWith_iff (text head : String) :
    startsWith text head = true ↔ ∃ rest, text = head ++ rest := by
  constructor
  · intro found
    obtain ⟨rest, same⟩ := List.isPrefixOf_iff_prefix.mp found
    exact ⟨String.ofList rest, String.ext (by simpa using same.symm)⟩
  · rintro ⟨rest, rfl⟩
    exact startsWith_append head rest

@[simp] theorem stripHead_append (head rest : String) : stripHead (head ++ rest) head = some rest := by
  simp [stripHead, startsWith_append]

theorem stripHead_some {text head rest : String} (stripped : stripHead text head = some rest) :
    text = head ++ rest := by
  unfold stripHead at stripped
  split at stripped
  next headed =>
    obtain ⟨tail, rfl⟩ := (startsWith_iff text head).mp headed
    obtain rfl := Option.some.inj stripped
    simp
  next => cases stripped

def digitsValue (digits : List Char) : Option Nat :=
  if digits = [] ∨ ¬digits.all Char.isDigit then none
  else some (digits.foldl (fun value digit => 10 * value + (digit.toNat - 48)) 0)

/-- `str::parse::<i64>`. -/
def parseI64 (text : String) : Option Int := do
  let value : Int ← match text.toList with
    | '-' :: digits => (digitsValue digits).map fun value => -(value : Int)
    | '+' :: digits => (digitsValue digits).map fun value => (value : Int)
    | digits => (digitsValue digits).map fun value => (value : Int)
  if -2 ^ 63 ≤ value ∧ value < 2 ^ 63 then some value else none

/-- `str::parse::<u64>`, which takes a leading plus sign. -/
def parseU64 (text : String) : Option Nat :=
  let digits := if text.toList.head? = some '+' then text.toList.tail else text.toList
  (digitsValue digits).filter fun value => value < 2 ^ 64

end LakeCat
