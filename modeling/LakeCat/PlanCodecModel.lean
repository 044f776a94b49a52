import LakeCat.PlanTokens

/-!
An implementation of the codec behind plan tokens: hexadecimal in lower case,
and payloads as numbers under a pairing. It shows that what is documented of the
crates can hold together.
-/

namespace LakeCat

section Hexadecimal

/-- The value of a digit, in either case. -/
def nibble (ch : Char) : Option Nat :=
  (List.range 16).find? fun digit =>
    Json.hexDigit digit = ch || (Json.hexDigit digit).toUpper = ch

def hexText (bytes : List UInt8) : String :=
  String.ofList (bytes.flatMap fun byte =>
    [Json.hexDigit (byte.toNat / 16), Json.hexDigit (byte.toNat % 16)])

def hexBytes : List Char → Option (List UInt8)
  | [] => some []
  | [_] => none
  | high :: low :: rest => do
      let high ← nibble high
      let low ← nibble low
      let others ← hexBytes rest
      return UInt8.ofNat (16 * high + low) :: others

theorem nibble_hexDigit (digit : Nat) (small : digit < 16) :
    nibble (Json.hexDigit digit) = some digit := by
  have table : ∀ digit : Fin 16, nibble (Json.hexDigit digit) = some digit.val := by decide
  exact table ⟨digit, small⟩

theorem hexDigit_isLowerHex (digit : Nat) (small : digit < 16) :
    isLowerHex (Json.hexDigit digit) = true := by
  have table : ∀ digit : Fin 16, isLowerHex (Json.hexDigit digit) = true := by decide
  exact table ⟨digit, small⟩

/-- A lower-case digit is written one way only. -/
theorem hexDigit_nibble {ch : Char} {digit : Nat} (found : nibble ch = some digit)
    (lower : isLowerHex ch = true) : digit < 16 ∧ Json.hexDigit digit = ch := by
  have small : digit < 16 := List.mem_range.mp (List.mem_of_find?_eq_some found)
  have table : ∀ digit : Fin 16, isLowerHex (Json.hexDigit digit).toUpper = true →
      (Json.hexDigit digit).toUpper = Json.hexDigit digit := by decide
  refine ⟨small, ?_⟩
  have spelled := List.find?_some found
  simp only [Bool.or_eq_true, decide_eq_true_eq] at spelled
  rcases spelled with same | upper
  · exact same
  · rw [← upper]
    exact (table ⟨digit, small⟩ (upper ▸ lower)).symm

theorem hexBytes_hexText (bytes : List UInt8) : hexBytes (hexText bytes).toList = some bytes := by
  rw [hexText, String.toList_ofList]
  induction bytes with
  | nil => rfl
  | cons byte rest ih =>
      have size := byte.toNat_lt
      have whole : 16 * (byte.toNat / 16) + byte.toNat % 16 = byte.toNat := by omega
      simp only [List.flatMap_cons, List.cons_append, List.nil_append, hexBytes,
        nibble_hexDigit (byte.toNat / 16) (by omega),
        nibble_hexDigit (byte.toNat % 16) (by omega), ih, Option.bind_eq_bind,
        Option.bind_some, Option.pure_def, whole, UInt8.ofNat_toNat]

theorem hexText_isLowercaseHex (bytes : List UInt8) : isLowercaseHex (hexText bytes) = true := by
  rw [isLowercaseHex, hexText, String.toList_ofList, List.all_flatMap]
  refine List.all_eq_true.mpr fun byte _ => ?_
  have size := byte.toNat_lt
  simp [hexDigit_isLowerHex (byte.toNat / 16) (by omega),
    hexDigit_isLowerHex (byte.toNat % 16) (by omega)]

theorem hexText_hexBytes (chars : List Char) (bytes : List UInt8)
    (read : hexBytes chars = some bytes) (lower : chars.all isLowerHex = true) :
    hexText bytes = String.ofList chars := by
  induction chars using hexBytes.induct generalizing bytes with
  | case1 =>
      obtain rfl := Option.some.inj read
      rfl
  | case2 => cases read
  | case3 high low rest ih =>
      simp only [List.all_cons, Bool.and_eq_true] at lower
      obtain ⟨highLower, lowLower, restLower⟩ := lower
      simp only [hexBytes, Option.bind_eq_bind, Option.bind_eq_some_iff, Option.pure_def,
        Option.some.injEq] at read
      obtain ⟨first, firstRead, second, secondRead, others, othersRead, rfl⟩ := read
      obtain ⟨firstSmall, firstDigit⟩ := hexDigit_nibble firstRead highLower
      obtain ⟨secondSmall, secondDigit⟩ := hexDigit_nibble secondRead lowLower
      have tail := congrArg String.toList (ih others othersRead restLower)
      rw [hexText, String.toList_ofList, String.toList_ofList] at tail
      have byte : (UInt8.ofNat (16 * first + second)).toNat = 16 * first + second := by
        rw [UInt8.toNat_ofNat']
        omega
      have quotient : (16 * first + second) / 16 = first := by omega
      have remainder : (16 * first + second) % 16 = second := by omega
      rw [hexText, List.flatMap_cons, tail, byte, quotient, remainder, firstDigit, secondDigit]
      rfl

end Hexadecimal

section Payloads

def textNumber (text : String) : Nat :=
  Encodable.encode (text.toList.map Char.toNat)

theorem textNumber_injective : Function.Injective textNumber := by
  intro first second same
  have codes := Encodable.encode_injective same
  have chars := List.map_injective_iff.mpr (fun (left right : Char) equal =>
    Char.toNat_inj.mp equal) codes
  exact String.toList_inj.mp chars

mutual

def Json.number : Json → Nat
  | .null => Nat.pair 0 0
  | .bool value => Nat.pair 1 (Encodable.encode value)
  | .int value => Nat.pair 2 (Encodable.encode value)
  | .float literal => Nat.pair 3 (textNumber literal)
  | .str text => Nat.pair 4 (textNumber text)
  | .arr items => Nat.pair 5 (itemsNumber items)
  | .obj fields => Nat.pair 6 (fieldsNumber fields)

def itemsNumber : List Json → Nat
  | [] => 0
  | item :: rest => Nat.pair item.number (itemsNumber rest) + 1

def fieldsNumber : List (String × Json) → Nat
  | [] => 0
  | (key, value) :: rest =>
      Nat.pair (Nat.pair (textNumber key) value.number) (fieldsNumber rest) + 1

end

mutual

theorem Json.number_inj : ∀ left right : Json, left.number = right.number → left = right
  | .null, right => by cases right <;> simp [Json.number, Nat.pair_eq_pair]
  | .bool _, right => by cases right <;> simp [Json.number, Nat.pair_eq_pair]
  | .int _, right => by cases right <;> simp [Json.number, Nat.pair_eq_pair]
  | .float _, right => by
      cases right <;> simp [Json.number, Nat.pair_eq_pair, textNumber_injective.eq_iff]
  | .str _, right => by
      cases right <;> simp [Json.number, Nat.pair_eq_pair, textNumber_injective.eq_iff]
  | .arr left, right => by
      cases right <;> simp [Json.number, Nat.pair_eq_pair]
      exact itemsNumber_inj left _
  | .obj left, right => by
      cases right <;> simp [Json.number, Nat.pair_eq_pair]
      exact fieldsNumber_inj left _

theorem itemsNumber_inj :
    ∀ left right : List Json, itemsNumber left = itemsNumber right → left = right
  | [], right => by cases right <;> simp [itemsNumber]
  | item :: rest, right => by
      cases right with
      | nil => simp [itemsNumber]
      | cons other others =>
          simp only [itemsNumber, Nat.add_right_cancel_iff, Nat.pair_eq_pair, List.cons.injEq]
          exact And.imp (Json.number_inj item other) (itemsNumber_inj rest others)

theorem fieldsNumber_inj :
    ∀ left right : List (String × Json), fieldsNumber left = fieldsNumber right → left = right
  | [], right => by cases right <;> simp [fieldsNumber]
  | (key, value) :: rest, right => by
      cases right with
      | nil => simp [fieldsNumber]
      | cons entry others =>
          obtain ⟨other, stored⟩ := entry
          simp only [fieldsNumber, Nat.add_right_cancel_iff, Nat.pair_eq_pair, List.cons.injEq,
            Prod.mk.injEq]
          exact And.imp (And.imp (fun same => textNumber_injective same)
            (Json.number_inj value stored)) (fieldsNumber_inj rest others)

end

def EncodedPlanTask.number (task : EncodedPlanTask) : Nat :=
  Nat.pair (textNumber task.table) (Nat.pair (textNumber task.kind)
    (Nat.pair (Encodable.encode task.snapshotId) (Nat.pair (textNumber task.path)
      (Nat.pair (Encodable.encode (task.projection.map textNumber))
        (itemsNumber task.filters)))))

theorem EncodedPlanTask.number_inj {left right : EncodedPlanTask}
    (same : left.number = right.number) : left = right := by
  simp only [number, Nat.pair_eq_pair, textNumber_injective.eq_iff,
    Encodable.encode_injective.eq_iff,
    (List.map_injective_iff.mpr textNumber_injective).eq_iff] at same
  obtain ⟨table, kind, snapshotId, path, projection, filters⟩ := same
  have sameFilters := itemsNumber_inj _ _ filters
  cases left
  cases right
  simp_all

/-- As many bytes as the number says. -/
def payloadBytes (task : EncodedPlanTask) : List UInt8 :=
  List.replicate task.number 0

theorem payloadBytes_inj {left right : EncodedPlanTask}
    (same : payloadBytes left = payloadBytes right) : left = right := by
  have lengths := congrArg List.length same
  rw [payloadBytes, payloadBytes, List.length_replicate, List.length_replicate] at lengths
  exact EncodedPlanTask.number_inj lengths

open Classical in
noncomputable def payloadOf (bytes : List UInt8) : Except String EncodedPlanTask :=
  if found : ∃ task, payloadBytes task = bytes then .ok found.choose
  else .error "expected a plan task"

theorem payloadOf_payloadBytes (task : EncodedPlanTask) :
    payloadOf (payloadBytes task) = .ok task := by
  have found : ∃ other, payloadBytes other = payloadBytes task := ⟨task, rfl⟩
  rw [payloadOf, dif_pos found]
  exact congrArg Except.ok (payloadBytes_inj found.choose_spec)

end Payloads

@[reducible] noncomputable def modelCodec : PlanCodec where
  configuredKey := some [7]
  hmacSha256 key bytes := key ++ bytes
  hexEncode := hexText
  hexDecode text := hexBytes text.toList
  toVec := payloadBytes
  fromSlice := payloadOf

theorem modelCodec_documented : @PlanCodec.Documented modelCodec := by
  let _ := modelCodec
  constructor
  · exact hexText_isLowercaseHex
  · exact hexBytes_hexText
  · intro text bytes read lower
    exact (hexText_hexBytes text.toList bytes read lower).trans String.ofList_toList
  · exact payloadOf_payloadBytes

end LakeCat
