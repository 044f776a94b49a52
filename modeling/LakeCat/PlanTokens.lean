import LakeCat.SailMetadata
import LakeCat.GovernedScan

/-!
Plan tasks as the strings a client holds: a payload in JSON, written in
hexadecimal behind its signature. Two older forms without a signature are read
as well.
-/

namespace LakeCat

open Fallible

structure EncodedPlanTask where
  table : String
  kind : String
  snapshotId : Int
  path : String
  projection : List String
  filters : List Json

structure DecodedPlanTask where
  raw : String
  table : Option String
  kind : String
  snapshotId : Int
  path : String
  projection : List String
  filters : List Json

/-- The crates behind a token: `serde_json` writes and reads the payload. The key is the one of
the environment, if it is set. -/
class PlanCodec where
  configuredKey : Option (List UInt8)
  hmacSha256 : List UInt8 → List UInt8 → List UInt8
  hexEncode : List UInt8 → String
  hexDecode : String → Option (List UInt8)
  toVec : EncodedPlanTask → List UInt8
  fromSlice : List UInt8 → Except String EncodedPlanTask

def isLowercaseHex (text : String) : Bool :=
  text.toList.all isLowerHex

/-- What the `hex` and `serde_json` crates document of reading back what they wrote. -/
structure PlanCodec.Documented [PlanCodec] : Prop where
  hexDigits : ∀ bytes, isLowercaseHex (PlanCodec.hexEncode bytes) = true
  hexDecode : ∀ bytes, PlanCodec.hexDecode (PlanCodec.hexEncode bytes) = some bytes
  hexEncode : ∀ text bytes, PlanCodec.hexDecode text = some bytes →
    isLowercaseHex text = true → PlanCodec.hexEncode bytes = text
  fromSlice : ∀ task : EncodedPlanTask, PlanCodec.fromSlice (PlanCodec.toVec task) = .ok task

section Splitting

/-- `str::splitn`: at most `count` pieces, the last of which is the rest. -/
def splitCharsN : Nat → Char → List Char → List (List Char)
  | 0, _, _ => []
  | 1, _, chars => [chars]
  | count + 2, separator, chars =>
      match chars.dropWhile (· ≠ separator) with
      | [] => [chars]
      | _ :: rest => chars.takeWhile (· ≠ separator) :: splitCharsN (count + 1) separator rest

def splitN (count : Nat) (text : String) (separator : Char) : List String :=
  (splitCharsN count separator text.toList).map String.ofList

end Splitting

def signedHead : String := "lakecat:sail-json-hmac:"
def structuredHead : String := "lakecat:sail-json:"

def invalidPlanTask {α : Type} (planTask : String) : LakeCatResult α :=
  .error (.invalidArgument ("invalid LakeCat/Sail plan task: " ++ planTask))

def isPlanTaskKind (kind : String) : Bool :=
  kind = "manifest-list" || kind = "incremental-manifest-list" || kind = "manifest"

section Codec

variable [PlanCodec]

def defaultPlanTaskSigningKey : List UInt8 := utf8 "lakecat-local-plan-task-signing-key-v1"

def planTaskSigningKey : List UInt8 :=
  PlanCodec.configuredKey.getD defaultPlanTaskSigningKey

def signPlanTaskPayload (bytes : List UInt8) : String :=
  PlanCodec.hexEncode (PlanCodec.hmacSha256 planTaskSigningKey bytes)

def verifyPlanTaskSignature (bytes : List UInt8) (signature : String) : LakeCatResult Unit :=
  match PlanCodec.hexDecode signature with
  | none => .error (.invalidArgument "invalid LakeCat/Sail plan task signature")
  | some tag => rejectIf (PlanCodec.hmacSha256 planTaskSigningKey bytes ≠ tag)
      (.invalidArgument "invalid LakeCat/Sail plan task signature")

/-- The token of a payload. -/
def signedToken (task : EncodedPlanTask) : String :=
  signedHead ++ signPlanTaskPayload (PlanCodec.toVec task) ++ ":" ++
    PlanCodec.hexEncode (PlanCodec.toVec task)

def encodedPlanTask (table : TableIdent) (kind : String) (snapshotId : Int) (path : String)
    (projection : List String) (filters : List Json) : EncodedPlanTask :=
  ⟨table.stableId, kind, snapshotId, path, projection, filters⟩

def opaquePlanTaskWithFilters (table : TableIdent) (kind : String) (snapshotId : Int)
    (path : String) (projection : List String) (filters : List Json) : String :=
  signedToken (encodedPlanTask table kind snapshotId path projection filters)

def decodeStructuredPlanTask (planTask : String) (bytes : List UInt8) :
    LakeCatResult DecodedPlanTask :=
  match PlanCodec.fromSlice bytes with
  | .error text => .error (.invalidArgument
      ("invalid LakeCat/Sail structured plan task payload: " ++ text))
  | .ok task =>
      if isPlanTaskKind task.kind then
        .ok ⟨planTask, some task.table, task.kind, task.snapshotId, task.path, task.projection,
          task.filters⟩
      else invalidPlanTask planTask

/-- `lakecat:sail:<kind>:<snapshot id>:<path>`, which names no table. -/
def decodeLegacyPlanTask (planTask : String) : LakeCatResult DecodedPlanTask :=
  match splitN 5 planTask ':' with
  | [head, engine, kind, snapshotId, path] =>
      if head ≠ "lakecat" ∨ engine ≠ "sail" then invalidPlanTask planTask
      else if !isPlanTaskKind kind then invalidPlanTask planTask
      else match parseI64 snapshotId with
        | some snapshotId => .ok ⟨planTask, none, kind, snapshotId, path, [], []⟩
        | none => invalidPlanTask planTask
  | _ => invalidPlanTask planTask

def decodePlanTask (planTask : String) : LakeCatResult DecodedPlanTask :=
  match stripHead planTask signedHead with
  | some rest =>
      match splitN 2 rest ':' with
      | [signature, encoded] => do
          let bytes ← okOr (PlanCodec.hexDecode encoded)
            (.invalidArgument ("invalid LakeCat/Sail signed plan task: " ++ planTask))
          verifyPlanTaskSignature bytes signature
          decodeStructuredPlanTask planTask bytes
      | _ => invalidPlanTask planTask
  | none =>
      match stripHead planTask structuredHead with
      | some encoded => do
          let bytes ← okOr (PlanCodec.hexDecode encoded)
            (.invalidArgument ("invalid LakeCat/Sail structured plan task: " ++ planTask))
          decodeStructuredPlanTask planTask bytes
      | none => decodeLegacyPlanTask planTask

/-- What decoding the token of a payload yields. -/
def EncodedPlanTask.decoded (task : EncodedPlanTask) (raw : String) : DecodedPlanTask :=
  ⟨raw, some task.table, task.kind, task.snapshotId, task.path, task.projection, task.filters⟩

end Codec

theorem splitCharsN_two (separator : Char) (first rest : List Char) (absent : separator ∉ first) :
    splitCharsN 2 separator (first ++ separator :: rest) = [first, rest] := by
  have keeps : ∀ ch ∈ first, decide (ch ≠ separator) = true := by
    intro ch member
    simpa using ne_of_mem_of_not_mem member absent
  have dropped : (first ++ separator :: rest).dropWhile (· ≠ separator) = separator :: rest := by
    rw [List.dropWhile_append_of_pos keeps]
    simp
  have taken : (first ++ separator :: rest).takeWhile (· ≠ separator) = first := by
    rw [List.takeWhile_append_of_pos keeps]
    simp
  rw [splitCharsN, dropped, taken]
  rfl

theorem isLowercaseHex_noColon {text : String} (hex : isLowercaseHex text = true) :
    ':' ∉ text.toList := by
  intro member
  have digit := List.all_eq_true.mp hex ':' member
  revert digit
  decide

theorem splitN_signed (signature encoded : String) (hex : isLowercaseHex signature = true) :
    splitN 2 (signature ++ ":" ++ encoded) ':' = [signature, encoded] := by
  have split := splitCharsN_two ':' signature.toList encoded.toList (isLowercaseHex_noColon hex)
  simp [splitN, split]

section Tokens

variable [PlanCodec]

theorem stripHead_signedToken (task : EncodedPlanTask) :
    stripHead (signedToken task) signedHead =
      some (signPlanTaskPayload (PlanCodec.toVec task) ++ ":" ++
        PlanCodec.hexEncode (PlanCodec.toVec task)) := by
  rw [signedToken, String.append_assoc, String.append_assoc, stripHead_append, String.append_assoc]

theorem verifyPlanTaskSignature_sign (documented : PlanCodec.Documented) (bytes : List UInt8) :
    verifyPlanTaskSignature bytes (signPlanTaskPayload bytes) = .ok () := by
  unfold verifyPlanTaskSignature signPlanTaskPayload
  simp only [documented.hexDecode]
  exact rejectIf_neg _ (by simp)

/-- The token of a payload decodes to the payload. -/
theorem decodePlanTask_signedToken (documented : PlanCodec.Documented) (task : EncodedPlanTask)
    (kind : isPlanTaskKind task.kind = true) :
    decodePlanTask (signedToken task) = .ok (task.decoded (signedToken task)) := by
  have signature : isLowercaseHex (signPlanTaskPayload (PlanCodec.toVec task)) = true :=
    documented.hexDigits _
  simp only [decodePlanTask, stripHead_signedToken, splitN_signed _ _ signature,
    documented.hexDecode, okOr_some, ok_bind, verifyPlanTaskSignature_sign documented,
    decodeStructuredPlanTask, documented.fromSlice, kind, if_true]
  rfl

end Tokens

end LakeCat
