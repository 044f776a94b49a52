import LakeCat.StoreHelpers

/-!
Names as their constructors make them, and the keys built from them. A name
has no colon and no unit separator, so a key splits back into what it was
built from; the dotted path of a namespace does not.
-/

namespace LakeCat

open Fallible

/-- Made of the characters that a name may have. -/
def IsNameText (text : String) : Prop :=
  ∀ ch ∈ text.toList, isNameChar ch = true

def WarehouseName.Made (name : WarehouseName) : Prop :=
  ∃ value, WarehouseName.new value = .ok name

def TableName.Made (name : TableName) : Prop :=
  ∃ value, TableName.new value = .ok name

def Namespace.Made (name : Namespace) : Prop :=
  ∃ parts, Namespace.new parts = .ok name

structure TableIdent.Made (ident : TableIdent) : Prop where
  warehouse : ident.warehouse.Made
  ns : ident.ns.Made
  name : ident.name.Made

theorem validateName_ok (kind value : String) (done : Unit) :
    validateName kind value = .ok done ↔ value.toList ≠ [] ∧ IsNameText value := by
  simp only [validateName, bind_unit_eq_ok, rejectIf_ok, IsNameText, List.all_eq_true, not_not,
    ne_eq]

theorem WarehouseName.Made.text {name : WarehouseName} (made : name.Made) :
    IsNameText name.value := by
  obtain ⟨value, built⟩ := made
  simp only [WarehouseName.new, bind_eq_ok, validateName_ok, exists_unit, pure_eq,
    Except.ok.injEq] at built
  obtain ⟨⟨_, text⟩, rfl⟩ := built
  exact text

theorem TableName.Made.text {name : TableName} (made : name.Made) : IsNameText name.value := by
  obtain ⟨value, built⟩ := made
  simp only [TableName.new, bind_eq_ok, validateName_ok, exists_unit, pure_eq,
    Except.ok.injEq] at built
  obtain ⟨⟨_, text⟩, rfl⟩ := built
  exact text

theorem Namespace.Made.text {name : Namespace} (made : name.Made) :
    ∀ part ∈ name.parts, IsNameText part := by
  obtain ⟨parts, built⟩ := made
  simp only [Namespace.new, bind_eq_ok, checkEach_ok, validateName_ok, exists_unit, pure_eq,
    Except.ok.injEq] at built
  obtain ⟨_, each, rfl⟩ := built
  exact fun part member => (each part member).2

theorem IsNameText.colon {text : String} (named : IsNameText text) : ':' ∉ text.toList :=
  fun member => absurd (named ':' member) (by decide)

theorem IsNameText.separator {text : String} (named : IsNameText text) :
    '\x1f' ∉ text.toList :=
  fun member => absurd (named '\x1f' member) (by decide)

theorem append_separator_inj {separator : Char} {first second firstRest secondRest : List Char}
    (firstFree : separator ∉ first) (secondFree : separator ∉ second)
    (same : first ++ separator :: firstRest = second ++ separator :: secondRest) :
    first = second ∧ firstRest = secondRest := by
  induction first generalizing second with
  | nil =>
      cases second with
      | nil => exact ⟨rfl, (List.cons.inj same).2⟩
      | cons ch _ =>
          rw [(List.cons.inj same).1] at secondFree
          exact absurd List.mem_cons_self secondFree
  | cons ch rest ih =>
      cases second with
      | nil =>
          rw [← (List.cons.inj same).1] at firstFree
          exact absurd List.mem_cons_self firstFree
      | cons other others =>
          obtain ⟨rfl, tails⟩ := List.cons.inj same
          obtain ⟨rfl, rests⟩ := ih (fun member => firstFree (List.mem_cons_of_mem _ member))
            (fun member => secondFree (List.mem_cons_of_mem _ member)) tails
          exact ⟨rfl, rests⟩

theorem isNameText_path {ns : Namespace} (named : ∀ part ∈ ns.parts, IsNameText part) :
    IsNameText ns.path := by
  rw [Namespace.path, joinText]
  generalize ns.parts = parts at named
  intro ch member
  rw [String.toList_intercalate] at member
  induction parts with
  | nil => simp at member
  | cons part rest ih =>
      cases rest with
      | nil =>
          rw [List.map_singleton, List.intercalate_singleton] at member
          exact named part (by simp) ch member
      | cons next others =>
          rw [List.map_cons, List.map_cons, List.intercalate_cons_cons, List.mem_append,
            List.mem_append] at member
          rcases member with (own | dot) | later
          · exact named part (by simp) ch own
          · have same : ch = '.' := by simpa using dot
            rw [same]
            decide
          · exact ih (fun other also => named other (by simp [also])) later

/-- The storage key after its version, as a list of characters. -/
def storageChars : List String → List Char
  | [] => []
  | part :: rest =>
      ':' :: (toString part.utf8ByteSize).toList ++ ':' :: (part.toList ++ storageChars rest)

theorem storageKey_toList (ns : Namespace) :
    ns.storageKey.toList = "v1".toList ++ storageChars ns.parts := by
  have whole (key : String) : (ns.parts.foldl
      (fun key part => key ++ ":" ++ toString part.utf8ByteSize ++ ":" ++ part) key).toList =
      key.toList ++ storageChars ns.parts := by
    generalize ns.parts = parts
    induction parts generalizing key with
    | nil => simp [storageChars]
    | cons part rest ih =>
        rw [List.foldl_cons, ih]
        simp [storageChars]
  exact whole "v1"

theorem digits_of_mem {n : Nat} {ch : Char} (member : ch ∈ (toString n).toList) :
    ch.isDigit = true := by
  have digit : ch ∈ Nat.toDigits 10 n := by simpa using member
  exact Nat.isDigit_of_mem_toDigits (by decide) (by decide) digit

theorem storageChars_separator (parts : List String) (named : ∀ part ∈ parts, IsNameText part) :
    '\x1f' ∉ storageChars parts := by
  induction parts with
  | nil => simp [storageChars]
  | cons part rest ih =>
      intro member
      simp only [storageChars, List.cons_append, List.mem_cons, List.mem_append] at member
      rcases member with colon | digits | colon | own | later
      · exact absurd colon (by decide)
      · exact absurd (digits_of_mem digits) (by decide)
      · exact absurd colon (by decide)
      · exact (named part (by simp)).separator own
      · exact ih (fun other also => named other (by simp [also])) later

/-- Text before the first colon, of two that agree, when each ends or goes on with a colon. -/
theorem append_inj_of_colon {first second firstRest secondRest : List Char}
    (firstFree : ':' ∉ first) (secondFree : ':' ∉ second)
    (firstEnds : firstRest = [] ∨ ∃ tail, firstRest = ':' :: tail)
    (secondEnds : secondRest = [] ∨ ∃ tail, secondRest = ':' :: tail)
    (same : first ++ firstRest = second ++ secondRest) :
    first = second ∧ firstRest = secondRest := by
  rcases firstEnds with rfl | ⟨firstTail, rfl⟩
  · rcases secondEnds with rfl | ⟨secondTail, rfl⟩
    · simpa using same
    · refine absurd ?_ firstFree
      rw [List.append_nil] at same
      rw [same]
      simp
  · rcases secondEnds with rfl | ⟨secondTail, rfl⟩
    · refine absurd ?_ secondFree
      rw [List.append_nil] at same
      rw [← same]
      simp
    · obtain ⟨front, back⟩ := append_separator_inj firstFree secondFree same
      exact ⟨front, by rw [back]⟩

theorem storageChars_ends (parts : List String) :
    storageChars parts = [] ∨ ∃ tail, storageChars parts = ':' :: tail := by
  cases parts with
  | nil => exact .inl rfl
  | cons part rest => exact .inr ⟨_, rfl⟩

/-- The length and the colon after it keep the components apart. -/
theorem storageChars_injective {parts others : List String}
    (named : ∀ part ∈ parts, IsNameText part) (otherNamed : ∀ part ∈ others, IsNameText part)
    (same : storageChars parts = storageChars others) : parts = others := by
  induction parts generalizing others with
  | nil =>
      cases others with
      | nil => rfl
      | cons other rest => simp [storageChars] at same
  | cons part rest ih =>
      cases others with
      | nil => simp [storageChars] at same
      | cons other otherRest =>
          have free (n : Nat) : ':' ∉ (toString n).toList :=
            fun member => absurd (digits_of_mem member) (by decide)
          have inner := (List.cons.inj same).2
          obtain ⟨_, after⟩ := append_separator_inj (free _) (free _) inner
          obtain ⟨own, tails⟩ := append_inj_of_colon (named part (by simp)).colon
            (otherNamed other (by simp)).colon (storageChars_ends rest)
            (storageChars_ends otherRest) after
          rw [String.toList_inj.mp own, ih (fun item also => named item (by simp [also]))
            (fun item also => otherNamed item (by simp [also])) tails]

theorem storageKey_injective {ns other : Namespace} (made : ns.Made) (otherMade : other.Made)
    (same : ns.storageKey = other.storageKey) : ns = other := by
  have chars := congrArg String.toList same
  rw [storageKey_toList, storageKey_toList, List.append_cancel_left_eq] at chars
  obtain ⟨parts⟩ := ns
  obtain ⟨otherParts⟩ := other
  exact congrArg Namespace.mk (storageChars_injective made.text otherMade.text chars)

theorem storageKey_separator {ns : Namespace} (made : ns.Made) :
    '\x1f' ∉ ns.storageKey.toList := by
  rw [storageKey_toList, List.mem_append, not_or]
  exact ⟨by decide, storageChars_separator ns.parts made.text⟩

theorem viewKeyParts_toList (warehouse : WarehouseName) (ns : Namespace) (name : TableName) :
    (viewKeyParts warehouse ns name).toList =
      warehouse.value.toList ++ '\x1f' :: (ns.storageKey.toList ++ '\x1f' :: name.value.toList) := by
  simp [viewKeyParts, unitSeparator]

/-- The key of a table or a view has its identity. -/
theorem viewKeyParts_injective {warehouse otherWarehouse : WarehouseName} {ns otherNs : Namespace}
    {name otherName : TableName} (made : warehouse.Made) (otherMade : otherWarehouse.Made)
    (nsMade : ns.Made) (otherNsMade : otherNs.Made)
    (same : viewKeyParts warehouse ns name = viewKeyParts otherWarehouse otherNs otherName) :
    warehouse = otherWarehouse ∧ ns = otherNs ∧ name = otherName := by
  have chars := congrArg String.toList same
  rw [viewKeyParts_toList, viewKeyParts_toList] at chars
  obtain ⟨first, rest⟩ := append_separator_inj made.text.separator otherMade.text.separator chars
  obtain ⟨second, third⟩ := append_separator_inj (storageKey_separator nsMade)
    (storageKey_separator otherNsMade) rest
  refine ⟨?_, storageKey_injective nsMade otherNsMade (String.toList_inj.mp second), ?_⟩
  · cases warehouse
    cases otherWarehouse
    exact congrArg WarehouseName.mk (String.toList_inj.mp first)
  · cases name
    cases otherName
    exact congrArg TableName.mk (String.toList_inj.mp third)

theorem tableKey_injective {ident other : TableIdent} (made : ident.Made) (otherMade : other.Made)
    (same : tableKey ident = tableKey other) : ident = other := by
  obtain ⟨warehouse, ns, name⟩ := viewKeyParts_injective made.warehouse otherMade.warehouse made.ns
    otherMade.ns same
  cases ident
  cases other
  subst warehouse ns name
  rfl

theorem toList_colons (head first second third : String) :
    (head ++ first ++ ":" ++ second ++ ":" ++ third ++ ":").toList =
      head.toList ++ (first.toList ++ ':' :: (second.toList ++ ':' ::
        (third.toList ++ [':']))) := by
  have colon : ":".toList = [':'] := rfl
  simp only [String.toList_append, colon, List.append_assoc, List.cons_append, List.nil_append]

theorem idempotencyPrefix_toList : ∃ head : List Char, ∀ ident : TableIdent,
    (idempotencyPrefix ident).toList = head ++ (ident.warehouse.value.toList ++ ':' ::
      (ident.ns.path.toList ++ ':' :: (ident.name.value.toList ++ [':']))) :=
  ⟨_, fun _ => toList_colons _ _ _ _⟩

/-- The stable ids of two views of one warehouse agree when dotted paths and names do. -/
theorem viewStableIdParts_eq_iff {warehouse : WarehouseName} {ns otherNs : Namespace}
    {name otherName : TableName} (made : ns.Made) (otherMade : otherNs.Made) :
    viewStableIdParts warehouse ns name = viewStableIdParts warehouse otherNs otherName ↔
      ns.path = otherNs.path ∧ name = otherName := by
  constructor
  · intro same
    have chars := congrArg String.toList same
    have colon : ":".toList = [':'] := rfl
    unfold viewStableIdParts at chars
    generalize "lakecat:view:" = head at chars
    simp only [String.toList_append, colon, List.append_assoc, List.cons_append, List.nil_append,
      List.append_cancel_left_eq, List.cons.injEq, true_and] at chars
    obtain ⟨path, last⟩ := append_separator_inj (isNameText_path made.text).colon
      (isNameText_path otherMade.text).colon chars
    refine ⟨String.toList_inj.mp path, ?_⟩
    cases name
    cases otherName
    exact congrArg TableName.mk (String.toList_inj.mp last)
  · rintro ⟨path, rfl⟩
    unfold viewStableIdParts
    rewrite [path]
    rfl

theorem splitChars_append (isSeparator : Char → Bool) (separator : Char)
    (separates : isSeparator separator = true) (front rest : List Char)
    (free : ∀ ch ∈ front, isSeparator ch = false) :
    splitChars isSeparator (front ++ separator :: rest) = front :: splitChars isSeparator rest := by
  induction front with
  | nil => simp [splitChars, separates]
  | cons ch others ih =>
      have head := free ch (by simp)
      rw [List.cons_append, splitChars, head, ih fun other member => free other (by simp [member])]
      rfl

theorem splitChars_free (isSeparator : Char → Bool) (text : List Char)
    (free : ∀ ch ∈ text, isSeparator ch = false) : splitChars isSeparator text = [text] := by
  induction text with
  | nil => rfl
  | cons ch others ih =>
      rw [splitChars, free ch (by simp), ih fun other member => free other (by simp [member])]
      rfl

/-- The key of a view splits into the three columns it was built from. -/
theorem splitText_viewKeyParts {warehouse : WarehouseName} {ns : Namespace} {name : TableName}
    (made : warehouse.Made) (nsMade : ns.Made) (nameMade : name.Made) :
    splitText (viewKeyParts warehouse ns name) '\x1f' =
      [warehouse.value, ns.storageKey, name.value] := by
  have free {text : List Char} (absent : '\x1f' ∉ text) (ch : Char) (member : ch ∈ text) :
      decide (ch = '\x1f') = false := by
    refine decide_eq_false fun same => absent ?_
    rw [← same]
    exact member
  rw [splitText, viewKeyParts_toList,
    splitChars_append _ '\x1f' (by decide) _ _ (free made.text.separator),
    splitChars_append _ '\x1f' (by decide) _ _ (free (storageKey_separator nsMade)),
    splitChars_free _ _ (free nameMade.text.separator)]
  simp

/-- A replay is keyed to another name exactly when that name has the same stable id. -/
theorem idempotencyRecordKey_startsWith {ident other : TableIdent} (made : ident.Made)
    (otherMade : other.Made) (key : String) :
    startsWith (idempotencyRecordKey ident key) (idempotencyPrefix other) = true ↔
      ident.stableId = other.stableId := by
  rw [startsWith_iff]
  constructor
  · rintro ⟨rest, same⟩
    have chars := congrArg String.toList same
    obtain ⟨head, built⟩ := idempotencyPrefix_toList
    rw [idempotencyRecordKey, String.toList_append, String.toList_append, built, built] at chars
    simp only [List.append_assoc, List.cons_append, List.nil_append,
      List.append_cancel_left_eq] at chars
    obtain ⟨first, inner⟩ := append_separator_inj made.warehouse.text.colon
      otherMade.warehouse.text.colon chars
    obtain ⟨second, last⟩ := append_separator_inj (isNameText_path made.ns.text).colon
      (isNameText_path otherMade.ns.text).colon inner
    obtain ⟨third, _⟩ := append_separator_inj made.name.text.colon otherMade.name.text.colon last
    unfold TableIdent.stableId
    rewrite [String.toList_inj.mp first, String.toList_inj.mp second, String.toList_inj.mp third]
    rfl
  · intro same
    exact ⟨key, by simp only [idempotencyRecordKey, idempotencyPrefix, same]⟩

end LakeCat
