import LakeCat.Json

/-!
The text of a JSON value determines the value. A text is over where what may
follow a value begins, so two texts that go on alike are texts of one value.
-/

namespace LakeCat

namespace Json

def isNumberChar (ch : Char) : Bool :=
  ch.isDigit || ch = '-' || ch = '+' || ch = '.' || ch = 'e' || ch = 'E'

/-- The text of a number that is not an integer. -/
structure IsFraction (literal : String) : Prop where
  chars : ∀ ch ∈ literal.toList, isNumberChar ch = true
  marked : '.' ∈ literal.toList ∨ 'e' ∈ literal.toList ∨ 'E' ∈ literal.toList

/-- A value as a parser makes it: no key occurs twice in an object. -/
inductive WellFormed : Json → Prop
  | null : WellFormed .null
  | bool (value : Bool) : WellFormed (.bool value)
  | int (value : Int) : WellFormed (.int value)
  | float {literal : String} (fraction : IsFraction literal) : WellFormed (.float literal)
  | str (text : String) : WellFormed (.str text)
  | arr {items : List Json} (each : ∀ item ∈ items, WellFormed item) : WellFormed (.arr items)
  | obj {fields : List (String × Json)} (distinct : (fields.map Prod.fst).Nodup)
      (each : ∀ field ∈ fields, WellFormed field.2) : WellFormed (.obj fields)

/-- What may follow a value in a text. -/
def Follows (rest : List Char) : Prop :=
  ∀ ch ∈ rest.head?, ch = ',' ∨ ch = ']' ∨ ch = '\x7d'

/-! Strings. -/

def hexValue (ch : Char) : Nat :=
  if ch.toNat < 58 then ch.toNat - 48 else ch.toNat - 87

/-- The character that an escape stands for, and what comes after it. -/
def unescape : List Char → Option (Char × List Char)
  | '\\' :: '"' :: rest => some ('"', rest)
  | '\\' :: '\\' :: rest => some ('\\', rest)
  | '\\' :: 'b' :: rest => some (Char.ofNat 8, rest)
  | '\\' :: 't' :: rest => some (Char.ofNat 9, rest)
  | '\\' :: 'n' :: rest => some (Char.ofNat 10, rest)
  | '\\' :: 'f' :: rest => some (Char.ofNat 12, rest)
  | '\\' :: 'r' :: rest => some (Char.ofNat 13, rest)
  | '\\' :: 'u' :: '0' :: '0' :: high :: low :: rest =>
      some (Char.ofNat (16 * hexValue high + hexValue low), rest)
  | ch :: rest => if ch = '\\' ∨ ch = '"' then none else some (ch, rest)
  | [] => none

theorem hexValue_hexDigit : ∀ digit < 16, hexValue (hexDigit digit) = digit := by
  decide

theorem ofNat_of_toNat {ch : Char} {code : Nat} (same : ch.toNat = code) : Char.ofNat code = ch := by
  rw [← same, Char.ofNat_toNat]

theorem unescape_escapeChar (ch : Char) (rest : List Char) :
    unescape (escapeChar ch ++ rest) = some (ch, rest) := by
  rw [escapeChar]
  split_ifs with quoted slash back tab line feed turn control
  · simp [unescape, quoted]
  · simp [unescape, slash]
  · simpa [unescape] using ofNat_of_toNat back
  · simpa [unescape] using ofNat_of_toNat tab
  · simpa [unescape] using ofNat_of_toNat line
  · simpa [unescape] using ofNat_of_toNat feed
  · simpa [unescape] using ofNat_of_toNat turn
  · have high := hexValue_hexDigit (ch.toNat / 16) (by omega)
    have low := hexValue_hexDigit (ch.toNat % 16) (by omega)
    have whole : 16 * (ch.toNat / 16) + ch.toNat % 16 = ch.toNat := by omega
    simp [unescape, high, low, whole]
  · rw [List.singleton_append, unescape.eq_def]
    split <;> simp_all

theorem escapeChar_quote (ch : Char) (rest after : List Char) :
    escapeChar ch ++ rest ≠ '"' :: after := by
  intro same
  have read := unescape_escapeChar ch rest
  rw [same] at read
  simp [unescape] at read

/-- The escaped text ends at the first quote. -/
theorem escaped_prefix {one other : List Char} {rest after : List Char}
    (same : one.flatMap escapeChar ++ '"' :: rest = other.flatMap escapeChar ++ '"' :: after) :
    one = other ∧ rest = after := by
  induction one generalizing other with
  | nil =>
      cases other with
      | nil => exact ⟨rfl, (List.cons.inj same).2⟩
      | cons ch later =>
          rw [List.flatMap_nil, List.nil_append, List.flatMap_cons, List.append_assoc] at same
          exact absurd same.symm (escapeChar_quote ch _ _)
  | cons ch later ih =>
      cases other with
      | nil =>
          rw [List.flatMap_nil, List.nil_append, List.flatMap_cons, List.append_assoc] at same
          exact absurd same (escapeChar_quote ch _ _)
      | cons otherCh otherLater =>
          rw [List.flatMap_cons, List.append_assoc, List.flatMap_cons, List.append_assoc] at same
          have read := congrArg unescape same
          rw [unescape_escapeChar, unescape_escapeChar, Option.some.injEq, Prod.mk.injEq] at read
          obtain ⟨chars, ends⟩ := ih read.2
          exact ⟨by rw [read.1, chars], ends⟩

theorem quote_toList (text : String) :
    (quote text).toList = '"' :: (text.toList.flatMap escapeChar ++ ['"']) := by
  simp [quote]

theorem quote_prefix {one other : String} {rest after : List Char}
    (same : (quote one).toList ++ rest = (quote other).toList ++ after) :
    one = other ∧ rest = after := by
  rw [quote_toList, quote_toList] at same
  simp only [List.cons_append, List.append_assoc, List.nil_append, List.cons.injEq,
    true_and] at same
  obtain ⟨chars, ends⟩ := escaped_prefix same
  exact ⟨String.toList_inj.mp chars, ends⟩

/-! Numbers. -/

theorem Follows.number {rest : List Char} (follows : Follows rest) :
    ∀ ch ∈ rest.head?, isNumberChar ch = false := by
  intro ch first
  rcases follows ch first with rfl | rfl | rfl <;> decide

/-- A text all of one kind ends where what follows is of another. -/
theorem uniform_prefix {kind : Char → Bool} {one other rest after : List Char}
    (uniform : ∀ ch ∈ one, kind ch = true) (otherUniform : ∀ ch ∈ other, kind ch = true)
    (follows : ∀ ch ∈ rest.head?, kind ch = false)
    (otherFollows : ∀ ch ∈ after.head?, kind ch = false)
    (same : one ++ rest = other ++ after) : one = other ∧ rest = after := by
  have left : (one ++ rest).takeWhile kind = one := by
    rw [List.takeWhile_append_of_pos uniform]
    cases rest with
    | nil => simp
    | cons ch later => simp [follows ch rfl]
  have right : (other ++ after).takeWhile kind = other := by
    rw [List.takeWhile_append_of_pos otherUniform]
    cases after with
    | nil => simp
    | cons ch later => simp [otherFollows ch rfl]
  have chars : one = other := by rw [← left, same, right]
  subst chars
  exact ⟨rfl, List.append_cancel_left same⟩

theorem repr_chars (count : Nat) : ∀ ch ∈ (Nat.repr count).toList, ch.isDigit = true := by
  intro ch member
  have digit : ch ∈ Nat.toDigits 10 count := by simpa using member
  exact Nat.isDigit_of_mem_toDigits (by decide) (by decide) digit

theorem negSucc_chars (count : Nat) :
    (toString (Int.negSucc count)).toList = '-' :: (Nat.repr (count + 1)).toList := by
  change (Int.repr (Int.negSucc count)).toList = _
  simp [Int.repr]

theorem int_filled (value : Int) : (toString value).toList ≠ [] := by
  cases value with
  | ofNat count =>
      change (Nat.repr count).toList ≠ []
      simp
  | negSucc count =>
      rw [negSucc_chars]
      exact List.cons_ne_nil _ _

theorem int_chars (value : Int) :
    ∀ ch ∈ (toString value).toList, ch.isDigit = true ∨ ch = '-' := by
  intro ch member
  cases value with
  | ofNat count => exact .inl (repr_chars count ch member)
  | negSucc count =>
      rw [negSucc_chars, List.mem_cons] at member
      exact member.symm.imp_left (repr_chars (count + 1) ch)

theorem int_number (value : Int) :
    ∀ ch ∈ (toString value).toList, isNumberChar ch = true := by
  intro ch member
  rcases int_chars value ch member with digit | rfl
  · simp [isNumberChar, digit]
  · decide

theorem int_injective {one other : Int} (same : toString one = toString other) : one = other :=
  Int.repr_inj.mp same

theorem int_fraction {value : Int} {literal : String} (fraction : IsFraction literal) :
    toString value ≠ literal := by
  intro same
  subst same
  have apart (mark : Char) (plain : mark.isDigit = false) (unsigned : mark ≠ '-') :
      mark ∉ (toString value).toList := by
    intro member
    rcases int_chars value mark member with digit | rfl
    · rw [plain] at digit
      cases digit
    · exact unsigned rfl
  rcases fraction.marked with member | member | member
  · exact apart '.' (by decide) (by decide) member
  · exact apart 'e' (by decide) (by decide) member
  · exact apart 'E' (by decide) (by decide) member

/-! Lists of values, each after a comma. -/

def tailText (text : α → List Char) (items : List α) : List Char :=
  items.flatMap fun item => ',' :: text item

theorem tailText_follows (text : α → List Char) (items : List α) {close : Char}
    (closes : close = ']' ∨ close = '\x7d') (rest : List Char) :
    Follows (tailText text items ++ close :: rest) := by
  intro ch first
  cases items with
  | nil => exact .inr (by simpa [tailText, ← Option.some.inj first] using closes)
  | cons item later => exact .inl (Option.some.inj first).symm

theorem tailText_prefix {text : α → List Char} {close : Char}
    (closes : close = ']' ∨ close = '\x7d') {one other : List α} {rest after : List Char}
    (each : ∀ item ∈ one, ∀ entry ∈ other, ∀ {rest after : List Char}, Follows rest →
      Follows after → text item ++ rest = text entry ++ after → item = entry ∧ rest = after)
    (same : tailText text one ++ close :: rest = tailText text other ++ close :: after) :
    one = other ∧ rest = after := by
  have apart : close ≠ ',' := by rcases closes with rfl | rfl <;> decide
  induction one generalizing other with
  | nil =>
      cases other with
      | nil => exact ⟨rfl, (List.cons.inj same).2⟩
      | cons entry later => exact absurd (List.cons.inj same).1 apart
  | cons item later ih =>
      cases other with
      | nil => exact absurd (List.cons.inj same).1.symm apart
      | cons entry others =>
          simp only [tailText, List.flatMap_cons, List.cons_append, List.append_assoc,
            List.cons.injEq, true_and] at same
          obtain ⟨head, rest⟩ := each item (by simp) entry (by simp)
            (tailText_follows text later closes _) (tailText_follows text others closes _) same
          obtain ⟨tail, ends⟩ := ih
            (fun item member entry found => each item (by simp [member]) entry (by simp [found]))
            rest
          exact ⟨by rw [head, tail], ends⟩

theorem joinText_toList (first : String) (others : List String) :
    (joinText "," (first :: others)).toList = first.toList ++ tailText String.toList others := by
  rw [joinText, String.toList_intercalate]
  induction others generalizing first with
  | nil => simp [tailText]
  | cons next later ih =>
      rw [List.map_cons, List.map_cons, List.intercalate_cons_cons, ← List.map_cons, ih]
      simp [tailText]

theorem compactItems_map (items : List Json) : compactItems items = items.map compact := by
  induction items with
  | nil => rfl
  | cons item later ih => rw [compactItems, ih, List.map_cons]

theorem compactFields_map (fields : List (String × Json)) :
    compactFields fields = fields.map fun field => quote field.1 ++ ":" ++ compact field.2 := by
  induction fields with
  | nil => rfl
  | cons field later ih => rw [compactFields, ih, List.map_cons]

def itemText (item : Json) : List Char := item.compact.toList

def fieldText (field : String × Json) : List Char :=
  (quote field.1 ++ ":" ++ field.2.compact).toList

/-- The text of a list between its brackets. -/
def listText (text : α → List Char) : List α → List Char
  | [] => []
  | item :: later => text item ++ tailText text later

theorem tailText_map (text : β → List Char) (change : α → β) (items : List α) :
    tailText text (items.map change) = tailText (fun item => text (change item)) items := by
  simp [tailText, List.flatMap_map]

theorem joinText_listText (texts : List String) :
    (joinText "," texts).toList = listText String.toList texts := by
  cases texts with
  | nil => rfl
  | cons first others => exact joinText_toList first others

theorem listText_map (text : β → List Char) (change : α → β) (items : List α) :
    listText text (items.map change) = listText (fun item => text (change item)) items := by
  cases items with
  | nil => rfl
  | cons item later => rw [List.map_cons, listText, listText, tailText_map]

theorem compact_arr (items : List Json) :
    (Json.arr items).compact.toList = '[' :: (listText itemText items ++ [']']) := by
  rw [compact, String.toList_append, String.toList_append, joinText_listText, compactItems_map,
    listText_map]
  rfl

theorem compact_obj (fields : List (String × Json)) :
    (Json.obj fields).compact.toList = '\x7b' :: (listText fieldText fields ++ ['\x7d']) := by
  rw [compact, String.toList_append, String.toList_append, joinText_listText, compactFields_map,
    listText_map]
  rfl

/-- What the first character of a text says about its value. -/
inductive Shape where
  | null
  | bool
  | number
  | str
  | arr
  | obj
  | other
  deriving DecidableEq

def shapeOf (ch : Char) : Shape :=
  if ch = 'n' then .null
  else if ch = 't' ∨ ch = 'f' then .bool
  else if ch = '"' then .str
  else if ch = '[' then .arr
  else if ch = '\x7b' then .obj
  else if isNumberChar ch then .number
  else .other

def shape : Json → Shape
  | .null => .null
  | .bool _ => .bool
  | .int _ | .float _ => .number
  | .str _ => .str
  | .arr _ => .arr
  | .obj _ => .obj

theorem shapeOf_number {ch : Char} (number : isNumberChar ch = true) : shapeOf ch = .number := by
  have differs (other : Char) (unlike : isNumberChar other = false) : ch ≠ other := by
    rintro rfl
    rw [number] at unlike
    cases unlike
  rw [shapeOf, if_neg (differs 'n' rfl), if_neg, if_neg (differs '"' rfl),
    if_neg (differs '[' rfl), if_neg (differs '\x7b' rfl), if_pos number]
  rintro (same | same)
  · exact differs 't' rfl same
  · exact differs 'f' rfl same

theorem number_head {text : String} (filled : text.toList ≠ [])
    (numbers : ∀ ch ∈ text.toList, isNumberChar ch = true) :
    ∃ ch rest, text.toList = ch :: rest ∧ shapeOf ch = .number := by
  cases chars : text.toList with
  | nil => exact absurd chars filled
  | cons ch rest => exact ⟨ch, rest, rfl, shapeOf_number (numbers ch (by simp [chars]))⟩

theorem WellFormed.head {value : Json} (wellFormed : value.WellFormed) :
    ∃ ch rest, value.compact.toList = ch :: rest ∧ shapeOf ch = value.shape := by
  cases wellFormed with
  | null => exact ⟨'n', _, rfl, by decide⟩
  | bool value => cases value <;> exact ⟨_, _, rfl, by decide⟩
  | int value => exact number_head (int_filled value) (int_number value)
  | float fraction =>
      refine number_head ?_ fraction.chars
      intro empty
      rw [compact] at empty
      have marked := fraction.marked
      rw [empty] at marked
      simp at marked
  | str text => exact ⟨'"', _, quote_toList text, rfl⟩
  | arr => exact ⟨'[', _, compact_arr _, rfl⟩
  | obj => exact ⟨'\x7b', _, compact_obj _, rfl⟩

theorem WellFormed.shape_eq {one other : Json} (wellFormed : one.WellFormed)
    (otherFormed : other.WellFormed) {rest after : List Char}
    (same : one.compact.toList ++ rest = other.compact.toList ++ after) :
    one.shape = other.shape := by
  obtain ⟨ch, later, text, shaped⟩ := wellFormed.head
  obtain ⟨otherCh, otherLater, otherText, otherShaped⟩ := otherFormed.head
  rw [text, otherText, List.cons_append, List.cons_append, List.cons.injEq] at same
  rw [← shaped, same.1, otherShaped]

theorem WellFormed.unclosed {value : Json} (wellFormed : value.WellFormed) {close : Char}
    (closes : close = ']' ∨ close = '\x7d') (rest after : List Char) :
    value.compact.toList ++ rest ≠ close :: after := by
  obtain ⟨ch, later, text, shaped⟩ := wellFormed.head
  intro same
  rw [text, List.cons_append, List.cons.injEq] at same
  rw [same.1] at shaped
  have plain : shapeOf close = .other := by rcases closes with rfl | rfl <;> decide
  rw [plain] at shaped
  cases value <;> cases shaped

/-- Two lists between brackets whose entries end where they should. -/
theorem listText_prefix {text : α → List Char} {close : Char}
    (closes : close = ']' ∨ close = '\x7d') {one other : List α} {rest after : List Char}
    (unclosed : ∀ item ∈ one, ∀ rest after, text item ++ rest ≠ close :: after)
    (otherUnclosed : ∀ item ∈ other, ∀ rest after, text item ++ rest ≠ close :: after)
    (each : ∀ item ∈ one, ∀ entry ∈ other, ∀ {rest after : List Char}, Follows rest →
      Follows after → text item ++ rest = text entry ++ after → item = entry ∧ rest = after)
    (same : listText text one ++ close :: rest = listText text other ++ close :: after) :
    one = other ∧ rest = after := by
  cases one with
  | nil =>
      cases other with
      | nil => exact ⟨rfl, (List.cons.inj same).2⟩
      | cons entry others =>
          rw [listText, listText, List.nil_append, List.append_assoc] at same
          exact absurd same.symm (otherUnclosed entry (by simp) _ _)
  | cons item later =>
      cases other with
      | nil =>
          rw [listText, listText, List.nil_append, List.append_assoc] at same
          exact absurd same (unclosed item (by simp) _ _)
      | cons entry others =>
          rw [listText, listText, List.append_assoc, List.append_assoc] at same
          obtain ⟨head, tails⟩ := each item (by simp) entry (by simp)
            (tailText_follows text later closes _) (tailText_follows text others closes _) same
          obtain ⟨tail, ends⟩ := tailText_prefix closes
            (fun item member entry found => each item (by simp [member]) entry (by simp [found]))
            tails
          exact ⟨by rw [head, tail], ends⟩

theorem fieldText_append (field : String × Json) (rest : List Char) :
    fieldText field ++ rest = (quote field.1).toList ++ ':' :: (field.2.compact.toList ++ rest) := by
  simp [fieldText]

theorem fieldText_unclosed (field : String × Json) (rest after : List Char) :
    fieldText field ++ rest ≠ '\x7d' :: after := by
  rw [fieldText_append, quote_toList]
  intro same
  exact absurd (List.cons.inj same).1 (by decide)

/-- Two texts that begin alike, up to what may follow a value, are texts of one value. -/
theorem WellFormed.compact_prefix {one : Json} (wellFormed : one.WellFormed) :
    ∀ {other : Json}, other.WellFormed → ∀ {rest after : List Char}, Follows rest →
      Follows after → one.compact.toList ++ rest = other.compact.toList ++ after →
      one = other ∧ rest = after := by
  induction wellFormed with
  | null =>
      intro other formed rest after follows otherFollows same
      have alike := WellFormed.null.shape_eq formed same
      cases other <;> cases alike
      exact ⟨rfl, List.append_cancel_left same⟩
  | bool value =>
      intro other formed rest after follows otherFollows same
      have alike := (WellFormed.bool value).shape_eq formed same
      cases other <;> cases alike
      case bool otherValue =>
        cases value <;> cases otherValue
        · exact ⟨rfl, List.append_cancel_left same⟩
        · exact absurd (List.cons.inj same).1 (by decide)
        · exact absurd (List.cons.inj same).1 (by decide)
        · exact ⟨rfl, List.append_cancel_left same⟩
  | int value =>
      intro other formed rest after follows otherFollows same
      have alike := (WellFormed.int value).shape_eq formed same
      cases formed with
      | int otherValue =>
          obtain ⟨text, ends⟩ := uniform_prefix (int_number value) (int_number otherValue)
            follows.number otherFollows.number same
          exact ⟨congrArg Json.int (int_injective (String.toList_inj.mp text)), ends⟩
      | float fraction =>
          obtain ⟨text, _⟩ := uniform_prefix (int_number value) fraction.chars
            follows.number otherFollows.number same
          exact absurd (String.toList_inj.mp text) (int_fraction fraction)
      | _ => cases alike
  | float fraction =>
      intro other formed rest after follows otherFollows same
      have alike := (WellFormed.float fraction).shape_eq formed same
      cases formed with
      | int otherValue =>
          obtain ⟨text, _⟩ := uniform_prefix fraction.chars (int_number otherValue)
            follows.number otherFollows.number same
          exact absurd (String.toList_inj.mp text).symm (int_fraction fraction)
      | float otherFraction =>
          obtain ⟨text, ends⟩ := uniform_prefix fraction.chars otherFraction.chars
            follows.number otherFollows.number same
          exact ⟨congrArg Json.float (String.toList_inj.mp text), ends⟩
      | _ => cases alike
  | str text =>
      intro other formed rest after follows otherFollows same
      have alike := (WellFormed.str text).shape_eq formed same
      cases other <;> cases alike
      case str otherText =>
        obtain ⟨texts, ends⟩ := quote_prefix same
        exact ⟨congrArg Json.str texts, ends⟩
  | arr each ih =>
      intro other formed rest after follows otherFollows same
      have alike := (WellFormed.arr each).shape_eq formed same
      cases formed <;> cases alike
      case arr others otherEach =>
        rw [compact_arr, compact_arr] at same
        simp only [List.cons_append, List.append_assoc, List.nil_append, List.cons.injEq,
          true_and] at same
        obtain ⟨items, ends⟩ := listText_prefix (.inl rfl)
          (fun item member => (each item member).unclosed (.inl rfl))
          (fun item member => (otherEach item member).unclosed (.inl rfl))
          (fun item member entry found => ih item member (otherEach entry found)) same
        exact ⟨congrArg Json.arr items, ends⟩
  | obj distinct each ih =>
      intro other formed rest after follows otherFollows same
      have alike := (WellFormed.obj distinct each).shape_eq formed same
      cases formed <;> cases alike
      case obj others otherDistinct otherEach =>
        rw [compact_obj, compact_obj] at same
        simp only [List.cons_append, List.append_assoc, List.nil_append, List.cons.injEq,
          true_and] at same
        obtain ⟨fields, ends⟩ := listText_prefix (.inr rfl)
          (fun field _ => fieldText_unclosed field) (fun field _ => fieldText_unclosed field)
          (fun field member entry found _ _ follows otherFollows same => by
            rw [fieldText_append, fieldText_append] at same
            obtain ⟨keys, values⟩ := quote_prefix same
            obtain ⟨value, ends⟩ := ih field member (otherEach entry found) follows otherFollows
              (List.cons.inj values).2
            exact ⟨Prod.ext keys value, ends⟩) same
        exact ⟨congrArg Json.obj fields, ends⟩

theorem WellFormed.compact_injective {one other : Json} (wellFormed : one.WellFormed)
    (otherFormed : other.WellFormed) (same : one.compact = other.compact) : one = other := by
  have ends : Follows [] := by simp [Follows]
  exact (wellFormed.compact_prefix otherFormed ends ends (by rw [same])).1

end Json

end LakeCat
