import LakeCat.CatalogProvider

/-!
Errors on their way through the catalog provider. Both translations read the kind of an
error off its text, so it survives only where no other kind is named in the text.
-/

namespace LakeCat

inductive ErrorKind where
  | invalidArgument
  | unprocessableEntity
  | notFound
  | alreadyExists
  | conflict
  | forbidden
  | notSupported
  | unavailable
  | internal
  deriving DecidableEq

def LakeCatError.kind : LakeCatError → ErrorKind
  | .invalidArgument _ => .invalidArgument
  | .unprocessableEntity _ => .unprocessableEntity
  | .notFound _ _ => .notFound
  | .alreadyExists _ _ => .alreadyExists
  | .conflict _ => .conflict
  | .forbidden _ => .forbidden
  | .notSupported _ => .notSupported
  | .unavailable _ => .unavailable
  | .internal _ => .internal

/-- What the text of the provider's error is read as. -/
def catalogProviderError (message : String) : LakeCatError :=
  if containsText message "invalid argument" then .invalidArgument message
  else if containsText message "not found" then .notFound "catalog object" message
  else if containsText message "conflict" then .conflict message
  else if containsText message "not supported" then .notSupported message
  else .internal ("LakeCat provider scan planning failed: " ++ message)

namespace CatalogError

def message : CatalogError → String
  | .invalidArgument message => message
  | .notFound _ message => message
  | .alreadyExists _ message => message
  | .conflict message => message
  | .notSupported message => message
  | .internal message => message
  | .external message => message

/-- How the kind of the error is named in its text. -/
def words : CatalogError → String
  | .invalidArgument _ => "invalid argument"
  | .notFound _ _ => "not found"
  | .alreadyExists _ _ => "already exists"
  | .conflict _ => "conflict"
  | .notSupported _ => "not supported"
  | .internal _ => "internal error"
  | .external _ => "external error"

end CatalogError

/-- What the service looks for in the text of an error. -/
def readWords : List String :=
  ["invalid argument", "not found", "conflict", "not supported"]

/-- Sail's `Display` of an error: its kind and its message. -/
class SailErrorText where
  display : CatalogError → String
  names : ∀ error, ∀ words ∈ readWords,
    containsText (display error) words = true ↔
      containsText error.message words = true ∨ words = error.words

/-- The text of the error names no kind that is looked for before its own. -/
def LakeCatError.Survives (error : LakeCatError) : Prop :=
  match error.kind with
  | .invalidArgument => True
  | .notFound => containsText error.text "invalid argument" = false
  | .conflict => containsText error.text "invalid argument" = false ∧
      containsText error.text "not found" = false
  | .notSupported => containsText error.text "invalid argument" = false ∧
      containsText error.text "not found" = false ∧ containsText error.text "conflict" = false
  | .internal => containsText error.text "invalid argument" = false ∧
      containsText error.text "not found" = false ∧ containsText error.text "conflict" = false ∧
      containsText error.text "not supported" = false
  | .unprocessableEntity | .alreadyExists | .forbidden | .unavailable => False

theorem containsText_iff (text part : String) :
    containsText text part = true ↔ part.toList <:+: text.toList := by
  rw [containsText, List.any_eq_true, List.infix_iff_prefix_suffix]
  simp only [List.mem_tails, List.isPrefixOf_iff_prefix]
  constructor
  · rintro ⟨rest, suffix, head⟩
    exact ⟨rest, head, suffix⟩
  · rintro ⟨rest, head, suffix⟩
    exact ⟨rest, suffix, head⟩

theorem containsText_append (before part after : String) :
    containsText (before ++ part ++ after) part = true := by
  rw [containsText_iff]
  exact ⟨before.toList, after.toList, by simp⟩

/-- What avoids the separator is on one side of it. -/
theorem infix_append_cons {part : List α} {separator : α} (absent : separator ∉ part)
    (before after : List α) :
    part <:+: before ++ separator :: after ↔ part <:+: before ∨ part <:+: after := by
  induction before with
  | nil =>
      rw [List.nil_append, List.infix_cons_iff, List.infix_nil]
      cases part with
      | nil => simp
      | cons first rest =>
          have differs : first ≠ separator := fun same => absent (by simp [same])
          simp [List.cons_prefix_cons, differs]
  | cons first before ih =>
      rw [List.cons_append, List.infix_cons_iff, List.infix_cons_iff, ih]
      have ends : part <+: first :: (before ++ separator :: after) ↔ part <+: first :: before := by
        rw [← List.cons_append]
        constructor
        · intro head
          have taken := List.prefix_iff_eq_take.mp head
          by_cases short : part.length ≤ (first :: before).length
          · rw [List.take_append_of_le_length short] at taken
            exact List.prefix_iff_eq_take.mpr taken
          · rw [List.take_append, List.take_of_length_le (by omega)] at taken
            have positive : part.length - (first :: before).length ≠ 0 := by omega
            obtain ⟨more, count⟩ := Nat.exists_eq_succ_of_ne_zero positive
            rw [count, List.take_succ_cons] at taken
            exact absurd (by rw [taken]; simp) absent
        · intro head
          exact head.trans (List.prefix_append ..)
      rw [ends, or_assoc]

/-- The words of a kind are in a labelled message if they are in the label or the message. -/
theorem containsText_labelled {words : String} (colon : ':' ∉ words.toList)
    (space : words.toList.head? ≠ some ' ') (filled : words ≠ "")
    (label message : String) :
    containsText (label ++ ": " ++ message) words = true ↔
      containsText label words = true ∨ containsText message words = true := by
  have parts : (label ++ ": " ++ message).toList =
      label.toList ++ ':' :: ' ' :: message.toList := by
    simp
  rw [containsText_iff, containsText_iff, containsText_iff, parts, infix_append_cons colon,
    List.infix_cons_iff]
  have starts : ¬words.toList <+: ' ' :: message.toList := by
    intro head
    cases spelled : words.toList with
    | nil => exact filled (String.toList_eq_nil_iff.mp spelled)
    | cons first rest =>
        rw [spelled, List.cons_prefix_cons] at head
        exact space (by rw [spelled, head.1]; rfl)
  simp [starts]

theorem catalogError_message (error : LakeCatError) :
    (catalogError error).message = error.text := by
  rw [catalogError]
  repeat' split
  all_goals rfl

/-- The kind is named in the text wherever the service would look for it. -/
theorem catalogError_words (error : LakeCatError) (read : (catalogError error).words ∈ readWords) :
    containsText error.text (catalogError error).words = true := by
  revert read
  simp only [catalogError]
  repeat' split
  all_goals simp_all [CatalogError.words, readWords]

/-- What the text of an error is read as. -/
theorem catalogProviderError_kind (message : String) :
    (catalogProviderError message).kind =
      if containsText message "invalid argument" then .invalidArgument
      else if containsText message "not found" then .notFound
      else if containsText message "conflict" then .conflict
      else if containsText message "not supported" then .notSupported
      else .internal := by
  rw [catalogProviderError]
  repeat' split
  all_goals rfl

theorem notFound_named (object name : String) :
    containsText (object ++ " not found: " ++ name) "not found" = true := by
  rw [containsText_iff]
  refine ⟨object.toList ++ [' '], ':' :: ' ' :: name.toList, ?_⟩
  simp

theorem labelled_named (before words after message : String) :
    containsText (before ++ words ++ after ++ message) words = true := by
  rw [String.append_assoc]
  exact containsText_append ..

/-- The text of an error of a kind that is looked for names that kind. -/
theorem LakeCatError.text_names (error : LakeCatError) :
    (error.kind = .invalidArgument → containsText error.text "invalid argument" = true) ∧
    (error.kind = .notFound → containsText error.text "not found" = true) ∧
    (error.kind = .conflict → containsText error.text "conflict" = true) ∧
    (error.kind = .notSupported → containsText error.text "not supported" = true) := by
  cases error with
  | invalidArgument message =>
      have named := labelled_named "" "invalid argument" ": " message
      refine ⟨fun _ => named, ?_, ?_, ?_⟩ <;> intro kind <;> cases kind
  | notFound object name =>
      refine ⟨?_, fun _ => notFound_named object name, ?_, ?_⟩ <;> intro kind <;> cases kind
  | conflict message =>
      have named := labelled_named "" "conflict" ": " message
      refine ⟨?_, ?_, fun _ => named, ?_⟩ <;> intro kind <;> cases kind
  | notSupported message =>
      have named := labelled_named "operation is " "not supported" " yet: " message
      refine ⟨?_, ?_, ?_, fun _ => named⟩ <;> intro kind <;> cases kind
  | _ => refine ⟨?_, ?_, ?_, ?_⟩ <;> intro kind <;> cases kind

section

variable [SailErrorText]

theorem display_names (error : LakeCatError) {words : String} (read : words ∈ readWords) :
    containsText (SailErrorText.display (catalogError error)) words =
      containsText error.text words := by
  rw [Bool.eq_iff_iff, SailErrorText.names _ words read, catalogError_message]
  constructor
  · rintro (named | rfl)
    · exact named
    · exact catalogError_words error read
  · exact .inl

/-- The kind that comes back is the first one that the text of the error names. -/
theorem catalogProviderError_display (error : LakeCatError) :
    (catalogProviderError (SailErrorText.display (catalogError error))).kind =
      (catalogProviderError error.text).kind := by
  simp only [catalogProviderError_kind]
  rw [display_names error (by simp [readWords]), display_names error (by simp [readWords]),
    display_names error (by simp [readWords]), display_names error (by simp [readWords])]

/-- An error comes back from the catalog provider as what it was exactly when its kind is one of
those that are looked for and none before it is named in its text. -/
theorem errorKind_survives (error : LakeCatError) :
    (catalogProviderError (SailErrorText.display (catalogError error))).kind = error.kind ↔
      error.Survives := by
  rw [catalogProviderError_display, catalogProviderError_kind, LakeCatError.Survives]
  obtain ⟨invalid, missing, conflicting, unsupported⟩ := error.text_names
  by_cases first : containsText error.text "invalid argument" = true
  · rw [if_pos first]
    cases kind : error.kind <;> simp [first]
  rw [if_neg first]
  by_cases second : containsText error.text "not found" = true
  · rw [if_pos second]
    cases kind : error.kind <;> simp_all
  rw [if_neg second]
  by_cases third : containsText error.text "conflict" = true
  · rw [if_pos third]
    cases kind : error.kind <;> simp_all
  rw [if_neg third]
  by_cases fourth : containsText error.text "not supported" = true
  · rw [if_pos fourth]
    cases kind : error.kind <;> simp_all
  rw [if_neg fourth]
  cases kind : error.kind <;> simp_all

end

/-- How Sail names the object and the kind of an error. -/
def CatalogError.label : CatalogError → String
  | .invalidArgument _ => "invalid argument"
  | .notFound .database _ => "database not found"
  | .notFound .table _ => "table not found"
  | .notFound .view _ => "view not found"
  | .alreadyExists .database _ => "database already exists"
  | .alreadyExists .table _ => "table already exists"
  | .alreadyExists .view _ => "view already exists"
  | .conflict _ => "conflict"
  | .notSupported _ => "not supported"
  | .internal _ => "internal error"
  | .external _ => "external error"

def sailErrorText (error : CatalogError) : String :=
  error.label ++ ": " ++ error.message

theorem CatalogError.label_names (error : CatalogError) :
    ∀ words ∈ readWords, containsText error.label words = true ↔ words = error.words := by
  cases error with
  | notFound object _ =>
      cases object <;> simp only [label, CatalogError.words] <;> decide +kernel
  | alreadyExists object _ =>
      cases object <;> simp only [label, CatalogError.words] <;> decide +kernel
  | _ =>
      simp only [label, CatalogError.words]
      decide +kernel

theorem readWords_plain :
    ∀ words ∈ readWords, ':' ∉ words.toList ∧ words.toList.head? ≠ some ' ' ∧ words ≠ "" := by
  decide

theorem sailErrorText_names (error : CatalogError) (words : String) (read : words ∈ readWords) :
    containsText (sailErrorText error) words = true ↔
      containsText error.message words = true ∨ words = error.words := by
  obtain ⟨colon, space, filled⟩ := readWords_plain words read
  rw [sailErrorText, containsText_labelled colon space filled, error.label_names words read, or_comm]

@[reducible] def sailErrorTexts : SailErrorText := ⟨sailErrorText, sailErrorText_names⟩

theorem tableExists_unread :
    ¬∀ error, (catalogProviderError (sailErrorTexts.display (catalogError error))).kind =
      error.kind := by
  intro survives
  have same := survives (.alreadyExists "table" "orders")
  revert same
  decide +kernel

end LakeCat
