import LakeCat.FilterMeaning

/-!
A data file is pruned only when no row of it can satisfy the filters, on
exactly the files whose metrics decide every column.
-/

namespace LakeCat

open Fallible
open ThreeValued (Truth)
open ValueRanges (Within Unseparated)
open SailSpec (PrimitiveLiteral FieldType)

section Text

theorem utf8_append (first second : String) : utf8 (first ++ second) = utf8 first ++ utf8 second := by
  simp [utf8]

theorem utf8_fromUTF8 {bytes : ByteArray} {text : String}
    (decoded : String.fromUTF8? bytes = some text) : utf8 text = bytes.data.toList := by
  unfold String.fromUTF8? at decoded
  split at decoded
  · obtain rfl := Option.some.inj decoded
    rfl
  · cases decoded

theorem byte_rises (byte : UInt8) (below : decide (byte = 255) = false) : byte < byte + 1 := by
  have notTop : byte ≠ 255 := by simpa using below
  grind

theorem utf8_le_of_startsWith {value head : String} (headed : startsWith value head = true) :
    utf8 head ≤ utf8 value := by
  obtain ⟨rest, rfl⟩ := (startsWith_iff value head).mp headed
  rw [utf8_append]
  exact List.le_append_left

/-- Whatever has the head stays below the raised head. -/
theorem nextLexicographicPrefix_above {value head next : String}
    (found : nextLexicographicPrefix head = some next) (headed : startsWith value head = true) :
    utf8 value < utf8 next := by
  obtain ⟨rest, rfl⟩ := (startsWith_iff value head).mp headed
  obtain ⟨bytes, raised, decoded⟩ := Option.bind_eq_some_iff.mp found
  rw [utf8_fromUTF8 decoded, utf8_append]
  exact ValueRanges.lt_raiseLast _ _ byte_rises (utf8 head) bytes _ raised
    (List.prefix_append _ _)

end Text

section Model

variable [SailSpec]

section Literals

theorem filterLiteralForField_eq_ok (field : NestedField FieldType) (value : Json)
    (literal : PrimitiveLiteral) :
    filterLiteralForField field value = .ok literal ↔
      literalOf field value = some (some literal) := by
  unfold filterLiteralForField literalOf
  rcases SailSpec.literalFromJson value field.fieldType with _ | _ | _ | _ | _ | _ <;> simp

theorem filterLiteralForField_null {field : NestedField FieldType} {value : Json}
    (null : literalOf field value = some none) :
    filterLiteralForField field value = .error (.notSupported
      ("Iceberg REST null literal pruning for column " ++ field.name ++ " is not supported")) := by
  unfold literalOf at null
  unfold filterLiteralForField
  rcases read : SailSpec.literalFromJson value field.fieldType with _ | _ | _ | _ | _ | _ <;>
    simp [read] at null ⊢

/-- The bounds of a string column keep a file that holds a value with the head. -/
theorem stringPrefix_kept (documented : SailSpec.Documented) {lower upper : Option PrimitiveLiteral}
    {value head : PrimitiveLiteral} {valueText headText : String}
    (held : Within lower upper value) (valueString : SailSpec.stringOf value = some valueText)
    (headString : SailSpec.stringOf head = some headText)
    (headed : startsWith valueText headText = true) :
    stringPrefixMayOverlapBounds head lower upper = true := by
  unfold stringPrefixMayOverlapBounds
  rw [headString]
  cases lowCase : stringBound lower with
  | none => simp
  | some lowText =>
    cases highCase : stringBound upper with
    | none => simp
    | some highText =>
      have aboveHead : ∀ text, highText = some text → ¬utf8 text < utf8 headText := by
        rintro text rfl
        cases upper with
        | none => cases highCase
        | some high =>
            have highString : SailSpec.stringOf high = some text := by
              simpa [stringBound] using highCase
            have order := documented.stringOrder value high valueText text valueString highString
              (held.below high rfl)
            intro less
            exact order (Std.lt_of_lt_of_le less (utf8_le_of_startsWith headed))
      have belowNext : ∀ text next, lowText = some text →
          nextLexicographicPrefix headText = some next → ¬utf8 next ≤ utf8 text := by
        rintro text next rfl found more
        cases lower with
        | none => cases lowCase
        | some low =>
            have lowString : SailSpec.stringOf low = some text := by
              simpa [stringBound] using lowCase
            have order := documented.stringOrder low value text valueText lowString valueString
              (held.above low rfl)
            exact more (List.lt_of_le_of_lt order (nextLexicographicPrefix_above found headed))
      have keptHigh : (highText.any fun text => utf8 text < utf8 headText) = false := by
        cases highText with
        | none => rfl
        | some text => simpa using aboveHead text rfl
      simp only [keptHigh, Bool.false_eq_true, if_false]
      cases found : nextLexicographicPrefix headText with
      | none => rfl
      | some next =>
          cases lowText with
          | none => rfl
          | some text => simpa using belowNext text next rfl found

theorem headTruth_eq_ofBool {value head : PrimitiveLiteral} {truth : Truth}
    (known : truth ≠ .unknown) (holds : Comparison.headTruth value head = truth) :
    ∃ valueText headText, SailSpec.stringOf value = some valueText ∧
      SailSpec.stringOf head = some headText ∧ .ofBool (startsWith valueText headText) = truth := by
  unfold Comparison.headTruth at holds
  split at holds
  next valueText headText valueString headString =>
    exact ⟨valueText, headText, valueString, headString, holds⟩
  next => exact absurd holds.symm known

theorem primitiveStartsWith_text {value head : PrimitiveLiteral} {valueText headText : String}
    (valueString : SailSpec.stringOf value = some valueText)
    (headString : SailSpec.stringOf head = some headText) :
    primitiveStartsWith value head = startsWith valueText headText := by
  simp [primitiveStartsWith, valueString, headString]

end Literals

section Columns

/-- What the metrics of a file guarantee of one value of a column. -/
structure Placed (dataFile : SailDataFile) (field : NestedField FieldType)
    (value : PrimitiveLiteral) : Prop where
  held : SailSpec.isNan value = false →
    Within (dataFile.lowerBounds.lookup field.id) (dataFile.upperBounds.lookup field.id) value
  together : ∀ literal, FilterLiteral field literal →
    Unseparated (dataFile.lowerBounds.lookup field.id) (dataFile.upperBounds.lookup field.id)
      value literal

variable {dataFile : SailDataFile} {rows : List Row} {row : Row} {field : NestedField FieldType}

theorem MetricsDecide.placed (decided : MetricsDecide dataFile rows field)
    (truthful : TrueMetrics dataFile rows) (member : row ∈ rows) {value : PrimitiveLiteral}
    (present : row field.id = some value) : Placed dataFile field value := by
  have held (number : SailSpec.isNan value = false) :
      Within (dataFile.lowerBounds.lookup field.id) (dataFile.upperBounds.lookup field.id)
        value :=
    ⟨fun low bound => truthful.lower field.id low bound row member value present number,
      fun high bound => truthful.upper field.id high bound row member value present number⟩
  refine ⟨held, fun literal written => ?_⟩
  cases nan : SailSpec.isNan value with
  | false => exact (held nan).unseparated literal
  | true => exact decided.nans row member value present nan literal written

theorem Placed.held_of_string (documented : SailSpec.Documented) {value : PrimitiveLiteral}
    (placed : Placed dataFile field value) {text : String}
    (isString : SailSpec.stringOf value = some text) :
    Within (dataFile.lowerBounds.lookup field.id) (dataFile.upperBounds.lookup field.id)
      value := by
  refine placed.held ?_
  cases nan : SailSpec.isNan value with
  | false => rfl
  | true =>
      rw [documented.nanNotString value nan] at isString
      cases isString

theorem literalPredicate_kept (documented : SailSpec.Documented) {value literal : PrimitiveLiteral}
    {json : Json} (placed : Placed dataFile field value) (comparison : Comparison)
    (read : literalOf field json = some (some literal))
    (holds : comparison.truthOf value literal = .yes) :
    literalPredicateMayMatch dataFile field comparison.text json = .ok true := by
  have together := placed.together literal ⟨json, read⟩
  have converted := (filterLiteralForField_eq_ok field json literal).mpr read
  have lowAll (test : PrimitiveLiteral → Prop) [DecidablePred test]
      (passes : ∀ low, dataFile.lowerBounds.lookup field.id = some low → test low) :
      (dataFile.lowerBounds.lookup field.id).all (fun low => test low) = true := by
    simpa [Option.all_eq_true] using passes
  have highAll (test : PrimitiveLiteral → Prop) [DecidablePred test]
      (passes : ∀ high, dataFile.upperBounds.lookup field.id = some high → test high) :
      (dataFile.upperBounds.lookup field.id).all (fun high => test high) = true := by
    simpa [Option.all_eq_true] using passes
  unfold literalPredicateMayMatch
  rw [converted]
  simp only [ok_bind, pure_eq, Except.ok.injEq]
  cases comparison with
  | lt =>
      have less : value < literal := by simpa [Comparison.truthOf] using holds
      exact lowAll (· < literal) fun low bound => together.lowBelow low bound less
  | ltEq =>
      have order : value ≤ literal := by simpa [Comparison.truthOf] using holds
      exact lowAll (· ≤ literal) fun low bound => together.lowAtMost low bound order
  | gt =>
      have more : literal < value := by simpa [Comparison.truthOf] using holds
      exact highAll (literal < ·) fun high bound => together.highAbove high bound more
  | gtEq =>
      have order : literal ≤ value := by simpa [Comparison.truthOf] using holds
      exact highAll (literal ≤ ·) fun high bound => together.highAtLeast high bound order
  | eq =>
      obtain rfl : value = literal := by simpa [Comparison.truthOf] using holds
      refine Bool.and_eq_true_iff.mpr ⟨?_, ?_⟩
      · exact lowAll (· ≤ value) fun low bound => together.lowAtMost low bound le_rfl
      · exact highAll (value ≤ ·) fun high bound => together.highAtLeast high bound le_rfl
  | notEq =>
      have different : value ≠ literal := by simpa [Comparison.truthOf] using holds
      have notSingle : exactFileValue dataFile field.id ≠ some literal :=
        fun single => different (together.eq_of_single single)
      simpa [Comparison.text] using notSingle
  | startsWith =>
      obtain ⟨valueText, headText, valueString, headString, headed⟩ :=
        headTruth_eq_ofBool (by decide) holds
      exact stringPrefix_kept documented (placed.held_of_string documented valueString)
        valueString headString (by simpa using headed)
  | notStartsWith =>
      have refuted : Comparison.headTruth value literal = .no := by
        simpa [Comparison.truthOf] using holds
      obtain ⟨valueText, headText, valueString, headString, headed⟩ :=
        headTruth_eq_ofBool (by decide) refuted
      have held := placed.held_of_string documented valueString
      have different : startsWith valueText headText = false := by simpa using headed
      have everySingle : ∀ single, exactFileValue dataFile field.id = some single →
          primitiveStartsWith single literal = false := by
        intro single named
        rw [← held.eq_of_single named, primitiveStartsWith_text valueString headString, different]
      simpa [Comparison.text, Option.all_eq_true] using everySingle

end Columns

section Filters

variable {metadata : TableMetadata FieldType} {dataFile : SailDataFile} {filter : Json}

omit [SailSpec] in
theorem requiredFilterChild_ok {child : Json} {field : String}
    (found : filter.get field = some child) :
    requiredFilterChild filter field = .ok ⟨child, Json.sizeOf_get found⟩ := by
  unfold requiredFilterChild
  split
  next other present =>
    obtain rfl := Option.some.inj (present.symm.trans found)
    rfl
  next absent => cases absent.symm.trans found

theorem mayMatch_and {left right : Json} (typed : filterType filter = .ok "and")
    (leftChild : filter.get "left" = some left) (rightChild : filter.get "right" = some right) :
    dataFileMayMatchFilter metadata dataFile filter =
      (dataFileMayMatchFilter metadata dataFile left >>= fun kept =>
        if kept then dataFileMayMatchFilter metadata dataFile right else .ok false) := by
  rw [dataFileMayMatchFilter, typed]
  simp only [ok_bind, requiredFilterChild_ok leftChild, requiredFilterChild_ok rightChild, pure_eq]

theorem mayMatch_or {left right : Json} (typed : filterType filter = .ok "or")
    (leftChild : filter.get "left" = some left) (rightChild : filter.get "right" = some right) :
    dataFileMayMatchFilter metadata dataFile filter =
      (dataFileMayMatchFilter metadata dataFile left >>= fun kept =>
        if kept then .ok true else dataFileMayMatchFilter metadata dataFile right) := by
  rw [dataFileMayMatchFilter, typed]
  simp only [ok_bind, requiredFilterChild_ok leftChild, requiredFilterChild_ok rightChild, pure_eq]

theorem mayMatch_always {kind : String} {holds : Bool} (typed : filterType filter = .ok kind)
    (named : (kind, holds) ∈
      [("true", true), ("always-true", true), ("false", false), ("always-false", false)]) :
    dataFileMayMatchFilter metadata dataFile filter = .ok holds := by
  rw [dataFileMayMatchFilter, typed]
  simp only [List.mem_cons, Prod.mk.injEq, List.not_mem_nil, or_false] at named
  rcases named with ⟨rfl, rfl⟩ | ⟨rfl, rfl⟩ | ⟨rfl, rfl⟩ | ⟨rfl, rfl⟩ <;> rfl

theorem mayMatch_not (typed : filterType filter = .ok "not") :
    dataFileMayMatchFilter metadata dataFile filter = .ok true := by
  rw [dataFileMayMatchFilter, typed]
  rfl

theorem mayMatch_compare {expression : LiteralExpression} (comparison : Comparison)
    (typed : filterType filter = .ok comparison.text)
    (decoded : SailSpec.literalExpression filter = .ok expression) :
    dataFileMayMatchFilter metadata dataFile filter =
      match filterReferenceField metadata expression.term with
      | none => .ok true
      | some field =>
          literalPredicateMayMatch dataFile field comparison.text expression.value := by
  rw [dataFileMayMatchFilter, typed]
  simp only [ok_bind, decoded, validateFilterModel]
  cases comparison <;> rfl

theorem mayMatch_in {expression : SetExpression} (typed : filterType filter = .ok "in")
    (decoded : SailSpec.setExpression filter = .ok expression) :
    dataFileMayMatchFilter metadata dataFile filter =
      match filterReferenceField metadata expression.term with
      | none => .ok true
      | some field => anyLiteralMayMatch dataFile field expression.values := by
  rw [dataFileMayMatchFilter, typed]
  simp only [ok_bind, decoded, validateFilterModel]
  rfl

theorem mayMatch_notIn {expression : SetExpression} (typed : filterType filter = .ok "not-in")
    (decoded : SailSpec.setExpression filter = .ok expression) :
    dataFileMayMatchFilter metadata dataFile filter =
      match filterReferenceField metadata expression.term with
      | none => .ok true
      | some field =>
          match exactFileValue dataFile field.id with
          | some single =>
              (literalExcluded field single expression.values).map fun excluded => !excluded
          | none => .ok true := by
  rw [dataFileMayMatchFilter, typed]
  simp only [ok_bind, decoded, validateFilterModel]
  rfl

theorem mayMatch_test {expression : UnaryExpression} (test : ValueTest)
    (typed : filterType filter = .ok test.text)
    (decoded : SailSpec.unaryExpression filter = .ok expression) :
    dataFileMayMatchFilter metadata dataFile filter =
      match filterReferenceField metadata expression.term, test with
      | some field, .isNull => .ok (0 < (dataFile.nullValueCounts.lookup field.id).getD 0)
      | some field, .notNull =>
          .ok ((dataFile.nullValueCounts.lookup field.id).getD 0 < dataFile.recordCount)
      | _, _ => .ok true := by
  rw [dataFileMayMatchFilter]
  simp only [typed, ok_bind]
  cases test <;> simp only [ok_bind, ValueTest.text, decoded, validateFilterModel] <;>
    cases filterReferenceField metadata expression.term <;> rfl

end Filters

section Sets

variable {dataFile : SailDataFile} {field : NestedField FieldType}

/-- A loop that ended without a match saw every literal fail. -/
theorem anyLiteral_refused {values : List Json} {literals : List (Option PrimitiveLiteral)}
    (read : List.Forall₂ (fun value literal => literalOf field value = some literal)
      values literals) (refused : anyLiteralMayMatch dataFile field values = .ok false) :
    ∀ literal ∈ literals, ∃ json, literalOf field json = some literal ∧
      literalPredicateMayMatch dataFile field "eq" json = .ok false := by
  induction read with
  | nil => simp
  | @cons json literal rest others first tail ih =>
      simp only [anyLiteralMayMatch, bind_eq_ok] at refused
      obtain ⟨matched, asked, continued⟩ := refused
      cases matched with
      | true => simp at continued
      | false =>
          simp only [Bool.false_eq_true, if_false] at continued
          intro other member
          rcases List.mem_cons.mp member with rfl | later
          · exact ⟨json, first, asked⟩
          · exact ih continued other later

theorem literalExcluded_mem {single : PrimitiveLiteral} {values : List Json}
    {literals : List (Option PrimitiveLiteral)}
    (read : List.Forall₂ (fun value literal => literalOf field value = some literal)
      values literals) (excluded : literalExcluded field single values = .ok true) :
    some single ∈ literals ∧ FilterLiteral field single := by
  induction read with
  | nil => simp [literalExcluded] at excluded
  | @cons json literal rest others first tail ih =>
      simp only [literalExcluded, bind_eq_ok] at excluded
      obtain ⟨converted, reading, continued⟩ := excluded
      rw [filterLiteralForField_eq_ok, first] at reading
      obtain rfl := Option.some.inj reading
      split at continued
      next same =>
        subst same
        exact ⟨List.mem_cons_self, json, first⟩
      next =>
        obtain ⟨member, written⟩ := ih continued
        exact ⟨List.mem_cons_of_mem _ member, written⟩

theorem anyLiteral_answers {values : List Json} {literals : List (Option PrimitiveLiteral)}
    (read : List.Forall₂ (fun value literal => literalOf field value = some literal)
      values literals) (withoutNull : none ∉ literals) :
    ∃ answer, anyLiteralMayMatch dataFile field values = .ok answer := by
  induction read with
  | nil => exact ⟨false, rfl⟩
  | @cons json literal rest others first tail ih =>
      obtain ⟨present, others⟩ := not_or.mp (List.mem_cons.not.mp withoutNull)
      obtain ⟨known, rfl⟩ := Option.ne_none_iff_exists'.mp (Ne.symm present)
      obtain ⟨answer, found⟩ := ih others
      have converted := (filterLiteralForField_eq_ok field json known).mpr first
      simp only [anyLiteralMayMatch, literalPredicateMayMatch, converted, ok_bind, pure_eq, found]
      split
      · exact ⟨true, rfl⟩
      · exact ⟨answer, rfl⟩

theorem literalExcluded_answers (single : PrimitiveLiteral) {values : List Json}
    {literals : List (Option PrimitiveLiteral)}
    (read : List.Forall₂ (fun value literal => literalOf field value = some literal)
      values literals) (withoutNull : none ∉ literals) :
    ∃ answer, literalExcluded field single values = .ok answer := by
  induction read with
  | nil => exact ⟨false, rfl⟩
  | @cons json literal rest others first tail ih =>
      obtain ⟨present, others⟩ := not_or.mp (List.mem_cons.not.mp withoutNull)
      obtain ⟨known, rfl⟩ := Option.ne_none_iff_exists'.mp (Ne.symm present)
      obtain ⟨answer, found⟩ := ih others
      have converted := (filterLiteralForField_eq_ok field json known).mpr first
      simp only [literalExcluded, converted, ok_bind, pure_eq, found]
      split
      · exact ⟨true, rfl⟩
      · exact ⟨answer, rfl⟩

/-- A true membership names a literal that the value equals. -/
theorem memberTruth_yes {value : Option PrimitiveLiteral}
    {literals : List (Option PrimitiveLiteral)}
    (holds : FilterExpression.memberTruth value literals = .yes) :
    ∃ literal, value = some literal ∧ some literal ∈ literals := by
  obtain ⟨literal, member, equal⟩ :=
    List.mem_map.mp ((ThreeValued.Truth.any_eq_yes _).mp holds)
  cases value with
  | none => cases equal
  | some value =>
      cases literal with
      | none => cases equal
      | some literal =>
          obtain rfl : value = literal := by
            simpa [Comparison.truth, Comparison.truthOf] using equal
          exact ⟨value, rfl, member⟩

/-- A false membership leaves no literal that the value may equal. -/
theorem memberTruth_no {value : Option PrimitiveLiteral}
    {literals : List (Option PrimitiveLiteral)} {literal : PrimitiveLiteral}
    (refuted : FilterExpression.memberTruth value literals = .no)
    (member : some literal ∈ literals) : ∃ own, value = some own ∧ own ≠ literal := by
  have different := (ThreeValued.Truth.any_eq_no _).mp refuted _
    (List.mem_map_of_mem member)
  cases value with
  | none => cases different
  | some own =>
      exact ⟨own, rfl, by simpa [Comparison.truth, Comparison.truthOf] using different⟩

end Sets

section Kept

variable {metadata : TableMetadata FieldType} {dataFile : SailDataFile} {rows : List Row}

/-- The metrics decide every column that a filter can name. -/
def DecidesColumns (metadata : TableMetadata FieldType) (dataFile : SailDataFile)
    (rows : List Row) : Prop :=
  ∀ term field, filterReferenceField metadata term = some field →
    MetricsDecide dataFile rows field

theorem nullTest_kept {row : Row} {field : NestedField FieldType}
    (truthful : TrueMetrics dataFile rows) (decided : MetricsDecide dataFile rows field)
    (member : row ∈ rows) (null : row field.id = none) :
    0 < (dataFile.nullValueCounts.lookup field.id).getD 0 := by
  obtain ⟨count, recorded⟩ := decided.nulls ⟨row, member, null⟩
  have exactCount := truthful.nulls field.id count recorded
  have positive : 0 < rows.countP fun row => (row field.id).isNone :=
    List.countP_pos_iff.mpr ⟨row, member, by simp [null]⟩
  rw [recorded, Option.getD_some]
  omega

theorem valueTest_kept {row : Row} {fieldId : Int} (truthful : TrueMetrics dataFile rows)
    (member : row ∈ rows) (present : (row fieldId).isSome = true) :
    (dataFile.nullValueCounts.lookup fieldId).getD 0 < dataFile.recordCount := by
  rw [truthful.records]
  cases recorded : dataFile.nullValueCounts.lookup fieldId with
  | none => exact List.length_pos_of_mem member
  | some count =>
      have exactCount := truthful.nulls fieldId count recorded
      have fewer : (rows.countP fun row => (row fieldId).isNone) < rows.length := by
        refine lt_of_le_of_ne List.countP_le_length fun all => ?_
        have null := List.countP_eq_length.mp all row member
        simp [Option.isSome_iff_ne_none.mp present] at null
      rw [Option.getD_some]
      omega

/-- The induction is over what the filter denotes; a negation is never used to prune. -/
theorem dataFileMayMatchFilter_kept (documented : SailSpec.Documented)
    (truthful : TrueMetrics dataFile rows) (decided : DecidesColumns metadata dataFile rows)
    {row : Row} (member : row ∈ rows) {filter : Json} {expression : FilterExpression}
    (means : Denotes metadata filter expression) (holds : expression.truth row = .yes) :
    dataFileMayMatchFilter metadata dataFile filter ≠ .ok false := by
  induction means with
  | always typed named =>
      obtain rfl : _ = true := by simpa [FilterExpression.truth] using holds
      simp [mayMatch_always typed named]
  | and typed leftChild rightChild _ _ leftKept rightKept =>
      obtain ⟨leftHolds, rightHolds⟩ := (ThreeValued.Truth.and_eq_yes _ _).mp holds
      rw [mayMatch_and typed leftChild rightChild]
      intro pruned
      obtain ⟨kept, left, right⟩ := (bind_eq_ok _ _ _).mp pruned
      cases kept with
      | false => exact leftKept leftHolds left
      | true => exact rightKept rightHolds right
  | or typed leftChild rightChild _ _ leftKept rightKept =>
      rw [mayMatch_or typed leftChild rightChild]
      intro pruned
      obtain ⟨kept, left, right⟩ := (bind_eq_ok _ _ _).mp pruned
      cases kept with
      | true => cases right
      | false =>
          rcases (ThreeValued.Truth.or_eq_yes _ _).mp holds with leftHolds | rightHolds
          · exact leftKept leftHolds left
          · exact rightKept rightHolds right
  | not typed => simp [mayMatch_not typed]
  | @test filter expression field test typed decoded column =>
      rw [mayMatch_test test typed decoded, column]
      cases test with
      | isNull =>
          have null : row field.id = none := by
            simpa [FilterExpression.truth, ValueTest.truth] using holds
          simpa using Nat.ne_of_gt
            (nullTest_kept truthful (decided _ field column) member null)
      | notNull =>
          have present : (row field.id).isSome = true := by
            simpa [FilterExpression.truth, ValueTest.truth] using holds
          simpa using valueTest_kept truthful member present
      | isNan => simp
      | notNan => simp
  | @compare filter expression field literal comparison typed decoded column read =>
      rw [mayMatch_compare comparison typed decoded, column]
      cases present : row field.id with
      | none => simp [FilterExpression.truth, Comparison.truth, present] at holds
      | some value =>
          cases literal with
          | none => simp [FilterExpression.truth, Comparison.truth, present] at holds
          | some literal =>
              have placed := (decided _ field column).placed truthful member present
              have compared : comparison.truthOf value literal = .yes := by
                simpa [FilterExpression.truth, Comparison.truth, present] using holds
              simp [literalPredicate_kept documented placed comparison read compared]
  | @isIn filter expression field literals typed decoded column read =>
      rw [mayMatch_in typed decoded, column]
      intro refused
      obtain ⟨literal, present, listed⟩ := memberTruth_yes holds
      obtain ⟨json, reading, pruned⟩ := anyLiteral_refused read refused _ listed
      have placed := (decided _ field column).placed truthful member present
      have kept := literalPredicate_kept documented placed .eq reading
        (by simp [Comparison.truthOf])
      cases kept.symm.trans pruned
  | @notIn filter expression field literals typed decoded column read =>
      simp only [mayMatch_notIn typed decoded, column]
      cases named : exactFileValue dataFile field.id with
      | none => simp
      | some single =>
          intro pruned
          have excluded : literalExcluded field single expression.values = .ok true := by
            cases answer : literalExcluded field single expression.values with
            | error => simp [answer, Except.map] at pruned
            | ok found => simpa [answer, Except.map] using pruned
          obtain ⟨listed, written⟩ := literalExcluded_mem read excluded
          have refuted := (ThreeValued.Truth.not_eq_yes _).mp holds
          obtain ⟨own, present, different⟩ := memberTruth_no refuted listed
          have placed := (decided _ field column).placed truthful member present
          exact different ((placed.together single written).eq_of_single named)
  | foreignTest test truth typed decoded noColumn =>
      simp [mayMatch_test test typed decoded, noColumn]
  | foreignCompare comparison truth typed decoded noColumn =>
      simp [mayMatch_compare comparison typed decoded, noColumn]
  | foreignSet truth typed named decoded noColumn =>
      simp only [List.mem_cons, List.not_mem_nil, or_false] at named
      rcases named with rfl | rfl
      · simp [mayMatch_in typed decoded, noColumn]
      · simp [mayMatch_notIn typed decoded, noColumn]

/-- Without a NULL literal the engine has an answer. -/
theorem dataFileMayMatchFilter_answers {filter : Json} {expression : FilterExpression}
    (means : Denotes metadata filter expression) (withoutNull : expression.WithoutNull) :
    ∃ answer, dataFileMayMatchFilter metadata dataFile filter = .ok answer := by
  induction means with
  | always typed named => exact ⟨_, mayMatch_always typed named⟩
  | and typed leftChild rightChild _ _ leftAnswers rightAnswers =>
      obtain ⟨leftAnswer, left⟩ := leftAnswers withoutNull.1
      obtain ⟨rightAnswer, right⟩ := rightAnswers withoutNull.2
      rw [mayMatch_and typed leftChild rightChild, left, right]
      cases leftAnswer
      · exact ⟨false, rfl⟩
      · exact ⟨rightAnswer, rfl⟩
  | or typed leftChild rightChild _ _ leftAnswers rightAnswers =>
      obtain ⟨leftAnswer, left⟩ := leftAnswers withoutNull.1
      obtain ⟨rightAnswer, right⟩ := rightAnswers withoutNull.2
      rw [mayMatch_or typed leftChild rightChild, left, right]
      cases leftAnswer
      · exact ⟨rightAnswer, rfl⟩
      · exact ⟨true, rfl⟩
  | not typed => exact ⟨true, mayMatch_not typed⟩
  | test test typed decoded column =>
      rw [mayMatch_test test typed decoded, column]
      cases test <;> exact ⟨_, rfl⟩
  | @compare filter expression field literal comparison typed decoded column read =>
      obtain ⟨known, rfl⟩ := Option.ne_none_iff_exists'.mp withoutNull
      have converted := (filterLiteralForField_eq_ok field expression.value known).mpr read
      rw [mayMatch_compare comparison typed decoded, column]
      simp only [literalPredicateMayMatch, converted, ok_bind, pure_eq]
      exact ⟨_, rfl⟩
  | @isIn filter expression field literals typed decoded column read =>
      rw [mayMatch_in typed decoded, column]
      exact anyLiteral_answers read withoutNull
  | @notIn filter expression field literals typed decoded column read =>
      simp only [mayMatch_notIn typed decoded, column]
      cases exactFileValue dataFile field.id with
      | none => exact ⟨true, rfl⟩
      | some single =>
          obtain ⟨answer, found⟩ := literalExcluded_answers single read withoutNull
          exact ⟨!answer, by simp [found, Except.map]⟩
  | foreignTest test truth typed decoded noColumn =>
      exact ⟨true, by simp [mayMatch_test test typed decoded, noColumn]⟩
  | foreignCompare comparison truth typed decoded noColumn =>
      exact ⟨true, by simp [mayMatch_compare comparison typed decoded, noColumn]⟩
  | foreignSet truth typed named decoded noColumn =>
      simp only [List.mem_cons, List.not_mem_nil, or_false] at named
      rcases named with rfl | rfl
      · exact ⟨true, by simp [mayMatch_in typed decoded, noColumn]⟩
      · exact ⟨true, by simp [mayMatch_notIn typed decoded, noColumn]⟩

theorem dataFileMayMatchFilters_kept {filters : List Json}
    (kept : ∀ filter ∈ filters, dataFileMayMatchFilter metadata dataFile filter ≠ .ok false) :
    dataFileMayMatchFilters metadata dataFile filters ≠ .ok false := by
  induction filters with
  | nil => simp [dataFileMayMatchFilters]
  | cons filter rest ih =>
      obtain ⟨first, others⟩ := List.forall_mem_cons.mp kept
      intro pruned
      obtain ⟨answer, asked, continued⟩ := (bind_eq_ok _ _ _).mp pruned
      cases answer with
      | false => exact first asked
      | true => exact ih others continued

theorem dataFileMayMatchFilters_answers {filters : List Json}
    (answers : ∀ filter ∈ filters, ∃ answer,
      dataFileMayMatchFilter metadata dataFile filter = .ok answer) :
    ∃ answer, dataFileMayMatchFilters metadata dataFile filters = .ok answer := by
  induction filters with
  | nil => exact ⟨true, rfl⟩
  | cons filter rest ih =>
      obtain ⟨⟨first, asked⟩, others⟩ := List.forall_mem_cons.mp answers
      obtain ⟨answer, found⟩ := ih others
      simp only [dataFileMayMatchFilters, asked, ok_bind, pure_eq]
      cases first with
      | false => exact ⟨false, rfl⟩
      | true => exact ⟨answer, found⟩

theorem pruningSound_of_decides (documented : SailSpec.Documented)
    (truthful : TrueMetrics dataFile rows) (decided : DecidesColumns metadata dataFile rows) :
    PruningSound metadata dataFile rows := by
  rintro filters - ⟨row, member, satisfied⟩
  have kept : dataFileMayMatchFilters metadata dataFile filters ≠ .ok false := by
    refine dataFileMayMatchFilters_kept fun filter listed => ?_
    obtain ⟨expression, means, holds⟩ := satisfied filter listed
    exact dataFileMayMatchFilter_kept documented truthful decided member means holds
  refine ⟨kept, fun withoutNull => ?_⟩
  obtain ⟨answer, found⟩ := dataFileMayMatchFilters_answers
    (fun filter listed =>
      have ⟨_, means, plain⟩ := withoutNull filter listed
      dataFileMayMatchFilter_answers means plain)
  cases answer with
  | false => exact absurd found kept
  | true => exact found

end Kept

section Leaves

variable {metadata : TableMetadata FieldType} {dataFile : SailDataFile} {rows : List Row}

/-- A filter that asks one question of one column. -/
def testFilter (test : ValueTest) (name : String) : Json :=
  .object [("type", .str test.text), ("term", .str name)]

def compareFilter (comparison : Comparison) (name : String) (value : Json) : Json :=
  .object [("type", .str comparison.text), ("term", .str name), ("value", value)]

omit [SailSpec] in
theorem filterType_testFilter (test : ValueTest) (name : String) :
    filterType (testFilter test name) = .ok test.text := by
  simp [filterType, testFilter, List.lookup, Json.asStr]

omit [SailSpec] in
theorem filterType_compareFilter (comparison : Comparison) (name : String) (value : Json) :
    filterType (compareFilter comparison name value) = .ok comparison.text := by
  simp [filterType, compareFilter, List.lookup, Json.asStr]

theorem validateFilterTerm_column {name : String} {field : NestedField FieldType}
    (column : filterReferenceField metadata (.reference name) = some field) :
    validateFilterTerm (typedMetadataSummary metadata) (.reference name) [] = .ok [name] := by
  obtain ⟨fields, schema, found⟩ := Option.bind_eq_some_iff.mp column
  have named : field.name = name := by simpa using List.find?_some found
  have known : (typedMetadataSummary metadata).fields.any (fun field => field.name = name) := by
    refine List.any_eq_true.mpr ⟨⟨field.id, field.name⟩, ?_, by simp [named]⟩
    simp only [typedMetadataSummary, schema, Option.getD_some]
    exact List.mem_map_of_mem (List.mem_of_find?_eq_some found)
  simp only [validateFilterTerm, validateFilterReference, known, not_true_eq_false]
  split <;> rfl

theorem testFilter_accepted (documented : SailSpec.Documented) (test : ValueTest) {name : String}
    {field : NestedField FieldType}
    (column : filterReferenceField metadata (.reference name) = some field) :
    validateFilterExpression (typedMetadataSummary metadata) (testFilter test name) [] =
      .ok (test.text, [name]) := by
  have decoded : SailSpec.unaryExpression (testFilter test name) = .ok ⟨.reference name⟩ :=
    documented.unary test.text name
  have known := validateFilterTerm_column column
  rw [validateFilterExpression]
  simp only [filterType_testFilter, ok_bind]
  cases test <;> simp [ValueTest.text, decoded, validateFilterModel, known]

theorem compareFilter_accepted (documented : SailSpec.Documented) (comparison : Comparison)
    {name : String} {field : NestedField FieldType} (value : Json)
    (column : filterReferenceField metadata (.reference name) = some field) :
    validateFilterExpression (typedMetadataSummary metadata)
        (compareFilter comparison name value) [] = .ok (comparison.text, [name]) := by
  have decoded : SailSpec.literalExpression (compareFilter comparison name value) =
      .ok ⟨.reference name, value⟩ := documented.literal comparison.text name value
  have known := validateFilterTerm_column column
  rw [validateFilterExpression]
  simp only [filterType_compareFilter, ok_bind]
  cases comparison <;> simp [Comparison.text, decoded, validateFilterModel, known]

/-- A sound file answers every question about a column of a row in it. -/
theorem PruningSound.test_kept (sound : PruningSound metadata dataFile rows)
    (documented : SailSpec.Documented) {row : Row} (member : row ∈ rows) (test : ValueTest)
    {name : String} {field : NestedField FieldType}
    (column : filterReferenceField metadata (.reference name) = some field)
    (holds : test.truth (row field.id) = .yes) :
    dataFileMayMatchFilters metadata dataFile [testFilter test name] ≠ .ok false := by
  have means : Denotes metadata (testFilter test name) (.test test field.id) :=
    .test test (filterType_testFilter test name) (documented.unary test.text name) column
  refine (sound [testFilter test name] ?_ ⟨row, member, ?_⟩).1
  · simp only [List.mem_singleton, forall_eq]
    exact ⟨_, testFilter_accepted documented test column⟩
  · simp only [List.mem_singleton, forall_eq]
    exact ⟨_, means, holds⟩

theorem PruningSound.compare_kept (sound : PruningSound metadata dataFile rows)
    (documented : SailSpec.Documented) {row : Row} (member : row ∈ rows)
    (comparison : Comparison) {name : String} {field : NestedField FieldType}
    (column : filterReferenceField metadata (.reference name) = some field)
    {value literal : PrimitiveLiteral} {json : Json} (present : row field.id = some value)
    (read : literalOf field json = some (some literal))
    (holds : comparison.truthOf value literal = .yes) :
    literalPredicateMayMatch dataFile field comparison.text json = .ok true := by
  have means : Denotes metadata (compareFilter comparison name json)
      (.compare comparison field.id (some literal)) :=
    .compare comparison (filterType_compareFilter comparison name json)
      (documented.literal comparison.text name json) column read
  have kept := sound [compareFilter comparison name json]
    (by
      simp only [List.mem_singleton, forall_eq]
      exact ⟨_, compareFilter_accepted documented comparison json column⟩)
    ⟨row, member, by
      simp only [List.mem_singleton, forall_eq]
      exact ⟨_, means, by
        simpa [FilterExpression.truth, Comparison.truth, present] using holds⟩⟩
  have answered := kept.2 (by
    simp only [List.mem_singleton, forall_eq]
    exact ⟨_, means, by simp [FilterExpression.WithoutNull]⟩)
  obtain ⟨answer, asked, continued⟩ := (bind_eq_ok _ _ _).mp answered
  rw [mayMatch_compare comparison (filterType_compareFilter comparison name json)
    (documented.literal comparison.text name json), column] at asked
  cases answer with
  | true => exact asked
  | false => cases continued

theorem decides_of_pruningSound (documented : SailSpec.Documented)
    (sound : PruningSound metadata dataFile rows) : DecidesColumns metadata dataFile rows := by
  intro term field column
  cases term with
  | transformTerm => cases column
  | reference name =>
    refine ⟨?_, ?_⟩
    · rintro ⟨row, member, null⟩
      have kept := sound.test_kept documented member .isNull column
        (by simp [ValueTest.truth, null])
      cases recorded : dataFile.nullValueCounts.lookup field.id with
      | some count => exact ⟨count, rfl⟩
      | none =>
          have answered := @mayMatch_test _ metadata dataFile _ _ .isNull
            (filterType_testFilter .isNull name) (documented.unary ValueTest.isNull.text name)
          rw [column] at answered
          simp [dataFileMayMatchFilters, answered, recorded] at kept
    · rintro row member value present - literal ⟨json, read⟩
      have converted := (filterLiteralForField_eq_ok field json literal).mpr read
      have kept (comparison : Comparison) (holds : comparison.truthOf value literal = .yes) :=
        sound.compare_kept documented member comparison column present read holds
      refine ⟨fun low bound order => ?_, fun low bound less => ?_, fun high bound order => ?_,
        fun high bound more => ?_⟩
      · simpa [literalPredicateMayMatch, converted, bound, Comparison.text] using
          kept .ltEq (by simpa [Comparison.truthOf] using order)
      · simpa [literalPredicateMayMatch, converted, bound, Comparison.text] using
          kept .lt (by simpa [Comparison.truthOf] using less)
      · simpa [literalPredicateMayMatch, converted, bound, Comparison.text] using
          kept .gtEq (by simpa [Comparison.truthOf] using order)
      · simpa [literalPredicateMayMatch, converted, bound, Comparison.text] using
          kept .gt (by simpa [Comparison.truthOf] using more)

/-- Of a file whose metrics are true of its rows, a matching row is never pruned exactly when
the metrics decide every column. -/
theorem filePruning_sound_iff (documented : SailSpec.Documented)
    (metadata : TableMetadata FieldType) (dataFile : SailDataFile) (rows : List Row)
    (truthful : TrueMetrics dataFile rows) :
    PruningSound metadata dataFile rows ↔ DecidesColumns metadata dataFile rows :=
  ⟨decides_of_pruningSound documented, pruningSound_of_decides documented truthful⟩

end Leaves

end Model

section Sample

def sampleUnary (filter : Json) : Except String UnaryExpression :=
  match filter.get "term" with
  | some (.str name) => .ok ⟨.reference name⟩
  | _ => .error "missing field term"

def sampleLiteral (filter : Json) : Except String LiteralExpression :=
  match filter.get "term", filter.get "value" with
  | some (.str name), some value => .ok ⟨.reference name, value⟩
  | _, _ => .error "missing field value"

def sampleSet (filter : Json) : Except String SetExpression :=
  match filter.get "term", filter.get "values" with
  | some (.str name), some (.arr values) => .ok ⟨.reference name, values⟩
  | _, _ => .error "missing field values"

/-- Columns of type `long`. -/
@[reducible] def sampleSail : SailSpec where
  PrimitiveLiteral := Int
  order := inferInstance
  stringOf _ := none
  restPrimitiveLiteralValue number := .int number
  isNan _ := false
  FieldType := Unit
  literalFromJson value _ :=
    match value with
    | .int number => .ok (some (.primitive number))
    | .null => .ok none
    | _ => .error "expected a long"
  deserializeMetadata _ := .error "missing field"
  trueExpression _ := .ok ()
  falseExpression _ := .ok ()
  andOrExpression _ := .ok ()
  notExpression _ := .ok ()
  unaryExpression := sampleUnary
  literalExpression := sampleLiteral
  setExpression := sampleSet

theorem sampleSail_documented : @SailSpec.Documented sampleSail := by
  let _ := sampleSail
  constructor
  · intro low high lowText highText lowString
    cases lowString
  · intro value nan
    cases nan
  · intro kind name
    exact show sampleUnary _ = _ by simp [sampleUnary]
  · intro kind name value
    exact show sampleLiteral _ = _ by simp [sampleLiteral, List.lookup]
  · intro json metadata snapshot read
    cases read

def sampleSchema : TableMetadata Unit where
  location := "file:///tables/events"
  currentSchema := some [⟨1, "id", ()⟩]
  currentSnapshot := none
  snapshots := []
  partitionSpecs := []

/-- One row, whose only column is NULL. -/
def sampleDataFile (nullValueCounts : List (Int × Nat)) : @SailDataFile sampleSail :=
  let _ := sampleSail
  { content := .data
    filePath := "file:///tables/events/data/part-0.parquet"
    fileFormat := .parquet
    partition := []
    recordCount := 1
    fileSizeInBytes := 400
    columnSizes := []
    valueCounts := [(1, 1)]
    nullValueCounts := nullValueCounts
    nanValueCounts := []
    lowerBounds := []
    upperBounds := []
    splitOffsets := []
    equalityIds := []
    sortOrderId := none
    firstRowId := none
    partitionSpecId := 0
    contentOffset := none
    contentSizeInBytes := none }

theorem sampleDataFile_truthful (nullValueCounts : List (Int × Nat))
    (counts : ∀ fieldId count, nullValueCounts.lookup fieldId = some count → count = 1) :
    @TrueMetrics sampleSail (sampleDataFile nullValueCounts) [fun _ => none] := by
  let _ := sampleSail
  refine ⟨rfl, fun fieldId count recorded => ?_, fun fieldId count recorded => ?_,
    fun _ _ => nofun, fun _ _ => nofun, fun _ _ => nofun⟩
  · simp only [sampleDataFile, List.lookup] at recorded
    split at recorded <;> simp_all
  · simpa using counts fieldId count recorded

/-- With the null count recorded the NULL row is found. -/
theorem filePruning_sound_sample :
    @PruningSound sampleSail sampleSchema (sampleDataFile [(1, 1)]) [fun _ => none] := by
  let _ := sampleSail
  refine (filePruning_sound_iff sampleSail_documented sampleSchema _ _
    (sampleDataFile_truthful _ fun fieldId count recorded => ?_)).mpr ?_
  · simp only [List.lookup] at recorded
    split at recorded <;> simp_all
  · intro term field column
    cases term with
    | transformTerm => cases column
    | reference name =>
        obtain rfl : field = ⟨1, "id", ()⟩ := by
          simpa using List.mem_of_find?_eq_some column
        refine ⟨fun _ => ⟨1, rfl⟩, ?_⟩
        simp

/-- Without it the file is pruned under `is-null`. -/
theorem missingNullCount_pruned :
    @TrueMetrics sampleSail (sampleDataFile []) [fun _ => none] ∧
      ¬@PruningSound sampleSail sampleSchema (sampleDataFile []) [fun _ => none] := by
  let _ := sampleSail
  refine ⟨sampleDataFile_truthful [] nofun, fun sound => ?_⟩
  obtain ⟨count, recorded⟩ := (decides_of_pruningSound sampleSail_documented sound
    (.reference "id") ⟨1, "id", ()⟩ rfl).nulls ⟨_, List.mem_singleton_self _, rfl⟩
  cases recorded

end Sample

end LakeCat
