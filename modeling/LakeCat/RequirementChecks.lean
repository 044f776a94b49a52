import LakeCat.SailMetadata

/-!
The preconditions of a commit, checked twice: on Sail's typed table metadata for
the stable formats, and on the metadata document itself for format 4.
-/

namespace LakeCat

open Fallible

/-- The uuid crate, and the debug text of a string. -/
class SailRequirements where
  Uuid : Type
  sameUuid : DecidableEq Uuid
  parseUuid : String → Option Uuid
  displayUuid : Uuid → String
  debugStr : String → String

instance [SailRequirements] : DecidableEq SailRequirements.Uuid := SailRequirements.sameUuid

/-- What the requirement checks read of Sail's table metadata. -/
structure CheckedMetadata [SailRequirements] where
  tableUuid : Option SailRequirements.Uuid
  currentSnapshotId : Option Int
  refs : List (String × Int)
  lastColumnId : Int
  currentSchemaId : Int
  lastPartitionId : Int
  defaultSpecId : Int
  defaultSortOrderId : Option Int

inductive TableRequirement [SailRequirements] where
  | notExist
  | uuidMatch (uuid : SailRequirements.Uuid)
  | refSnapshotIdMatch (reference : String) (snapshotId : Option Int)
  | lastAssignedFieldIdMatch (lastAssignedFieldId : Int)
  | currentSchemaIdMatch (currentSchemaId : Int)
  | lastAssignedPartitionIdMatch (lastAssignedPartitionId : Int)
  | defaultSpecIdMatch (defaultSpecId : Int)
  | defaultSortOrderIdMatch (defaultSortOrderId : Int)

def mainBranch : String := "main"

/-- `{:?}` of an option. -/
def debugOption (display : α → String) : Option α → String
  | none => "None"
  | some value => "Some(" ++ display value ++ ")"

def commitFailed (text : String) : LakeCatError :=
  .conflict ("Iceberg commit failed: " ++ text)

def alreadyCreated : LakeCatError :=
  .conflict "Iceberg table already exists but commit asserted non-existence"

/-- The arm of a requirement on one number of the metadata. -/
def validateStableNumber (label : String) (actual expected : Int) : LakeCatResult Unit :=
  rejectIf (actual ≠ expected)
    (commitFailed s!"expected {label} {expected} but found {actual}")

section

variable [SailRequirements]

def validateStableRequirement (metadata : CheckedMetadata) :
    TableRequirement → LakeCatResult Unit
  | .notExist => .error alreadyCreated
  | .uuidMatch uuid =>
      let expected := SailRequirements.displayUuid uuid
      let actual := debugOption SailRequirements.displayUuid metadata.tableUuid
      rejectIf (metadata.tableUuid ≠ some uuid)
        (commitFailed s!"expected table UUID {expected} but found {actual}")
  | .refSnapshotIdMatch reference snapshotId =>
      let found :=
        if reference = mainBranch then metadata.currentSnapshotId
        else metadata.refs.lookup reference
      let actual := found.filter fun snapshotId => 0 ≤ snapshotId
      let expectedText := debugOption toString snapshotId
      let actualText := debugOption toString actual
      rejectIf (actual ≠ snapshotId)
        (commitFailed
          s!"reference '{reference}' expected snapshot {expectedText} but found {actualText}")
  | .lastAssignedFieldIdMatch lastAssignedFieldId =>
      validateStableNumber "last assigned field id" metadata.lastColumnId lastAssignedFieldId
  | .currentSchemaIdMatch currentSchemaId =>
      validateStableNumber "current schema id" metadata.currentSchemaId currentSchemaId
  | .lastAssignedPartitionIdMatch lastAssignedPartitionId =>
      validateStableNumber "last assigned partition id" metadata.lastPartitionId
        lastAssignedPartitionId
  | .defaultSpecIdMatch defaultSpecId =>
      validateStableNumber "default partition spec id" metadata.defaultSpecId defaultSpecId
  | .defaultSortOrderIdMatch defaultSortOrderId =>
      validateStableNumber "default sort order id" (metadata.defaultSortOrderId.getD 0)
        defaultSortOrderId

/-- `parse_table_requirements` decodes the whole array or fails with a text. -/
def validateStableCommitRequirements
    (parse : List Json → Except String (List TableRequirement)) (metadata : CheckedMetadata)
    (requirements : List Json) : LakeCatResult Nat := do
  match parse requirements with
  | .error text =>
      .error (.invalidArgument ("invalid Iceberg REST table requirement for Sail: " ++ text))
  | .ok requirements => do
      checkEach (validateStableRequirement metadata) requirements
      return requirements.length

end

/-- The summary of a format 4 document with the values its requirement check reads. -/
structure RequirementSummary extends SailMetadataSummary where
  tableUuid : Option String
  currentSchemaId : Option Int
  lastAssignedFieldId : Option Int
  lastAssignedPartitionId : Option Int
  defaultSpecId : Option Int
  defaultSortOrderId : Option Int

def jsonNumber (value : Json) (key : String) : Option Int :=
  (value.get key).bind Json.asI64

def jsonText (value : Json) (key : String) : Option String :=
  (value.get key).bind Json.asStr

def inspectV4Requirements (metadata : Json) : RequirementSummary :=
  { inspectV4ExtensionMetadata metadata with
    tableUuid := jsonText metadata "table-uuid"
    currentSchemaId := (jsonNumber metadata "current-schema-id").map asI32
    lastAssignedFieldId := (jsonNumber metadata "last-column-id").map asI32
    lastAssignedPartitionId := (jsonNumber metadata "last-partition-id").map asI32
    defaultSpecId := (jsonNumber metadata "default-spec-id").map asI32
    defaultSortOrderId := (jsonNumber metadata "default-sort-order-id").or (some 0) }

section

variable [SailRequirements]

def validateJsonRequirement (label : String) (actual expected : Option String) :
    LakeCatResult Unit :=
  let expectedText := debugOption SailRequirements.debugStr expected
  let actualText := debugOption SailRequirements.debugStr actual
  rejectIf (actual ≠ expected)
    (commitFailed s!"expected {label} {expectedText} but found {actualText}")

def validateJsonI64Requirement (label : String) (actual expected : Option Int) :
    LakeCatResult Unit :=
  let expectedText := debugOption toString expected
  let actualText := debugOption toString actual
  rejectIf (actual ≠ expected)
    (commitFailed s!"expected {label} {expectedText} but found {actualText}")

/-- One turn of the loop over the requirements. -/
def validateV4ExtensionRequirement (summary : RequirementSummary) (requirement : Json) :
    LakeCatResult Unit :=
  match jsonText requirement "type" with
  | none => .error (.invalidArgument "Iceberg table requirement is missing a type")
  | some "assert-create" => .error alreadyCreated
  | some "assert-table-uuid" =>
      validateJsonRequirement "table UUID" summary.tableUuid (jsonText requirement "uuid")
  | some "assert-current-schema-id" =>
      validateJsonI64Requirement "current schema id" summary.currentSchemaId
        (jsonNumber requirement "current-schema-id")
  | some "assert-ref-snapshot-id" => do
      let reference := (jsonText requirement "ref").getD mainBranch
      let named := SailRequirements.debugStr reference
      let main := SailRequirements.debugStr mainBranch
      rejectIf (reference ≠ mainBranch) (.notSupported <|
        s!"Iceberg ref assertion on {named} is not supported; " ++
        s!"only {main} snapshot assertions are validated")
      validateJsonI64Requirement "main snapshot id" summary.currentSnapshotId
        (jsonNumber requirement "snapshot-id")
  | some "assert-last-assigned-field-id" =>
      validateJsonI64Requirement "last assigned field id" summary.lastAssignedFieldId
        (jsonNumber requirement "last-assigned-field-id")
  | some "assert-last-assigned-partition-id" =>
      validateJsonI64Requirement "last assigned partition id" summary.lastAssignedPartitionId
        (jsonNumber requirement "last-assigned-partition-id")
  | some "assert-default-spec-id" =>
      validateJsonI64Requirement "default partition spec id" summary.defaultSpecId
        (jsonNumber requirement "default-spec-id")
  | some "assert-default-sort-order-id" =>
      validateJsonI64Requirement "default sort order id" summary.defaultSortOrderId
        (jsonNumber requirement "default-sort-order-id")
  | some unknown =>
      .error (.invalidArgument s!"unsupported Iceberg table requirement type: {unknown}")

def validateV4RequirementsFrom (summary : RequirementSummary) (validated : Nat) :
    List Json → LakeCatResult Nat
  | [] => .ok validated
  | requirement :: rest => do
      validateV4ExtensionRequirement summary requirement
      validateV4RequirementsFrom summary (validated + 1) rest

def validateV4ExtensionCommitRequirements (summary : RequirementSummary)
    (requirements : List Json) : LakeCatResult Nat :=
  validateV4RequirementsFrom summary 0 requirements

/-- A field that serde reads into an option. -/
def ReadsOptional (read : Json → Option α) (field : Option Json) : Option α → Prop
  | none => field = none ∨ field = some .null
  | some value => field.bind read = some value

def FitsI32 (value : Int) : Prop :=
  -2 ^ 31 ≤ value ∧ value < 2 ^ 31

/-- A number that serde reads; a missing one is left to the typed model. -/
structure ReadsI32 (document : Json) (key : String) (value : Int) : Prop where
  fits : FitsI32 value
  stated : document.get key = none ∨ jsonNumber document key = some value

/-- The typed model holds what the document says. -/
structure MirrorsMetadata (document : Json) (metadata : CheckedMetadata) : Prop where
  tableUuid : ReadsOptional (fun value => value.asStr.bind SailRequirements.parseUuid)
    (document.get "table-uuid") metadata.tableUuid
  currentSnapshotId : ReadsOptional Json.asI64 (document.get "current-snapshot-id")
    metadata.currentSnapshotId
  lastColumnId : ReadsI32 document "last-column-id" metadata.lastColumnId
  currentSchemaId : ReadsI32 document "current-schema-id" metadata.currentSchemaId
  lastPartitionId : ReadsI32 document "last-partition-id" metadata.lastPartitionId
  defaultSpecId : ReadsI32 document "default-spec-id" metadata.defaultSpecId
  defaultSortOrderId : ReadsOptional Json.asI64 (document.get "default-sort-order-id")
    metadata.defaultSortOrderId

def StatesNumber (requirement : Json) (kind key : String) (value : Int) : Prop :=
  jsonText requirement "type" = some kind ∧ jsonNumber requirement key = some value

/-- The typed requirement holds what the request says. -/
def MirrorsRequirement (requirement : Json) : TableRequirement → Prop
  | .notExist => jsonText requirement "type" = some "assert-create"
  | .uuidMatch uuid => jsonText requirement "type" = some "assert-table-uuid" ∧
      (jsonText requirement "uuid").bind SailRequirements.parseUuid = some uuid
  | .refSnapshotIdMatch reference snapshotId =>
      jsonText requirement "type" = some "assert-ref-snapshot-id" ∧
      jsonText requirement "ref" = some reference ∧
      ReadsOptional Json.asI64 (requirement.get "snapshot-id") snapshotId
  | .lastAssignedFieldIdMatch value =>
      StatesNumber requirement "assert-last-assigned-field-id" "last-assigned-field-id" value
  | .currentSchemaIdMatch value =>
      StatesNumber requirement "assert-current-schema-id" "current-schema-id" value
  | .lastAssignedPartitionIdMatch value =>
      StatesNumber requirement "assert-last-assigned-partition-id"
        "last-assigned-partition-id" value
  | .defaultSpecIdMatch value =>
      StatesNumber requirement "assert-default-spec-id" "default-spec-id" value
  | .defaultSortOrderIdMatch value =>
      StatesNumber requirement "assert-default-sort-order-id" "default-sort-order-id" value

/-- Format 4 checks no branch but the main one. -/
def TableRequirement.OnMain : TableRequirement → Prop
  | .refSnapshotIdMatch reference _ => reference = mainBranch
  | _ => True

/-- A number that both checks read in the document, or that nobody asks for. -/
def ReadAlike (document : Json) (key : String) (actual expected : Int) : Prop :=
  document.get key = none → actual ≠ expected

/-- One spelling for each uuid, and no negative id for the snapshot that is not there. -/
def CheckedAlike (document : Json) (metadata : CheckedMetadata) (requirement : Json) :
    TableRequirement → Prop
  | .notExist => True
  | .uuidMatch uuid => metadata.tableUuid = some uuid →
      jsonText document "table-uuid" = jsonText requirement "uuid"
  | .refSnapshotIdMatch _ snapshotId => ∀ current < 0, metadata.currentSnapshotId = some current →
      snapshotId ≠ none ∧ snapshotId ≠ some current
  | .lastAssignedFieldIdMatch value =>
      ReadAlike document "last-column-id" metadata.lastColumnId value
  | .currentSchemaIdMatch value =>
      ReadAlike document "current-schema-id" metadata.currentSchemaId value
  | .lastAssignedPartitionIdMatch value =>
      ReadAlike document "last-partition-id" metadata.lastPartitionId value
  | .defaultSpecIdMatch value =>
      ReadAlike document "default-spec-id" metadata.defaultSpecId value
  | .defaultSortOrderIdMatch _ => True

omit [SailRequirements] in
theorem asI32_fits {value : Int} (fits : FitsI32 value) : asI32 value = value := by
  obtain ⟨low, high⟩ := fits
  rw [asI32, Int.bmod_eq_of_le] <;> omega

omit [SailRequirements] in
theorem ReadsOptional.bind {read : Json → Option α} {document : Json} {key : String}
    {value : Option α} (reads : ReadsOptional read (document.get key) value)
    (nothing : read .null = none) : (document.get key).bind read = value := by
  cases value with
  | none =>
      rcases reads with missing | null
      · rw [missing]
        rfl
      · rw [null]
        exact nothing
  | some value => exact reads

omit [SailRequirements] in
theorem ReadsI32.summary {document : Json} {key : String} {value : Int}
    (reads : ReadsI32 document key value) :
    (jsonNumber document key).map asI32 =
      if document.get key = none then none else some value := by
  rcases reads.stated with missing | stated
  · rw [if_pos missing, jsonNumber, missing]
    rfl
  · have found : document.get key ≠ none := by
      intro missing
      rw [jsonNumber, missing] at stated
      cases stated
    rw [if_neg found, stated, Option.map_some, asI32_fits reads.fits]

omit [SailRequirements] in
/-- A number of the document is compared alike exactly when both checks read it there. -/
theorem numberChecks_agree {document : Json} {key label stableLabel : String}
    {actual expected : Int} (reads : ReadsI32 document key actual) :
    ((validateStableNumber stableLabel actual expected = .ok ()) ↔
      (validateJsonI64Requirement label ((jsonNumber document key).map asI32) (some expected) =
        .ok ())) ↔
      ReadAlike document key actual expected := by
  rw [reads.summary]
  simp only [validateStableNumber, validateJsonI64Requirement, rejectIf_ok, ne_eq, not_not]
  by_cases missing : document.get key = none
  · simp [ReadAlike, missing]
  · simp [ReadAlike, missing]

theorem uuidChecks_agree {document requirement : Json} {metadata : CheckedMetadata}
    {uuid : SailRequirements.Uuid} (mirrored : MirrorsMetadata document metadata)
    (stated : MirrorsRequirement requirement (.uuidMatch uuid)) :
    ((validateStableRequirement metadata (.uuidMatch uuid) = .ok ()) ↔
      (validateJsonRequirement "table UUID" (jsonText document "table-uuid")
        (jsonText requirement "uuid") = .ok ())) ↔
      CheckedAlike document metadata requirement (.uuidMatch uuid) := by
  have read : (jsonText document "table-uuid").bind SailRequirements.parseUuid =
      metadata.tableUuid := by
    rw [jsonText, Option.bind_assoc]
    exact mirrored.tableUuid.bind rfl
  simp only [validateStableRequirement, validateJsonRequirement, rejectIf_ok, ne_eq, not_not,
    CheckedAlike]
  constructor
  · intro agree found
    exact agree.mp found
  · intro spelled
    refine ⟨spelled, ?_⟩
    intro same
    rw [← read, same]
    exact stated.2

theorem refChecks_agree {document requirement : Json} {metadata : CheckedMetadata}
    {snapshotId : Option Int} (mirrored : MirrorsMetadata document metadata)
    (stated : MirrorsRequirement requirement (.refSnapshotIdMatch mainBranch snapshotId)) :
    ((validateStableRequirement metadata (.refSnapshotIdMatch mainBranch snapshotId) = .ok ()) ↔
      (validateJsonI64Requirement "main snapshot id" (jsonNumber document "current-snapshot-id")
        (jsonNumber requirement "snapshot-id") = .ok ())) ↔
      CheckedAlike document metadata requirement (.refSnapshotIdMatch mainBranch snapshotId) := by
  have current : jsonNumber document "current-snapshot-id" = metadata.currentSnapshotId :=
    mirrored.currentSnapshotId.bind rfl
  have expected : jsonNumber requirement "snapshot-id" = snapshotId := stated.2.2.bind rfl
  rw [current, expected]
  simp only [validateStableRequirement, validateJsonI64Requirement, rejectIf_ok, ne_eq, not_not,
    CheckedAlike, if_pos]
  cases found : metadata.currentSnapshotId with
  | none => simp
  | some current =>
      by_cases negative : current < 0
      · have dropped : (some current).filter (fun snapshotId => decide (0 ≤ snapshotId)) = none := by
          simp [Option.filter, negative]
        rw [dropped]
        constructor
        · rintro agree other _ same
          cases same
          constructor
          · intro absent
            subst absent
            cases agree.mp rfl
          · intro equal
            cases agree.mpr equal.symm |>.trans equal
        · intro apart
          obtain ⟨present, different⟩ := apart current negative rfl
          exact ⟨fun absent => absurd absent.symm present,
            fun equal => absurd equal.symm different⟩
      · have kept : (some current).filter (fun snapshotId => decide (0 ≤ snapshotId)) =
            some current := by
          simp [Option.filter]
          omega
        rw [kept]
        constructor
        · rintro _ other low same
          cases same
          exact absurd low negative
        · intro _
          exact Iff.rfl

theorem sortOrderChecks_agree {document requirement : Json} {metadata : CheckedMetadata}
    {expected : Int} (mirrored : MirrorsMetadata document metadata)
    (stated : MirrorsRequirement requirement (.defaultSortOrderIdMatch expected)) :
    (validateStableRequirement metadata (.defaultSortOrderIdMatch expected) = .ok ()) ↔
      (validateJsonI64Requirement "default sort order id"
        ((jsonNumber document "default-sort-order-id").or (some 0))
        (jsonNumber requirement "default-sort-order-id") = .ok ()) := by
  have read : jsonNumber document "default-sort-order-id" = metadata.defaultSortOrderId :=
    mirrored.defaultSortOrderId.bind rfl
  rw [read, stated.2]
  simp only [validateStableRequirement, validateStableNumber, validateJsonI64Requirement,
    rejectIf_ok, ne_eq, not_not]
  cases metadata.defaultSortOrderId with
  | none => simp
  | some actual => simp

/-- One turn of the format 4 loop against the typed check of the same requirement. -/
theorem requirementTurn_agrees {document requirement : Json} {metadata : CheckedMetadata}
    {typed : TableRequirement} (mirrored : MirrorsMetadata document metadata)
    (stated : MirrorsRequirement requirement typed) (onMain : typed.OnMain) :
    ((validateStableRequirement metadata typed = .ok ()) ↔
      (validateV4ExtensionRequirement (inspectV4Requirements document) requirement = .ok ())) ↔
      CheckedAlike document metadata requirement typed := by
  cases typed with
  | notExist =>
      simp only [MirrorsRequirement] at stated
      simp [validateStableRequirement, validateV4ExtensionRequirement, stated, CheckedAlike]
  | uuidMatch uuid =>
      simp only [validateV4ExtensionRequirement, stated.1, inspectV4Requirements]
      exact uuidChecks_agree mirrored stated
  | refSnapshotIdMatch reference snapshotId =>
      cases onMain
      simp only [validateV4ExtensionRequirement, stated.1, stated.2.1, Option.getD_some,
        inspectV4Requirements, inspectV4ExtensionMetadata, rejectIf_neg _ (not_not.mpr rfl),
        ok_bind]
      exact refChecks_agree mirrored stated
  | lastAssignedFieldIdMatch expected =>
      simp only [validateV4ExtensionRequirement, stated.1, stated.2, inspectV4Requirements]
      exact numberChecks_agree mirrored.lastColumnId
  | currentSchemaIdMatch expected =>
      simp only [validateV4ExtensionRequirement, stated.1, stated.2, inspectV4Requirements]
      exact numberChecks_agree mirrored.currentSchemaId
  | lastAssignedPartitionIdMatch expected =>
      simp only [validateV4ExtensionRequirement, stated.1, stated.2, inspectV4Requirements]
      exact numberChecks_agree mirrored.lastPartitionId
  | defaultSpecIdMatch expected =>
      simp only [validateV4ExtensionRequirement, stated.1, stated.2, inspectV4Requirements]
      exact numberChecks_agree mirrored.defaultSpecId
  | defaultSortOrderIdMatch expected =>
      simp only [validateV4ExtensionRequirement, stated.1, inspectV4Requirements, CheckedAlike,
        iff_true]
      exact sortOrderChecks_agree mirrored stated

theorem validateV4RequirementsFrom_ok (summary : RequirementSummary) (validated count : Nat)
    (requirements : List Json) :
    validateV4RequirementsFrom summary validated requirements = .ok count ↔
      (∀ requirement ∈ requirements,
        validateV4ExtensionRequirement summary requirement = .ok ()) ∧
      count = validated + requirements.length := by
  induction requirements generalizing validated with
  | nil =>
      simp [validateV4RequirementsFrom, eq_comm]
  | cons requirement rest ih =>
      simp only [validateV4RequirementsFrom, bind_unit_eq_ok, ih, List.forall_mem_cons,
        List.length_cons]
      constructor
      · rintro ⟨first, each, counted⟩
        exact ⟨⟨first, each⟩, by omega⟩
      · rintro ⟨⟨first, each⟩, counted⟩
        exact ⟨first, each, by omega⟩

/-- What holds of a typed and a JSON requirement that both checks treat alike. -/
structure SaysAlike (document : Json) (metadata : CheckedMetadata) (requirement : Json)
    (typed : TableRequirement) : Prop where
  stated : MirrorsRequirement requirement typed
  onMain : typed.OnMain
  alike : CheckedAlike document metadata requirement typed

theorem requirementTurns_agree {document : Json} {metadata : CheckedMetadata}
    (mirrored : MirrorsMetadata document metadata) {requirements : List Json}
    {typed : List TableRequirement}
    (alike : List.Forall₂ (SaysAlike document metadata) requirements typed) :
    (∀ requirement ∈ typed, validateStableRequirement metadata requirement = .ok ()) ↔
      ∀ requirement ∈ requirements,
        validateV4ExtensionRequirement (inspectV4Requirements document) requirement =
          .ok () := by
  induction alike with
  | nil => simp
  | cons first rest ih =>
      have turn := (requirementTurn_agrees mirrored first.stated first.onMain).mpr first.alike
      rw [List.forall_mem_cons, List.forall_mem_cons, turn, ih]

/-- The typed and the JSON check accept the same requirements, save where a uuid is spelled
in two ways, a negative id stands for no snapshot, or a number is only in the typed model. -/
theorem requirementChecks_agree {document : Json} {metadata : CheckedMetadata}
    (mirrored : MirrorsMetadata document metadata) :
    (∀ requirement typed, MirrorsRequirement requirement typed → typed.OnMain →
      ((validateStableRequirement metadata typed = .ok () ↔
        validateV4ExtensionCommitRequirements (inspectV4Requirements document) [requirement] =
          .ok 1) ↔
        CheckedAlike document metadata requirement typed)) ∧
    ∀ parse requirements typed, parse requirements = .ok typed →
      List.Forall₂ (SaysAlike document metadata) requirements typed → ∀ count,
      (validateStableCommitRequirements parse metadata requirements = .ok count ↔
        validateV4ExtensionCommitRequirements (inspectV4Requirements document) requirements =
          .ok count) := by
  constructor
  · intro requirement typed stated onMain
    rw [validateV4ExtensionCommitRequirements, validateV4RequirementsFrom_ok]
    simpa using requirementTurn_agrees mirrored stated onMain
  · intro parse requirements typed parsed alike count
    have turns := requirementTurns_agree mirrored alike
    have lengths := alike.length_eq
    rw [validateV4ExtensionCommitRequirements, validateV4RequirementsFrom_ok, ← turns,
      validateStableCommitRequirements, parsed]
    simp only [bind_unit_eq_ok, checkEach_ok, pure_eq, Except.ok.injEq]
    constructor
    · rintro ⟨each, counted⟩
      exact ⟨each, by omega⟩
    · rintro ⟨each, counted⟩
      exact ⟨each, by omega⟩

end

/-- Uuids as their texts, which is what the crate reads of the hyphenated form. -/
@[reducible] def textUuids : SailRequirements where
  Uuid := String
  sameUuid := inferInstance
  parseUuid := some
  displayUuid := id
  debugStr := Json.quote

def sampleUuid : String := "11111111-1111-1111-1111-111111111111"

/-- A table whose current snapshot is the one given. -/
def snapshotDocument (current : Json) : Json :=
  .object [("format-version", .int 2), ("table-uuid", .str sampleUuid), ("last-column-id", .int 1),
    ("current-schema-id", .int 0), ("last-partition-id", .int 999), ("default-spec-id", .int 0),
    ("default-sort-order-id", .int 0), ("current-snapshot-id", current)]

/-- What the typed model holds of that document. -/
def snapshotMetadata (current : Option Int) : @CheckedMetadata textUuids :=
  @CheckedMetadata.mk textUuids (some sampleUuid) current [] 1 0 999 0 (some 0)

def snapshotRequirement (expected : Json) : Json :=
  .object [("type", .str "assert-ref-snapshot-id"), ("ref", .str mainBranch),
    ("snapshot-id", expected)]

theorem snapshotMetadata_mirrors (current : Int) (fits : (Json.int current).asI64 = some current) :
    @MirrorsMetadata textUuids (snapshotDocument (.int current))
      (snapshotMetadata (some current)) := by
  have number (key : String) (value : Int) (small : 0 ≤ value ∧ value < 1000)
      (stated : (snapshotDocument (.int current)).get key = some (.int value)) :
      ReadsI32 (snapshotDocument (.int current)) key value := by
    refine ⟨⟨by omega, by omega⟩, .inr ?_⟩
    rw [jsonNumber, stated, Option.bind_some, Json.asI64, if_pos]
    omega
  apply @MirrorsMetadata.mk textUuids
  · simp only [snapshotDocument, snapshotMetadata, ReadsOptional, Json.get_object]
    rfl
  · simpa [snapshotDocument, snapshotMetadata, ReadsOptional, Json.lookup_field] using fits
  · exact number "last-column-id" 1 (by decide) (by simp [snapshotDocument, Json.lookup_field])
  · exact number "current-schema-id" 0 (by decide) (by simp [snapshotDocument, Json.lookup_field])
  · exact number "last-partition-id" 999 (by decide) (by simp [snapshotDocument, Json.lookup_field])
  · exact number "default-spec-id" 0 (by decide) (by simp [snapshotDocument, Json.lookup_field])
  · simp [snapshotDocument, snapshotMetadata, ReadsOptional, Json.asI64, Json.lookup_field]

theorem snapshotRequirement_mirrors (expected : Json) (snapshotId : Option Int)
    (reads : ReadsOptional Json.asI64 (some expected) snapshotId) :
    @MirrorsRequirement textUuids (snapshotRequirement expected)
      (@TableRequirement.refSnapshotIdMatch textUuids mainBranch snapshotId) := by
  refine ⟨?_, ?_, ?_⟩
  · simp [snapshotRequirement, jsonText, Json.asStr, Json.lookup_field]
  · simp [snapshotRequirement, jsonText, Json.asStr, Json.lookup_field]
  · simpa [snapshotRequirement, Json.lookup_field] using reads

/-- A requirement on the snapshot that is there is accepted by both checks. -/
theorem requirementChecks_agree_written :
    @validateStableRequirement textUuids (snapshotMetadata (some 7))
        (@TableRequirement.refSnapshotIdMatch textUuids mainBranch (some 7)) = .ok () ↔
      @validateV4ExtensionCommitRequirements textUuids
        (inspectV4Requirements (snapshotDocument (.int 7))) [snapshotRequirement (.int 7)] =
          .ok 1 := by
  have mirrored := snapshotMetadata_mirrors 7 (by decide)
  have stated := snapshotRequirement_mirrors (.int 7) (some 7) rfl
  apply ((@requirementChecks_agree textUuids _ _ mirrored).1 _ _ stated rfl).mpr
  intro current negative found
  cases found
  exact absurd negative (by decide)

/-- The stable check reads -1 as no snapshot, the format 4 check as the snapshot -1. -/
theorem absentSnapshot_checkedApart :
    ¬∀ (_ : SailRequirements) (document : Json) (metadata : CheckedMetadata)
      (requirement : Json) (typed : TableRequirement), MirrorsMetadata document metadata →
      MirrorsRequirement requirement typed → typed.OnMain →
      (validateStableRequirement metadata typed = .ok () ↔
        validateV4ExtensionCommitRequirements (inspectV4Requirements document) [requirement] =
          .ok 1) := by
  intro agree
  have mirrored := snapshotMetadata_mirrors (-1) (by decide)
  have stated := snapshotRequirement_mirrors .null none (.inr rfl)
  have accepted := (agree textUuids _ _ _ _ mirrored stated rfl).mp (by decide +kernel)
  revert accepted
  decide +kernel

end LakeCat
