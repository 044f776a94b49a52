import LakeCat.CanonicalJson
import LakeCat.EventIds
import LakeCat.GrantRenewal
import LakeCat.NameKeys
import LakeCat.ScanEvents

/-!
The governed scan proof as a document. What is read back is what was issued, and
the digest in a document that is accepted leaves none of its fields open.
-/

namespace LakeCat

open Fallible

/-- A derived struct: its fields by key, each at most once, or in an array in their order. -/
def Json.readStruct (names : List String) (denyUnknown : Bool) : Json → Option (List Json)
  | .obj fields =>
      let keys := fields.map Prod.fst
      if (denyUnknown ∧ ∃ key ∈ keys, key ∉ names) ∨ ¬(keys.filter (· ∈ names)).Nodup then none
      else names.mapM fun name => fields.lookup name
  | .arr items => if items.length = names.length then some items else none
  | _ => none

def Json.readStrings (value : Json) : Option (List String) :=
  value.asArray.bind fun items => items.mapM asStr

def TableIdent.read (value : Json) : Option TableIdent :=
  match value.readStruct ["warehouse", "namespace", "name"] false with
  | some [warehouse, ns, name] => do
      return ⟨⟨← warehouse.asStr⟩, ⟨← ns.readStrings⟩, ⟨← name.asStr⟩⟩
  | _ => none

/-- `GovernedScanCatalogIdentity::deserialize`. -/
def readCatalogIdentity (value : Json) : Option String := do
  let identity ← value.asStr
  if validateGovernedScanText identity = .ok () then some identity else none

def proofKeys : List String :=
  ["version", "grantId", "catalogIdentity", "table", "tableVersion", "snapshotId",
    "planTaskDigest", "principalSubject", "purpose", "effectiveProjection",
    "identityContextDigest", "authorizationReceiptDigest", "policyDecisionDigest"]

/-- What `GovernedScanProof::issue` is given. -/
structure GovernedScanProofEvidence where
  catalogIdentity : String
  table : TableIdent
  tableVersion : UInt64
  snapshotId : Int64
  planTaskDigest : String
  principalSubject : String
  purpose : String
  effectiveProjection : List String
  identityContextDigest : String
  authorizationReceiptDigest : String
  policyDecisionDigest : String

def GovernedScanProofEvidence.unissued (evidence : GovernedScanProofEvidence) :
    GovernedScanProof where
  version := governedScanProofVersion
  grantId := ""
  catalogIdentity := evidence.catalogIdentity
  table := evidence.table
  tableVersion := evidence.tableVersion
  snapshotId := evidence.snapshotId.toInt
  planTaskDigest := evidence.planTaskDigest
  principalSubject := evidence.principalSubject
  purpose := evidence.purpose
  effectiveProjection := evidence.effectiveProjection
  identityContextDigest := evidence.identityContextDigest
  authorizationReceiptDigest := evidence.authorizationReceiptDigest
  policyDecisionDigest := evidence.policyDecisionDigest

namespace GovernedScanProof

/-- `GovernedScanProofFields::deserialize`. -/
def readFields (document : Json) : Option GovernedScanProof :=
  match document.readStruct proofKeys true with
  | some [version, grantId, catalogIdentity, table, tableVersion, snapshotId, planTaskDigest,
      principalSubject, purpose, effectiveProjection, identityContextDigest,
      authorizationReceiptDigest, policyDecisionDigest] => do
      return {
        version := ← version.asStr
        grantId := ← grantId.asStr
        catalogIdentity := ← readCatalogIdentity catalogIdentity
        table := ← TableIdent.read table
        tableVersion := UInt64.ofNat (← tableVersion.asU64)
        snapshotId := ← snapshotId.asI64
        planTaskDigest := ← planTaskDigest.asStr
        principalSubject := ← principalSubject.asStr
        purpose := ← purpose.asStr
        effectiveProjection := ← effectiveProjection.readStrings
        identityContextDigest := ← identityContextDigest.asStr
        authorizationReceiptDigest := ← authorizationReceiptDigest.asStr
        policyDecisionDigest := ← policyDecisionDigest.asStr
      }
  | _ => none

/-- `GovernedScanProof::deserialize`. -/
def deserialize [External] (document : Json) : Option GovernedScanProof := do
  let proof ← readFields document
  if proof.version = governedScanProofVersion ∧ proof.validateIntegrity = .ok () then some proof
  else none

/-- The text that is hashed into the identifier. -/
def digestText (proof : GovernedScanProof) : String :=
  "lakecat.governed-scan-proof.digest.v2" ++ "\x00" ++ proof.digestFields.compact

end GovernedScanProof

theorem canonical_strings (texts : List String) :
    Json.canonicalizeJson (.arr (texts.map .str)) = .arr (texts.map .str) := by
  rw [Json.canonicalizeJson, Json.canonicalizeItems_map, List.map_map]
  rfl

theorem wellFormed_strings (texts : List String) : (Json.arr (texts.map .str)).WellFormed := by
  refine .arr fun item member => ?_
  obtain ⟨text, _, rfl⟩ := List.mem_map.mp member
  exact .str text

namespace TableIdent

theorem toJson_sorted (table : TableIdent) :
    table.toJson = .obj [("name", table.name.toJson), ("namespace", table.ns.toJson),
      ("warehouse", table.warehouse.toJson)] := by
  simp +decide [toJson, Json.object, Json.insertField]

theorem toJson_wellFormed (table : TableIdent) : table.toJson.WellFormed := by
  rw [toJson_sorted]
  refine .obj (by simp) ?_
  simp only [List.mem_cons, List.not_mem_nil, or_false]
  rintro field (rfl | rfl | rfl)
  · exact .str _
  · exact wellFormed_strings _
  · exact .str _

theorem toJson_canonical (table : TableIdent) :
    Json.canonicalizeJson table.toJson = table.toJson := by
  rw [toJson_sorted]
  refine Json.canonical_obj ["name", "namespace", "warehouse"] rfl (by decide) ?_
  simp only [List.mem_cons, List.not_mem_nil, or_false]
  rintro field (rfl | rfl | rfl)
  · rfl
  · exact canonical_strings _
  · rfl

end TableIdent

namespace GovernedScanProof

/-- The fields of a proof that its digest is taken of. -/
def coveredFields (proof : GovernedScanProof) : List (String × Json) :=
  [("authorizationReceiptDigest", .str proof.authorizationReceiptDigest),
    ("catalogIdentity", .str proof.catalogIdentity),
    ("effectiveProjection", .arr (proof.effectiveProjection.map .str)),
    ("identityContextDigest", .str proof.identityContextDigest),
    ("planTaskDigest", .str proof.planTaskDigest),
    ("policyDecisionDigest", .str proof.policyDecisionDigest),
    ("principalSubject", .str proof.principalSubject), ("purpose", .str proof.purpose),
    ("snapshotId", .int proof.snapshotId), ("table", proof.table.toJson),
    ("tableVersion", .int proof.tableVersion.toNat), ("version", .str governedScanProofVersion)]

theorem digestFields_sorted (proof : GovernedScanProof) :
    proof.digestFields = .obj proof.coveredFields := by
  simp +decide [digestFields, coveredFields, Json.object, Json.insertField]

theorem coveredFields_each (proof : GovernedScanProof) :
    ∀ field ∈ proof.coveredFields,
      field.2.WellFormed ∧ Json.canonicalizeJson field.2 = field.2 := by
  simp only [coveredFields, List.mem_cons, List.not_mem_nil, or_false]
  rintro field (rfl | rfl | rfl | rfl | rfl | rfl | rfl | rfl | rfl | rfl | rfl | rfl)
  all_goals
    first
    | exact ⟨.str _, rfl⟩
    | exact ⟨.int _, rfl⟩
    | exact ⟨wellFormed_strings _, canonical_strings _⟩
    | exact ⟨TableIdent.toJson_wellFormed _, TableIdent.toJson_canonical _⟩

theorem digestFields_wellFormed (proof : GovernedScanProof) : proof.digestFields.WellFormed := by
  rw [digestFields_sorted]
  exact .obj (by simp [coveredFields]) fun field member => (proof.coveredFields_each field member).1

theorem readStrings_map (texts : List String) :
    (Json.arr (texts.map .str)).readStrings = some texts := by
  rw [Json.readStrings, Json.asArray, Option.bind_some]
  induction texts with
  | nil => rfl
  | cons text rest ih => simp [Json.asStr, ih]

theorem readTable_toJson (table : TableIdent) : TableIdent.read table.toJson = some table := by
  have read : table.toJson.readStruct ["warehouse", "namespace", "name"] false =
      some [table.warehouse.toJson, table.ns.toJson, table.name.toJson] := by
    rw [TableIdent.toJson_sorted]
    simp +decide [Json.readStruct, List.lookup]
  rw [TableIdent.read, read]
  simp only [Namespace.toJson, readStrings_map]
  rfl

theorem readFields_toJson (proof : GovernedScanProof)
    (named : validateGovernedScanText proof.catalogIdentity = .ok ())
    (fits : -2 ^ 63 ≤ proof.snapshotId ∧ proof.snapshotId < 2 ^ 63) :
    readFields proof.toJson = some proof := by
  have read : proof.toJson.readStruct proofKeys true =
      some [.str proof.version, .str proof.grantId, .str proof.catalogIdentity,
        proof.table.toJson, .int proof.tableVersion.toNat, .int proof.snapshotId,
        .str proof.planTaskDigest, .str proof.principalSubject, .str proof.purpose,
        .arr (proof.effectiveProjection.map .str), .str proof.identityContextDigest,
        .str proof.authorizationReceiptDigest, .str proof.policyDecisionDigest] := by
    simp +decide [toJson, stringArray, Json.object, Json.insertField, Json.readStruct, proofKeys,
      List.lookup]
  have snapshot : (Json.int proof.snapshotId).asI64 = some proof.snapshotId := if_pos fits
  have version : (Json.int proof.tableVersion.toNat).asU64 = some proof.tableVersion.toNat := by
    simpa [Json.asU64] using proof.tableVersion.toNat_lt
  rw [readFields, read]
  simp [readCatalogIdentity, Json.asStr, named, readTable_toJson, version, snapshot,
    readStrings_map]

/-- The text that is hashed shows every covered field. -/
theorem digestText_determines {one other : GovernedScanProof}
    (same : one.digestText = other.digestText) :
    Json.obj one.coveredFields = .obj other.coveredFields := by
  have documents := String.append_right_inj _ |>.mp same
  have fields :=
    one.digestFields_wellFormed.compact_injective other.digestFields_wellFormed documents
  rwa [digestFields_sorted, digestFields_sorted] at fields

end GovernedScanProof

section

variable [External]

def GovernedScanProofEvidence.issue (evidence : GovernedScanProofEvidence) :
    LakeCatResult GovernedScanProof :=
  GovernedScanProof.issue evidence.unissued

/-- `domain_hash`. -/
def domainHash (domain : String) (evidence : Json) : String :=
  contentHashDomainJson domain (Json.canonicalizeJson evidence)

/-- The text that `domain_hash` hashes. -/
def domainText (domain : String) (evidence : Json) : String :=
  domain ++ "\x00" ++ (Json.canonicalizeJson evidence).compact

/-- The two texts do not have one hash. -/
def HashesApart (one other : String) : Prop :=
  External.sha256 one = External.sha256 other → one = other

theorem contentHashBytes_apart {one other : String} (apart : HashesApart one other)
    (same : contentHashBytes one = contentHashBytes other) : one = other := by
  apply apart
  have texts := String.append_right_inj _ |>.mp same
  cases first : External.sha256 one
  cases second : External.sha256 other
  rw [first, second] at texts
  subst texts
  rfl

theorem domainHash_iff {domain otherDomain : String} (separate : '\x00' ∉ domain.toList)
    (otherSeparate : '\x00' ∉ otherDomain.toList) {evidence other : Json}
    (wellFormed : evidence.WellFormed) (otherFormed : other.WellFormed)
    (apart : HashesApart (domainText domain evidence) (domainText otherDomain other)) :
    domainHash domain evidence = domainHash otherDomain other ↔
      domain = otherDomain ∧ Json.SameUpToKeys evidence other := by
  constructor
  · intro same
    have texts := contentHashBytes_apart apart same
    have chars := congrArg String.toList texts
    simp only [domainText, String.toList_append, List.append_assoc] at chars
    obtain ⟨domains, values⟩ := append_separator_inj separate otherSeparate chars
    have canonical := (Json.canonicalizeJson_wellFormed wellFormed).compact_injective
      (Json.canonicalizeJson_wellFormed otherFormed) (String.toList_inj.mp values)
    exact ⟨String.toList_inj.mp domains,
      (Json.canonicalizeJson_eq wellFormed otherFormed).mp canonical⟩
  · rintro ⟨rfl, same⟩
    rw [domainHash, domainHash, (same.canonical wellFormed).1]

namespace GovernedScanProof

/-- The digest is of the canonical form, as `domain_hash` takes it. -/
theorem proofDigest_domain (proof : GovernedScanProof) :
    proof.proofDigest =
      domainHash "lakecat.governed-scan-proof.digest.v2" proof.digestFields := by
  have canonical : Json.canonicalizeJson proof.digestFields = proof.digestFields := by
    rw [digestFields_sorted]
    exact Json.canonical_obj ["authorizationReceiptDigest", "catalogIdentity", "effectiveProjection",
      "identityContextDigest", "planTaskDigest", "policyDecisionDigest", "principalSubject",
      "purpose", "snapshotId", "table", "tableVersion", "version"] rfl (by decide)
      fun field member => (proof.coveredFields_each field member).2
  rw [domainHash, canonical, proofDigest]

/-- The identifier of a proof that passes its check leaves no field open. -/
theorem integrity_determines {one other : GovernedScanProof}
    (checked : one.validateIntegrity = .ok ()) (otherChecked : other.validateIntegrity = .ok ())
    (apart : HashesApart one.digestText other.digestText) (same : one.grantId = other.grantId) :
    one = other := by
  simp only [validateIntegrity, validateStructure, bind_eq_ok, rejectIf_ok, exists_unit, ne_eq,
    not_not] at checked otherChecked
  have digests : one.proofDigest = other.proofDigest := by
    rw [checked.2, otherChecked.2, same]
  have fields := digestText_determines (contentHashBytes_apart apart digests)
  simp only [coveredFields, Json.obj.injEq, List.cons.injEq, Prod.mk.injEq, Json.str.injEq,
    Json.int.injEq, Json.arr.injEq, Int.natCast_inj, true_and, and_true] at fields
  obtain ⟨receipt, identity, projection, context, plan, decision, subject, purpose, snapshot,
    table, version⟩ := fields
  have projections : one.effectiveProjection = other.effectiveProjection :=
    List.map_injective_iff.mpr (fun _ _ => Json.str.inj) projection
  have tables := TableIdent.toJson_injective table
  have versions := UInt64.toNat_inj.mp version
  have current : one.version = other.version := by rw [checked.1.1, otherChecked.1.1]
  cases one
  cases other
  simp_all only

/-- What a document that is accepted was read as. -/
theorem deserialize_some {document : Json} {proof : GovernedScanProof} :
    deserialize document = some proof ↔
      readFields document = some proof ∧ proof.version = governedScanProofVersion ∧
        proof.validateIntegrity = .ok () := by
  rw [deserialize]
  constructor
  · intro accepted
    obtain ⟨read, fields, checked⟩ := Option.bind_eq_some_iff.mp accepted
    split at checked
    next whole =>
      cases checked
      exact ⟨fields, whole⟩
    next => cases checked
  · rintro ⟨fields, whole⟩
    rw [fields, Option.bind_eq_bind, Option.bind_some, if_pos whole]

theorem issued_integrity {evidence proof : GovernedScanProof} (issued : issue evidence = .ok proof) :
    proof.version = governedScanProofVersion ∧ proof.validateIntegrity = .ok () := by
  simp only [issue, bind_eq_ok, exists_unit, pure_eq, Except.ok.injEq] at issued
  obtain ⟨fields, rfl⟩ := issued
  refine ⟨rfl, ?_⟩
  have digest : validateGovernedSha256Digest evidence.proofDigest "grant id" = .ok () :=
    validateGovernedSha256Digest_hash _ _
  simp only [validateIntegrity, validateStructure, bind_eq_ok, rejectIf_ok, exists_unit, ne_eq,
    not_not, true_and]
  exact ⟨⟨digest, fields⟩, rfl⟩

/-- What was issued is read back from its document. -/
theorem issued_deserialize {evidence : GovernedScanProofEvidence} {proof : GovernedScanProof}
    (issued : evidence.issue = .ok proof) : deserialize proof.toJson = some proof := by
  have whole := issued_integrity issued
  refine deserialize_some.mpr ⟨readFields_toJson proof ?_ ?_, whole⟩
  · have fields := whole.2
    simp only [validateIntegrity, validateStructure, validateFields, bind_eq_ok, exists_unit]
      at fields
    exact fields.1.2.2.2.1
  · simp only [GovernedScanProofEvidence.issue, issue, bind_eq_ok, exists_unit, pure_eq,
      Except.ok.injEq] at issued
    obtain ⟨_, rfl⟩ := issued
    exact ⟨evidence.snapshotId.le_toInt, evidence.snapshotId.toInt_lt⟩

end GovernedScanProof

/-- A proof is read back as it was issued; the identifier in an accepted document, or in a proof
that passes its check, leaves no other field open; and a digest is of everything in its evidence
but the order of keys. -/
theorem governedProofs_tamperEvident :
    (∀ (evidence : GovernedScanProofEvidence) (proof : GovernedScanProof),
      evidence.issue = .ok proof → GovernedScanProof.deserialize proof.toJson = some proof) ∧
    (∀ (document : Json) (proof changed : GovernedScanProof),
      GovernedScanProof.deserialize document = some proof → changed.grantId = proof.grantId →
      changed ≠ proof → HashesApart changed.digestText proof.digestText →
      (∀ other, GovernedScanProof.deserialize other ≠ some changed) ∧
        changed.validateIntegrity ≠ .ok ()) ∧
    (∀ (domain otherDomain : String) (evidence other : Json), '\x00' ∉ domain.toList →
      '\x00' ∉ otherDomain.toList → evidence.WellFormed → other.WellFormed →
      HashesApart (domainText domain evidence) (domainText otherDomain other) →
      (domainHash domain evidence = domainHash otherDomain other ↔
        domain = otherDomain ∧ evidence.SameUpToKeys other)) ∧
    (∀ (items others : List Json), (Json.arr items).WellFormed →
      (Json.arr items).SameUpToKeys (.arr others) →
      List.Forall₂ Json.SameUpToKeys items others) := by
  refine ⟨fun _ _ issued => GovernedScanProof.issued_deserialize issued, ?_, ?_, ?_⟩
  · intro document proof changed accepted same differs apart
    have whole := (GovernedScanProof.deserialize_some.mp accepted).2.2
    have refused : changed.validateIntegrity ≠ .ok () := fun checked =>
      differs (GovernedScanProof.integrity_determines checked whole apart same)
    exact ⟨fun other read => refused (GovernedScanProof.deserialize_some.mp read).2.2, refused⟩
  · intro domain otherDomain evidence other separate otherSeparate formed otherFormed apart
    exact domainHash_iff separate otherSeparate formed otherFormed apart
  · intro items others formed same
    exact same.items formed

end

/-- A hash that tells one text from all others. -/
@[reducible] def pickedExternal (picked : String) : External where
  sha256 text :=
    if text = picked then ⟨String.ofList (List.replicate 64 '1'), by simp, by simp⟩
    else constantExternal.sha256 text
  parseUrl _ := none
  toRfc3339 _ := ""
  serializeTimestamp _ := ""
  constraintText text := text

def sampleEvidence (version : UInt64) : GovernedScanProofEvidence where
  catalogIdentity := "catalog"
  table := sampleIdent
  tableVersion := version
  snapshotId := 1
  planTaskDigest := @contentHashBytes constantExternal ""
  principalSubject := "alice"
  purpose := "audit"
  effectiveProjection := ["id"]
  identityContextDigest := @contentHashBytes constantExternal ""
  authorizationReceiptDigest := @contentHashBytes constantExternal ""
  policyDecisionDigest := @contentHashBytes constantExternal ""

theorem sampleEvidence_fields (version : UInt64) :
    (sampleEvidence version).unissued.validateFields = .ok () := by
  have named : validateGovernedScanTable sampleIdent = .ok () := by decide
  have projected : validateGovernedScanProjection ["id"] = .ok () := by decide
  have texts : validateGovernedScanText "catalog" = .ok () ∧
      validateGovernedScanText "alice" = .ok () ∧ validateGovernedScanText "audit" = .ok () := by
    decide
  have digest (label : String) :=
    @validateGovernedSha256Digest_hash constantExternal "" label
  simp only [GovernedScanProof.validateFields, GovernedScanProofEvidence.unissued, sampleEvidence,
    named, projected, texts, ok_bind, checkEach, digest]
  rfl

theorem sampleEvidence_apart :
    (sampleEvidence 2).unissued.digestText ≠ (sampleEvidence 1).unissued.digestText := by
  intro same
  have fields := Json.obj.inj (GovernedScanProof.digestText_determines same)
  simp [GovernedScanProof.coveredFields, GovernedScanProofEvidence.unissued, sampleEvidence]
    at fields

/-- A proof whose table version is changed, and a digest of keys in two orders. -/
theorem governedProofs_tamperEvident_sample : ∃ (_ : External) (proof changed : GovernedScanProof),
    changed ≠ proof ∧ changed.grantId = proof.grantId ∧
      GovernedScanProof.deserialize proof.toJson = some proof ∧
      changed.validateIntegrity ≠ .ok () ∧
      domainHash "plan" (.obj [("a", .int 1), ("b", .arr [.int 1, .int 2])]) =
        domainHash "plan" (.obj [("b", .arr [.int 1, .int 2]), ("a", .int 1)]) ∧
      List.Forall₂ Json.SameUpToKeys [.int 1] [.int 1] := by
  let picked := (sampleEvidence 1).unissued.digestText
  let _ := pickedExternal picked
  let proof : GovernedScanProof := { (sampleEvidence 1).unissued with
    grantId := (sampleEvidence 1).unissued.proofDigest }
  let changed : GovernedScanProof := { proof with tableVersion := 2 }
  have differs : changed ≠ proof := fun same =>
    absurd (congrArg GovernedScanProof.tableVersion same) (by decide)
  have issued : (sampleEvidence 1).issue = .ok proof := by
    rw [GovernedScanProofEvidence.issue, GovernedScanProof.issue, sampleEvidence_fields]
    rfl
  have read := governedProofs_tamperEvident.1 (sampleEvidence 1) proof issued
  have apart : HashesApart changed.digestText proof.digestText := by
    intro same
    have other : External.sha256 changed.digestText = _ := if_neg sampleEvidence_apart
    have own : External.sha256 proof.digestText = _ := if_pos rfl
    rw [other, own] at same
    exact absurd (congrArg Sha256Hex.text same) (by decide)
  have refused :=
    (governedProofs_tamperEvident.2.1 proof.toJson proof changed read rfl differs apart).2
  have items : (Json.arr [.int 1, .int 2]).WellFormed := .arr (by simp; exact ⟨.int 1, .int 2⟩)
  have formed : (Json.obj [("a", .int 1), ("b", .arr [.int 1, .int 2])]).WellFormed :=
    .obj (by decide) (by simp; exact ⟨.int 1, items⟩)
  have moved : Json.SameUpToKeys (.obj [("a", .int 1), ("b", .arr [.int 1, .int 2])])
      (.obj [("b", .arr [.int 1, .int 2]), ("a", .int 1)]) :=
    .single (.fields (List.Perm.swap _ _ _))
  have digests := (governedProofs_tamperEvident.2.2.1 "plan" "plan" _ _ (by decide) (by decide)
    formed (moved.canonical formed).2 (fun _ => by
      rw [domainText, domainText, (moved.canonical formed).1])).mpr ⟨rfl, moved⟩
  have ordered := governedProofs_tamperEvident.2.2.2 [.int 1] [.int 1]
    (.arr (by simp; exact .int 1)) .refl
  exact ⟨pickedExternal picked, proof, changed, differs, rfl, read, refused, digests, ordered⟩

end LakeCat
