import LakeCat.EventIds
import LakeCat.PoliciesRestrict
import LakeCat.QueryGraphBundles

/-!
A bundle cannot be changed under its hash: each canonical document determines
what it was written from, and the table-only document determines all but the
views, the policy bindings and the hashes of these.
-/

namespace LakeCat

open Fallible

theorem map_of_map {encode : α → β} (determines : Function.Injective encode)
    {ones others : List α} (same : ones.map encode = others.map encode) : ones = others :=
  List.map_injective_iff.mpr determines same

theorem strings_injective : Function.Injective strings := by
  intro ones others same
  exact map_of_map (fun _ _ equal => Json.str.inj equal) (Json.arr.inj same)

theorem ofOption_injective {encode : α → Json} (determines : Function.Injective encode)
    (present : ∀ value, encode value ≠ .null) : Function.Injective (Json.ofOption encode) := by
  intro one other same
  cases one with
  | none =>
      cases other with
      | none => rfl
      | some second => exact absurd same.symm (present second)
  | some first =>
      cases other with
      | none => exact absurd same (present first)
      | some second => exact congrArg some (determines same)

theorem ofOptionStrings_injective : Function.Injective (Json.ofOption strings) :=
  ofOption_injective strings_injective (fun _ absent => by simp [strings] at absent)

theorem ofOptionU64_injective : Function.Injective (Json.ofOption ofU64) :=
  ofOption_injective (fun _ _ same => ofU64_injective same)
    (fun _ absent => by simp [ofU64] at absent)

/-- An absent field is told from a present one by what follows it. -/
theorem presentField_injective {key : String} {encode : α → Json}
    (determines : Function.Injective encode) {one other : Option α}
    {rest others : List (String × Json)} (apart : ∀ field ∈ rest, field.1 ≠ key)
    (otherApart : ∀ field ∈ others, field.1 ≠ key)
    (same : Json.presentField key encode one ++ rest =
      Json.presentField key encode other ++ others) : one = other ∧ rest = others := by
  cases one with
  | none =>
      cases other with
      | none => exact ⟨rfl, same⟩
      | some second =>
          have first : rest = (key, encode second) :: others := same
          exact absurd rfl (apart (key, encode second) (first ▸ List.mem_cons_self))
  | some first =>
      cases other with
      | none =>
          have second : (key, encode first) :: rest = others := same
          exact absurd rfl (otherApart (key, encode first) (second ▸ List.mem_cons_self))
      | some second =>
          obtain ⟨fields, later⟩ := List.cons.inj
            (show (key, encode first) :: rest = (key, encode second) :: others from same)
          exact ⟨congrArg some (determines (Prod.mk.inj fields).2), later⟩

theorem QueryGraphEdge.canonicalJson_injective : Function.Injective canonicalJson := by
  rintro ⟨source, target, label⟩ ⟨otherSource, otherTarget, otherLabel⟩ same
  simp_all [canonicalJson]

theorem QueryGraphNode.canonicalJson_injective : Function.Injective canonicalJson := by
  rintro ⟨id, label, properties⟩ ⟨otherId, otherLabel, otherProperties⟩ same
  simp_all [canonicalJson]

theorem QueryGraphCatalogGraph.canonicalJson_injective : Function.Injective canonicalJson := by
  rintro ⟨nodes, edges⟩ ⟨otherNodes, otherEdges⟩ same
  simp only [canonicalJson, Json.obj.injEq, List.cons.injEq, Prod.mk.injEq, Json.arr.injEq,
    true_and, and_true] at same
  rw [map_of_map QueryGraphEdge.canonicalJson_injective same.1,
    map_of_map QueryGraphNode.canonicalJson_injective same.2]

theorem TableIdent.canonicalJson_injective : Function.Injective TableIdent.canonicalJson := by
  rintro ⟨⟨warehouse⟩, ⟨parts⟩, ⟨name⟩⟩ ⟨⟨otherWarehouse⟩, ⟨otherParts⟩, ⟨otherName⟩⟩ same
  simp only [canonicalJson, TableName.toJson, Namespace.toJson, WarehouseName.toJson,
    Json.obj.injEq, List.cons.injEq, Prod.mk.injEq, Json.str.injEq, Json.arr.injEq,
    true_and, and_true] at same
  obtain ⟨sameName, sameParts, sameWarehouse⟩ := same
  rw [sameName, sameWarehouse, map_of_map (fun _ _ equal => Json.str.inj equal) sameParts]

theorem QueryGraphPolicyBindingProjection.canonicalJson_injective :
    Function.Injective canonicalJson := by
  rintro ⟨policyId, enforced, ns, table, odrl⟩ ⟨otherId, otherEnforced, otherNs, otherTable,
    otherOdrl⟩ same
  simp only [canonicalJson, Json.obj.injEq, List.cons.injEq, Prod.mk.injEq, Json.bool.injEq,
    Json.str.injEq, true_and, and_true] at same
  obtain ⟨sameEnforced, sameNs, sameOdrl, sameId, sameTable⟩ := same
  rw [sameEnforced, ofOptionStrings_injective sameNs, sameOdrl, sameId,
    ofOptionStr_injective sameTable]

theorem policyBindingsJson_injective {table other : QueryGraphTableProjection}
    (same : policyBindingsJson table = policyBindingsJson other) :
    table.policyBindings = other.policyBindings :=
  map_of_map QueryGraphPolicyBindingProjection.canonicalJson_injective (Json.arr.inj same)

/-- The table as the table-only document shows it. -/
def QueryGraphTableProjection.withoutPolicyBindings (table : QueryGraphTableProjection) :
    QueryGraphTableProjection :=
  { table with policyBindings := [] }

theorem QueryGraphTableProjection.importJson_determines
    {table other : QueryGraphTableProjection} (same : table.importJson = other.importJson) :
    table.withoutPolicyBindings = other.withoutPolicyBindings := by
  simp only [importJson, Json.obj.injEq, List.cons.injEq, Prod.mk.injEq, Json.str.injEq,
    true_and, and_true] at same
  obtain ⟨cdif, croissant, format, ident, location, metadata, odrl, osi, stableId, version⟩ := same
  simp only [withoutPolicyBindings, cdif, croissant, ofOptionInt_injective format,
    TableIdent.canonicalJson_injective ident, location, ofOptionStr_injective metadata, odrl, osi,
    stableId, ofU64_injective version]

theorem QueryGraphTableProjection.canonicalJson_injective : Function.Injective canonicalJson := by
  intro table other same
  simp only [canonicalJson, Json.obj.injEq, List.cons.injEq, Prod.mk.injEq, true_and,
    and_true] at same
  obtain ⟨cdif, croissant, format, ident, location, metadata, odrl, osi, bindings, stableId,
    version⟩ := same
  have reduced : table.importJson = other.importJson := by
    simp only [importJson, cdif, croissant, format, ident, location, metadata, odrl, osi, stableId,
      version]
  have rest := importJson_determines reduced
  have policies := policyBindingsJson_injective bindings
  cases table
  cases other
  simp_all [withoutPolicyBindings]

theorem QueryGraphViewProjection.canonicalJson_injective : Function.Injective canonicalJson := by
  rintro ⟨⟩ ⟨⟩ same
  simp only [canonicalJson, Json.obj.injEq, List.cons.injEq, Prod.mk.injEq, Json.str.injEq,
    true_and, and_true] at same
  obtain ⟨columns, dialect, name, ns, osi, properties, schemaVersion, sql, stableId, version,
    warehouse⟩ := same
  simp only [columns, dialect, name, strings_injective ns, osi, properties,
    ofOptionU64_injective schemaVersion, sql, stableId, ofU64_injective version, warehouse]

theorem QueryGraphViewReceiptEvidence.canonicalJson_injective :
    Function.Injective canonicalJson := by
  rintro ⟨⟩ ⟨⟩ same
  simp only [canonicalJson, Json.obj.injEq, List.cons.injEq, Prod.mk.injEq, Json.str.injEq,
    true_and, and_true] at same
  obtain ⟨chainHash, receiptHash, stableId, version⟩ := same
  simp only [chainHash, receiptHash, stableId, ofU64_injective version]

theorem QueryGraphTableArtifactHashes.canonicalJson_injective :
    Function.Injective canonicalJson := by
  rintro ⟨⟩ ⟨⟩ same
  simp_all [canonicalJson]

theorem QueryGraphViewArtifactHashes.canonicalJson_injective :
    Function.Injective canonicalJson := by
  rintro ⟨⟩ ⟨⟩ same
  simp_all [canonicalJson]

/-- The evidence as an optional field: none when the list is empty. -/
theorem evidence_presentField (evidence : List QueryGraphViewReceiptEvidence) :
    (if evidence.isEmpty then []
      else [("view-receipt-evidence",
        Json.arr (evidence.map QueryGraphViewReceiptEvidence.canonicalJson))]) =
      Json.presentField "view-receipt-evidence"
        (fun records => .arr (records.map QueryGraphViewReceiptEvidence.canonicalJson))
        (if evidence.isEmpty then none else some evidence) := by
  cases evidence <;> rfl

theorem presentField_key {key : String} {encode : α → Json} {value : Option α}
    {field : String × Json} (member : field ∈ Json.presentField key encode value) :
    field.1 = key := by
  cases value with
  | none => exact absurd member List.not_mem_nil
  | some _ => rw [List.mem_singleton.mp member]

theorem QueryGraphImportCompatibility.canonicalJson_injective :
    Function.Injective canonicalJson := by
  rintro ⟨schema, tableOnly, views, graph, evidence, hash⟩
    ⟨otherSchema, otherTableOnly, otherViews, otherGraph, otherEvidence, otherHash⟩ same
  simp only [canonicalJson, evidence_presentField, List.cons_append, List.nil_append,
    Json.obj.injEq, List.cons.injEq, Prod.mk.injEq, Json.str.injEq, Json.int.injEq,
    Int.natCast_inj, true_and] at same
  obtain ⟨sameGraph, sameSchema, sameTableOnly, sameViews, optional⟩ := same
  have determines : Function.Injective fun records : List QueryGraphViewReceiptEvidence =>
      Json.arr (records.map QueryGraphViewReceiptEvidence.canonicalJson) :=
    fun _ _ equal =>
      map_of_map QueryGraphViewReceiptEvidence.canonicalJson_injective (Json.arr.inj equal)
  have apart (value : Option String) (field : String × Json)
      (member : field ∈ Json.presentField "view-receipt-evidence-hash" .str value) :
      field.1 ≠ "view-receipt-evidence" := by
    rw [presentField_key member]
    decide
  obtain ⟨sameEvidence, sameHash⟩ :=
    presentField_injective determines (apart hash) (apart otherHash) optional
  have hashes : hash = otherHash := by
    cases hash <;> cases otherHash <;> simp_all [Json.presentField]
  have records : evidence = otherEvidence := by
    cases evidence <;> cases otherEvidence <;>
      simp_all only [List.isEmpty_nil, List.isEmpty_cons, ↓reduceIte, Bool.false_eq_true,
        Option.some.injEq, reduceCtorEq]
  rw [sameGraph, sameSchema, sameTableOnly, sameViews, records, hashes]

theorem QueryGraphBundleManifest.canonicalJson_injective : Function.Injective canonicalJson := by
  intro one other same
  simp only [canonicalJson, List.cons_append, List.nil_append, Json.obj.injEq, List.cons.injEq,
    Prod.mk.injEq, Json.str.injEq, true_and] at same
  obtain ⟨graph, openLineage, producer, optional⟩ := same
  obtain ⟨contract, rest⟩ := presentField_injective
    QueryGraphImportCompatibility.canonicalJson_injective (by simp) (by simp) optional
  simp only [List.cons.injEq, Prod.mk.injEq, Json.str.injEq, Json.arr.injEq, true_and,
    and_true] at rest
  obtain ⟨schema, standards, tables, views⟩ := rest
  have tableArtifacts := map_of_map QueryGraphTableArtifactHashes.canonicalJson_injective tables
  have viewArtifacts := map_of_map QueryGraphViewArtifactHashes.canonicalJson_injective views
  have names := strings_injective standards
  cases one
  cases other
  simp_all only

namespace QueryGraphBootstrap

/-- What the bundle hash is taken of. -/
def document (bundle : QueryGraphBootstrap) : Json :=
  bundleDocument bundle.warehouse bundle.manifest bundle.tables bundle.views bundle.graph
    bundle.openLineage

/-- What the table-only hash is taken of. -/
def importOnly (bundle : QueryGraphBootstrap) : Json :=
  importDocument bundle.warehouse bundle.manifest bundle.tables bundle.graph bundle.openLineage

/-- The bundle as its document shows it. -/
theorem document_determines {one other : QueryGraphBootstrap}
    (same : one.document = other.document) (hashes : one.bundleHash = other.bundleHash) :
    { one with generatedAt := other.generatedAt } = other := by
  simp only [document, bundleDocument, Json.obj.injEq, List.cons.injEq, Prod.mk.injEq,
    Json.str.injEq, Json.arr.injEq, true_and, and_true] at same
  obtain ⟨graph, manifest, openLineage, tables, views, warehouse⟩ := same
  have sameGraph := QueryGraphCatalogGraph.canonicalJson_injective graph
  have sameManifest := QueryGraphBundleManifest.canonicalJson_injective manifest
  have sameTables := map_of_map QueryGraphTableProjection.canonicalJson_injective tables
  have sameViews := map_of_map QueryGraphViewProjection.canonicalJson_injective views
  obtain ⟨⟨name⟩, _⟩ := one
  obtain ⟨⟨otherName⟩, _⟩ := other
  simp_all only

/-- What a table-only document shows of a bundle. -/
structure SameImport (one other : QueryGraphBootstrap) : Prop where
  warehouse : one.warehouse = other.warehouse
  graph : one.graph = other.graph
  openLineage : one.openLineage = other.openLineage
  tables : one.tables.map QueryGraphTableProjection.withoutPolicyBindings =
    other.tables.map QueryGraphTableProjection.withoutPolicyBindings

theorem importOnly_determines {one other : QueryGraphBootstrap}
    (same : one.importOnly = other.importOnly) : SameImport one other := by
  simp only [importOnly, importDocument, Json.obj.injEq, List.cons.injEq, Prod.mk.injEq,
    Json.str.injEq, Json.arr.injEq, true_and, and_true] at same
  obtain ⟨graph, _, openLineage, tables, warehouse⟩ := same
  have reduced : one.tables.map QueryGraphTableProjection.withoutPolicyBindings =
      other.tables.map QueryGraphTableProjection.withoutPolicyBindings := by
    rw [← List.forall₂_eq_eq_eq, List.forall₂_map_left_iff, List.forall₂_map_right_iff] at tables ⊢
    exact tables.imp fun _ _ equal => QueryGraphTableProjection.importJson_determines equal
  refine ⟨?_, QueryGraphCatalogGraph.canonicalJson_injective graph, openLineage, reduced⟩
  exact congrArg WarehouseName.mk warehouse

section
variable [External]

/-- A bundle that passes the check carries the hashes of its documents. -/
structure Hashed (bundle : QueryGraphBootstrap) : Prop where
  bundleHash : bundle.bundleHash = contentHashJson bundle.document
  importHash : ∀ contract, bundle.manifest.querygraphImport = some contract →
    contract.tableOnlyBundleHash = contentHashJson bundle.importOnly

theorem hashed_of_verified {bundle : QueryGraphBootstrap}
    {summary : QueryGraphBootstrapVerification} (verified : bundle.verifyManifest = .ok summary) :
    bundle.Hashed := by
  obtain ⟨contract, verifies, _⟩ := verifyManifest_ok.mp verified
  refine ⟨verifies.bundleHash, ?_⟩
  intro carried same
  rw [Option.some.inj (same.symm.trans verifies.carried)]
  exact verifies.importHash

/-- A verified hash names one bundle, but for the time the bundle was made. -/
theorem verifiedHash_determines {one other : QueryGraphBootstrap}
    {summary otherSummary : QueryGraphBootstrapVerification}
    (verified : one.verifyManifest = .ok summary)
    (otherVerified : other.verifyManifest = .ok otherSummary)
    (noCollision : CollisionFree [one.document, other.document])
    (noImportCollision : CollisionFree [one.importOnly, other.importOnly]) :
    (one.bundleHash = other.bundleHash →
      { one with generatedAt := other.generatedAt } = other) ∧
    (∀ contract otherContract, one.manifest.querygraphImport = some contract →
      other.manifest.querygraphImport = some otherContract →
      contract.tableOnlyBundleHash = otherContract.tableOnlyBundleHash →
      SameImport one other) := by
  have hashed := hashed_of_verified verified
  have otherHashed := hashed_of_verified otherVerified
  constructor
  · intro same
    refine document_determines (noCollision _ (by simp) _ (by simp) ?_) same
    rw [← hashed.bundleHash, same, otherHashed.bundleHash]
  · intro contract otherContract carried otherCarried same
    refine importOnly_determines (noImportCollision _ (by simp) _ (by simp) ?_)
    rw [← hashed.importHash contract carried, same, otherHashed.importHash _ otherCarried]

end

def sampleHash : String := @contentHashJson constantExternal .null

/-- A bundle of one table and one view, under hashes that are all alike. -/
def sampleBundle (generatedAt : Timestamp) : QueryGraphBootstrap where
  warehouse := sampleIdent.warehouse
  generatedAt := generatedAt
  bundleHash := sampleHash
  manifest := {
    schemaVersion := "lakecat.querygraph.bootstrap.v1"
    producer := "https://querygraph.ai/lakecat"
    standards := ["Iceberg REST"]
    tableArtifacts := [⟨sampleIdent.stableId, sampleHash, sampleHash, sampleHash, sampleHash,
      sampleHash⟩]
    viewArtifacts := [⟨"lakecat:view:main:sales:recent", sampleHash⟩]
    graphHash := sampleHash
    openLineageHash := sampleHash
    querygraphImport := some {
      schemaVersion := "lakecat.querygraph.import-compat.v1"
      tableOnlyBundleHash := sampleHash
      viewCount := 1
      graphHash := sampleHash
      viewReceiptEvidence := [⟨"lakecat:view:main:sales:recent", 1, sampleHash, sampleHash⟩]
      viewReceiptEvidenceHash := some sampleHash
    }
  }
  tables := [⟨sampleIdent, sampleIdent.stableId, "s3://lake/orders", none, 0, some 2, .null, .null,
    .null, .null, [⟨"readers", true, some ["sales"], none, .null⟩]⟩]
  views := [⟨"lakecat:view:main:sales:recent", "main", ["sales"], "recent", 1, "select 1", "ansi",
    none, .arr [], .object [], .null⟩]
  graph := ⟨[⟨"lakecat:warehouse:main", "Warehouse", .null⟩], []⟩
  openLineage := .null

theorem verifiedHash_determines_sample : ∃ (_ : External) (one other : QueryGraphBootstrap),
    one ≠ other ∧ (one.bundleHash = other.bundleHash →
      { one with generatedAt := other.generatedAt } = other) ∧
    (∀ contract otherContract, one.manifest.querygraphImport = some contract →
      other.manifest.querygraphImport = some otherContract →
      contract.tableOnlyBundleHash = otherContract.tableOnlyBundleHash →
      SameImport one other) := by
  let _ := constantExternal
  have verified : ((sampleBundle 0).verifyManifest.toOption.any fun _ => true) = true := by
    decide +kernel
  have otherVerified : ((sampleBundle 1).verifyManifest.toOption.any fun _ => true) = true := by
    decide +kernel
  obtain ⟨summary, first, _⟩ := exists_ok_of_any verified
  obtain ⟨otherSummary, second, _⟩ := exists_ok_of_any otherVerified
  refine ⟨constantExternal, sampleBundle 0, sampleBundle 1, ?_,
    verifiedHash_determines first second ?_ ?_⟩
  · intro same
    exact absurd (congrArg generatedAt same) (by decide)
  · intro one member other also _
    simp only [List.mem_cons, List.not_mem_nil, or_false] at member also
    rcases member with rfl | rfl <;> rcases also with rfl | rfl <;> rfl
  · intro one member other also _
    simp only [List.mem_cons, List.not_mem_nil, or_false] at member also
    rcases member with rfl | rfl <;> rcases also with rfl | rfl <;> rfl

end QueryGraphBootstrap

end LakeCat
