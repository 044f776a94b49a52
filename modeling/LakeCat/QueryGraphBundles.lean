import LakeCat.CatalogRecords

/-!
The bundle that is handed to QueryGraph: its parts, the documents that its
hashes are taken of, and the check that the hashes are those of the parts. The
documents are written by hand, each field under its sorted key.
-/

namespace LakeCat

open Fallible

structure QueryGraphNode where
  id : String
  label : String
  properties : Json

structure QueryGraphEdge where
  from_ : String
  to_ : String
  label : String
  deriving DecidableEq

structure QueryGraphCatalogGraph where
  nodes : List QueryGraphNode
  edges : List QueryGraphEdge

structure QueryGraphPolicyBindingProjection where
  policyId : String
  enforced : Bool
  ns : Option (List String)
  table : Option String
  odrl : Json

structure QueryGraphTableProjection where
  ident : TableIdent
  stableId : String
  location : String
  metadataLocation : Option String
  version : UInt64
  formatVersion : Option Int
  croissant : Json
  cdif : Json
  osi : Json
  odrl : Json
  policyBindings : List QueryGraphPolicyBindingProjection

structure QueryGraphViewProjection where
  stableId : String
  warehouse : String
  ns : List String
  name : String
  viewVersion : UInt64
  sql : String
  dialect : String
  schemaVersion : Option UInt64
  columns : Json
  properties : Json
  osi : Json

structure QueryGraphViewReceiptEvidence where
  stableId : String
  viewVersion : UInt64
  receiptHash : String
  receiptChainHash : String

structure QueryGraphImportCompatibility where
  schemaVersion : String
  tableOnlyBundleHash : String
  viewCount : Nat
  graphHash : String
  viewReceiptEvidence : List QueryGraphViewReceiptEvidence
  viewReceiptEvidenceHash : Option String

structure QueryGraphViewArtifactHashes where
  stableId : String
  osiHash : String

structure QueryGraphTableArtifactHashes where
  stableId : String
  croissantHash : String
  cdifHash : String
  osiHash : String
  odrlHash : String
  policyBindingsHash : String

structure QueryGraphBundleManifest where
  schemaVersion : String
  producer : String
  standards : List String
  tableArtifacts : List QueryGraphTableArtifactHashes
  viewArtifacts : List QueryGraphViewArtifactHashes
  graphHash : String
  openLineageHash : String
  querygraphImport : Option QueryGraphImportCompatibility

structure QueryGraphBootstrap where
  warehouse : WarehouseName
  generatedAt : Timestamp
  bundleHash : String
  manifest : QueryGraphBundleManifest
  tables : List QueryGraphTableProjection
  views : List QueryGraphViewProjection
  graph : QueryGraphCatalogGraph
  openLineage : Json

structure QueryGraphBootstrapVerification where
  warehouse : String
  tableCount : Nat
  viewCount : Nat
  verifiedTables : List String
  verifiedViews : List String
  verifiedViewVersions : BTreeMap UInt64
  verifiedViewReceiptHashes : BTreeMap String
  verifiedViewReceiptChainHashes : BTreeMap String
  bundleHash : String
  graphHash : String
  openLineageHash : String
  querygraphImportHash : String
  standards : List String

/-! The canonical documents. -/

def strings (texts : List String) : Json := .arr (texts.map .str)

def QueryGraphEdge.canonicalJson (edge : QueryGraphEdge) : Json :=
  .obj [("from", .str edge.from_), ("label", .str edge.label), ("to", .str edge.to_)]

def QueryGraphNode.canonicalJson (node : QueryGraphNode) : Json :=
  .obj [("id", .str node.id), ("label", .str node.label), ("properties", node.properties)]

def QueryGraphCatalogGraph.canonicalJson (graph : QueryGraphCatalogGraph) : Json :=
  .obj [("edges", .arr (graph.edges.map QueryGraphEdge.canonicalJson)),
    ("nodes", .arr (graph.nodes.map QueryGraphNode.canonicalJson))]

def TableIdent.canonicalJson (ident : TableIdent) : Json :=
  .obj [("name", ident.name.toJson), ("namespace", ident.ns.toJson),
    ("warehouse", ident.warehouse.toJson)]

def QueryGraphPolicyBindingProjection.canonicalJson
    (binding : QueryGraphPolicyBindingProjection) : Json :=
  .obj [("enforced", .bool binding.enforced), ("namespace", Json.ofOption strings binding.ns),
    ("odrl", binding.odrl), ("policy-id", .str binding.policyId),
    ("table", ofOptionStr binding.table)]

def policyBindingsJson (table : QueryGraphTableProjection) : Json :=
  .arr (table.policyBindings.map QueryGraphPolicyBindingProjection.canonicalJson)

def QueryGraphTableProjection.canonicalJson (table : QueryGraphTableProjection) : Json :=
  .obj [("cdif", table.cdif), ("croissant", table.croissant),
    ("format-version", Json.ofOption .int table.formatVersion),
    ("ident", table.ident.canonicalJson), ("location", .str table.location),
    ("metadata-location", ofOptionStr table.metadataLocation), ("odrl", table.odrl),
    ("osi", table.osi), ("policy-bindings", policyBindingsJson table),
    ("stable-id", .str table.stableId), ("version", ofU64 table.version)]

/-- `TableOnlyQueryGraphImportTable`: without the policy bindings. -/
def QueryGraphTableProjection.importJson (table : QueryGraphTableProjection) : Json :=
  .obj [("cdif", table.cdif), ("croissant", table.croissant),
    ("format-version", Json.ofOption .int table.formatVersion),
    ("ident", table.ident.canonicalJson), ("location", .str table.location),
    ("metadata-location", ofOptionStr table.metadataLocation), ("odrl", table.odrl),
    ("osi", table.osi), ("stable-id", .str table.stableId), ("version", ofU64 table.version)]

def QueryGraphViewProjection.canonicalJson (view : QueryGraphViewProjection) : Json :=
  .obj [("columns", view.columns), ("dialect", .str view.dialect), ("name", .str view.name),
    ("namespace", strings view.ns), ("osi", view.osi), ("properties", view.properties),
    ("schema-version", Json.ofOption ofU64 view.schemaVersion), ("sql", .str view.sql),
    ("stable-id", .str view.stableId), ("view-version", ofU64 view.viewVersion),
    ("warehouse", .str view.warehouse)]

def QueryGraphViewReceiptEvidence.canonicalJson (evidence : QueryGraphViewReceiptEvidence) : Json :=
  .obj [("receipt-chain-hash", .str evidence.receiptChainHash),
    ("receipt-hash", .str evidence.receiptHash), ("stable-id", .str evidence.stableId),
    ("view-version", ofU64 evidence.viewVersion)]

def QueryGraphTableArtifactHashes.canonicalJson (artifact : QueryGraphTableArtifactHashes) : Json :=
  .obj [("cdif-hash", .str artifact.cdifHash), ("croissant-hash", .str artifact.croissantHash),
    ("odrl-hash", .str artifact.odrlHash), ("osi-hash", .str artifact.osiHash),
    ("policy-bindings-hash", .str artifact.policyBindingsHash),
    ("stable-id", .str artifact.stableId)]

/-- `TableOnlyQueryGraphImportTableArtifact`: without the hash of the policy bindings. -/
def QueryGraphTableArtifactHashes.importJson (artifact : QueryGraphTableArtifactHashes) : Json :=
  .obj [("cdif-hash", .str artifact.cdifHash), ("croissant-hash", .str artifact.croissantHash),
    ("odrl-hash", .str artifact.odrlHash), ("osi-hash", .str artifact.osiHash),
    ("stable-id", .str artifact.stableId)]

def QueryGraphViewArtifactHashes.canonicalJson (artifact : QueryGraphViewArtifactHashes) : Json :=
  .obj [("osi-hash", .str artifact.osiHash), ("stable-id", .str artifact.stableId)]

/-- An empty list of evidence and an absent hash are left out. -/
def QueryGraphImportCompatibility.canonicalJson (contract : QueryGraphImportCompatibility) : Json :=
  .obj ([("graph-hash", .str contract.graphHash),
    ("schema-version", .str contract.schemaVersion),
    ("table-only-bundle-hash", .str contract.tableOnlyBundleHash),
    ("view-count", .int contract.viewCount)] ++
    (if contract.viewReceiptEvidence.isEmpty then []
      else [("view-receipt-evidence",
        .arr (contract.viewReceiptEvidence.map QueryGraphViewReceiptEvidence.canonicalJson))]) ++
    Json.presentField "view-receipt-evidence-hash" .str contract.viewReceiptEvidenceHash)

def QueryGraphBundleManifest.canonicalJson (manifest : QueryGraphBundleManifest) : Json :=
  .obj ([("graph-hash", .str manifest.graphHash),
    ("open-lineage-hash", .str manifest.openLineageHash), ("producer", .str manifest.producer)] ++
    Json.presentField "querygraph-import" QueryGraphImportCompatibility.canonicalJson
      manifest.querygraphImport ++
    [("schema-version", .str manifest.schemaVersion), ("standards", strings manifest.standards),
      ("table-artifacts",
        .arr (manifest.tableArtifacts.map QueryGraphTableArtifactHashes.canonicalJson)),
      ("view-artifacts",
        .arr (manifest.viewArtifacts.map QueryGraphViewArtifactHashes.canonicalJson))])

def QueryGraphBundleManifest.importJson (manifest : QueryGraphBundleManifest) : Json :=
  .obj [("open-lineage-hash", .str manifest.openLineageHash), ("producer", .str manifest.producer),
    ("schema-version", .str manifest.schemaVersion), ("standards", strings manifest.standards),
    ("table-artifacts",
      .arr (manifest.tableArtifacts.map QueryGraphTableArtifactHashes.importJson))]

def bundleDocument (warehouse : WarehouseName) (manifest : QueryGraphBundleManifest)
    (tables : List QueryGraphTableProjection) (views : List QueryGraphViewProjection)
    (graph : QueryGraphCatalogGraph) (openLineage : Json) : Json :=
  .obj [("graph", graph.canonicalJson), ("manifest", manifest.canonicalJson),
    ("openLineage", openLineage),
    ("tables", .arr (tables.map QueryGraphTableProjection.canonicalJson)),
    ("views", .arr (views.map QueryGraphViewProjection.canonicalJson)),
    ("warehouse", .str warehouse.value)]

def importDocument (warehouse : WarehouseName) (manifest : QueryGraphBundleManifest)
    (tables : List QueryGraphTableProjection) (graph : QueryGraphCatalogGraph)
    (openLineage : Json) : Json :=
  .obj [("graph", graph.canonicalJson), ("manifest", manifest.importJson),
    ("openLineage", openLineage),
    ("tables", .arr (tables.map QueryGraphTableProjection.importJson)),
    ("warehouse", .str warehouse.value)]

section
variable [External]

def graphHash (graph : QueryGraphCatalogGraph) : String :=
  contentHashJson graph.canonicalJson

def policyBindingsHash (table : QueryGraphTableProjection) : String :=
  contentHashJson (policyBindingsJson table)

def viewReceiptEvidenceHash (evidence : List QueryGraphViewReceiptEvidence) : String :=
  contentHashJson (.arr (evidence.map QueryGraphViewReceiptEvidence.canonicalJson))

def querygraphBundleHash (warehouse : WarehouseName) (manifest : QueryGraphBundleManifest)
    (tables : List QueryGraphTableProjection) (views : List QueryGraphViewProjection)
    (graph : QueryGraphCatalogGraph) (openLineage : Json) : String :=
  contentHashJson (bundleDocument warehouse manifest tables views graph openLineage)

def tableOnlyQuerygraphImportHash (warehouse : WarehouseName)
    (manifest : QueryGraphBundleManifest) (tables : List QueryGraphTableProjection)
    (graph : QueryGraphCatalogGraph) (openLineage : Json) : String :=
  contentHashJson (importDocument warehouse manifest tables graph openLineage)

/-! The checks. -/

def verifyHash (label expected : String) (value : Json) : LakeCatResult Unit :=
  rejectIf (expected ≠ contentHashJson value)
    (.invalidArgument (s!"QueryGraph bootstrap {label} hash mismatch: manifest {expected}, " ++
      s!"computed {contentHashJson value}"))

def QueryGraphViewArtifactHashes.fromView (view : QueryGraphViewProjection) :
    QueryGraphViewArtifactHashes :=
  ⟨view.stableId, contentHashJson view.osi⟩

def QueryGraphViewArtifactHashes.verify (artifact : QueryGraphViewArtifactHashes)
    (view : QueryGraphViewProjection) : LakeCatResult Unit :=
  verifyHash "view OSI" artifact.osiHash view.osi

def QueryGraphTableArtifactHashes.fromTable (table : QueryGraphTableProjection) :
    QueryGraphTableArtifactHashes where
  stableId := table.stableId
  croissantHash := contentHashJson table.croissant
  cdifHash := contentHashJson table.cdif
  osiHash := contentHashJson table.osi
  odrlHash := contentHashJson table.odrl
  policyBindingsHash := LakeCat.policyBindingsHash table

def QueryGraphTableArtifactHashes.verify (artifact : QueryGraphTableArtifactHashes)
    (table : QueryGraphTableProjection) : LakeCatResult Unit := do
  verifyHash "Croissant" artifact.croissantHash table.croissant
  verifyHash "CDIF" artifact.cdifHash table.cdif
  verifyHash "OSI" artifact.osiHash table.osi
  verifyHash "ODRL" artifact.odrlHash table.odrl
  verifyHash "policy bindings" artifact.policyBindingsHash (policyBindingsJson table)

omit [External] in
/-- `validate_duplicate_free_stable_ids`, with the ids seen so far. -/
def validateDuplicateFree (label : String) (seen : List String) : List String → LakeCatResult Unit
  | [] => .ok ()
  | stableId :: rest => do
      rejectIf (stableId ∈ seen)
        (.invalidArgument s!"{label} must be duplicate-free by stable id: {stableId}")
      validateDuplicateFree label (stableId :: seen) rest

omit [External] in
/-- `index_duplicate_free_stable_ids`. -/
def indexDuplicateFree (label : String) (entries : List (String × α)) :
    LakeCatResult (List (String × α)) := do
  validateDuplicateFree label [] (entries.map Prod.fst)
  return entries

omit [External] in
def contractError (problem : String) : LakeCatError :=
  .invalidArgument s!"QueryGraph bootstrap import contract {problem}"

omit [External] in
def checkEvidenceOf (evidence : List (String × QueryGraphViewReceiptEvidence))
    (view : QueryGraphViewProjection) : LakeCatResult Unit := do
  let stableId := view.stableId
  let record ← okOr (evidence.lookup stableId)
    (contractError s!"is missing view receipt evidence for {stableId}")
  rejectIf (record.viewVersion ≠ view.viewVersion) (contractError
    (s!"view receipt evidence for {stableId} has version {record.viewVersion}, " ++
      s!"expected {view.viewVersion}"))
  rejectIf (record.receiptHash.toList = [])
    (contractError s!"view receipt evidence for {stableId} is missing a receipt hash")
  rejectIf (record.receiptChainHash.toList = [])
    (contractError s!"view receipt evidence for {stableId} is missing a receipt-chain hash")

omit [External] in
def validateViewReceiptEvidence (views : List QueryGraphViewProjection)
    (evidence : List QueryGraphViewReceiptEvidence) : LakeCatResult Unit :=
  if views.isEmpty then
    rejectIf (¬evidence.isEmpty)
      (contractError "carries view receipt evidence for a bundle without views")
  else do
    rejectIf (evidence.length ≠ views.length) (contractError
      (s!"lists {evidence.length} view receipt evidence record(s) for {views.length} " ++
        "view artifact(s)"))
    let indexed ← indexDuplicateFree "QueryGraph bootstrap import contract view receipt evidence"
      (evidence.map fun record => (record.stableId, record))
    checkEach (checkEvidenceOf indexed) views

omit [External] in
def missingImportContract : LakeCatError :=
  .invalidArgument
    "QueryGraph bootstrap manifest is missing querygraph-import compatibility contract"

def QueryGraphImportCompatibility.withEvidence (contract : QueryGraphImportCompatibility)
    (evidence : List QueryGraphViewReceiptEvidence) : QueryGraphImportCompatibility :=
  {
    contract with
    viewReceiptEvidence := evidence
    viewReceiptEvidenceHash :=
      if evidence.isEmpty then none else some (LakeCat.viewReceiptEvidenceHash evidence)
  }

/-- `attach_view_receipt_evidence`. -/
def QueryGraphBundleManifest.attachViewReceiptEvidence (manifest : QueryGraphBundleManifest)
    (views : List QueryGraphViewProjection) (evidence : List QueryGraphViewReceiptEvidence) :
    LakeCatResult QueryGraphBundleManifest := do
  validateViewReceiptEvidence views evidence
  let contract ← okOr manifest.querygraphImport missingImportContract
  return { manifest with querygraphImport := some (contract.withEvidence evidence) }

namespace QueryGraphBootstrap

def computedBundleHash (bundle : QueryGraphBootstrap) : String :=
  querygraphBundleHash bundle.warehouse bundle.manifest bundle.tables bundle.views bundle.graph
    bundle.openLineage

def withViewReceiptEvidence (bundle : QueryGraphBootstrap)
    (evidence : List QueryGraphViewReceiptEvidence) : LakeCatResult QueryGraphBootstrap := do
  let manifest ← bundle.manifest.attachViewReceiptEvidence bundle.views evidence
  let attached := { bundle with manifest := manifest }
  return { attached with bundleHash := attached.computedBundleHash }

omit [External] in
def collectMap (entries : List (String × α)) : BTreeMap α :=
  entries.foldl (fun map entry => map.insert entry.1 entry.2) ∅

omit [External] in
def verificationSummary (bundle : QueryGraphBootstrap) (contract : QueryGraphImportCompatibility) :
    QueryGraphBootstrapVerification where
  warehouse := bundle.warehouse.value
  tableCount := bundle.tables.length
  viewCount := bundle.views.length
  verifiedTables := bundle.tables.map QueryGraphTableProjection.stableId
  verifiedViews := bundle.views.map QueryGraphViewProjection.stableId
  verifiedViewVersions := collectMap (bundle.views.map fun view => (view.stableId, view.viewVersion))
  verifiedViewReceiptHashes := collectMap
    (contract.viewReceiptEvidence.map fun evidence => (evidence.stableId, evidence.receiptHash))
  verifiedViewReceiptChainHashes := collectMap
    (contract.viewReceiptEvidence.map fun evidence =>
      (evidence.stableId, evidence.receiptChainHash))
  bundleHash := bundle.bundleHash
  graphHash := bundle.manifest.graphHash
  openLineageHash := bundle.manifest.openLineageHash
  querygraphImportHash := contract.tableOnlyBundleHash
  standards := bundle.manifest.standards

omit [External] in
def constructionSummary (bundle : QueryGraphBootstrap) :
    LakeCatResult QueryGraphBootstrapVerification := do
  let contract ← okOr bundle.manifest.querygraphImport missingImportContract
  return bundle.verificationSummary contract

omit [External] in
/-- A hash that does not match, as the checks of the bundle word it. -/
def mismatch (label manifest computed : String) : LakeCatError :=
  .invalidArgument
    s!"QueryGraph bootstrap {label} hash mismatch: manifest {manifest}, computed {computed}"

/-- The checks of the import contract. -/
def verifyContract (bundle : QueryGraphBootstrap) (contract : QueryGraphImportCompatibility) :
    LakeCatResult Unit := do
  let tableOnlyBundleHash := tableOnlyQuerygraphImportHash bundle.warehouse bundle.manifest
    bundle.tables bundle.graph bundle.openLineage
  rejectIf (contract.tableOnlyBundleHash ≠ tableOnlyBundleHash)
    (mismatch "import" contract.tableOnlyBundleHash tableOnlyBundleHash)
  rejectIf (contract.viewCount ≠ bundle.views.length) (contractError
    (s!"view count {contract.viewCount} does not match bundle views " ++
      s!"{bundle.views.length}"))
  rejectIf (contract.graphHash ≠ bundle.manifest.graphHash) (contractError
    s!"graph hash {contract.graphHash} does not match manifest {bundle.manifest.graphHash}")
  validateViewReceiptEvidence bundle.views contract.viewReceiptEvidence
  if contract.viewReceiptEvidence.isEmpty then
    rejectIf contract.viewReceiptEvidenceHash.isSome
      (contractError "has a receipt evidence hash without receipt evidence")
  else
    rejectIf (contract.viewReceiptEvidenceHash ≠
        some (viewReceiptEvidenceHash contract.viewReceiptEvidence))
      (mismatch "import receipt evidence" (contract.viewReceiptEvidenceHash.getD "None")
        (viewReceiptEvidenceHash contract.viewReceiptEvidence))

def verifyTable (artifacts : List (String × QueryGraphTableArtifactHashes))
    (table : QueryGraphTableProjection) : LakeCatResult Unit := do
  let expected ← okOr (artifacts.lookup table.stableId)
    (.invalidArgument s!"QueryGraph bootstrap manifest is missing table {table.stableId}")
  expected.verify table

def verifyView (artifacts : List (String × QueryGraphViewArtifactHashes))
    (view : QueryGraphViewProjection) : LakeCatResult Unit := do
  let expected ← okOr (artifacts.lookup view.stableId)
    (.invalidArgument s!"QueryGraph bootstrap manifest is missing view {view.stableId}")
  expected.verify view

def verifyManifest (bundle : QueryGraphBootstrap) :
    LakeCatResult QueryGraphBootstrapVerification := do
  let manifest := bundle.manifest
  rejectIf (manifest.schemaVersion ≠ "lakecat.querygraph.bootstrap.v1") (.invalidArgument
    s!"unsupported QueryGraph bootstrap manifest schema {manifest.schemaVersion}")
  rejectIf (manifest.tableArtifacts.length ≠ bundle.tables.length) (.invalidArgument
    (s!"QueryGraph bootstrap manifest lists {manifest.tableArtifacts.length} table " ++
      s!"artifacts for {bundle.tables.length} tables"))
  rejectIf (manifest.viewArtifacts.length ≠ bundle.views.length) (.invalidArgument
    (s!"QueryGraph bootstrap manifest lists {manifest.viewArtifacts.length} view " ++
      s!"artifacts for {bundle.views.length} views"))
  validateDuplicateFree "QueryGraph bootstrap table projections" []
    (bundle.tables.map QueryGraphTableProjection.stableId)
  validateDuplicateFree "QueryGraph bootstrap view projections" []
    (bundle.views.map QueryGraphViewProjection.stableId)
  let tableArtifacts ← indexDuplicateFree "QueryGraph bootstrap table artifacts"
    (manifest.tableArtifacts.map fun artifact => (artifact.stableId, artifact))
  let viewArtifacts ← indexDuplicateFree "QueryGraph bootstrap view artifacts"
    (manifest.viewArtifacts.map fun artifact => (artifact.stableId, artifact))
  rejectIf (manifest.openLineageHash ≠ contentHashJson bundle.openLineage)
    (mismatch "OpenLineage" manifest.openLineageHash (contentHashJson bundle.openLineage))
  rejectIf (manifest.graphHash ≠ LakeCat.graphHash bundle.graph)
    (mismatch "graph" manifest.graphHash (LakeCat.graphHash bundle.graph))
  checkEach (verifyTable tableArtifacts) bundle.tables
  checkEach (verifyView viewArtifacts) bundle.views
  let contract ← okOr manifest.querygraphImport missingImportContract
  bundle.verifyContract contract
  rejectIf (bundle.bundleHash ≠ bundle.computedBundleHash)
    (mismatch "bundle" bundle.bundleHash bundle.computedBundleHash)
  return bundle.verificationSummary contract

/-- What a bundle must be for its manifest to verify. -/
structure Verifies (bundle : QueryGraphBootstrap) (contract : QueryGraphImportCompatibility) :
    Prop where
  schema : bundle.manifest.schemaVersion = "lakecat.querygraph.bootstrap.v1"
  tableCount : bundle.manifest.tableArtifacts.length = bundle.tables.length
  viewCount : bundle.manifest.viewArtifacts.length = bundle.views.length
  tableIds : (bundle.tables.map QueryGraphTableProjection.stableId).Nodup
  viewIds : (bundle.views.map QueryGraphViewProjection.stableId).Nodup
  tableArtifactIds :
    (bundle.manifest.tableArtifacts.map QueryGraphTableArtifactHashes.stableId).Nodup
  viewArtifactIds :
    (bundle.manifest.viewArtifacts.map QueryGraphViewArtifactHashes.stableId).Nodup
  openLineageHash : bundle.manifest.openLineageHash = contentHashJson bundle.openLineage
  graphHash : bundle.manifest.graphHash = LakeCat.graphHash bundle.graph
  tables : ∀ table ∈ bundle.tables,
    QueryGraphTableArtifactHashes.fromTable table ∈ bundle.manifest.tableArtifacts
  views : ∀ view ∈ bundle.views,
    QueryGraphViewArtifactHashes.fromView view ∈ bundle.manifest.viewArtifacts
  carried : bundle.manifest.querygraphImport = some contract
  importHash : contract.tableOnlyBundleHash = tableOnlyQuerygraphImportHash bundle.warehouse
    bundle.manifest bundle.tables bundle.graph bundle.openLineage
  contractViews : contract.viewCount = bundle.views.length
  contractGraph : contract.graphHash = bundle.manifest.graphHash
  evidence : validateViewReceiptEvidence bundle.views contract.viewReceiptEvidence = .ok ()
  evidenceHash : contract.viewReceiptEvidenceHash =
    if contract.viewReceiptEvidence.isEmpty then none
    else some (viewReceiptEvidenceHash contract.viewReceiptEvidence)
  bundleHash : bundle.bundleHash = bundle.computedBundleHash

end QueryGraphBootstrap

omit [External] in
theorem validateDuplicateFree_ok {label : String} {seen ids : List String} :
    validateDuplicateFree label seen ids = .ok () ↔ ids.Nodup ∧ ∀ id ∈ ids, id ∉ seen := by
  induction ids generalizing seen with
  | nil => simp [validateDuplicateFree]
  | cons id rest ih =>
      simp only [validateDuplicateFree, bind_unit_eq_ok, rejectIf_ok, ih, List.nodup_cons,
        List.mem_cons, not_or, forall_eq_or_imp]
      constructor
      · rintro ⟨fresh, distinct, apart⟩
        exact ⟨⟨fun member => (apart id member).1 rfl, distinct⟩, fresh,
          fun other member => (apart other member).2⟩
      · rintro ⟨⟨fresh, distinct⟩, unseen, apart⟩
        exact ⟨unseen, distinct, fun other member =>
          ⟨fun same => fresh (same ▸ member), apart other member⟩⟩

omit [External] in
theorem validateDuplicateFree_nodup {label : String} {ids : List String} :
    validateDuplicateFree label [] ids = .ok () ↔ ids.Nodup := by
  rw [validateDuplicateFree_ok]
  exact and_iff_left fun _ _ => List.not_mem_nil

omit [External] in
theorem indexDuplicateFree_ok {label : String} {entries result : List (String × α)} :
    indexDuplicateFree label entries = .ok result ↔
      (entries.map Prod.fst).Nodup ∧ entries = result := by
  simp only [indexDuplicateFree, bind_unit_eq_ok, validateDuplicateFree_nodup, pure_eq,
    Except.ok.injEq]

omit [External] in
/-- In an index without duplicates an entry is what its key finds. -/
theorem lookup_of_nodup {entries : List α} {key : α → String} (distinct : (entries.map key).Nodup)
    {id : String} {entry : α} :
    (entries.map fun value => (key value, value)).lookup id = some entry ↔
      entry ∈ entries ∧ key entry = id := by
  induction entries with
  | nil => simp
  | cons first rest ih =>
      rw [List.map_cons, List.nodup_cons] at distinct
      rw [List.map_cons, List.lookup_cons]
      by_cases same : id = key first
      · simp only [same, beq_self_eq_true, Option.some.injEq, List.mem_cons]
        constructor
        · intro found
          exact ⟨Or.inl found.symm, congrArg key found.symm⟩
        · rintro ⟨found | later, keyed⟩
          · exact found.symm
          · exact absurd (keyed ▸ List.mem_map_of_mem later) distinct.1
      · rw [beq_false_of_ne same]
        simp only [ih distinct.2, List.mem_cons]
        constructor
        · rintro ⟨later, keyed⟩
          exact ⟨Or.inr later, keyed⟩
        · rintro ⟨rfl | later, keyed⟩
          · exact absurd keyed.symm same
          · exact ⟨later, keyed⟩

theorem verifyHash_ok {label expected : String} {value : Json} :
    verifyHash label expected value = .ok () ↔ expected = contentHashJson value := by
  simp only [verifyHash, rejectIf_ok, not_not, ne_eq]

theorem QueryGraphTableArtifactHashes.verify_ok {artifact : QueryGraphTableArtifactHashes}
    {table : QueryGraphTableProjection} (named : artifact.stableId = table.stableId) :
    artifact.verify table = .ok () ↔ artifact = .fromTable table := by
  simp only [verify, bind_unit_eq_ok, verifyHash_ok]
  obtain ⟨stableId, croissant, cdif, osi, odrl, bindings⟩ := artifact
  simp_all [fromTable, LakeCat.policyBindingsHash]

theorem QueryGraphViewArtifactHashes.verify_ok {artifact : QueryGraphViewArtifactHashes}
    {view : QueryGraphViewProjection} (named : artifact.stableId = view.stableId) :
    artifact.verify view = .ok () ↔ artifact = .fromView view := by
  simp only [verify, verifyHash_ok]
  obtain ⟨stableId, osi⟩ := artifact
  simp_all [fromView]

theorem QueryGraphBootstrap.verifyTable_ok {artifacts : List QueryGraphTableArtifactHashes}
    (distinct : (artifacts.map QueryGraphTableArtifactHashes.stableId).Nodup)
    {table : QueryGraphTableProjection} :
    verifyTable (artifacts.map fun artifact => (artifact.stableId, artifact)) table = .ok () ↔
      QueryGraphTableArtifactHashes.fromTable table ∈ artifacts := by
  simp only [verifyTable, bind_eq_ok, okOr_ok, lookup_of_nodup distinct]
  constructor
  · rintro ⟨artifact, ⟨member, named⟩, verified⟩
    exact (artifact.verify_ok named).mp verified ▸ member
  · intro member
    exact ⟨_, ⟨member, rfl⟩, (QueryGraphTableArtifactHashes.verify_ok rfl).mpr rfl⟩

theorem QueryGraphBootstrap.verifyView_ok {artifacts : List QueryGraphViewArtifactHashes}
    (distinct : (artifacts.map QueryGraphViewArtifactHashes.stableId).Nodup)
    {view : QueryGraphViewProjection} :
    verifyView (artifacts.map fun artifact => (artifact.stableId, artifact)) view = .ok () ↔
      QueryGraphViewArtifactHashes.fromView view ∈ artifacts := by
  simp only [verifyView, bind_eq_ok, okOr_ok, lookup_of_nodup distinct]
  constructor
  · rintro ⟨artifact, ⟨member, named⟩, verified⟩
    exact (artifact.verify_ok named).mp verified ▸ member
  · intro member
    exact ⟨_, ⟨member, rfl⟩, (QueryGraphViewArtifactHashes.verify_ok rfl).mpr rfl⟩

theorem QueryGraphBootstrap.verifyContract_ok {bundle : QueryGraphBootstrap}
    {contract : QueryGraphImportCompatibility} :
    bundle.verifyContract contract = .ok () ↔
      contract.tableOnlyBundleHash = tableOnlyQuerygraphImportHash bundle.warehouse
        bundle.manifest bundle.tables bundle.graph bundle.openLineage ∧
      contract.viewCount = bundle.views.length ∧
      contract.graphHash = bundle.manifest.graphHash ∧
      validateViewReceiptEvidence bundle.views contract.viewReceiptEvidence = .ok () ∧
      contract.viewReceiptEvidenceHash =
        if contract.viewReceiptEvidence.isEmpty then none
        else some (viewReceiptEvidenceHash contract.viewReceiptEvidence) := by
  simp only [verifyContract, bind_unit_eq_ok, rejectIf_ok, not_not, ne_eq]
  by_cases empty : contract.viewReceiptEvidence.isEmpty
  · simp only [empty, if_true, rejectIf_ok, Bool.not_eq_true, Option.isSome_eq_false_iff,
      Option.isNone_iff_eq_none]
  · simp only [empty, if_false, rejectIf_ok, not_not, Bool.false_eq_true]

/-- `verify_manifest` accepts just the bundles that verify, with their summary. -/
theorem QueryGraphBootstrap.verifyManifest_ok {bundle : QueryGraphBootstrap}
    {summary : QueryGraphBootstrapVerification} :
    bundle.verifyManifest = .ok summary ↔
      ∃ contract, bundle.Verifies contract ∧ summary = bundle.verificationSummary contract := by
  simp only [verifyManifest, bind_eq_ok, exists_unit, rejectIf_ok, okOr_ok, not_not, ne_eq,
    validateDuplicateFree_nodup, indexDuplicateFree_ok, verifyContract_ok, checkEach_ok, pure_eq, Except.ok.injEq, List.map_map]
  constructor
  · rintro ⟨schema, tableCount, viewCount, tableIds, viewIds, _, ⟨tableArtifactIds, rfl⟩, _,
      ⟨viewArtifactIds, rfl⟩, openLineageHash, graphHash, tables, views, contract, carried,
      ⟨importHash, contractViews, contractGraph, evidence, evidenceHash⟩, bundleHash, rfl⟩
    refine ⟨contract, ?_, rfl⟩
    exact {
      schema, tableCount, viewCount, tableIds, viewIds, tableArtifactIds, viewArtifactIds
      openLineageHash, graphHash, carried, importHash, contractViews, contractGraph, evidence
      evidenceHash, bundleHash
      tables := fun table member => (verifyTable_ok tableArtifactIds).mp (tables table member)
      views := fun view member => (verifyView_ok viewArtifactIds).mp (views view member)
    }
  · rintro ⟨contract, verifies, rfl⟩
    refine ⟨verifies.schema, verifies.tableCount, verifies.viewCount, verifies.tableIds,
      verifies.viewIds, _, ⟨verifies.tableArtifactIds, rfl⟩, _, ⟨verifies.viewArtifactIds, rfl⟩,
      verifies.openLineageHash, verifies.graphHash, ?_, ?_, contract, verifies.carried,
      ⟨verifies.importHash, verifies.contractViews, verifies.contractGraph, verifies.evidence,
        verifies.evidenceHash⟩, verifies.bundleHash, rfl⟩
    · intro table member
      exact (verifyTable_ok verifies.tableArtifactIds).mpr (verifies.tables table member)
    · intro view member
      exact (verifyView_ok verifies.viewArtifactIds).mpr (verifies.views view member)

end

end LakeCat
