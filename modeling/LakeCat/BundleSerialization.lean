import LakeCat.OdrlPolicies
import LakeCat.QueryGraphProjections

/-!
A bundle written as JSON and read again: what the derived `Serialize` and
`Deserialize` of each of its parts do with an object.
-/

namespace LakeCat

namespace Json

def readStr (value : Json) (key : String) : Option String := (value.get key).bind asStr

def readList (decode : Json → Option α) (value : Json) (key : String) : Option (List α) :=
  (value.get key).bind fun items => items.asArray.bind fun entries => entries.mapM decode

/-- An `Option` field: none when it is missing or null. -/
def readOption (decode : Json → Option α) (value : Json) (key : String) : Option (Option α) :=
  match value.get key with
  | none => some none
  | some .null => some none
  | some entry => (decode entry).map some

def readU64 (value : Json) : Option UInt64 := value.asU64.map UInt64.ofNat

/-- A `usize`, which holds the length of any list. -/
def readCount : Json → Option Nat
  | .int count => if 0 ≤ count then some count.toNat else none
  | _ => none

end Json

namespace QueryGraphEdge

def toJson (edge : QueryGraphEdge) : Json :=
  .object [("from", .str edge.from_), ("to", .str edge.to_), ("label", .str edge.label)]

def fromJson (value : Json) : Option QueryGraphEdge := do
  return ⟨← value.readStr "from", ← value.readStr "to", ← value.readStr "label"⟩

end QueryGraphEdge

namespace QueryGraphNode

def toJson (node : QueryGraphNode) : Json :=
  .object [("id", .str node.id), ("label", .str node.label), ("properties", node.properties)]

def fromJson (value : Json) : Option QueryGraphNode := do
  return ⟨← value.readStr "id", ← value.readStr "label", ← value.get "properties"⟩

end QueryGraphNode

namespace QueryGraphCatalogGraph

def toJson (graph : QueryGraphCatalogGraph) : Json :=
  .object [("nodes", .arr (graph.nodes.map QueryGraphNode.toJson)),
    ("edges", .arr (graph.edges.map QueryGraphEdge.toJson))]

def fromJson (value : Json) : Option QueryGraphCatalogGraph := do
  return ⟨← value.readList QueryGraphNode.fromJson "nodes",
    ← value.readList QueryGraphEdge.fromJson "edges"⟩

end QueryGraphCatalogGraph

def QueryGraphPolicyBindingProjection.fromJson (value : Json) :
    Option QueryGraphPolicyBindingProjection := do
  return {
    policyId := ← value.readStr "policy-id"
    enforced := ← (value.get "enforced").bind Json.asBool
    ns := ← value.readOption stringItems "namespace"
    table := ← value.readOption Json.asStr "table"
    odrl := ← value.get "odrl"
  }

namespace QueryGraphTableProjection

def toJson (table : QueryGraphTableProjection) : Json :=
  .object [("ident", table.ident.toJson), ("stable-id", .str table.stableId),
    ("location", .str table.location), ("metadata-location", ofOptionStr table.metadataLocation),
    ("version", ofU64 table.version), ("format-version", Json.ofOption .int table.formatVersion),
    ("croissant", table.croissant), ("cdif", table.cdif), ("osi", table.osi),
    ("odrl", table.odrl), ("policy-bindings",
      .arr (table.policyBindings.map QueryGraphPolicyBindingProjection.toJson))]

def fromJson (value : Json) : Option QueryGraphTableProjection := do
  return {
    ident := ← (value.get "ident").bind tableIdentFromJson
    stableId := ← value.readStr "stable-id"
    location := ← value.readStr "location"
    metadataLocation := ← value.readOption Json.asStr "metadata-location"
    version := ← (value.get "version").bind Json.readU64
    formatVersion := ← value.readOption Json.asI64 "format-version"
    croissant := ← value.get "croissant"
    cdif := ← value.get "cdif"
    osi := ← value.get "osi"
    odrl := ← value.get "odrl"
    policyBindings :=
      ← value.readList QueryGraphPolicyBindingProjection.fromJson "policy-bindings"
  }

end QueryGraphTableProjection

namespace QueryGraphViewProjection

def toJson (view : QueryGraphViewProjection) : Json :=
  .object [("stable-id", .str view.stableId), ("warehouse", .str view.warehouse),
    ("namespace", strings view.ns), ("name", .str view.name),
    ("view-version", ofU64 view.viewVersion), ("sql", .str view.sql),
    ("dialect", .str view.dialect), ("schema-version", Json.ofOption ofU64 view.schemaVersion),
    ("columns", view.columns), ("properties", view.properties), ("osi", view.osi)]

def fromJson (value : Json) : Option QueryGraphViewProjection := do
  return {
    stableId := ← value.readStr "stable-id"
    warehouse := ← value.readStr "warehouse"
    ns := ← (value.get "namespace").bind stringItems
    name := ← value.readStr "name"
    viewVersion := ← (value.get "view-version").bind Json.readU64
    sql := ← value.readStr "sql"
    dialect := ← value.readStr "dialect"
    schemaVersion := ← value.readOption Json.readU64 "schema-version"
    columns := ← value.get "columns"
    properties := ← value.get "properties"
    osi := ← value.get "osi"
  }

end QueryGraphViewProjection

namespace QueryGraphViewReceiptEvidence

def toJson (evidence : QueryGraphViewReceiptEvidence) : Json :=
  .object [("stable-id", .str evidence.stableId), ("view-version", ofU64 evidence.viewVersion),
    ("receipt-hash", .str evidence.receiptHash),
    ("receipt-chain-hash", .str evidence.receiptChainHash)]

def fromJson (value : Json) : Option QueryGraphViewReceiptEvidence := do
  return ⟨← value.readStr "stable-id", ← (value.get "view-version").bind Json.readU64,
    ← value.readStr "receipt-hash", ← value.readStr "receipt-chain-hash"⟩

end QueryGraphViewReceiptEvidence

namespace QueryGraphImportCompatibility

def toJson (contract : QueryGraphImportCompatibility) : Json :=
  .object ([("schema-version", .str contract.schemaVersion),
    ("table-only-bundle-hash", .str contract.tableOnlyBundleHash),
    ("view-count", .int contract.viewCount), ("graph-hash", .str contract.graphHash)] ++
    (if contract.viewReceiptEvidence.isEmpty then []
      else [("view-receipt-evidence",
        .arr (contract.viewReceiptEvidence.map QueryGraphViewReceiptEvidence.toJson))]) ++
    Json.presentField "view-receipt-evidence-hash" .str contract.viewReceiptEvidenceHash)

def fromJson (value : Json) : Option QueryGraphImportCompatibility := do
  return {
    schemaVersion := ← value.readStr "schema-version"
    tableOnlyBundleHash := ← value.readStr "table-only-bundle-hash"
    viewCount := ← (value.get "view-count").bind Json.readCount
    graphHash := ← value.readStr "graph-hash"
    viewReceiptEvidence :=
      ← if (value.get "view-receipt-evidence").isNone then some []
        else value.readList QueryGraphViewReceiptEvidence.fromJson "view-receipt-evidence"
    viewReceiptEvidenceHash := ← value.readOption Json.asStr "view-receipt-evidence-hash"
  }

end QueryGraphImportCompatibility

namespace QueryGraphViewArtifactHashes

def toJson (artifact : QueryGraphViewArtifactHashes) : Json :=
  .object [("stable-id", .str artifact.stableId), ("osi-hash", .str artifact.osiHash)]

def fromJson (value : Json) : Option QueryGraphViewArtifactHashes := do
  return ⟨← value.readStr "stable-id", ← value.readStr "osi-hash"⟩

end QueryGraphViewArtifactHashes

namespace QueryGraphTableArtifactHashes

def toJson (artifact : QueryGraphTableArtifactHashes) : Json :=
  .object [("stable-id", .str artifact.stableId), ("croissant-hash", .str artifact.croissantHash),
    ("cdif-hash", .str artifact.cdifHash), ("osi-hash", .str artifact.osiHash),
    ("odrl-hash", .str artifact.odrlHash),
    ("policy-bindings-hash", .str artifact.policyBindingsHash)]

def fromJson (value : Json) : Option QueryGraphTableArtifactHashes := do
  return ⟨← value.readStr "stable-id", ← value.readStr "croissant-hash",
    ← value.readStr "cdif-hash", ← value.readStr "osi-hash", ← value.readStr "odrl-hash",
    ← value.readStr "policy-bindings-hash"⟩

end QueryGraphTableArtifactHashes

namespace QueryGraphBundleManifest

def toJson (manifest : QueryGraphBundleManifest) : Json :=
  .object ([("schema-version", .str manifest.schemaVersion), ("producer", .str manifest.producer),
    ("standards", strings manifest.standards),
    ("table-artifacts", .arr (manifest.tableArtifacts.map QueryGraphTableArtifactHashes.toJson)),
    ("view-artifacts", .arr (manifest.viewArtifacts.map QueryGraphViewArtifactHashes.toJson)),
    ("graph-hash", .str manifest.graphHash),
    ("open-lineage-hash", .str manifest.openLineageHash)] ++
    Json.presentField "querygraph-import" QueryGraphImportCompatibility.toJson
      manifest.querygraphImport)

def fromJson (value : Json) : Option QueryGraphBundleManifest := do
  return {
    schemaVersion := ← value.readStr "schema-version"
    producer := ← value.readStr "producer"
    standards := ← (value.get "standards").bind stringItems
    tableArtifacts := ← value.readList QueryGraphTableArtifactHashes.fromJson "table-artifacts"
    viewArtifacts := ← value.readList QueryGraphViewArtifactHashes.fromJson "view-artifacts"
    graphHash := ← value.readStr "graph-hash"
    openLineageHash := ← value.readStr "open-lineage-hash"
    querygraphImport :=
      ← value.readOption QueryGraphImportCompatibility.fromJson "querygraph-import"
  }

end QueryGraphBundleManifest

namespace QueryGraphBootstrap

def toJson [External] (bundle : QueryGraphBootstrap) : Json :=
  .object [("warehouse", bundle.warehouse.toJson),
    ("generated-at", serializeTimestamp bundle.generatedAt),
    ("bundle-hash", .str bundle.bundleHash), ("manifest", bundle.manifest.toJson),
    ("tables", .arr (bundle.tables.map QueryGraphTableProjection.toJson)),
    ("views", .arr (bundle.views.map QueryGraphViewProjection.toJson)),
    ("graph", bundle.graph.toJson), ("open-lineage", bundle.openLineage)]

/-- With what reads a time from its text. -/
def fromJson (readTime : String → Option Timestamp) (value : Json) :
    Option QueryGraphBootstrap := do
  return {
    warehouse := ⟨← value.readStr "warehouse"⟩
    generatedAt := ← (value.readStr "generated-at").bind readTime
    bundleHash := ← value.readStr "bundle-hash"
    manifest := ← (value.get "manifest").bind QueryGraphBundleManifest.fromJson
    tables := ← value.readList QueryGraphTableProjection.fromJson "tables"
    views := ← value.readList QueryGraphViewProjection.fromJson "views"
    graph := ← (value.get "graph").bind QueryGraphCatalogGraph.fromJson
    openLineage := ← value.get "open-lineage"
  }

end QueryGraphBootstrap

/-! Reading what was written. -/

theorem mapM_written {encode : α → Json} {decode : Json → Option α} {items : List α}
    (reads : ∀ item ∈ items, decode (encode item) = some item) :
    (items.map encode).mapM decode = some items := by
  induction items with
  | nil => rfl
  | cons item rest ih =>
      have first := reads item List.mem_cons_self
      have later := ih fun other member => reads other (List.mem_cons_of_mem item member)
      simp [List.mapM_cons, first, later]

theorem readU64_written (value : UInt64) : Json.readU64 (ofU64 value) = some value := by
  have bound := value.toNat_lt
  have inRange : (0 : Int) ≤ value.toNat ∧ (value.toNat : Int) < 2 ^ 64 := by omega
  rw [Json.readU64, ofU64, Json.asU64, if_pos inRange, Int.toNat_natCast, Option.map_some,
    UInt64.ofNat_toNat]

section
variable {value : Json} {key : String}

theorem readStr_of_get (text : String) (found : value.get key = some (.str text)) :
    value.readStr key = some text := by
  rw [Json.readStr, found]
  rfl

theorem readU64_of_get {number : UInt64} (found : value.get key = some (ofU64 number)) :
    (value.get key).bind Json.readU64 = some number := by
  rw [found, Option.bind_some, readU64_written]

theorem readList_of_get {items : List α} {encode : α → Json} {decode : Json → Option α}
    (found : value.get key = some (.arr (items.map encode)))
    (reads : ∀ item ∈ items, decode (encode item) = some item) :
    value.readList decode key = some items := by
  rw [Json.readList, found]
  exact mapM_written reads

theorem readOption_of_get {item : Option α} (encode : α → Json) {decode : Json → Option α}
    (found : value.get key = some (Json.ofOption encode item))
    (present : ∀ written, encode written ≠ .null)
    (reads : ∀ written ∈ item, decode (encode written) = some written) :
    value.readOption decode key = some item := by
  rw [Json.readOption, found]
  cases item with
  | none => rfl
  | some written =>
      have decoded := reads written rfl
      have shown := present written
      cases entry : encode written with
      | null => exact absurd entry shown
      | _ =>
          rw [entry] at decoded
          simp [Json.ofOption, entry, decoded]

end

theorem QueryGraphEdge.fromJson_toJson (edge : QueryGraphEdge) :
    fromJson edge.toJson = some edge := by
  simp [fromJson, toJson, Json.readStr, List.lookup, Json.asStr]

theorem QueryGraphNode.fromJson_toJson (node : QueryGraphNode) :
    fromJson node.toJson = some node := by
  simp [fromJson, toJson, Json.readStr, List.lookup, Json.asStr]

theorem QueryGraphCatalogGraph.fromJson_toJson (graph : QueryGraphCatalogGraph) :
    fromJson graph.toJson = some graph := by
  have nodes : graph.toJson.readList QueryGraphNode.fromJson "nodes" = some graph.nodes :=
    readList_of_get (by simp [toJson, List.lookup]) fun node _ => node.fromJson_toJson
  have edges : graph.toJson.readList QueryGraphEdge.fromJson "edges" = some graph.edges :=
    readList_of_get (by simp [toJson]) fun edge _ => edge.fromJson_toJson
  simp [fromJson, nodes, edges]

theorem strings_written (texts : List String) : stringItems (strings texts) = some texts :=
  stringItems_strs texts

theorem QueryGraphPolicyBindingProjection.fromJson_toJson
    (binding : QueryGraphPolicyBindingProjection) : fromJson binding.toJson = some binding := by
  have ns : binding.toJson.readOption stringItems "namespace" = some binding.ns :=
    readOption_of_get strings (by rw [toJson, Json.get_object]; rfl)
      (fun _ absent => by simp [strings] at absent) fun texts _ => strings_written texts
  have table : binding.toJson.readOption Json.asStr "table" = some binding.table :=
    readOption_of_get .str (by rw [toJson, Json.get_object]; rfl)
      (fun _ absent => by simp at absent) fun _ _ => rfl
  simp only [fromJson, ns, table]
  simp only [toJson, Json.readStr, Json.get_object]
  rfl

/-- A format version as `as_i64` reads it. -/
def QueryGraphTableProjection.Readable (table : QueryGraphTableProjection) : Prop :=
  ∀ version ∈ table.formatVersion, -2 ^ 63 ≤ version ∧ version < 2 ^ 63

theorem QueryGraphTableProjection.fromJson_toJson {table : QueryGraphTableProjection}
    (readable : table.Readable) : fromJson table.toJson = some table := by
  have ident : table.toJson.get "ident" = some table.ident.toJson := by
    rw [toJson, Json.get_object]
    rfl
  have version : (table.toJson.get "version").bind Json.readU64 = some table.version :=
    readU64_of_get (by rw [toJson, Json.get_object]; rfl)
  have metadataLocation : table.toJson.readOption Json.asStr "metadata-location" =
      some table.metadataLocation :=
    readOption_of_get .str (by rw [toJson, Json.get_object]; rfl)
      (fun _ absent => by simp at absent) fun _ _ => rfl
  have formatVersion : table.toJson.readOption Json.asI64 "format-version" =
      some table.formatVersion :=
    readOption_of_get .int (by rw [toJson, Json.get_object]; rfl)
      (fun _ absent => by simp at absent)
      fun version member => if_pos (readable version member)
  have bindings : table.toJson.readList QueryGraphPolicyBindingProjection.fromJson
      "policy-bindings" = some table.policyBindings :=
    readList_of_get (by rw [toJson, Json.get_object]; rfl) fun binding _ =>
      binding.fromJson_toJson
  simp only [fromJson, ident, version, metadataLocation, formatVersion, bindings,
    Option.bind_some, tableIdentFromJson_toJson]
  simp only [toJson, Json.readStr, Json.get_object]
  rfl

theorem QueryGraphViewProjection.fromJson_toJson (view : QueryGraphViewProjection) :
    fromJson view.toJson = some view := by
  have ns : view.toJson.get "namespace" = some (strings view.ns) := by
    rw [toJson, Json.get_object]
    rfl
  have version : (view.toJson.get "view-version").bind Json.readU64 = some view.viewVersion :=
    readU64_of_get (by rw [toJson, Json.get_object]; rfl)
  have schemaVersion : view.toJson.readOption Json.readU64 "schema-version" =
      some view.schemaVersion :=
    readOption_of_get ofU64 (by rw [toJson, Json.get_object]; rfl)
      (fun _ absent => by simp [ofU64] at absent) fun version _ => readU64_written version
  simp only [fromJson, ns, version, schemaVersion, Option.bind_some, strings_written]
  simp only [toJson, Json.readStr, Json.get_object]
  rfl

theorem QueryGraphViewReceiptEvidence.fromJson_toJson (evidence : QueryGraphViewReceiptEvidence) :
    fromJson evidence.toJson = some evidence := by
  have version : (evidence.toJson.get "view-version").bind Json.readU64 =
      some evidence.viewVersion :=
    readU64_of_get (by rw [toJson, Json.get_object]; rfl)
  simp only [fromJson, version]
  simp only [toJson, Json.readStr, Json.get_object]
  rfl

theorem QueryGraphImportCompatibility.fromJson_toJson (contract : QueryGraphImportCompatibility) :
    fromJson contract.toJson = some contract := by
  obtain ⟨schema, tableOnly, views, graph, evidence, hash⟩ := contract
  have count : Json.readCount (.int views) = some views := by
    rw [Json.readCount, if_pos (Int.natCast_nonneg views), Int.toNat_natCast]
  cases evidence with
  | nil =>
      cases hash <;>
        simp [fromJson, toJson, Json.readStr, Json.readOption, List.lookup, Json.asStr, count,
          Json.presentField]
  | cons first rest =>
      have records (fields : List (String × Json)) (found : (Json.object fields).get
          "view-receipt-evidence" =
            some (.arr ((first :: rest).map QueryGraphViewReceiptEvidence.toJson))) :
          (Json.object fields).readList QueryGraphViewReceiptEvidence.fromJson
            "view-receipt-evidence" = some (first :: rest) :=
        readList_of_get found fun record _ => record.fromJson_toJson
      cases hash <;>
        rw [fromJson, toJson, records _ (by rw [Json.get_object]; rfl)] <;>
        simp [Json.readStr, Json.readOption, List.lookup, Json.asStr, count, Json.presentField]

theorem QueryGraphViewArtifactHashes.fromJson_toJson (artifact : QueryGraphViewArtifactHashes) :
    fromJson artifact.toJson = some artifact := by
  simp only [fromJson, toJson, Json.readStr, Json.get_object]
  rfl

theorem QueryGraphTableArtifactHashes.fromJson_toJson (artifact : QueryGraphTableArtifactHashes) :
    fromJson artifact.toJson = some artifact := by
  simp only [fromJson, toJson, Json.readStr, Json.get_object]
  rfl

theorem contract_not_null (contract : QueryGraphImportCompatibility) :
    contract.toJson ≠ .null := by
  intro absent
  simp only [QueryGraphImportCompatibility.toJson, Json.object, reduceCtorEq] at absent

theorem QueryGraphBundleManifest.fromJson_toJson (manifest : QueryGraphBundleManifest) :
    fromJson manifest.toJson = some manifest := by
  have standards : manifest.toJson.get "standards" = some (strings manifest.standards) := by
    rw [toJson, Json.get_object]
    cases manifest.querygraphImport <;> rfl
  have tableArtifacts : manifest.toJson.readList QueryGraphTableArtifactHashes.fromJson
      "table-artifacts" = some manifest.tableArtifacts := by
    refine readList_of_get ?_ fun artifact _ => artifact.fromJson_toJson
    rw [toJson, Json.get_object]
    cases manifest.querygraphImport <;> rfl
  have viewArtifacts : manifest.toJson.readList QueryGraphViewArtifactHashes.fromJson
      "view-artifacts" = some manifest.viewArtifacts := by
    refine readList_of_get ?_ fun artifact _ => artifact.fromJson_toJson
    rw [toJson, Json.get_object]
    cases manifest.querygraphImport <;> rfl
  have contract : manifest.toJson.readOption QueryGraphImportCompatibility.fromJson
      "querygraph-import" = some manifest.querygraphImport := by
    rw [Json.readOption, toJson, Json.get_object]
    cases manifest.querygraphImport with
    | none => rfl
    | some contract =>
        have read := contract.fromJson_toJson
        have shown := contract_not_null contract
        cases entry : contract.toJson with
        | null => exact absurd entry shown
        | _ =>
            rw [entry] at read
            simp [Json.presentField, entry, read]
  have text (key : String) (value : String)
      (found : manifest.toJson.get key = some (.str value)) :
      manifest.toJson.readStr key = some value :=
    readStr_of_get _ found
  have schema := text "schema-version" manifest.schemaVersion (by
    rw [toJson, Json.get_object]
    cases manifest.querygraphImport <;> rfl)
  have producer := text "producer" manifest.producer (by
    rw [toJson, Json.get_object]
    cases manifest.querygraphImport <;> rfl)
  have graphHash := text "graph-hash" manifest.graphHash (by
    rw [toJson, Json.get_object]
    cases manifest.querygraphImport <;> rfl)
  have openLineageHash := text "open-lineage-hash" manifest.openLineageHash (by
    rw [toJson, Json.get_object]
    cases manifest.querygraphImport <;> rfl)
  simp only [fromJson, standards, tableArtifacts, viewArtifacts, contract, schema, producer,
    graphHash, openLineageHash, Option.bind_some, strings_written]
  rfl

/-- A bundle is read as it was written, when its time is. -/
theorem QueryGraphBootstrap.fromJson_toJson [External] {bundle : QueryGraphBootstrap}
    {readTime : String → Option Timestamp}
    (time : readTime (External.serializeTimestamp bundle.generatedAt) = some bundle.generatedAt)
    (readable : ∀ table ∈ bundle.tables, table.Readable) :
    fromJson readTime bundle.toJson = some bundle := by
  have generatedAt : (bundle.toJson.readStr "generated-at").bind readTime =
      some bundle.generatedAt := by
    rw [readStr_of_get (External.serializeTimestamp bundle.generatedAt)
      (by rw [toJson, Json.get_object]; rfl)]
    exact time
  have manifest : bundle.toJson.get "manifest" = some bundle.manifest.toJson := by
    rw [toJson, Json.get_object]
    rfl
  have graph : bundle.toJson.get "graph" = some bundle.graph.toJson := by
    rw [toJson, Json.get_object]
    rfl
  have tables : bundle.toJson.readList QueryGraphTableProjection.fromJson "tables" =
      some bundle.tables :=
    readList_of_get (by rw [toJson, Json.get_object]; rfl) fun table member =>
      QueryGraphTableProjection.fromJson_toJson (readable table member)
  have views : bundle.toJson.readList QueryGraphViewProjection.fromJson "views" =
      some bundle.views :=
    readList_of_get (by rw [toJson, Json.get_object]; rfl) fun view _ => view.fromJson_toJson
  simp only [fromJson, generatedAt, manifest, graph, tables, views, Option.bind_some,
    QueryGraphBundleManifest.fromJson_toJson, QueryGraphCatalogGraph.fromJson_toJson]
  simp only [toJson, Json.readStr, Json.get_object]
  rfl

end LakeCat
