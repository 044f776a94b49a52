import LakeCat.BundleSerialization
import LakeCat.BundleTampering
import LakeCat.NameKeys
import LakeCat.NamespaceContainment

/-!
Which bundles verify as they were constructed: construction computes every hash
that the check recomputes, but it does not look for two tables, or two views,
whose dotted names are one stable id.
-/

namespace LakeCat

open Fallible

namespace QueryGraphBootstrap
variable [External]

/-- The check passes and returns what the construction claims. -/
def Checked (bundle : QueryGraphBootstrap) : Prop :=
  ∃ summary, bundle.verifyManifest = .ok summary ∧ bundle.constructionSummary = .ok summary

/-- A manifest computed from the parts of its bundle, whatever its evidence. -/
structure Assembled (bundle : QueryGraphBootstrap) (contract : QueryGraphImportCompatibility) :
    Prop where
  schema : bundle.manifest.schemaVersion = "lakecat.querygraph.bootstrap.v1"
  tableArtifacts : bundle.manifest.tableArtifacts =
    bundle.tables.map QueryGraphTableArtifactHashes.fromTable
  viewArtifacts : bundle.manifest.viewArtifacts =
    bundle.views.map QueryGraphViewArtifactHashes.fromView
  openLineageHash : bundle.manifest.openLineageHash = contentHashJson bundle.openLineage
  graphHash : bundle.manifest.graphHash = LakeCat.graphHash bundle.graph
  carried : bundle.manifest.querygraphImport = some contract
  importHash : contract.tableOnlyBundleHash = tableOnlyQuerygraphImportHash bundle.warehouse
    bundle.manifest bundle.tables bundle.graph bundle.openLineage
  contractViews : contract.viewCount = bundle.views.length
  contractGraph : contract.graphHash = bundle.manifest.graphHash

/-- An assembled bundle whose evidence is attached and whose hash is taken. -/
structure Sealed (bundle : QueryGraphBootstrap) (contract : QueryGraphImportCompatibility) :
    Prop extends Assembled bundle contract where
  evidence : validateViewReceiptEvidence bundle.views contract.viewReceiptEvidence = .ok ()
  evidenceHash : contract.viewReceiptEvidenceHash =
    if contract.viewReceiptEvidence.isEmpty then none
    else some (viewReceiptEvidenceHash contract.viewReceiptEvidence)
  bundleHash : bundle.bundleHash = bundle.computedBundleHash

theorem assembled_snapshot (generatedAt : Timestamp) (warehouse : WarehouseName)
    (tables : List (TableRecord × List PolicyBinding)) (views : List ViewRecord)
    (tenant : QueryGraphTenantProjection) :
    ∃ contract, Assembled (bundleOfSnapshot generatedAt warehouse tables views tenant) contract := by
  refine ⟨(bundleOfSnapshot generatedAt warehouse tables views tenant).manifest.querygraphImport.get
    rfl, ?_⟩
  constructor <;> rfl

/-- Evidence goes into the contract, which no hash of the parts is taken of. -/
theorem Assembled.sealed {bundle attached : QueryGraphBootstrap}
    {contract : QueryGraphImportCompatibility} {evidence : List QueryGraphViewReceiptEvidence}
    (assembled : bundle.Assembled contract)
    (attach : bundle.withViewReceiptEvidence evidence = .ok attached) :
    (∃ contract, attached.Sealed contract) ∧ attached.tables = bundle.tables ∧
      attached.views = bundle.views ∧ attached.generatedAt = bundle.generatedAt := by
  simp only [withViewReceiptEvidence, QueryGraphBundleManifest.attachViewReceiptEvidence,
    bind_eq_ok, exists_unit, okOr_ok, pure_eq, Except.ok.injEq] at attach
  obtain ⟨_, ⟨valid, carried, found, rfl⟩, rfl⟩ := attach
  rw [assembled.carried] at found
  cases found
  refine ⟨⟨contract.withEvidence evidence, ?_⟩, rfl, rfl, rfl⟩
  exact {
    schema := assembled.schema
    tableArtifacts := assembled.tableArtifacts
    viewArtifacts := assembled.viewArtifacts
    openLineageHash := assembled.openLineageHash
    graphHash := assembled.graphHash
    carried := rfl
    importHash := assembled.importHash
    contractViews := assembled.contractViews
    contractGraph := assembled.contractGraph
    evidence := valid
    evidenceHash := rfl
    bundleHash := rfl
  }

/-- A sealed bundle verifies exactly when its stable ids are distinct. -/
theorem Sealed.checked_iff {bundle : QueryGraphBootstrap}
    {contract : QueryGraphImportCompatibility} (ready : bundle.Sealed contract) :
    bundle.Checked ↔ (bundle.tables.map QueryGraphTableProjection.stableId).Nodup ∧
      (bundle.views.map QueryGraphViewProjection.stableId).Nodup := by
  constructor
  · rintro ⟨summary, verified, _⟩
    obtain ⟨_, verifies, _⟩ := verifyManifest_ok.mp verified
    exact ⟨verifies.tableIds, verifies.viewIds⟩
  · rintro ⟨tableIds, viewIds⟩
    refine ⟨bundle.verificationSummary contract, verifyManifest_ok.mpr ⟨contract, ?_, rfl⟩, ?_⟩
    · have tableKeys : bundle.manifest.tableArtifacts.map QueryGraphTableArtifactHashes.stableId =
          bundle.tables.map QueryGraphTableProjection.stableId := by
        rw [ready.tableArtifacts, List.map_map]
        rfl
      have viewKeys : bundle.manifest.viewArtifacts.map QueryGraphViewArtifactHashes.stableId =
          bundle.views.map QueryGraphViewProjection.stableId := by
        rw [ready.viewArtifacts, List.map_map]
        rfl
      exact {
        schema := ready.schema
        tableCount := by rw [ready.tableArtifacts, List.length_map]
        viewCount := by rw [ready.viewArtifacts, List.length_map]
        tableIds := tableIds
        viewIds := viewIds
        tableArtifactIds := tableKeys ▸ tableIds
        viewArtifactIds := viewKeys ▸ viewIds
        openLineageHash := ready.openLineageHash
        graphHash := ready.graphHash
        tables := fun table member => ready.tableArtifacts ▸ List.mem_map_of_mem member
        views := fun view member => ready.viewArtifacts ▸ List.mem_map_of_mem member
        carried := ready.carried
        importHash := ready.importHash
        contractViews := ready.contractViews
        contractGraph := ready.contractGraph
        evidence := ready.evidence
        evidenceHash := ready.evidenceHash
        bundleHash := ready.bundleHash
      }
    · rw [constructionSummary, ready.carried]
      rfl

/-- A bundle is checked as it stands and as it is read back. -/
def CheckedWhenRead (readTime : String → Option Timestamp) (bundle : QueryGraphBootstrap) : Prop :=
  bundle.Checked ∧ ∃ read, fromJson readTime bundle.toJson = some read ∧ read.Checked

end QueryGraphBootstrap

theorem projection_readable (table : TableRecord) (bindings : List PolicyBinding) :
    (tableProjectionFromTableWithPolicies table bindings).Readable := by
  intro version read
  obtain ⟨value, _, number⟩ := Option.bind_eq_some_iff.mp read
  cases value with
  | int count =>
      rw [Json.asI64] at number
      split at number
      next range => exact Option.some.inj number ▸ range
      next => cases number
  | null | bool | float | str | arr | obj => cases number

section
variable [External]

/-- A bundle of a snapshot is sealed, under the ids and the time it was made of. -/
theorem snapshot_sealed {generatedAt : Timestamp} {warehouse : WarehouseName}
    {tables : List (TableRecord × List PolicyBinding)} {views : List ViewRecord}
    {tenant : QueryGraphTenantProjection} {evidence : List QueryGraphViewReceiptEvidence}
    {bundle : QueryGraphBootstrap}
    (built : bootstrapFromCatalogSnapshot generatedAt warehouse tables views tenant evidence =
      .ok bundle) :
    (∃ contract, bundle.Sealed contract) ∧
      bundle.tables.map QueryGraphTableProjection.stableId =
        tables.map (fun entry => entry.1.ident.stableId) ∧
      bundle.views.map QueryGraphViewProjection.stableId = views.map viewStableId ∧
      bundle.generatedAt = generatedAt ∧ ∀ table ∈ bundle.tables, table.Readable := by
  obtain ⟨_, assembled⟩ :=
    QueryGraphBootstrap.assembled_snapshot generatedAt warehouse tables views tenant
  obtain ⟨done, sameTables, sameViews, sameTime⟩ := assembled.sealed built
  refine ⟨done, ?_, ?_, sameTime, ?_⟩
  · rw [sameTables]
    exact List.map_map
  · rw [sameViews]
    exact List.map_map
  · intro table member
    rw [sameTables] at member
    obtain ⟨entry, _, rfl⟩ := List.mem_map.mp member
    exact projection_readable entry.1 entry.2

/-- A bundle of a snapshot verifies, as constructed, as read back and with its evidence replaced,
exactly when no two of the tables and no two of the views have one stable id. -/
theorem bootstrap_checked_iff {generatedAt : Timestamp} {warehouse : WarehouseName}
    {tables : List (TableRecord × List PolicyBinding)} {views : List ViewRecord}
    {tenant : QueryGraphTenantProjection} {evidence : List QueryGraphViewReceiptEvidence}
    {bundle : QueryGraphBootstrap} {readTime : String → Option Timestamp}
    (reads : readTime (External.serializeTimestamp generatedAt) = some generatedAt)
    (built : bootstrapFromCatalogSnapshot generatedAt warehouse tables views tenant evidence =
      .ok bundle) :
    (bundle.CheckedWhenRead readTime ∧ ∀ replacement replaced,
      bundle.withViewReceiptEvidence replacement = .ok replaced →
        replaced.CheckedWhenRead readTime) ↔
    (tables.map fun entry => entry.1.ident.stableId).Nodup ∧ (views.map viewStableId).Nodup := by
  obtain ⟨⟨contract, ready⟩, tableIds, viewIds, sameTime, readable⟩ := snapshot_sealed built
  have checkedWhenRead (other : QueryGraphBootstrap) (done : ∃ contract, other.Sealed contract)
      (tables : other.tables = bundle.tables) (views : other.views = bundle.views)
      (time : other.generatedAt = bundle.generatedAt) :
      other.CheckedWhenRead readTime ↔ bundle.Checked := by
    obtain ⟨_, otherReady⟩ := done
    have read : QueryGraphBootstrap.fromJson readTime other.toJson = some other :=
      QueryGraphBootstrap.fromJson_toJson (by rw [time, sameTime]; exact reads)
        (tables ▸ readable)
    have same : other.Checked ↔ bundle.Checked := by
      rw [ready.checked_iff, otherReady.checked_iff, tables, views]
    constructor
    · exact fun whenRead => same.mp whenRead.1
    · exact fun checked => ⟨same.mpr checked, other, read, same.mpr checked⟩
  rw [checkedWhenRead bundle ⟨contract, ready⟩ rfl rfl rfl, ready.checked_iff, tableIds, viewIds]
  constructor
  · exact fun whole => whole.1
  · intro distinct
    refine ⟨distinct, fun replacement replaced attach => ?_⟩
    obtain ⟨done, tables, views, time⟩ := ready.toAssembled.sealed attach
    refine (checkedWhenRead replaced done tables views time).mpr (ready.checked_iff.mpr ?_)
    rw [tableIds, viewIds]
    exact distinct

end

def sampleTenant : QueryGraphTenantProjection :=
  ⟨"default", none, none, "default", none, none, none, none, "lakecat-querygraph-bootstrap"⟩

/-- The start of the epoch as it is written. -/
@[reducible] def epochExternal : External :=
  { constantExternal with
    serializeTimestamp := fun time => if time = 0 then "1970-01-01T00:00:00Z" else "" }

def epochTime (text : String) : Option Timestamp :=
  if text = "1970-01-01T00:00:00Z" then some 0 else none

def sampleViewEvidence : QueryGraphViewReceiptEvidence :=
  ⟨viewStableId MemoryState.sampleView, MemoryState.sampleView.viewVersion, "receipt", "chain"⟩

theorem bootstrap_checked_sample : ∃ (_ : External) (readTime : String → Option Timestamp)
    (bundle : QueryGraphBootstrap),
    bootstrapFromCatalogSnapshot 0 sampleIdent.warehouse [(sampleTable, [])]
      [MemoryState.sampleView] sampleTenant [sampleViewEvidence] = .ok bundle ∧
    (bundle.CheckedWhenRead readTime ∧ ∀ replacement replaced,
      bundle.withViewReceiptEvidence replacement = .ok replaced →
        replaced.CheckedWhenRead readTime) := by
  let _ := epochExternal
  have succeeds : ((bootstrapFromCatalogSnapshot 0 sampleIdent.warehouse [(sampleTable, [])]
      [MemoryState.sampleView] sampleTenant [sampleViewEvidence]).toOption.any fun _ => true) =
      true := by
    decide +kernel
  obtain ⟨bundle, built, _⟩ := exists_ok_of_any succeeds
  refine ⟨epochExternal, epochTime, bundle, built, (bootstrap_checked_iff ?_ built).mpr ?_⟩
  · rfl
  · exact ⟨List.nodup_singleton _, List.nodup_singleton _⟩

/-- Two tables of one name: one in a namespace with a dot, one in a nested namespace. -/
def dottedTables : List (TableRecord × List PolicyBinding) :=
  [(.new ⟨⟨"main"⟩, ⟨["a.b"]⟩, ⟨"orders"⟩⟩ "s3://lake/one" none
      (.object [("format-version", .int 2)]) .anonymous 0, []),
    (.new ⟨⟨"main"⟩, ⟨["a", "b"]⟩, ⟨"orders"⟩⟩ "s3://lake/two" none
      (.object [("format-version", .int 2)]) .anonymous 0, [])]

/-- The bundle of two tables that are distinct as identifiers does not verify. -/
theorem dottedTables_unverified : ∃ (_ : External) (bundle : QueryGraphBootstrap),
    (dottedTables.map fun entry => entry.1.ident).Nodup ∧
    (∀ entry ∈ dottedTables, entry.1.ident.Made ∧ entry.1.ident.warehouse = ⟨"main"⟩ ∧
      entry.1.validate = .ok ()) ∧
    bootstrapFromCatalogSnapshot 0 ⟨"main"⟩ dottedTables [] sampleTenant [] = .ok bundle ∧
    ¬bundle.Checked := by
  let _ := constantExternal
  have succeeds : ((bootstrapFromCatalogSnapshot 0 ⟨"main"⟩ dottedTables [] sampleTenant
      []).toOption.any fun _ => true) = true := by
    decide +kernel
  obtain ⟨bundle, built, _⟩ := exists_ok_of_any succeeds
  refine ⟨constantExternal, bundle, by decide, ?_, built, ?_⟩
  · intro entry member
    have first : TableIdent.Made ⟨⟨"main"⟩, ⟨["a.b"]⟩, ⟨"orders"⟩⟩ :=
      ⟨⟨"main", rfl⟩, ⟨["a.b"], rfl⟩, ⟨"orders", rfl⟩⟩
    have second : TableIdent.Made ⟨⟨"main"⟩, ⟨["a", "b"]⟩, ⟨"orders"⟩⟩ :=
      ⟨⟨"main", rfl⟩, ⟨["a", "b"], rfl⟩, ⟨"orders", rfl⟩⟩
    rcases List.mem_cons.mp member with rfl | member
    · exact ⟨first, rfl, rfl⟩
    · rw [List.mem_singleton.mp member]
      exact ⟨second, rfl, rfl⟩
  · intro checked
    obtain ⟨⟨contract, ready⟩, tableIds, _⟩ := snapshot_sealed built
    have distinct := (ready.checked_iff.mp checked).1
    rw [tableIds] at distinct
    exact absurd distinct (by decide)

end LakeCat
