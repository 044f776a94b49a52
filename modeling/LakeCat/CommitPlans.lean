import LakeCat.CatalogProvider
import LakeCat.DefaultLocations
import LakeCat.RequirementChecks

/-!
How a commit is planned: the engine without Sail passes a document on, the engine
with Sail checks the requirements, applies the updates and names a new object.
-/

namespace LakeCat

open Fallible

/-- Sail's typed tables, its models of requests, and what it writes of a document. -/
class SailTables [SailRequirements] where
  Table : Type
  Update : Type
  deserialize : Json → Except String Table
  location : Table → String
  checked : Table → CheckedMetadata
  parseRequirements : List Json → Except String (List TableRequirement)
  restModel : List Json → List Json → Except String Unit
  readUpdate : Json → Except String Update
  applyTableUpdates : Table → List Update → Nat → Except String Table
  serialize : Table → Except String Json
  summary : Json → Json

/-- What a planner draws: the time in milliseconds and a new id. -/
structure PlanDraw where
  nowMs : Nat
  token : String

def padLeft (width : Nat) (digits : String) : String :=
  String.ofList (List.replicate (width - digits.length) '0') ++ digits

def nextMetadataLocation (tableLocation : String) (draw : PlanDraw) : String :=
  withoutTrailingSlashes tableLocation ++ "/metadata/" ++ padLeft 20 (toString draw.nowMs) ++ "-" ++
    draw.token ++ ".metadata.json"

def icebergFormatSupport : Json :=
  .object [("stable_versions", .arr [.int 1, .int 2, .int 3]), ("v4_ready", .bool true)]

/-- `DeferredSailCatalogEngine::prepare_commit`. -/
def deferredPrepareCommit (request : CommitPreparationRequest) : LakeCatResult CommitPlan := do
  rejectIf (request.newMetadata.isNone ∧ request.updates ≠ [])
    (.notSupported ("applying " ++ toString request.updates.length ++
      " Iceberg table update(s) server-side requires the `sail-local` build; " ++
      "this deferred build accepts only commits that carry the full replacement table metadata"))
  return {
    preparedBy := "lakecat-sail-deferred"
    requirements := request.requirements
    updates := request.updates
    newMetadataLocation := request.newMetadataLocation.or request.currentMetadataLocation
    newMetadata := request.newMetadata.getD request.currentMetadata
    metadataWriteRequired := request.newMetadataLocation.isSome || request.newMetadata.isSome
    metadataPatch := .object [("lakecat:sail-delegation", .str "deferred"),
      ("lakecat:sail-target", .str "sail-catalog + sail-iceberg"),
      ("lakecat:format-support", icebergFormatSupport)] }

section Rest

variable [SailRequirements] [SailTables]

/-- `inspect_sail_table_metadata_with_typed`, without the summary of a typed table. -/
def typedTable (metadata : Json) : LakeCatResult (Option SailTables.Table) := do
  validateLakecatMetadataFormat metadata
  let formatVersion := ((metadata.get "format-version").bind Json.asI64).getD 2
  if asI32 formatVersion = 4 then return none
  else
    match SailTables.deserialize metadata with
    | .error text =>
        .error (.invalidArgument ("invalid Sail Iceberg table metadata model: " ++ text))
    | .ok typed => return some typed

def validateCommitRequirements (metadata : Json) (typed : Option SailTables.Table)
    (requirements : List Json) : LakeCatResult Nat :=
  match typed with
  | some table => validateStableCommitRequirements SailTables.parseRequirements
      (SailTables.checked table) requirements
  | none => validateV4ExtensionCommitRequirements (inspectV4Requirements metadata) requirements

def validateRestCommitRequest (requirements updates : List Json) : LakeCatResult Unit :=
  match SailTables.restModel requirements updates with
  | .error text =>
      .error (.invalidArgument ("invalid Iceberg REST commit request for Sail: " ++ text))
  | .ok _ => .ok ()

/-- The new document and the new location of a table after its updates. -/
def updatedTable (typed : Option SailTables.Table) (updates : List Json) (draw : PlanDraw) :
    LakeCatResult (Json × String) := do
  let table ← okOr typed
    (.notSupported "applying Iceberg REST updates needs typed Sail metadata")
  let updates ← collect (fun update => (SailTables.readUpdate update).mapError fun text =>
      .invalidArgument ("invalid Iceberg REST table updates for Sail: " ++ text)) updates
  let updated ← (SailTables.applyTableUpdates table updates draw.nowMs).mapError .invalidArgument
  let metadata ← (SailTables.serialize updated).mapError fun text =>
    .internal ("failed to serialize updated table metadata: " ++ text)
  return (metadata, nextMetadataLocation (SailTables.location updated) draw)

/-- The document of the commit, where it goes, and whether it is to be written there: brought by
the client, made of updates, or the one that is there. -/
def commitShape (request : CommitPreparationRequest) (typed : Option SailTables.Table)
    (draw : PlanDraw) : LakeCatResult (Json × Option String × Bool) :=
  match request.newMetadata with
  | some metadata =>
      .ok (metadata, request.newMetadataLocation.or request.currentMetadataLocation, true)
  | none =>
      if request.updates ≠ [] then do
        let updated ← updatedTable typed request.updates draw
        return (updated.1, some updated.2, true)
      else
        .ok (request.currentMetadata,
          request.newMetadataLocation.or request.currentMetadataLocation, false)

/-- `SailRestModelCatalogEngine::prepare_commit`. -/
def restModelPrepareCommit (draw : PlanDraw) (request : CommitPreparationRequest) :
    LakeCatResult CommitPlan := do
  let typed ← typedTable request.currentMetadata
  let validated ← validateCommitRequirements request.currentMetadata typed request.requirements
  validateRestCommitRequest request.requirements request.updates
  let shape ← commitShape request typed draw
  validateLakecatMetadataFormat shape.1
  return {
    preparedBy := "sail-rest-models"
    requirements := request.requirements
    updates := request.updates
    newMetadataLocation := shape.2.1
    newMetadata := shape.1
    metadataWriteRequired := shape.2.2
    metadataPatch := .object [
      ("lakecat:sail-delegation", .str "sail-catalog-iceberg-rest-models"),
      ("lakecat:format-support", icebergFormatSupport),
      ("lakecat:sail-metadata", SailTables.summary request.currentMetadata),
      ("lakecat:validated-requirements", .int validated),
      ("previous-metadata-location", ofOptionStr request.currentMetadataLocation),
      ("new-metadata-location", ofOptionStr shape.2.1)] }

/-- The engines of the repository. -/
inductive SailEngine where
  | deferred
  | restModels

def SailEngine.prepareCommit (engine : SailEngine) (draw : PlanDraw)
    (request : CommitPreparationRequest) : LakeCatResult CommitPlan :=
  match engine with
  | deferred => deferredPrepareCommit request
  | restModels => restModelPrepareCommit draw request

/-- A plan that asks for no object to be written keeps the document, and the pointer too unless
the client names another. -/
structure KeepsDocument (engine : SailEngine) (request : CommitPreparationRequest)
    (plan : CommitPlan) : Prop where
  metadata : plan.newMetadata = request.currentMetadata
  location : plan.newMetadataLocation =
    request.newMetadataLocation.or request.currentMetadataLocation
  bare : request.newMetadata = none ∧ request.updates = []
  named : request.newMetadataLocation.isSome = true → engine = .restModels

theorem prepareCommit_keeps {engine : SailEngine} {draw : PlanDraw}
    {request : CommitPreparationRequest} {plan : CommitPlan}
    (planned : engine.prepareCommit draw request = .ok plan)
    (unwritten : plan.metadataWriteRequired = false) : KeepsDocument engine request plan := by
  cases engine with
  | deferred =>
      simp only [SailEngine.prepareCommit, deferredPrepareCommit, bind_eq_ok, exists_unit, pure_eq,
        Except.ok.injEq, rejectIf_ok] at planned
      obtain ⟨supported, rfl⟩ := planned
      rw [Bool.or_eq_false_iff, Option.isSome_eq_false_iff, Option.isSome_eq_false_iff,
        Option.isNone_iff_eq_none, Option.isNone_iff_eq_none] at unwritten
      rw [unwritten.2] at supported
      refine ⟨by rw [unwritten.2]; rfl, rfl, ⟨unwritten.2, by simpa using supported⟩, ?_⟩
      intro named
      rw [unwritten.1] at named
      cases named
  | restModels =>
      simp only [SailEngine.prepareCommit, restModelPrepareCommit, bind_eq_ok, exists_unit, pure_eq,
        Except.ok.injEq] at planned
      obtain ⟨typed, -, validated, -, -, shape, shaped, -, rfl⟩ := planned
      dsimp only at unwritten
      rw [commitShape] at shaped
      split at shaped
      next metadata brought =>
        obtain rfl := Except.ok.inj shaped
        cases unwritten
      next absent =>
        split at shaped
        next =>
          simp only [bind_eq_ok, pure_eq, Except.ok.injEq] at shaped
          obtain ⟨_, -, rfl⟩ := shaped
          cases unwritten
        next bare =>
          obtain rfl := Except.ok.inj shaped
          exact ⟨rfl, rfl, ⟨absent, not_not.mp bare⟩, fun _ => rfl⟩

end Rest

end LakeCat
