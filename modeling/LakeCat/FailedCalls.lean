import LakeCat.ViewHistory

/-!
Calls of the memory store that fail. A drop removes its view before it reads
the receipts, but the receipts of a stored view are never refused; a refused
publication of a model that has no entry leaves an empty one.
-/

namespace LakeCat

open Fallible

theorem atomic_failed {state : MemoryState} {result : LakeCatResult (α × MemoryState)}
    (failed : result.isOk = false) : (atomic state result).2 = state := by
  cases result with
  | ok outcome => cases failed
  | error error => rfl

namespace MemoryState

section
variable [External]

/-- Whether the call returns a value. -/
def succeeds (state : MemoryState) : MemoryOp → Bool
  | .createNamespace warehouse ns properties =>
      (state.createNamespaceWithProperties warehouse ns properties).isOk
  | .updateNamespaceProperties warehouse ns update =>
      (state.updateNamespaceProperties warehouse ns update).isOk
  | .dropNamespace warehouse ns => (state.dropNamespace warehouse ns).isOk
  | .createTable table => (state.createTable table).isOk
  | .renameTable source destination principal receipt now =>
      (state.renameTable source destination principal receipt now).isOk
  | .commitTable ident commit now => (state.commitTable ident commit now).isOk
  | .softDeleteTable ident principal receipt now =>
      (state.softDeleteTable ident principal receipt now).isOk
  | .restoreTable ident principal receipt now =>
      (state.restoreTable ident principal receipt now).isOk
  | .saveGovernedScanGrant grant => (state.saveGovernedScanGrant grant).isOk
  | .upsertServer server => (state.upsertServer server).isOk
  | .upsertProject project => (state.upsertProject project).isOk
  | .upsertWarehouse warehouse => (state.upsertWarehouse warehouse).isOk
  | .upsertStorageProfile profile => (state.upsertStorageProfile profile).isOk
  | .upsertView view expected now => (state.upsertViewIfVersion view expected now).isOk
  | .dropView warehouse ns view principal expected now =>
      (state.dropViewIfVersion warehouse ns view principal expected now).1.isOk
  | .upsertPolicyBinding binding => (state.upsertPolicyBinding binding).isOk
  | .publishModel publication expected now =>
      (state.publishModel publication expected now).1.isOk
  | .recordAuditEvent event => (state.recordAuditEvent event).isOk
  | .markOutboxDelivered eventIds now => (state.markOutboxDelivered eventIds now).isOk

/-- A publication that fails at the version of a model that has no entry. -/
def EntersModel (state : MemoryState) : MemoryOp → Prop
  | .publishModel publication expected _ =>
      state.Publishable publication ∧ state.Mismatched publication expected ∧
        state.modelPublications[modelPublicationKey publication.warehouse publication.modelId]? =
          none
  | _ => False

omit [External] in
/-- Touching the entry of a model changes the store exactly when there was none. -/
theorem withPublications_eq_iff (state : MemoryState) (publication : ModelPublication) :
    state.withPublications publication (state.publicationsOf publication) = state ↔
      state.modelPublications[modelPublicationKey publication.warehouse publication.modelId]? ≠
        none := by
  constructor
  · intro same absent
    have models := congrArg MemoryState.modelPublications same
    have found := congrArg (fun models : BTreeMap (List ModelPublication) =>
      models[modelPublicationKey publication.warehouse publication.modelId]?) models
    simp only [withPublications] at found
    rw [OrderedMap.getElem?_insert, if_pos rfl, absent] at found
    cases found
  · intro present
    obtain ⟨publications, found⟩ := Option.ne_none_iff_exists'.mp present
    have models : state.modelPublications.insert
        (modelPublicationKey publication.warehouse publication.modelId)
        (state.publicationsOf publication) = state.modelPublications := by
      refine Std.ExtTreeMap.ext_getElem? fun query => ?_
      rw [OrderedMap.getElem?_insert, publicationsOf, found]
      split
      next same => rw [← same, found]; rfl
      next different => rfl
    rw [withPublications, models]

theorem failed_unchanged {state : MemoryState} (histories : ∀ key, state.ViewHistory key)
    (op : MemoryOp) (failed : state.succeeds op = false) (entered : ¬state.EntersModel op) :
    state.step op = state := by
  cases op with
  | dropView warehouse ns view principal expected now =>
      rcases dropViewIfVersion_cases state warehouse ns view principal expected now with
        ⟨_, _, left⟩ | ⟨_, found, ⟨_, refused, _⟩ | ⟨_, _, left⟩⟩
      · rw [step, left]
      · cases refused.symm.trans ((histories _).dropReceipt found principal now)
      · rw [succeeds, left] at failed
        cases failed
  | publishModel publication expected now =>
      rcases publishModel_cases state publication expected now with
        ⟨_, _, left⟩ | ⟨publishable, mismatched, _, left⟩ | ⟨_, _, left⟩
      · rw [step, left]
      · rw [step, left]
        refine (withPublications_eq_iff state publication).mpr fun absent => ?_
        exact entered ⟨publishable, mismatched, absent⟩
      · rw [succeeds, left] at failed
        cases failed
  | _ => exact atomic_failed failed

theorem entersModel_changes {state : MemoryState} (op : MemoryOp)
    (entered : state.EntersModel op) :
    state.succeeds op = false ∧ state.step op ≠ state := by
  cases op with
  | publishModel publication expected now =>
      obtain ⟨publishable, mismatched, absent⟩ := entered
      rcases publishModel_cases state publication expected now with
        ⟨refused, _⟩ | ⟨_, _, _, left⟩ | ⟨_, matching, _⟩
      · exact absurd publishable refused
      · rw [succeeds, step, left]
        exact ⟨rfl, fun same => (withPublications_eq_iff state publication).mp same absent⟩
      · exact absurd mismatched matching
  | _ => exact entered.elim

end

/-- In every state that a run reaches, what a failed call leaves. -/
theorem failed_call_unchanged_iff [External] (ops : List MemoryOp) (op : MemoryOp) :
    ((empty.run ops).succeeds op = false → (empty.run ops).step op = empty.run ops) ↔
      ¬(empty.run ops).EntersModel op := by
  have histories : ∀ key, (empty.run ops).ViewHistory key :=
    Transition.run_invariant step (fun state => ∀ key, state.ViewHistory key)
      (fun state op kept => step_viewHistory kept op) empty ops
      fun key => (viewHistory_empty key).1
  constructor
  · intro unchanged entered
    obtain ⟨failed, changed⟩ := entersModel_changes op entered
    exact changed (unchanged failed)
  · intro entered failed
    exact failed_unchanged histories op failed entered

/-- The second version of a model that was never published. -/
def samplePublication : ModelPublication where
  modelId := "churn"
  warehouse := sampleIdent.warehouse
  version := 2
  artifactUri := "https://models.example/churn"
  artifactHash := "sha256:" ++ String.ofList (List.replicate 64 '0')
  physicalBindings := .object []
  policyBindingIds := []
  publisher := .anonymous
  publishedAt := 0

/-- A refused publication leaves an entry for its model, once its URI is a URL. -/
theorem publishModel_refused_changes : ∃ op : MemoryOp, ∀ [External],
    (External.parseUrl samplePublication.artifactUri).isSome = true →
      empty.succeeds op = false ∧ empty.step op ≠ empty := by
  refine ⟨.publishModel samplePublication (some 1) 0, ?_⟩
  intro _ parsed
  refine entersModel_changes _ ⟨⟨?_, ?_⟩, ?_, rfl⟩
  · have absolute : ¬(External.parseUrl samplePublication.artifactUri).isNone = true := by
      simp [← Option.not_isSome, parsed]
    rw [ModelPublication.validate, rejectIf_neg _ (by decide), ok_bind, rejectIf_neg _ (by decide),
      ok_bind, rejectIf_neg _ absolute]
    rfl
  · intro policyId member
    cases member
  · exact .inl (by decide)

end MemoryState

end LakeCat
