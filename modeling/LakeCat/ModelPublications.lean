import LakeCat.EventKinds
import LakeCat.FailedCalls
import LakeCat.KeyScopes
import LakeCat.NumberedLogs

/-!
The publications of models in the memory store. What has been published is a
log; the store keeps it model by model, and records one event for each entry.
-/

namespace LakeCat

open Fallible NumberedLog

/-- A publication, and when it was recorded. -/
abbrev PublicationEntry := ModelPublication × Timestamp

def PublicationEntry.key (entry : PublicationEntry) : String :=
  modelPublicationKey entry.1.warehouse entry.1.modelId

def PublicationEntry.number (entry : PublicationEntry) : Nat :=
  entry.1.version.toNat

/-- A call that names its warehouse by a valid name, and records no publication of its own. -/
def MemoryOp.PublishesFairly : MemoryOp → Prop
  | .publishModel publication _ _ => publication.warehouse.Made
  | .upsertPolicyBinding binding => binding.warehouse.Made
  | .recordAuditEvent event => event.eventType ≠ "model.published"
  | _ => True

/-- The comparisons of the stores are those of the log, with numbers that fit. -/
theorem PublicationEntry.accepts_of_matching {log : List PublicationEntry}
    {publication : ModelPublication} {now : Timestamp} {stored expected : Option UInt64}
    (positive : publication.version ≠ 0)
    (read : current PublicationEntry.key PublicationEntry.number log
      (PublicationEntry.key (publication, now)) = stored.map UInt64.toNat)
    (same : stored = expected) (next : publication.version = stored.getD 0 + 1) :
    NumberedLog.Accepts PublicationEntry.key PublicationEntry.number log (publication, now)
      (expected.map UInt64.toNat) := by
  refine ⟨by rw [read, same], ?_⟩
  have number := congrArg UInt64.toNat next
  have nonzero : publication.version.toNat ≠ 0 := fun zero =>
    positive (UInt64.toNat_inj.mp zero)
  have below := (stored.getD 0).toNat_lt
  rw [UInt64.toNat_add] at number
  have one : (1 : UInt64).toNat = 1 := rfl
  have mapped : (stored.map UInt64.toNat).getD 0 = (stored.getD 0).toNat := by
    cases stored <;> rfl
  rw [read, mapped]
  change publication.version.toNat = _
  omega

def isPublished (kind : String) : Bool :=
  kind = "model.published"

namespace MemoryState

/-- `model_publications`. -/
def publicationsNamed (state : MemoryState) (warehouse : WarehouseName) (modelId : String) :
    List ModelPublication :=
  (state.modelPublications[modelPublicationKey warehouse modelId]?).getD []

section Invariant

variable [External]

/-- The log of what has been published, as the store keeps it. -/
structure Publishes (state : MemoryState) (log : List PublicationEntry) : Prop where
  stored : ∀ key : String, (state.modelPublications[key]?).getD [] =
    (ofKey PublicationEntry.key log key).map Prod.fst
  gapless : Gapless PublicationEntry.key PublicationEntry.number log
  audit : state.auditOfKind isPublished = log.map fun entry => publishAudit entry.1 entry.2
  outbox : state.outboxOfKind isPublished =
    log.map fun entry => auditOutbox (publishAudit entry.1 entry.2)
  made : ∀ entry ∈ log, entry.1.warehouse.Made
  bound : ∀ entry ∈ log, ∀ policyId ∈ entry.1.policyBindingIds,
    state.policyBindings.contains (policyBindingKey entry.1.warehouse policyId) = true
  placed : ∀ (key : String) binding, state.policyBindings[key]? = some binding →
    key = policyBindingKey binding.warehouse binding.policyId ∧ binding.warehouse.Made

theorem publishes_empty : Publishes .empty [] where
  stored _ := rfl
  gapless := gapless_nil
  audit := rfl
  outbox := rfl
  made := by simp
  bound := by simp
  placed := by
    intro key binding found
    cases found

variable {state next : MemoryState} {log : List PublicationEntry}

/-- Bindings may be added and changed, but each stays under its key and none is lost. -/
theorem Publishes.kept (publishes : state.Publishes log)
    (models : ∀ key : String, (next.modelPublications[key]?).getD [] =
      (state.modelPublications[key]?).getD [])
    (events : next.auditOfKind isPublished = state.auditOfKind isPublished ∧
      next.outboxOfKind isPublished = state.outboxOfKind isPublished)
    (bound : ∀ key : String, state.policyBindings.contains key = true →
      next.policyBindings.contains key = true)
    (placed : ∀ (key : String) binding, next.policyBindings[key]? = some binding →
      key = policyBindingKey binding.warehouse binding.policyId ∧ binding.warehouse.Made) :
    next.Publishes log where
  stored key := (models key).trans (publishes.stored key)
  gapless := publishes.gapless
  audit := events.1.trans publishes.audit
  outbox := events.2.trans publishes.outbox
  made := publishes.made
  bound entry member policyId listed := bound _ (publishes.bound entry member policyId listed)
  placed := placed

theorem Publishes.step_other (publishes : state.Publishes log) (op : MemoryOp)
    (fair : op.PublishesFairly)
    (other : ∀ publication expected now, op ≠ .publishModel publication expected now) :
    (state.step op).Publishes log := by
  have quiet : ∀ kind ∈ op.eventKind, isPublished kind = false := by
    intro kind member
    cases op with
    | recordAuditEvent event =>
        obtain rfl := Option.some.inj member
        exact decide_eq_false fair
    | publishModel publication expected now => exact absurd rfl (other publication expected now)
    | renameTable | commitTable | softDeleteTable | restoreTable =>
        obtain rfl := Option.some.inj member
        decide
    | _ => cases member
  have events : (state.step op).auditOfKind _ = _ ∧ _ := step_eventsOfKind op quiet
  have successor := step_successor state op
  generalize state.step op = next at successor events
  cases successor with
  | tableRenamed source destination principal receipt now table =>
      refine publishes.kept (fun _ => rfl) events ?_ ?_
      · intro key present
        rw [renamed, Std.ExtTreeMap.contains_map]
        exact present
      · intro key binding found
        rw [renamed, Std.ExtTreeMap.getElem?_map, Option.map_eq_some_iff] at found
        obtain ⟨before, stored, rfl⟩ := found
        have kept : (movedBinding source destination now before).warehouse = before.warehouse ∧
            (movedBinding source destination now before).policyId = before.policyId := by
          rw [movedBinding]
          split <;> exact ⟨rfl, rfl⟩
        rw [kept.1, kept.2]
        exact publishes.placed key before stored
  | bindingStored binding valid =>
      refine publishes.kept (fun _ => rfl) events ?_ ?_
      · intro key present
        simp only [Std.ExtTreeMap.contains_insert, present, Bool.or_true]
      · intro key found held
        rw [OrderedMap.getElem?_insert] at held
        split at held
        next own =>
          obtain rfl := Option.some.inj held
          exact ⟨own.symm, fair⟩
        next => exact publishes.placed key found held
  | modelEntered publication expected now => exact absurd rfl (other publication expected now)
  | modelPublished publication expected now => exact absurd rfl (other publication expected now)
  | _ => exact publishes.kept (fun _ => rfl) events (fun _ present => present) publishes.placed

theorem validate_version {publication : ModelPublication}
    (valid : publication.validate = .ok ()) : publication.version ≠ 0 := by
  simp only [ModelPublication.validate, bind_unit_eq_ok, rejectIf_ok] at valid
  exact valid.2.1

theorem Publishes.current_eq (publishes : state.Publishes log) (publication : ModelPublication)
    (now : Timestamp) :
    current PublicationEntry.key PublicationEntry.number log
        (PublicationEntry.key (publication, now)) =
      ((state.publicationsOf publication).getLast?.map ModelPublication.version).map
        UInt64.toNat := by
  rw [publicationsOf, publishes.stored, List.getLast?_map, Option.map_map, Option.map_map, current]
  rfl

/-- The store accepts what the log accepts. -/
theorem Publishes.accepts (publishes : state.Publishes log) {publication : ModelPublication}
    {expected : Option UInt64} (valid : publication.validate = .ok ())
    (matching : ¬state.Mismatched publication expected) (now : Timestamp) :
    NumberedLog.Accepts PublicationEntry.key PublicationEntry.number log (publication, now)
      (expected.map UInt64.toNat) := by
  simp only [Mismatched, not_or, not_not] at matching
  exact PublicationEntry.accepts_of_matching (validate_version valid)
    (publishes.current_eq publication now) matching.1 matching.2

theorem Publishes.published (publishes : state.Publishes log) {publication : ModelPublication}
    {expected : Option UInt64} {now : Timestamp} (made : publication.warehouse.Made)
    (publishable : state.Publishable publication)
    (matching : ¬state.Mismatched publication expected) :
    (state.published publication now).Publishes (log ++ [(publication, now)]) where
  stored key := by
    have own : (PublicationEntry.key (publication, now) = key) ↔
        modelPublicationKey publication.warehouse publication.modelId = key := Iff.rfl
    rw [ofKey_append, List.map_append, MemoryState.published, withPublications,
      OrderedMap.getElem?_insert]
    by_cases same : modelPublicationKey publication.warehouse publication.modelId = key
    · subst same
      rw [if_pos rfl, Option.getD_some, publicationsOf, publishes.stored]
      congr 1
      simp [ofKey, PublicationEntry.key]
    · rw [if_neg same, publishes.stored, ofKey_other (own.not.mpr same), List.map_nil,
        List.append_nil]
  gapless := publishes.gapless.append (publishes.accepts publishable.valid matching now)
  audit := by
    rw [auditOfKind_append rfl, publishes.audit, List.map_append]
    rfl
  outbox := by
    rw [outboxOfKind_append rfl, publishes.outbox, List.map_append]
    rfl
  made entry member := by
    rcases List.mem_append.mp member with earlier | new
    · exact publishes.made entry earlier
    · rw [List.mem_singleton.mp new]
      exact made
  bound entry member := by
    rcases List.mem_append.mp member with earlier | new
    · exact publishes.bound entry earlier
    · rw [List.mem_singleton.mp new]
      exact publishable.bound
  placed := publishes.placed

theorem Publishes.refused (publishes : state.Publishes log) (publication : ModelPublication) :
    (state.withPublications publication (state.publicationsOf publication)).Publishes log := by
  refine publishes.kept ?_ ⟨rfl, rfl⟩ (fun _ present => present) publishes.placed
  intro key
  rw [withPublications, OrderedMap.getElem?_insert]
  split
  next same => rw [← same]; rfl
  next => rfl

/-- A publication, and the version that its publisher knows. -/
def attempted : MemoryOp → Option (PublicationEntry × Option Nat)
  | .publishModel publication expected now => some ((publication, now), expected.map UInt64.toNat)
  | _ => none

/-- A call adds one entry, which the log accepts, or none. -/
theorem publications_represented :
    Represented PublicationEntry.key PublicationEntry.number step MemoryOp.PublishesFairly
      attempted succeeds Publishes where
  gapless _ _ publishes := publishes.gapless
  step state log op publishes fair := by
    cases op with
    | publishModel publication expected now =>
        rcases publishModel_cases state publication expected now with
          ⟨_, _, left⟩ | ⟨_, _, _, left⟩ | ⟨publishable, matching, left⟩
        · refine .inl ⟨?_, fun _ _ => ?_⟩
          · rw [step, left]
            exact publishes
          · rw [succeeds, left]
            rfl
        · refine .inl ⟨?_, fun _ _ => ?_⟩
          · rw [step, left]
            exact publishes.refused publication
          · rw [succeeds, left]
            rfl
        · refine .inr ⟨(publication, now), _, rfl,
            publishes.accepts publishable.valid matching now, ?_⟩
          rw [step, left]
          exact publishes.published fair publishable matching
    | _ => exact .inl ⟨publishes.step_other _ fair (by simp), fun _ brought => by cases brought⟩

/-- One log accounts for the versions, the events and the bindings of every model. -/
structure PublicationsKept (state : MemoryState) (log : List PublicationEntry) : Prop where
  versions : ∀ warehouse modelId,
    (state.publicationsNamed warehouse modelId).map (fun publication =>
      publication.version.toNat) =
        List.range' 1 (state.publicationsNamed warehouse modelId).length
  stored : ∀ warehouse modelId, warehouse.Made → state.publicationsNamed warehouse modelId =
    (log.filter fun entry => entry.1.warehouse = warehouse ∧ entry.1.modelId = modelId).map
      Prod.fst
  audit : state.auditOfKind isPublished = log.map fun entry => publishAudit entry.1 entry.2
  outbox : state.outboxOfKind isPublished =
    log.map fun entry => auditOutbox (publishAudit entry.1 entry.2)
  bindings : ∀ entry ∈ log, ∀ policyId ∈ entry.1.policyBindingIds, ∃ binding,
    state.policyBindings[policyBindingKey entry.1.warehouse policyId]? = some binding ∧
      binding.warehouse = entry.1.warehouse ∧ binding.policyId = policyId

theorem Publishes.publicationsKept (publishes : state.Publishes log) :
    state.PublicationsKept log where
  versions warehouse modelId := by
    rw [publicationsNamed, publishes.stored, List.map_map, List.length_map]
    exact publishes.gapless _
  stored warehouse modelId made := by
    rw [publicationsNamed, publishes.stored, ofKey]
    congr 1
    refine List.filter_congr fun entry member => ?_
    rw [decide_eq_decide]
    constructor
    · exact warehouseScopedKey_injective (publishes.made entry member) made
    · rintro ⟨rfl, rfl⟩
      rfl
  audit := publishes.audit
  outbox := publishes.outbox
  bindings entry member policyId listed := by
    have present := publishes.bound entry member policyId listed
    obtain ⟨binding, found⟩ := (OrderedMap.contains_eq_true _ _).mp present
    obtain ⟨placed, made⟩ := publishes.placed _ binding found
    have same := warehouseScopedKey_injective (publishes.made entry member) made placed
    exact ⟨binding, found, same.1.symm, same.2.symm⟩

theorem publishModel_refused (state : MemoryState) (publication : ModelPublication)
    (expected : Option UInt64) (now : Timestamp)
    (refused : state.succeeds (.publishModel publication expected now) = false) :
    (state.step (.publishModel publication expected now)).auditEvents = state.auditEvents ∧
      (state.step (.publishModel publication expected now)).outboxEvents =
        state.outboxEvents := by
  rcases publishModel_cases state publication expected now with
    ⟨_, _, left⟩ | ⟨_, _, _, left⟩ | ⟨_, _, left⟩
  · rw [MemoryState.step, left]
    exact ⟨rfl, rfl⟩
  · rw [MemoryState.step, left]
    exact ⟨rfl, rfl⟩
  · rw [succeeds, left] at refused
    cases refused

end Invariant

end MemoryState

end LakeCat
