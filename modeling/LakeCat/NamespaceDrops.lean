import LakeCat.TableRenames
import LakeCat.PoliciesRestrict

/-!
When a namespace can be dropped, what the drop takes with it, and what a
namespace and table of the same names find afterwards.
-/

namespace LakeCat

open Fallible

/-- The table is directly in the namespace. -/
def TableIdent.DirectlyIn (ident : TableIdent) (warehouse : WarehouseName) (ns : Namespace) :
    Prop :=
  ident.warehouse = warehouse ∧ ident.ns = ns

instance (ident : TableIdent) (warehouse : WarehouseName) (ns : Namespace) :
    Decidable (ident.DirectlyIn warehouse ns) :=
  inferInstanceAs (Decidable (_ ∧ _))

namespace MemoryState

/-- The namespace is there, and nothing stands in the way of dropping it. -/
structure Emptied (state : MemoryState) (warehouse : WarehouseName) (ns : Namespace) : Prop where
  present : state.namespaceExists warehouse ns = true
  childless : ∀ candidate, state.namespaceExists warehouse candidate = true →
    namespaceIsDescendant candidate ns = false
  tables : ∀ (key : String) (table : TableRecord), state.tables[key]? = some table →
    table.ident.DirectlyIn warehouse ns → state.softDeletes.contains key = true
  views : ∀ (key : String) (view : ViewRecord), state.views[key]? = some view →
    ¬(view.warehouse = warehouse ∧ view.ns = ns)
  bindings : ∀ (key : String) (binding : PolicyBinding), state.policyBindings[key]? = some binding →
    ¬(binding.warehouse = warehouse ∧ binding.ns = some ns)

/-- The namespace is gone with everything of the tables directly in it, and the rest is as before;
grants are kept. -/
structure TakesOnly (state next : MemoryState) (warehouse : WarehouseName) (ns : Namespace) :
    Prop where
  namespaces : ∀ otherWarehouse other, (next.namespacesOf otherWarehouse)[other]? =
    if otherWarehouse = warehouse ∧ other = ns then none
    else (state.namespacesOf otherWarehouse)[other]?
  tables : ∀ (key : String) (table : TableRecord), next.tables[key]? = some table ↔
    state.tables[key]? = some table ∧ ¬table.ident.DirectlyIn warehouse ns
  softDeletes : ∀ (key : String) (record : SoftDeleteRecord),
    next.softDeletes[key]? = some record ↔
      state.softDeletes[key]? = some record ∧ ¬record.table.DirectlyIn warehouse ns
  commits : next.commits = state.commits.filter fun commit =>
    ¬commit.record.table.DirectlyIn warehouse ns
  replays : ∀ (key : String) (replay : IdempotencyReplay),
    next.idempotency[key]? = some replay ↔
      state.idempotency[key]? = some replay ∧ ¬replay.response.ident.DirectlyIn warehouse ns
  views : next.views = state.views
  viewVersionReceipts : next.viewVersionReceipts = state.viewVersionReceipts
  policyBindings : next.policyBindings = state.policyBindings
  storageProfiles : next.storageProfiles = state.storageProfiles
  modelPublications : next.modelPublications = state.modelPublications
  governedScanGrants : next.governedScanGrants = state.governedScanGrants
  management : next.servers = state.servers ∧ next.projects = state.projects ∧
    next.warehouses = state.warehouses
  logs : next.auditEvents = state.auditEvents ∧ next.outboxEvents = state.outboxEvents

/-- The table has no commit, is not soft-deleted, and no replay answers for it. -/
structure ShowsNothing [External] (state : MemoryState) (ident : TableIdent) : Prop where
  commits : state.tableCommitRecords ident 0 none = .ok []
  live : state.softDeletes.contains (tableKey ident) = false
  replays : ∀ (key : String) (replay : IdempotencyReplay), state.idempotency[key]? = some replay →
    replay.tableKey ≠ tableKey ident ∧ replay.response.ident ≠ ident
  unanswered : ∀ idempotencyKey requestHash response,
    state.replayTableCommit ident idempotencyKey requestHash ≠ .ok (some response)

/-- What a namespace of the same name and any table in it start with. -/
def RecreatedEmpty [External] (next : MemoryState) (warehouse : WarehouseName) (ns : Namespace) :
    Prop :=
  ∀ properties recreated table created after,
    next.createNamespaceWithProperties warehouse ns properties = .ok ((), recreated) →
    table.ident.DirectlyIn warehouse ns →
    recreated.createTable table = .ok (created, after) → after.ShowsNothing table.ident

/-- What is asked of `drop_namespace`, grants apart. -/
structure DropsExactly [External] (state : MemoryState) (warehouse : WarehouseName)
    (ns : Namespace) : Prop where
  succeeds : (∃ result next, state.dropNamespace warehouse ns = .ok (result, next)) ↔
    state.Emptied warehouse ns
  takes : ∀ result next, state.dropNamespace warehouse ns = .ok (result, next) →
    state.TakesOnly next warehouse ns
  recreated : ∀ result next, state.dropNamespace warehouse ns = .ok (result, next) →
    next.RecreatedEmpty warehouse ns

section

variable [External] {state : MemoryState} {warehouse : WarehouseName} {ns : Namespace}

theorem WellFormed.droppable_iff (formed : WellFormed state) :
    state.Droppable warehouse ns ↔ state.Emptied warehouse ns := by
  constructor
  · intro ready
    refine ⟨ready.present, ready.childless, ?_, fun key view stored => (ready.views key view stored).2,
      fun key binding stored => (ready.bindings key binding stored).2⟩
    rintro key table stored ⟨inWarehouse, inNamespace⟩
    obtain ⟨record, deleted, _⟩ := (ready.tables key table stored).2.2 inWarehouse inNamespace
    exact (OrderedMap.contains_eq_true _ _).mpr ⟨record, deleted⟩
  · intro empty
    refine ⟨empty.present, empty.childless, ?_, ?_, ?_, ?_⟩
    · intro key table stored
      obtain ⟨filed, valid⟩ := formed.tables key table stored
      refine ⟨valid, filed, fun inWarehouse inNamespace => ?_⟩
      obtain ⟨record, deleted⟩ := (OrderedMap.contains_eq_true _ _).mp
        (empty.tables key table stored ⟨inWarehouse, inNamespace⟩)
      obtain ⟨other, found, matching⟩ := formed.softDeletes key record deleted
      obtain rfl := Option.some.inj (found.symm.trans stored)
      exact ⟨record, deleted, matching.recorded ▸ filed, matching⟩
    · intro key record deleted
      obtain ⟨table, stored, matching⟩ := formed.softDeletes key record deleted
      rw [matching.recorded]
      refine ⟨(formed.tables key table stored).1, fun inWarehouse inNamespace => ?_⟩
      exact (mem_retiredKeys _ _ _ _).mpr ⟨table, stored, inWarehouse, inNamespace⟩
    · exact fun key view stored => ⟨formed.views key view stored, empty.views key view stored⟩
    · exact fun key binding stored =>
        ⟨formed.bindings key binding stored, empty.bindings key binding stored⟩

omit [External] in
/-- A key is retired exactly if its table is in the namespace. -/
theorem retired_iff {key : String} {table : TableRecord} (stored : state.tables[key]? = some table) :
    key ∈ state.retiredKeys warehouse ns ↔ table.ident.DirectlyIn warehouse ns := by
  rw [mem_retiredKeys]
  constructor
  · rintro ⟨other, found, inside⟩
    obtain rfl := Option.some.inj (found.symm.trans stored)
    exact inside
  · exact fun inside => ⟨table, stored, inside⟩

theorem withoutNamespace_takes (formed : WellFormed state) :
    state.TakesOnly (state.withoutNamespace warehouse ns) warehouse ns := by
  refine ⟨?_, ?_, ?_, ?_, ?_, rfl, rfl, rfl, rfl, rfl, rfl, ⟨rfl, rfl, rfl⟩, ⟨rfl, rfl⟩⟩
  · intro otherWarehouse other
    rw [namespacesOf_insert state _ warehouse otherWarehouse _ rfl]
    by_cases same : warehouse = otherWarehouse
    · subst same
      rw [if_pos rfl, OrderedMap.getElem?_erase]
      simp [eq_comm]
    · rw [if_neg same, if_neg fun inside => same inside.1.symm]
  · intro key table
    rw [withoutNamespace, OrderedMap.getElem?_filter, decide_eq_true_eq]
    exact and_congr_right fun stored => not_congr (retired_iff stored)
  · intro key record
    rw [withoutNamespace, OrderedMap.getElem?_filter, decide_eq_true_eq]
    refine and_congr_right fun deleted => not_congr ?_
    obtain ⟨table, stored, matching⟩ := formed.softDeletes key record deleted
    rw [retired_iff stored, matching.recorded]
  · refine List.filter_congr fun commit member => ?_
    obtain ⟨table, stored, valid⟩ := formed.commits commit member
    rw [decide_eq_decide, retired_iff stored, valid.table]
  · intro key replay
    rw [withoutNamespace, OrderedMap.getElem?_filter, decide_eq_true_eq]
    refine and_congr_right fun held => not_congr ?_
    obtain ⟨table, stored, answers⟩ := (formed.replays key replay held).table
    rw [retired_iff stored, answers]

/-- In a well-formed state nothing is filed under the key of a table that is not registered. -/
theorem WellFormed.createTable_showsNothing (formed : WellFormed state) {table created : TableRecord}
    {after : MemoryState} (accepted : state.createTable table = .ok (created, after)) :
    after.ShowsNothing table.ident := by
  obtain ⟨_, _, vacant, _, rfl⟩ := (createTable_ok _ _ _ _).mp accepted
  have absent := (OrderedMap.contains_eq_false _ _).mp vacant
  have elsewhere {key : String} {other : TableRecord} (stored : state.tables[key]? = some other) :
      key ≠ tableKey table.ident := by
    rintro rfl
    exact absurd (stored.symm.trans absent) (by simp)
  have replays : ∀ (key : String) (replay : IdempotencyReplay),
      state.idempotency[key]? = some replay →
        replay.tableKey ≠ tableKey table.ident ∧ replay.response.ident ≠ table.ident := by
    intro key replay held
    obtain ⟨other, stored, answers⟩ := (formed.replays key replay held).table
    refine ⟨elsewhere stored, fun same => elsewhere stored ?_⟩
    rw [← same, answers]
    exact (formed.tables _ other stored).1.symm
  refine ⟨(tableCommitRecords_ok _ _ _ _ _).mpr ?_, ?_, replays, ?_⟩
  · have nothing : state.commitsInRange (tableKey table.ident) 0 none = [] := by
      rw [commitsInRange_all, List.filter_eq_nil_iff]
      intro commit member
      obtain ⟨other, stored, _⟩ := formed.commits commit member
      simpa using elsewhere stored
    have same : ({ state with tables := state.tables.insert (tableKey table.ident) table } :
        MemoryState).commitsInRange (tableKey table.ident) 0 none = [] := nothing
    rw [same]
    exact ⟨by simp, rfl⟩
  · refine (OrderedMap.contains_eq_false _ _).mpr ?_
    cases deleted : state.softDeletes[tableKey table.ident]? with
    | none => rfl
    | some record =>
        obtain ⟨other, stored, _⟩ := formed.softDeletes _ record deleted
        exact absurd rfl (elsewhere stored)
  · intro idempotencyKey requestHash response answered
    simp only [replayTableCommit, bind_eq_ok, exists_unit] at answered
    obtain ⟨-, -, rest⟩ := answered
    split at rest
    next => cases rest
    next replay held =>
      simp only [answerReplay, bind_eq_ok, exists_unit, validateIdempotencyRecordTableKey,
        validateScope_ok, rejectIf_ok, not_not] at rest
      obtain ⟨_, ⟨⟨_, owned⟩, _⟩, _⟩ := rest
      exact (replays _ replay held).1 owned

theorem dropNamespace_exact (formed : WellFormed state) : state.DropsExactly warehouse ns := by
  refine ⟨?_, ?_, ?_⟩
  · rw [← formed.droppable_iff]
    constructor
    · rintro ⟨result, next, accepted⟩
      exact ((dropNamespace_ok _ _ _ _ _).mp accepted).1
    · exact fun ready => ⟨ns, _, (dropNamespace_ok _ _ _ _ _).mpr ⟨ready, rfl, rfl⟩⟩
  · intro result next accepted
    obtain ⟨_, _, rfl⟩ := (dropNamespace_ok _ _ _ _ _).mp accepted
    exact withoutNamespace_takes formed
  · rintro result next accepted properties recreated table created after made _ registered
    obtain ⟨_, _, rfl⟩ := (dropNamespace_ok _ _ _ _ _).mp accepted
    obtain ⟨_, rfl⟩ := (createNamespace_ok _ _ _ _ _ _).mp made
    exact ((formed.dropNamespace warehouse ns).storeNamespace warehouse ns
      properties).createTable_showsNothing registered

/-- Dropping a namespace retires its own retired tables and nothing else, from any state that
calls lead to. -/
theorem dropNamespace_dropsExactly (ops : List MemoryOp) (warehouse : WarehouseName)
    (ns : Namespace) : (MemoryState.empty.run ops).DropsExactly warehouse ns :=
  dropNamespace_exact (wellFormed_run ops)

end

section Sample

theorem dropNamespace_dropsExactly_sample : ∀ [External], ∃ result next,
    (MemoryState.empty.run [.createNamespace ⟨"main"⟩ ⟨["sales"]⟩ .default]).dropNamespace ⟨"main"⟩
        ⟨["sales"]⟩ = .ok (result, next) ∧
      next.RecreatedEmpty ⟨"main"⟩ ⟨["sales"]⟩ := by
  intro _
  have exactly := dropNamespace_dropsExactly
    [.createNamespace ⟨"main"⟩ ⟨["sales"]⟩ .default] ⟨"main"⟩ ⟨["sales"]⟩
  exact ⟨_, _, rfl, exactly.recreated _ _ rfl⟩

def zeroDigest : String := "sha256:" ++ String.ofList (List.replicate 64 '0')

/-- A grant for the sample table, under digests that are all the same. -/
def sampleGrant : GovernedScanGrant where
  proof := {
    version := governedScanProofVersion
    grantId := zeroDigest
    catalogIdentity := "main"
    table := sampleIdent
    tableVersion := 0
    snapshotId := 1
    planTaskDigest := zeroDigest
    principalSubject := "ann"
    purpose := "billing"
    effectiveProjection := ["id"]
    identityContextDigest := zeroDigest
    authorizationReceiptDigest := zeroDigest
    policyDecisionDigest := zeroDigest
  }
  principal := ⟨"ann", .human⟩
  requestedProjection := []
  policyEngine := "typesec"
  policyHashDigest := none
  authorizationContextDigest := zeroDigest
  readRestrictionDigest := zeroDigest
  tableMetadataDigest := zeroDigest
  issuedAt := 0

/-- The grant of a table outlives the namespace of the table. -/
theorem dropNamespace_keepsGrant : ∃ (_ : External) (next : MemoryState),
    (MemoryState.empty.run (sampleSetup ++ [.saveGovernedScanGrant sampleGrant,
        .softDeleteTable sampleIdent .anonymous none 1])).dropNamespace sampleIdent.warehouse
      sampleIdent.ns = .ok (sampleIdent.ns, next) ∧
      sampleGrant.proof.table.DirectlyIn sampleIdent.warehouse sampleIdent.ns ∧
      next.governedScanGrants[sampleGrant.proof.grantId]? = some sampleGrant := by
  let _ := constantExternal
  exact ⟨constantExternal, _, rfl, ⟨rfl, rfl⟩, rfl⟩

end Sample

end MemoryState

end LakeCat
