import LakeCat.ModelPublications
import LakeCat.PoliciesRestrict
import LakeCat.TursoContainment

/-!
The publications of models in the Turso store, whose transactions are run one
after the other. The rows of a model are keyed by its versions, and the events
of the publications by their ids.
-/

namespace LakeCat

open Fallible NumberedLog SnapshotIsolation

structure ModelPublicationRow where
  modelId : String
  warehouse : String
  publication : ModelPublication

/-- The store with its table of publications, which is keyed by model and version. -/
structure TursoCatalog where
  state : TursoState := {}
  modelPublications : Std.ExtTreeMap (String × Int) ModelPublicationRow := ∅

inductive PublicationJob where
  | ns (job : NamespaceJob)
  | upsertPolicyBinding (binding : PolicyBinding)
  | publishModel (publication : ModelPublication) (expected : Option UInt64) (now : Timestamp)

/-- A job that names its warehouse by a valid name. -/
def PublicationJob.NamesMade : PublicationJob → Prop
  | .ns _ => True
  | .upsertPolicyBinding binding => binding.warehouse.Made
  | .publishModel publication _ _ => publication.warehouse.Made

def publicationRow (publication : ModelPublication) : ModelPublicationRow :=
  ⟨publication.modelId, publication.warehouse.value, publication⟩

def auditRow (event : CatalogAuditEvent) : AuditEventRow :=
  ⟨event.eventType, none, event.principal, event.requestHash, event.payload, event.createdAt⟩

def outboxRow (event : OutboxEvent) : OutboxEventRow :=
  ⟨event.sink, event.eventType, event.payload, event.createdAt, event.deliveredAt⟩

section Transactions

variable [External]

/-- A binding that is there keeps the columns that the conflict clause does not name. -/
def TursoState.upsertPolicyBinding (state : TursoState) (binding : PolicyBinding) :
    LakeCatResult (PolicyBinding × TursoWrites) := do
  binding.validate
  let key := policyBindingKey binding.warehouse binding.policyId
  let existing := state.policyBindings[key]?
  checkSome (fun row => validatePolicyBindingScope row.binding binding.warehouse row) existing
  let row : PolicyBindingRow := {
    policyId := (existing.map PolicyBindingRow.policyId).getD binding.policyId
    warehouse := (existing.map PolicyBindingRow.warehouse).getD binding.warehouse.value
    namespacePath := binding.ns.map Namespace.storageKey
    tableName := binding.table.map TableName.asStr
    enforced := binding.enforced
    binding := binding
  }
  return (binding, [TursoRow.put (.policyBinding key) row])

namespace TursoCatalog

/-- `select max(version) from model_publications where publication_key = ?1`. -/
def maxVersion (catalog : TursoCatalog) (key : String) : Option Int :=
  ((catalog.modelPublications.toList.filter fun entry => entry.1.1 = key).map fun entry =>
    entry.1.2).max?

def currentVersion (catalog : TursoCatalog) (key : String) : LakeCatResult (Option UInt64) :=
  match catalog.maxVersion key with
  | none => .ok none
  | some version =>
      if version < 0 then .error (.internal "model version must be non-negative")
      else .ok (some (UInt64.ofNat version.toNat))

def publishModel (catalog : TursoCatalog) (publication : ModelPublication)
    (expectedCurrentVersion : Option UInt64) (now : Timestamp) :
    LakeCatResult (ModelPublication × TursoCatalog) := do
  publication.validate
  let key := modelPublicationKey publication.warehouse publication.modelId
  let current ← catalog.currentVersion key
  rejectIf (current ≠ expectedCurrentVersion ∨ publication.version ≠ current.getD 0 + 1)
    (.conflict "model publication compare-and-swap version mismatch")
  checkEach (fun policyId =>
      rejectIf (¬catalog.state.policyBindings.contains
          (policyBindingKey publication.warehouse policyId))
        (.notFound "policy binding" (contentHashBytes policyId)))
    publication.policyBindingIds
  let version ← checkedI64 publication.version "model publication version"
  rejectIf (catalog.modelPublications.contains (key, version))
    (TursoState.constraintError "model_publications")
  let audit := MemoryState.publishAudit publication now
  let writes ← catalog.state.insertEvents (auditEventId audit) (auditRow audit)
    (MemoryState.auditOutbox audit)
  return (publication, {
    state := applyWrites catalog.state writes
    modelPublications :=
      catalog.modelPublications.insert (key, version) (publicationRow publication)
  })

/-- A transaction without writes was rolled back. -/
def written (catalog : TursoCatalog) (writes : Option TursoWrites) : TursoCatalog :=
  match writes with
  | some writes => { catalog with state := applyWrites catalog.state writes }
  | none => catalog

def step (catalog : TursoCatalog) : PublicationJob → TursoCatalog
  | .ns job => catalog.written (job.body catalog.state)
  | .upsertPolicyBinding binding =>
      catalog.written (writesOf (catalog.state.upsertPolicyBinding binding))
  | .publishModel publication expected now =>
      match catalog.publishModel publication expected now with
      | .ok (_, next) => next
      | .error _ => catalog

def run (catalog : TursoCatalog) (jobs : List PublicationJob) : TursoCatalog :=
  Transition.run step catalog jobs

end TursoCatalog

/-- A write that loses no binding, and no event that is there or of a publication. -/
def QuietWrite (state : TursoState) : Write tursoRows → Prop
  | ⟨.policyBinding key, value⟩ => ∃ row : PolicyBindingRow, value = some row ∧
      key = policyBindingKey row.binding.warehouse row.binding.policyId ∧
        row.binding.warehouse.Made
  | ⟨.auditEvent id, value⟩ => state.auditEvents[id]? = none ∧
      ∃ row : AuditEventRow, value = some row ∧ isPublished row.eventType = false
  | ⟨.outboxEvent id, value⟩ => state.outboxEvents[id]? = none ∧
      ∃ row : OutboxEventRow, value = some row ∧ isPublished row.eventType = false
  | _ => True

/-- A binding is under its own key. -/
def TursoState.BindingsPlaced (state : TursoState) : Prop :=
  ∀ (key : String) (row : PolicyBindingRow), state.policyBindings[key]? = some row →
    key = policyBindingKey row.binding.warehouse row.binding.policyId ∧
      row.binding.warehouse.Made

namespace TursoState

variable {state : TursoState} {writes : TursoWrites}

theorem renamedBindings_placed {source destination : TableIdent} {now : Timestamp}
    {rows renamed : List (String × PolicyBindingRow)}
    (made : ∀ entry ∈ rows, entry.2.binding.warehouse.Made)
    (moved : renamedBindings source destination now rows = .ok renamed) :
    ∀ entry ∈ renamed,
      entry.1 = policyBindingKey entry.2.binding.warehouse entry.2.binding.policyId ∧
        entry.2.binding.warehouse.Made := by
  induction rows generalizing renamed with
  | nil =>
      obtain rfl := Except.ok.inj moved
      simp
  | cons entry rest ih =>
      obtain ⟨key, row⟩ := entry
      simp only [renamedBindings, bind_eq_ok, exists_unit, rejectIf_ok, not_not, ne_eq, pure_eq,
        Except.ok.injEq] at moved
      obtain ⟨-, keyed, others, later, rfl⟩ := moved
      intro entry member
      rcases List.mem_cons.mp member with rfl | member
      · exact ⟨keyed, made (key, row) List.mem_cons_self⟩
      · exact ih (fun other inRest => made other (List.mem_cons_of_mem _ inRest)) later entry member

theorem renameTable_quiet (placed : state.BindingsPlaced) {source destination : TableIdent}
    {principal : Principal} {receipt : Option Json} {now : Timestamp} {result : TableRecord}
    (renamed : state.renameTable source destination principal receipt now = .ok (result, writes)) :
    ∀ change ∈ writes, QuietWrite state change := by
  simp only [renameTable, bind_eq_ok, exists_unit, rejectIf_ok, okOr_ok, pure_eq, return_eq_ok,
    Prod.exists, insertEvents_ok, tableRenameEvents_ok] at renamed
  obtain ⟨-, -, row, -, -, -, -, commits, -, -, -, bindings, moved, -, -, audit, outbox,
    ⟨-, rfl, rfl⟩, events, ⟨auditFresh, outboxFresh, rfl⟩, -, rfl⟩ := renamed
  have bound := renamedBindings_placed (fun entry member => by
    have stored := (OrderedMap.mem_toList _ _ _).mp (List.mem_filter.mp member).1
    exact (placed entry.1 entry.2 stored).2) moved
  intro change member
  simp only [List.mem_append, List.mem_cons, List.not_mem_nil, or_false, List.mem_flatMap,
    List.mem_map] at member
  rcases member with (((((rfl | rfl) | ⟨entry, _, rfl | rfl⟩) | ⟨entry, _, rfl⟩) |
    ⟨entry, listed, rfl⟩) | (rfl | rfl))
  · trivial
  · trivial
  · trivial
  · trivial
  · trivial
  · exact ⟨entry.2, rfl, bound entry listed⟩
  · exact ⟨auditFresh, _, rfl, rfl⟩
  · exact ⟨outboxFresh, _, rfl, rfl⟩

omit [External] in
theorem retireTable_quiet {key : String} {change : Write tursoRows}
    (member : change ∈ state.retireTable key) : QuietWrite state change := by
  simp only [retireTable, List.mem_append, List.mem_map, mem_deleteStored] at member
  rcases member with ((⟨_, _, rfl⟩ | ⟨_, _, rfl⟩) | ⟨_, rfl⟩) | ⟨_, rfl⟩ <;> trivial

theorem job_quiet (placed : state.BindingsPlaced) (job : NamespaceJob)
    (ran : job.body state = some writes) : ∀ change ∈ writes, QuietWrite state change := by
  cases job with
  | createNamespace warehouse ns properties =>
      obtain ⟨done, created⟩ := (writesOf_eq_some _ _).mp ran
      simp only [createNamespaceWithProperties, bind_eq_ok, insertRow_ok, pure_eq,
        return_eq_ok] at created
      obtain ⟨_, ⟨-, rfl⟩, _, ⟨-, rfl⟩, -, rfl⟩ := created
      intro change member
      simp only [List.mem_cons, List.not_mem_nil, or_false] at member
      rcases member with rfl | rfl <;> trivial
  | createTable table =>
      obtain ⟨result, created⟩ := (writesOf_eq_some _ _).mp ran
      simp only [createTable, bind_eq_ok, exists_unit, insertRow_ok, pure_eq,
        return_eq_ok] at created
      obtain ⟨-, -, version, -, _, ⟨-, rfl⟩, -, rfl⟩ := created
      intro change member
      obtain rfl := List.mem_singleton.mp member
      trivial
  | renameTable source destination principal receipt now =>
      obtain ⟨result, renamed⟩ := (writesOf_eq_some _ _).mp ran
      exact renameTable_quiet placed renamed
  | dropNamespace warehouse ns =>
      obtain ⟨result, dropped⟩ := (writesOf_eq_some _ _).mp ran
      simp only [dropNamespace, bind_eq_ok, exists_unit, pure_eq, return_eq_ok] at dropped
      obtain ⟨-, -, keys, -, -, -, -, rfl⟩ := dropped
      intro change member
      simp only [List.mem_append, List.mem_flatMap, mem_deleteStored] at member
      rcases member with (⟨key, -, inside⟩ | ⟨-, rfl⟩) | ⟨-, rfl⟩
      · exact retireTable_quiet inside
      · trivial
      · trivial

theorem upsertPolicyBinding_quiet {binding result : PolicyBinding} (made : binding.warehouse.Made)
    (stored : state.upsertPolicyBinding binding = .ok (result, writes)) :
    ∀ change ∈ writes, QuietWrite state change := by
  simp only [upsertPolicyBinding, bind_eq_ok, exists_unit, pure_eq, return_eq_ok] at stored
  obtain ⟨-, -, -, rfl⟩ := stored
  intro change member
  obtain rfl := List.mem_singleton.mp member
  exact ⟨_, rfl, rfl, made⟩

/-- What quiet writes leave of the bindings and of the events of publications. -/
structure Keeps (state next : TursoState) : Prop where
  bound : ∀ key : String, state.policyBindings.contains key = true →
    next.policyBindings.contains key = true
  placed : next.BindingsPlaced
  audit : ∀ (id : String) (row : AuditEventRow), isPublished row.eventType = true →
    (next.auditEvents[id]? = some row ↔ state.auditEvents[id]? = some row)
  outbox : ∀ (id : String) (row : OutboxEventRow), isPublished row.eventType = true →
    (next.outboxEvents[id]? = some row ↔ state.outboxEvents[id]? = some row)

omit [External] in
theorem keeps_of_quiet (placed : state.BindingsPlaced)
    (quiet : ∀ change ∈ writes, QuietWrite state change) :
    Keeps state (applyWrites state writes) where
  bound key present := by
    obtain ⟨before, found⟩ := (OrderedMap.contains_eq_true _ _).mp present
    rw [OrderedMap.contains_eq_true]
    rcases lookup_applyWrites_cases state writes (.policyBinding key) with
      ⟨kept, -⟩ | ⟨value, member, after⟩
    · exact ⟨before, kept.trans found⟩
    · obtain ⟨row, rfl, -⟩ := quiet _ member
      exact ⟨row, after⟩
  placed := by
    intro key row found
    rcases lookup_applyWrites_cases state writes (.policyBinding key) with
      ⟨kept, -⟩ | ⟨value, member, after⟩
    · exact placed key row (kept.symm.trans found)
    · obtain ⟨other, rfl, named⟩ := quiet _ member
      obtain rfl : other = row := Option.some.inj (after.symm.trans found)
      exact named
  audit id row kind := by
    rcases lookup_applyWrites_cases state writes (.auditEvent id) with
      ⟨kept, -⟩ | ⟨value, member, after⟩
    · exact ⟨kept.symm.trans, kept.trans⟩
    · obtain ⟨fresh, other, rfl, unlisted⟩ := quiet _ member
      constructor
      · intro found
        obtain rfl : other = row := Option.some.inj (after.symm.trans found)
        cases unlisted.symm.trans kind
      · intro found
        cases fresh.symm.trans found
  outbox id row kind := by
    rcases lookup_applyWrites_cases state writes (.outboxEvent id) with
      ⟨kept, -⟩ | ⟨value, member, after⟩
    · exact ⟨kept.symm.trans, kept.trans⟩
    · obtain ⟨fresh, other, rfl, unlisted⟩ := quiet _ member
      constructor
      · intro found
        obtain rfl : other = row := Option.some.inj (after.symm.trans found)
        cases unlisted.symm.trans kind
      · intro found
        cases fresh.symm.trans found

end TursoState

namespace TursoCatalog

def rowKeyOf (entry : PublicationEntry) : String × Int :=
  (entry.key, entry.number)

def auditIdOf (entry : PublicationEntry) : String :=
  auditEventId (MemoryState.publishAudit entry.1 entry.2)

def outboxOf (entry : PublicationEntry) : OutboxEvent :=
  MemoryState.auditOutbox (MemoryState.publishAudit entry.1 entry.2)

/-- The log of what has been published, as the rows of the store have it. -/
structure Publishes (catalog : TursoCatalog) (log : List PublicationEntry) : Prop where
  rows : ∀ (key : String) (version : Int) row,
    catalog.modelPublications[(key, version)]? = some row ↔
      ∃ entry ∈ log, rowKeyOf entry = (key, version) ∧ publicationRow entry.1 = row
  gapless : Gapless PublicationEntry.key PublicationEntry.number log
  audit : ∀ (id : String) row, isPublished row.eventType = true →
    (catalog.state.auditEvents[id]? = some row ↔ ∃ entry ∈ log, auditIdOf entry = id ∧
      auditRow (MemoryState.publishAudit entry.1 entry.2) = row)
  auditIds : (log.map auditIdOf).Nodup
  outbox : ∀ (id : String) row, isPublished row.eventType = true →
    (catalog.state.outboxEvents[id]? = some row ↔ ∃ entry ∈ log, (outboxOf entry).eventId = id ∧
      outboxRow (outboxOf entry) = row)
  outboxIds : (log.map fun entry => (outboxOf entry).eventId).Nodup
  made : ∀ entry ∈ log, entry.1.warehouse.Made
  bound : ∀ entry ∈ log, ∀ policyId ∈ entry.1.policyBindingIds,
    catalog.state.policyBindings.contains (policyBindingKey entry.1.warehouse policyId) = true
  placed : catalog.state.BindingsPlaced

variable {catalog next : TursoCatalog} {log : List PublicationEntry}

theorem publishes_empty : Publishes {} [] where
  rows key version row := by simp
  gapless := gapless_nil
  audit id row _ := by simp
  auditIds := .nil
  outbox id row _ := by simp
  outboxIds := .nil
  made := by simp
  bound := by simp
  placed := by
    intro key row found
    cases found

theorem Publishes.kept (publishes : catalog.Publishes log) {state : TursoState}
    (keeps : catalog.state.Keeps state) : Publishes { catalog with state := state } log where
  rows := publishes.rows
  gapless := publishes.gapless
  audit id row kind := (keeps.audit id row kind).trans (publishes.audit id row kind)
  auditIds := publishes.auditIds
  outbox id row kind := (keeps.outbox id row kind).trans (publishes.outbox id row kind)
  outboxIds := publishes.outboxIds
  made := publishes.made
  bound entry member policyId listed :=
    keeps.bound _ (publishes.bound entry member policyId listed)
  placed := keeps.placed

theorem Publishes.versions (publishes : catalog.Publishes log) (key : String) (version : Int) :
    (∃ row, catalog.modelPublications[(key, version)]? = some row) ↔
      1 ≤ version ∧ version ≤ (ofKey PublicationEntry.key log key).length := by
  have numbered (number : Nat) : (∃ entry ∈ log, entry.key = key ∧ entry.number = number) ↔
      1 ≤ number ∧ number ≤ (ofKey PublicationEntry.key log key).length := by
    have member : number ∈ (ofKey PublicationEntry.key log key).map PublicationEntry.number ↔
        number ∈ List.range' 1 (ofKey PublicationEntry.key log key).length := by
      rw [publishes.gapless key]
    rw [List.mem_map, List.mem_range'_1] at member
    simp only [ofKey, List.mem_filter, decide_eq_true_eq, and_assoc] at member ⊢
    rw [member]
    omega
  constructor
  · rintro ⟨row, found⟩
    obtain ⟨entry, member, place, -⟩ := (publishes.rows key version row).mp found
    obtain ⟨own, rfl⟩ := Prod.mk.inj place
    have bounds := (numbered entry.number).mp ⟨entry, member, own, rfl⟩
    omega
  · rintro ⟨low, high⟩
    obtain ⟨entry, member, own, same⟩ := (numbered version.toNat).mpr (by omega)
    have number : (entry.number : Int) = version := by omega
    exact ⟨_, (publishes.rows key version _).mpr
      ⟨entry, member, Prod.ext own number, rfl⟩⟩

theorem Publishes.maxVersion (publishes : catalog.Publishes log) (key : String) :
    catalog.maxVersion key = (current PublicationEntry.key PublicationEntry.number log key).map
      fun number : Nat => (number : Int) := by
  have listed (version : Int) : version ∈ ((catalog.modelPublications.toList.filter fun entry =>
      entry.1.1 = key).map fun entry => entry.1.2) ↔
        1 ≤ version ∧ version ≤ (ofKey PublicationEntry.key log key).length := by
    rw [← publishes.versions]
    simp only [List.mem_map, List.mem_filter, decide_eq_true_eq, Prod.exists]
    constructor
    · rintro ⟨_, _, row, ⟨member, rfl⟩, rfl⟩
      exact ⟨row, (OrderedMap.mem_toList _ _ _).mp member⟩
    · rintro ⟨row, found⟩
      exact ⟨key, version, row, ⟨(OrderedMap.mem_toList _ _ _).mpr found, rfl⟩, rfl⟩
  rw [TursoCatalog.maxVersion, publishes.gapless.current_eq]
  by_cases empty : (ofKey PublicationEntry.key log key).length = 0
  · rw [if_pos empty, Option.map_none, List.max?_eq_none_iff]
    refine List.eq_nil_iff_forall_not_mem.mpr fun version member => ?_
    have bounds := (listed version).mp member
    omega
  · rw [if_neg empty, Option.map_some, List.max?_eq_some_iff]
    refine ⟨(listed _).mpr (by omega), fun version member => ?_⟩
    exact ((listed version).mp member).2

theorem Publishes.currentVersion (publishes : catalog.Publishes log) (key : String) :
    ∃ stored, catalog.currentVersion key = .ok stored ∧
      current PublicationEntry.key PublicationEntry.number log key =
        stored.map UInt64.toNat := by
  rw [TursoCatalog.currentVersion, publishes.maxVersion]
  cases read : current PublicationEntry.key PublicationEntry.number log key with
  | none => exact ⟨none, rfl, rfl⟩
  | some number =>
      obtain ⟨entry, last, same⟩ := Option.map_eq_some_iff.mp read
      have fits : number < 2 ^ 64 := by
        rw [← same]
        exact entry.1.version.toNat_lt
      refine ⟨some (UInt64.ofNat number), ?_, ?_⟩
      · simp
      · rw [Option.map_some, UInt64.toNat_ofNat_of_lt' fits]

def publishWrites (publication : ModelPublication) (now : Timestamp) : TursoWrites :=
  [TursoRow.put (.auditEvent (auditIdOf (publication, now)))
      (auditRow (MemoryState.publishAudit publication now)),
    TursoRow.put (.outboxEvent (outboxOf (publication, now)).eventId)
      (outboxRow (outboxOf (publication, now)))]

theorem mem_publishWrites {publication : ModelPublication} {now : Timestamp}
    {change : Write tursoRows} (member : change ∈ publishWrites publication now) :
    change.row = .auditEvent (auditIdOf (publication, now)) ∨
      change.row = .outboxEvent (outboxOf (publication, now)).eventId := by
  simp only [publishWrites, List.mem_cons, List.not_mem_nil, or_false] at member
  rcases member with rfl | rfl
  · exact .inl rfl
  · exact .inr rfl

/-- What a publication has checked, and what it leaves. -/
structure Published (catalog : TursoCatalog) (publication : ModelPublication) (now : Timestamp)
    (next : TursoCatalog) : Prop where
  valid : publication.validate = .ok ()
  bound : ∀ policyId ∈ publication.policyBindingIds,
    catalog.state.policyBindings.contains (policyBindingKey publication.warehouse policyId) = true
  auditFresh : catalog.state.auditEvents[auditIdOf (publication, now)]? = none
  outboxFresh : catalog.state.outboxEvents[(outboxOf (publication, now)).eventId]? = none
  models : next.modelPublications = catalog.modelPublications.insert
    (modelPublicationKey publication.warehouse publication.modelId, publication.version.toNat)
    (publicationRow publication)
  state : next.state = applyWrites catalog.state (publishWrites publication now)

theorem Publishes.publishModel_ok (publishes : catalog.Publishes log)
    {publication result : ModelPublication} {expected : Option UInt64} {now : Timestamp}
    (done : catalog.publishModel publication expected now = .ok (result, next)) :
    catalog.Published publication now next ∧
      NumberedLog.Accepts PublicationEntry.key PublicationEntry.number log (publication, now)
        (expected.map UInt64.toNat) := by
  simp only [publishModel, bind_eq_ok, exists_unit, rejectIf_ok, checkEach_ok, checkedI64_ok,
    TursoState.insertEvents_ok, pure_eq, return_eq_ok, not_or, not_not, ne_eq, Bool.not_eq_true,
    Bool.not_eq_false] at done
  obtain ⟨valid, stored, read, ⟨same, following⟩, bound, version, ⟨-, rfl⟩, -, writes,
    ⟨auditFresh, outboxFresh, rfl⟩, -, rfl⟩ := done
  obtain ⟨found, readAgain, agrees⟩ := publishes.currentVersion
    (modelPublicationKey publication.warehouse publication.modelId)
  obtain rfl : found = stored := Except.ok.inj (readAgain.symm.trans read)
  refine ⟨⟨valid, bound, auditFresh, outboxFresh, rfl, rfl⟩, ?_⟩
  exact PublicationEntry.accepts_of_matching (MemoryState.validate_version valid) agrees same
    following

omit [External] in
/-- A new row beside those of a log is the row of the new entry. -/
theorem exists_append {Index Row : Type} {entry : PublicationEntry}
    (indexOf : PublicationEntry → Index) (rowOf : PublicationEntry → Row) {index : Index}
    {row : Row} {before after : Option Row}
    (stored : before = some row ↔ ∃ other ∈ log, indexOf other = index ∧ rowOf other = row)
    (own : indexOf entry = index → before = none ∧ after = some (rowOf entry))
    (others : indexOf entry ≠ index → after = before) :
    after = some row ↔ ∃ other ∈ log ++ [entry], indexOf other = index ∧ rowOf other = row := by
  simp only [List.mem_append, List.mem_singleton]
  by_cases same : indexOf entry = index
  · obtain ⟨absent, found⟩ := own same
    rw [absent] at stored
    rw [found]
    constructor
    · intro equal
      exact ⟨entry, .inr rfl, same, Option.some.inj equal⟩
    · rintro ⟨other, member | rfl, named, rfl⟩
      · cases stored.mpr ⟨other, member, named, rfl⟩
      · rfl
  · rw [others same, stored]
    constructor
    · rintro ⟨other, member, found⟩
      exact ⟨other, .inl member, found⟩
    · rintro ⟨other, member | rfl, named, found⟩
      · exact ⟨other, member, named, found⟩
      · exact absurd named same

omit [External] in
theorem nodup_append {Index : Type} {entry : PublicationEntry} (indexOf : PublicationEntry → Index)
    (distinct : (log.map indexOf).Nodup) (fresh : ∀ other ∈ log, indexOf other ≠ indexOf entry) :
    ((log ++ [entry]).map indexOf).Nodup := by
  rw [List.map_append, List.map_singleton, List.nodup_append]
  refine ⟨distinct, List.nodup_singleton _, ?_⟩
  rintro _ listed _ last rfl
  obtain ⟨other, member, same⟩ := List.mem_map.mp listed
  exact fresh other member (same.trans (List.mem_singleton.mp last))

section Published

variable {publication : ModelPublication} {now : Timestamp}

theorem Published.audit (published : catalog.Published publication now next) (id : String) :
    (auditIdOf (publication, now) = id → next.state.auditEvents[id]? =
        some (auditRow (MemoryState.publishAudit publication now))) ∧
      (auditIdOf (publication, now) ≠ id →
        next.state.auditEvents[id]? = catalog.state.auditEvents[id]?) := by
  rw [published.state]
  constructor
  · rintro rfl
    refine lookup_applyWrites catalog.state [] _ (TursoRow.put (.auditEvent _) _) ?_
    intro other member
    obtain rfl := List.mem_singleton.mp member
    exact nofun
  · intro different
    refine lookup_unwritten catalog.state (publishWrites publication now) (.auditEvent id)
      fun change member same => ?_
    rcases mem_publishWrites member with audit | outbox
    · exact different (TursoRow.auditEvent.inj (audit.symm.trans same))
    · cases outbox.symm.trans same

theorem Published.outbox (published : catalog.Published publication now next) (id : String) :
    ((outboxOf (publication, now)).eventId = id → next.state.outboxEvents[id]? =
        some (outboxRow (outboxOf (publication, now)))) ∧
      ((outboxOf (publication, now)).eventId ≠ id →
        next.state.outboxEvents[id]? = catalog.state.outboxEvents[id]?) := by
  rw [published.state]
  constructor
  · rintro rfl
    refine lookup_applyWrites catalog.state [_] [] (TursoRow.put (.outboxEvent _) _) ?_
    simp
  · intro different
    refine lookup_unwritten catalog.state (publishWrites publication now) (.outboxEvent id)
      fun change member same => ?_
    rcases mem_publishWrites member with audit | outbox
    · cases audit.symm.trans same
    · exact different (TursoRow.outboxEvent.inj (outbox.symm.trans same))

theorem Published.bindings (published : catalog.Published publication now next) :
    ∀ key : String, next.state.policyBindings[key]? = catalog.state.policyBindings[key]? := by
  intro key
  rw [published.state]
  refine lookup_unwritten catalog.state (publishWrites publication now) (.policyBinding key)
    fun change member same => ?_
  rcases mem_publishWrites member with audit | outbox
  · cases audit.symm.trans same
  · cases outbox.symm.trans same

theorem Publishes.published (publishes : catalog.Publishes log) {expected : Option Nat}
    (made : publication.warehouse.Made) (published : catalog.Published publication now next)
    (accepts : NumberedLog.Accepts PublicationEntry.key PublicationEntry.number log
      (publication, now) expected) : next.Publishes (log ++ [(publication, now)]) where
  rows key version row := by
    refine exists_append rowKeyOf _ (publishes.rows key version row) ?_ ?_
    · intro own
      have place : (modelPublicationKey publication.warehouse publication.modelId,
          (publication.version.toNat : Int)) = (key, version) := own
      refine ⟨?_, ?_⟩
      · by_contra present
        obtain ⟨row, found⟩ := Option.ne_none_iff_exists'.mp present
        have bounds := (publishes.versions key version).mp ⟨row, found⟩
        have next := accepts.next
        rw [publishes.gapless.current_getD] at next
        obtain ⟨rfl, rfl⟩ := Prod.mk.inj own
        simp only [Nat.cast_le] at bounds
        omega
      · rw [published.models, place, OrderedMap.getElem?_insert, if_pos rfl]
    · intro other
      rw [published.models, OrderedMap.getElem?_insert]
      exact if_neg other
  gapless := publishes.gapless.append accepts
  audit id row kind := exists_append auditIdOf _ (publishes.audit id row kind)
    (fun own => ⟨by rw [← own]; exact published.auditFresh, (published.audit id).1 own⟩)
    (published.audit id).2
  auditIds := by
    refine nodup_append auditIdOf publishes.auditIds fun other member same => ?_
    have stored := (publishes.audit _ _ rfl).mpr ⟨other, member, same, rfl⟩
    cases published.auditFresh.symm.trans stored
  outbox id row kind := exists_append (fun entry => (outboxOf entry).eventId) _
    (publishes.outbox id row kind)
    (fun own => ⟨by rw [← own]; exact published.outboxFresh, (published.outbox id).1 own⟩)
    (published.outbox id).2
  outboxIds := by
    refine nodup_append (fun entry => (outboxOf entry).eventId) publishes.outboxIds
      fun other member same => ?_
    have stored := (publishes.outbox _ _ rfl).mpr ⟨other, member, same, rfl⟩
    cases published.outboxFresh.symm.trans stored
  made entry member := by
    rcases List.mem_append.mp member with earlier | new
    · exact publishes.made entry earlier
    · rw [List.mem_singleton.mp new]
      exact made
  bound entry member policyId listed := by
    have same := published.bindings (policyBindingKey entry.1.warehouse policyId)
    rw [OrderedMap.contains_eq_true, same, ← OrderedMap.contains_eq_true]
    rcases List.mem_append.mp member with earlier | new
    · exact publishes.bound entry earlier policyId listed
    · rw [List.mem_singleton.mp new] at listed ⊢
      exact published.bound policyId listed
  placed key row found := publishes.placed key row ((published.bindings key).symm.trans found)

end Published

def succeeds (catalog : TursoCatalog) : PublicationJob → Bool
  | .ns job => (job.body catalog.state).isSome
  | .upsertPolicyBinding binding => (catalog.state.upsertPolicyBinding binding).isOk
  | .publishModel publication expected now =>
      (catalog.publishModel publication expected now).isOk

/-- A publication, and the version that its publisher knows. -/
def attempted : PublicationJob → Option (PublicationEntry × Option Nat)
  | .publishModel publication expected now => some ((publication, now), expected.map UInt64.toNat)
  | _ => none

theorem Publishes.written (publishes : catalog.Publishes log) {writes : Option TursoWrites}
    (quiet : ∀ ran, writes = some ran → ∀ change ∈ ran, QuietWrite catalog.state change) :
    (catalog.written writes).Publishes log := by
  cases writes with
  | none => exact publishes
  | some ran => exact publishes.kept (TursoState.keeps_of_quiet publishes.placed (quiet ran rfl))

theorem step_failed (job : PublicationJob) (failed : catalog.succeeds job = false) :
    catalog.step job = catalog := by
  cases job with
  | ns job =>
      rw [succeeds, Option.isSome_eq_false_iff, Option.isNone_iff_eq_none] at failed
      rw [step, failed]
      rfl
  | upsertPolicyBinding binding =>
      rw [step]
      cases ran : catalog.state.upsertPolicyBinding binding with
      | ok result =>
          rw [succeeds, ran] at failed
          cases failed
      | error error => rfl
  | publishModel publication expected now =>
      rw [step]
      cases ran : catalog.publishModel publication expected now with
      | ok result =>
          rw [succeeds, ran] at failed
          cases failed
      | error error => rfl

theorem publications_represented :
    Represented PublicationEntry.key PublicationEntry.number step PublicationJob.NamesMade
      attempted succeeds Publishes where
  gapless _ _ publishes := publishes.gapless
  step catalog log job publishes made := by
    cases job with
    | ns job =>
        refine .inl ⟨publishes.written fun ran same => ?_, nofun⟩
        exact TursoState.job_quiet publishes.placed job same
    | upsertPolicyBinding binding =>
        refine .inl ⟨publishes.written fun ran same => ?_, nofun⟩
        obtain ⟨result, stored⟩ := (writesOf_eq_some _ _).mp same
        exact TursoState.upsertPolicyBinding_quiet made stored
    | publishModel publication expected now =>
        cases ran : catalog.publishModel publication expected now with
        | ok result =>
            obtain ⟨published, accepts⟩ := publishes.publishModel_ok ran
            refine .inr ⟨(publication, now), _, rfl, accepts, ?_⟩
            rw [step, ran]
            exact publishes.published made published accepts
        | error error =>
            refine .inl ⟨?_, fun _ _ => ?_⟩
            · rw [step, ran]
              exact publishes
            · rw [succeeds, ran]
              rfl

/-- One log accounts for the versions, the events and the bindings of every model. -/
structure PublicationsKept (catalog : TursoCatalog) (log : List PublicationEntry) : Prop where
  versions : ∀ warehouse modelId, ∃ count : Nat, ∀ version : Int,
    (∃ row, catalog.modelPublications[(modelPublicationKey warehouse modelId, version)]? =
      some row) ↔ 1 ≤ version ∧ version ≤ count
  stored : ∀ warehouse modelId version row, warehouse.Made →
    (catalog.modelPublications[(modelPublicationKey warehouse modelId, version)]? = some row ↔
      ∃ entry ∈ log, (entry.1.warehouse = warehouse ∧ entry.1.modelId = modelId) ∧
        (entry.1.version.toNat : Int) = version ∧ publicationRow entry.1 = row)
  audit : ∀ (id : String) row, isPublished row.eventType = true →
    (catalog.state.auditEvents[id]? = some row ↔ ∃ entry ∈ log, auditIdOf entry = id ∧
      auditRow (MemoryState.publishAudit entry.1 entry.2) = row)
  auditIds : (log.map auditIdOf).Nodup
  outbox : ∀ (id : String) row, isPublished row.eventType = true →
    (catalog.state.outboxEvents[id]? = some row ↔ ∃ entry ∈ log, (outboxOf entry).eventId = id ∧
      outboxRow (outboxOf entry) = row)
  outboxIds : (log.map fun entry => (outboxOf entry).eventId).Nodup
  rowKeys : (log.map rowKeyOf).Nodup
  bindings : ∀ entry ∈ log, ∀ policyId ∈ entry.1.policyBindingIds, ∃ row,
    catalog.state.policyBindings[policyBindingKey entry.1.warehouse policyId]? = some row ∧
      row.binding.warehouse = entry.1.warehouse ∧ row.binding.policyId = policyId

theorem Publishes.publicationsKept (publishes : catalog.Publishes log) :
    catalog.PublicationsKept log where
  versions warehouse modelId := ⟨_, publishes.versions (modelPublicationKey warehouse modelId)⟩
  stored warehouse modelId version row made := by
    rw [publishes.rows]
    refine exists_congr fun entry => and_congr_right fun member => ?_
    rw [rowKeyOf, Prod.mk.injEq, and_assoc]
    refine and_congr ?_ Iff.rfl
    constructor
    · exact warehouseScopedKey_injective (publishes.made entry member) made
    · rintro ⟨rfl, rfl⟩
      rfl
  audit := publishes.audit
  auditIds := publishes.auditIds
  outbox := publishes.outbox
  outboxIds := publishes.outboxIds
  rowKeys := by
    have places := publishes.gapless.nodup.map (f := fun place : String × Nat =>
      (place.1, (place.2 : Int))) (by rintro ⟨_, _⟩ ⟨_, _⟩ same; simpa using same)
    rwa [List.map_map] at places
  bindings entry member policyId listed := by
    have present := publishes.bound entry member policyId listed
    obtain ⟨row, found⟩ := (OrderedMap.contains_eq_true _ _).mp present
    obtain ⟨placed, made⟩ := publishes.placed _ row found
    have same := warehouseScopedKey_injective (publishes.made entry member) made placed
    exact ⟨row, found, same.1.symm, same.2.symm⟩

end TursoCatalog

/-- In both stores the publications of each model are numbered without a gap, one for each
expectation, and each has its events and its bindings from then on. -/
theorem publications_gapless :
    (∀ ops more : List MemoryOp, (∀ op ∈ ops ++ more, op.PublishesFairly) →
      (∃ log later, log <+: later ∧ (MemoryState.run .empty ops).PublicationsKept log ∧
        (MemoryState.run .empty (ops ++ more)).PublicationsKept later) ∧
      OneSucceeds PublicationEntry.key MemoryState.step MemoryState.attempted MemoryState.succeeds
        .empty (ops ++ more)) ∧
    (∀ (state : MemoryState) publication expected now,
      state.succeeds (.publishModel publication expected now) = false →
      (state.step (.publishModel publication expected now)).auditEvents = state.auditEvents ∧
        (state.step (.publishModel publication expected now)).outboxEvents =
          state.outboxEvents) ∧
    (∀ jobs more : List PublicationJob, (∀ job ∈ jobs ++ more, job.NamesMade) →
      (∃ log later, log <+: later ∧ (TursoCatalog.run {} jobs).PublicationsKept log ∧
        (TursoCatalog.run {} (jobs ++ more)).PublicationsKept later) ∧
      OneSucceeds PublicationEntry.key TursoCatalog.step TursoCatalog.attempted
        TursoCatalog.succeeds {} (jobs ++ more)) ∧
    ∀ (catalog : TursoCatalog) job, catalog.succeeds job = false → catalog.step job = catalog := by
  refine ⟨fun ops more fair => ⟨?_, ?_⟩, MemoryState.publishModel_refused,
    fun jobs more made => ⟨?_, ?_⟩, fun _ => TursoCatalog.step_failed⟩
  · obtain ⟨log, -, publishes⟩ := MemoryState.publications_represented.run ops
      (fun op member => fair op (List.mem_append_left _ member)) MemoryState.publishes_empty
    obtain ⟨later, extended, after⟩ := MemoryState.publications_represented.run more
      (fun op member => fair op (List.mem_append_right _ member)) publishes
    rw [← Transition.run_append] at after
    exact ⟨log, later, extended, publishes.publicationsKept, after.publicationsKept⟩
  · exact MemoryState.publications_represented.oneSucceeds MemoryState.publishes_empty _ fair
  · obtain ⟨log, -, publishes⟩ := TursoCatalog.publications_represented.run jobs
      (fun job member => made job (List.mem_append_left _ member)) TursoCatalog.publishes_empty
    obtain ⟨later, extended, after⟩ := TursoCatalog.publications_represented.run more
      (fun job member => made job (List.mem_append_right _ member)) publishes
    rw [← Transition.run_append] at after
    exact ⟨log, later, extended, publishes.publicationsKept, after.publicationsKept⟩
  · exact TursoCatalog.publications_represented.oneSucceeds TursoCatalog.publishes_empty _ made

end Transactions

@[reducible] def parsingExternal : External where
  sha256 := constantExternal.sha256
  parseUrl _ := some ⟨"s3", "", none, none, none⟩
  toRfc3339 _ := ""
  serializeTimestamp _ := ""
  constraintText text := text

def ratesBinding : PolicyBinding where
  policyId := "readers"
  warehouse := ⟨"main"⟩
  ns := none
  table := none
  enforced := true
  odrl := .object []
  updatedAt := 1

def ratesPublication (version : UInt64) : ModelPublication where
  modelId := "rates"
  warehouse := ⟨"main"⟩
  version := version
  artifactUri := "s3://models/rates"
  artifactHash := "sha256:" ++ String.ofList (List.replicate 64 '0')
  physicalBindings := .arr []
  policyBindingIds := ["readers"]
  publisher := .anonymous
  publishedAt := 2

/-- The first publication of a model succeeds, and not a second one that expects none either. -/
theorem publications_gapless_rates : ∃ _ : External,
    (MemoryState.run .empty [.upsertPolicyBinding ratesBinding]).succeeds
        (.publishModel (ratesPublication 1) none 2) = true ∧
      (MemoryState.run .empty [.upsertPolicyBinding ratesBinding,
        .publishModel (ratesPublication 1) none 2]).succeeds
          (.publishModel (ratesPublication 1) none 3) ≠ true := by
  let _ := parsingExternal
  have first : (MemoryState.run .empty [.upsertPolicyBinding ratesBinding]).succeeds
      (.publishModel (ratesPublication 1) none 2) = true := by
    decide +kernel
  have fair : ∀ op ∈ [MemoryOp.upsertPolicyBinding ratesBinding,
      .publishModel (ratesPublication 1) none 2] ++ [.publishModel (ratesPublication 1) none 3],
      op.PublishesFairly := by
    have made : WarehouseName.Made ⟨"main"⟩ := ⟨"main", rfl⟩
    simp only [List.cons_append, List.nil_append, List.forall_mem_cons, List.not_mem_nil,
      false_imp_iff, implies_true, and_true]
    exact ⟨made, made, made⟩
  refine ⟨inferInstance, first, fun second => ?_⟩
  exact (publications_gapless.1 _ _ fair).2 [.upsertPolicyBinding ratesBinding] _ [] _ [] _ _ _ rfl
    rfl rfl rfl ⟨first, second⟩

end LakeCat
