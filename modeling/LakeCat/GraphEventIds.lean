import LakeCat.KeyScopes
import LakeCat.OutboxValidation
import LakeCat.ProjectedGraph

/-!
The ids of graph events. They repeat within one recorded event if two of the
columns that it shows have one stable id, and then only.
-/

namespace LakeCat

open Fallible

/-- Each graph event goes by the id of the recorded event and its own part. -/
theorem tagged_ids {event : OutboxEvent} {graphs : List GraphEvent} {tags : List GraphTag}
    (tagged : List.Forall₂ (Tagged event) graphs tags) :
    graphs.map GraphEvent.eventId =
      (tags.map Prod.fst).map fun part => some (event.eventId ++ part.text) := by
  induction tagged with
  | nil => rfl
  | cons first _ ih => rw [List.map_cons, first.named, ih, List.map_cons, List.map_cons]

theorem idOf_injective (event : OutboxEvent) :
    Function.Injective fun part : IdPart => some (event.eventId ++ part.text) := by
  intro one other same
  apply IdPart.text_injective
  rw [← String.toList_inj]
  have letters := congrArg String.toList (Option.some.inj same)
  rwa [String.toList_append, String.toList_append, List.append_cancel_left_eq] at letters

theorem principalTags_parts (principal : Principal) :
    (principalTags principal).map Prod.fst = [] ∨
      (principalTags principal).map Prod.fst = [.principal] := by
  rw [principalTags]
  split
  · exact .inl rfl
  · exact .inr rfl

theorem digest_length {digest : String} (evidence : isSha256Evidence digest = true) :
    digest.toList.length = 71 := by
  rw [isSha256Evidence] at evidence
  split at evidence
  next hex stripped =>
    rw [Bool.and_eq_true, decide_eq_true_eq] at evidence
    have head : "sha256:".toList.length = 7 := rfl
    rw [stripHead_some stripped, String.toList_append, List.length_append, evidence.1, head]
  next => cases evidence

/-- Digests are of one length, so what follows them does not make one look like another. -/
theorem digest_append_inj {one other first second : String}
    (digest : isSha256Evidence one = true) (otherDigest : isSha256Evidence other = true)
    (same : one ++ first = other ++ second) : one = other := by
  have letters := congrArg String.toList same
  rw [String.toList_append, String.toList_append] at letters
  have lengths := (digest_length digest).trans (digest_length otherDigest).symm
  exact String.toList_injective (List.append_inj_left letters lengths)

theorem historyTags_parts (ident : TableIdent) (entries : List (Nat × String)) :
    (entries.map fun entry => historyTag ident entry.1).map Prod.fst =
      (entries.map Prod.fst).map IdPart.commitHistory := by
  rw [List.map_map, List.map_map]
  rfl

section
variable [External]

/-- The calls that the projection of an event makes. -/
def OutboxEvent.calls (event : OutboxEvent) (defaultWarehouse : WarehouseName) : List Emission :=
  (event.projectOutboxEvent defaultWarehouse []).2

/-- The stable ids of the columns that an event shows, if it is one of those about a table and
names the table and its principal. -/
def OutboxEvent.columnIds (event : OutboxEvent) : List String :=
  match outboxTableProjection event.eventType, event.outboxTable, event.outboxPrincipal with
  | some _, .ok (some _), .ok _ => metadataColumnIds event.inner
  | _, _, _ => []

theorem OutboxEvent.calls_tags (event : OutboxEvent) (defaultWarehouse : WarehouseName) :
    ∃ tags, event.ProjectedTags defaultWarehouse tags ∧
      List.Forall₂ (Tagged event) (graphEvents (event.calls defaultWarehouse)) tags := by
  obtain ⟨added, outcome, tags, emits, tagged, shown⟩ :=
    event.projectOutboxEvent_shows defaultWarehouse
  have calls : event.calls defaultWarehouse = added := by
    rw [OutboxEvent.calls, emits]
    rfl
  exact ⟨tags, shown, calls ▸ tagged⟩

theorem tableParts_nodup (event : OutboxEvent) (ident : TableIdent) (eventPayload : Json)
    {named : List IdPart} (principal : named = [] ∨ named = [.principal]) :
    (named ++ ((.whole, .table ident) :: metadataTags ident eventPayload ++ event.scanTags ++
        event.commitTags ident : List GraphTag).map Prod.fst).Nodup ↔
      (metadataColumnIds eventPayload).Nodup := by
  have columns : ((metadataColumnIds eventPayload).map IdPart.column).Nodup ↔
      (metadataColumnIds eventPayload).Nodup :=
    List.nodup_map_iff fun one other same => IdPart.column.inj same
  have scan : event.scanTags.map Prod.fst = [] ∨ event.scanTags.map Prod.fst = [.scanPlan] := by
    rw [OutboxEvent.scanTags]
    split <;> simp
  have commit : (event.commitTags ident).map Prod.fst = [] ∨
      (event.commitTags ident).map Prod.fst = [.commit] := by
    rw [OutboxEvent.commitTags]
    split
    · split <;> simp
    · simp
  have metadata : (metadataTags ident eventPayload).map Prod.fst =
      (metadataColumnIds eventPayload).map IdPart.column ++
        (metadataSnapshotId eventPayload).toList.map IdPart.snapshot := by
    rw [metadataTags, List.map_append, List.map_map, List.map_map]
    rfl
  rw [← columns]
  simp only [List.map_append, List.map_cons, metadata]
  rcases principal with rfl | rfl <;> rcases scan with scan | scan <;>
    rcases commit with commit | commit <;> rw [scan, commit] <;>
      cases metadataSnapshotId eventPayload <;>
        simp [List.nodup_append]

theorem OutboxEvent.outboxCommitHistoryEntries_numbers {event : OutboxEvent}
    {entries : List (Nat × String)} {values : List Json} {numbers : List Nat}
    (read : event.outboxCommitHistoryEntries = .ok entries)
    (found : (event.inner.get "sequence-numbers").bind Json.asArray = some values)
    (same : values.map Json.asU64 = numbers.map some) : entries.map Prod.fst = numbers := by
  simp only [outboxCommitHistoryEntries, bind_eq_ok, okOr_ok, exists_unit, rejectIf_ok, found,
    Option.some.injEq, not_not, ne_eq] at read
  obtain ⟨_, rfl, hashes, _, lengths, collected⟩ := read
  have each := (collect_ok _ _ _).mp collected
  have firsts : entries.map (fun entry => some entry.1) =
      (values.zip hashes).map fun entry => Json.asU64 entry.1 := by
    generalize values.zip hashes = pairs at each
    clear collected
    induction each with
    | nil => rfl
    | cons converted _ ih =>
        simp only [bind_eq_ok, okOr_ok, pure_eq, Except.ok.injEq] at converted
        obtain ⟨sequenceNumber, number, commitHash, _, rfl⟩ := converted
        rw [List.map_cons, List.map_cons, ih, number]
  have zipped : (values.zip hashes).map (fun entry => Json.asU64 entry.1) =
      values.map Json.asU64 := by
    have firsts : (values.zip hashes).map Prod.fst = values := List.map_fst_zip (by omega)
    have whole := congrArg (List.map Json.asU64) firsts
    rwa [List.map_map] at whole
  have numbered : (entries.map Prod.fst).map some = numbers.map some := by
    rw [← same, ← zipped, ← firsts, List.map_map]
    rfl
  exact List.map_injective_iff.mpr (Option.some_injective Nat) numbered

variable [TimestampParser] [EvidenceValidators]

/-- The commits that an accepted reading lists are told apart by their sequence numbers. -/
theorem OutboxEvent.outboxCommitHistoryEntries_distinct {event : OutboxEvent}
    {entries : List (Nat × String)} (accepted : validateOutboxEventEvidence event = .ok ())
    (typed : event.eventType = "table.commits-listed")
    (read : event.outboxCommitHistoryEntries = .ok entries) : (entries.map Prod.fst).Nodup := by
  have family := validateOutboxEventEvidence_family accepted
  rw [validateEventFamily_history _ typed] at family
  obtain ⟨values, numbers, found, same, increasing⟩ :=
    validateTableCommitHistoryEventEvidence_numbers family
  rw [outboxCommitHistoryEntries_numbers read found same]
  exact increasing.imp fun lower => Nat.ne_of_lt lower

theorem OutboxEvent.MainTags.parts_nodup {event : OutboxEvent} {defaultWarehouse : WarehouseName}
    {tags : List GraphTag} {principal : Principal}
    (accepted : validateOutboxEventEvidence event = .ok ())
    (main : event.MainTags defaultWarehouse tags)
    (readable : event.outboxPrincipal = .ok principal) :
    ((principalTags principal ++ tags).map Prod.fst).Nodup ↔ event.columnIds.Nodup := by
  have named := principalTags_parts principal
  have none_shown (other : outboxTableProjection event.eventType = none) :
      event.columnIds = [] := by
    rw [columnIds, other]
  rw [List.map_append]
  cases main with
  | silent other =>
      have empty : event.columnIds = [] := by
        rcases other with typed | table
        · exact none_shown typed
        · rw [columnIds, table]
          cases outboxTableProjection event.eventType <;> rfl
      rcases named with named | named <;> simp [named, empty]
  | whole other _ _ => rcases named with named | named <;> simp [named, none_shown other]
  | profile typed _ =>
      have other : outboxTableProjection event.eventType = none := by rw [typed]; rfl
      rcases named with named | named <;> simp [named, none_shown other]
  | history typed table read =>
      have other : outboxTableProjection event.eventType = none := by rw [typed]; rfl
      have distinct := outboxCommitHistoryEntries_distinct accepted typed read
      have numbered := (List.nodup_map_iff fun one other same =>
        IdPart.commitHistory.inj same).mpr distinct
      rw [historyTags_parts, none_shown other, iff_true_right List.nodup_nil]
      rcases named with named | named <;> rw [named]
      · exact numbered
      · refine List.nodup_cons.mpr ⟨?_, numbered⟩
        simp
  | table typed table =>
      obtain ⟨projected, known⟩ := Option.ne_none_iff_exists'.mp typed
      have shown : event.columnIds = metadataColumnIds event.inner := by
        rw [columnIds, known, table, readable]
      rw [shown]
      exact tableParts_nodup event _ event.inner named

/-- The ids that the graph events of one recorded event go by. -/
def OutboxEvent.graphIds (event : OutboxEvent) (defaultWarehouse : WarehouseName) :
    List (Option String) :=
  (graphEvents (event.calls defaultWarehouse)).map GraphEvent.eventId

theorem OutboxEvent.graphIds_nodup {event : OutboxEvent} (defaultWarehouse : WarehouseName)
    (accepted : validateOutboxEventEvidence event = .ok ()) :
    (event.graphIds defaultWarehouse).Nodup ↔ event.columnIds.Nodup := by
  obtain ⟨tags, shown, tagged⟩ := event.calls_tags defaultWarehouse
  rw [graphIds, tagged_ids tagged, List.nodup_map_iff (idOf_injective event)]
  cases shown with
  | unread failed =>
      have empty : event.columnIds = [] := by
        rw [columnIds]
        split
        next table principal =>
          rcases failed with failed | failed
          · exact absurd table (failed _)
          · exact absurd principal (failed _)
        next => rfl
      simp [empty]
  | read found named main => exact main.parts_nodup accepted named

omit [TimestampParser] [EvidenceValidators] in
theorem OutboxEvent.mem_graphIds {event : OutboxEvent} {defaultWarehouse : WarehouseName}
    {eventId : Option String} (member : eventId ∈ event.graphIds defaultWarehouse) :
    ∃ part : IdPart, eventId = some (event.eventId ++ part.text) := by
  obtain ⟨tags, _, tagged⟩ := event.calls_tags defaultWarehouse
  rw [graphIds, tagged_ids tagged] at member
  obtain ⟨part, _, rfl⟩ := List.mem_map.mp member
  exact ⟨part, rfl⟩

/-- Events with digests for ids share no id of a graph event. -/
theorem graphIds_nodup_iff (defaultWarehouse : WarehouseName) {events : List OutboxEvent}
    (accepted : ∀ event ∈ events, validateOutboxEventEvidence event = .ok ())
    (hashed : ∀ event ∈ events, isSha256Evidence event.eventId = true)
    (distinct : (events.map OutboxEvent.eventId).Nodup) :
    (events.flatMap fun event => event.graphIds defaultWarehouse).Nodup ↔
      ∀ event ∈ events, event.columnIds.Nodup := by
  have apart : events.Pairwise fun one other =>
      List.Disjoint (one.graphIds defaultWarehouse) (other.graphIds defaultWarehouse) := by
    rw [List.Nodup, List.pairwise_map] at distinct
    refine distinct.imp_of_mem fun first second unequal => ?_
    intro eventId here there
    obtain ⟨part, rfl⟩ := OutboxEvent.mem_graphIds here
    obtain ⟨other, same⟩ := OutboxEvent.mem_graphIds there
    exact unequal (digest_append_inj (hashed _ first) (hashed _ second) (Option.some.inj same))
  rw [List.nodup_flatMap, and_iff_left apart]
  exact forall₂_congr fun event member =>
    OutboxEvent.graphIds_nodup defaultWarehouse (accepted event member)

end

end LakeCat
