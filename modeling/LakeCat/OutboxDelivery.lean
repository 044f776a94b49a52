import LakeCat.EventIds
import LakeCat.OutboxDrain
import LakeCat.Transition

/-!
What a run of the drain may do to the outbox. Events are marked by their ids,
so the runs keep their promise as long as the ids of a batch are the ids of its
own events only.
-/

namespace LakeCat

open Fallible Transition

namespace Projection

theorem bind_eq_ok (first : Projection α) (next : α → Projection β) (made after : List Emission)
    (result : β) :
    (first >>= next) made = (.ok result, after) ↔
      ∃ value middle, first made = (.ok value, middle) ∧ next value middle = (.ok result, after) := by
  dsimp only [bind]
  rcases first made with ⟨value | error, middle⟩ <;> simp

theorem reading_bind (read : LakeCatResult α) (next : α → Projection β) (made : List Emission) :
    (reading read >>= next) made =
      match read with
      | .ok value => next value made
      | .error error => (.error error, made) := by
  cases read <;> rfl

theorem pure_eq_ok (value result : α) (made after : List Emission) :
    (pure value : Projection α) made = (.ok result, after) ↔ value = result ∧ made = after := by
  change ((Except.ok value, made) : LakeCatResult α × List Emission) = _ ↔ _
  simp

theorem reading_eq_ok (read : LakeCatResult α) (result : α) (made after : List Emission) :
    reading read made = (.ok result, after) ↔ read = .ok result ∧ made = after := by
  simp [reading]

end Projection

open Projection (bind_eq_ok pure_eq_ok reading_eq_ok)

instance : Std.TransCmp outboxOrder := inferInstanceAs (Std.TransCmp (compareLex _ _))

theorem outboxLe_trans (first second third : OutboxEvent) (lower : outboxLe first second = true)
    (upper : outboxLe second third = true) : outboxLe first third = true :=
  Std.TransCmp.isLE_trans lower upper

theorem outboxLe_total (left right : OutboxEvent) :
    (outboxLe left right || outboxLe right left) = true := by
  have swap : outboxOrder right left = (outboxOrder left right).swap := Std.OrientedCmp.eq_swap
  rw [outboxLe, outboxLe, swap]
  cases outboxOrder left right <;> rfl

theorem outboxLe_of_earlier {earlier later : OutboxEvent}
    (created : earlier.createdAt < later.createdAt) : outboxLe earlier later = true := by
  have order : compare earlier.createdAt later.createdAt = .lt :=
    Std.compare_eq_lt.mpr created
  simp [outboxLe, outboxOrder, compareLex, compareOn, order]

/-- An event is not sorted before one of earlier creation. -/
theorem outboxLe_of_later {earlier later : OutboxEvent}
    (created : earlier.createdAt < later.createdAt) : outboxLe later earlier = false := by
  have order : compare later.createdAt earlier.createdAt = .gt :=
    Std.compare_eq_gt.mpr created
  simp [outboxLe, outboxOrder, compareLex, compareOn, order]

namespace Sinks

theorem emit_ok {sinks : Sinks} {receipt result : OutboxProjectionReceipt} {emission : Emission}
    {made after : List Emission} (emitted : sinks.emit receipt emission made = (.ok result, after)) :
    after = made ++ [emission] := by
  cases emission with
  | graph event =>
      simp only [emit] at emitted
      split at emitted <;> simp_all
  | lineage event =>
      simp only [emit] at emitted
      split at emitted <;> simp_all

theorem emitAll_ok {sinks : Sinks} {receipt result : OutboxProjectionReceipt}
    {calls made after : List Emission}
    (emitted : sinks.emitAll receipt calls made = (.ok result, after)) : after = made ++ calls := by
  induction calls generalizing receipt made with
  | nil =>
      obtain ⟨_, same⟩ := (pure_eq_ok _ _ _ _).mp emitted
      simp [same]
  | cons emission rest ih =>
      obtain ⟨next, middle, first, others⟩ := (bind_eq_ok _ _ _ _ _).mp emitted
      rw [ih others, emit_ok first, List.append_assoc, List.singleton_append]

end Sinks

section
variable [External]

/-- All the calls that the events make, in order, and nothing left unread in their documents. -/
structure AllProjected (defaultWarehouse : WarehouseName) (events : List OutboxEvent)
    (emissions : List Emission) : Prop where
  readable : ∀ event ∈ events, (event.projectOutboxEvent defaultWarehouse []).1 = .ok ()
  made : (events.flatMap fun event => (event.projectOutboxEvent defaultWarehouse []).2) <+:
    emissions

theorem AllProjected.initial {defaultWarehouse : WarehouseName} {events first : List OutboxEvent}
    {emissions : List Emission} (projected : AllProjected defaultWarehouse events emissions)
    (part : first <+: events) : AllProjected defaultWarehouse first emissions := by
  obtain ⟨rest, rfl⟩ := part
  refine ⟨fun event member => projected.readable event (List.mem_append_left rest member), ?_⟩
  have made := projected.made
  rw [List.flatMap_append] at made
  exact (List.prefix_append _ _).trans made

theorem OutboxEvent.project_ok {event : OutboxEvent} {sinks : Sinks}
    {defaultWarehouse : WarehouseName} {made after : List Emission}
    {receipt : OutboxProjectionReceipt}
    (projected : event.project sinks defaultWarehouse made = (.ok receipt, after)) :
    (event.projectOutboxEvent defaultWarehouse []).1 = .ok () ∧
      after = made ++ (event.projectOutboxEvent defaultWarehouse []).2 := by
  obtain ⟨_, middle, emitted, rest⟩ := (bind_eq_ok _ _ _ _ _).mp projected
  obtain ⟨_, _, read, returned⟩ := (bind_eq_ok _ _ _ _ _).mp rest
  obtain ⟨read, same⟩ := (reading_eq_ok _ _ _ _).mp read
  obtain ⟨_, last⟩ := (pure_eq_ok _ _ _ _).mp returned
  exact ⟨read, by rw [← last, ← same, Sinks.emitAll_ok emitted]⟩

/-- The summary of an event repeats its id, its type and the counts of its receipt. -/
def Summarizes (event : OutboxEvent)
    (entry : OutboxProjectionReceipt × LineageDrainEventSummary) : Prop :=
  entry.2 = ⟨event.eventId, event.eventType, entry.1.graphEvents, entry.1.lineageEvents⟩

variable [OutboxEvidence]

theorem projectOne_ok {sinks : Sinks} {defaultWarehouse : WarehouseName} {event : OutboxEvent}
    {made after : List Emission} {entry : OutboxProjectionReceipt × LineageDrainEventSummary}
    (projected : projectOne sinks defaultWarehouse event made = (.ok entry, after)) :
    (event.projectOutboxEvent defaultWarehouse []).1 = .ok () ∧
      after = made ++ (event.projectOutboxEvent defaultWarehouse []).2 ∧
      Summarizes event entry := by
  obtain ⟨_, _, validated, rest⟩ := (bind_eq_ok _ _ _ _ _).mp projected
  obtain ⟨_, rfl⟩ := (reading_eq_ok _ _ _ _).mp validated
  obtain ⟨receipt, _, emitted, rest⟩ := (bind_eq_ok _ _ _ _ _).mp rest
  obtain ⟨_, _, checked, rest⟩ := (bind_eq_ok _ _ _ _ _).mp rest
  obtain ⟨_, rfl⟩ := (reading_eq_ok _ _ _ _).mp checked
  obtain ⟨summary, _, last, returned⟩ := (bind_eq_ok _ _ _ _ _).mp rest
  obtain ⟨summarized, rfl⟩ := (reading_eq_ok _ _ _ _).mp last
  obtain ⟨rfl, rfl⟩ := (pure_eq_ok _ _ _ _).mp returned
  obtain ⟨readable, calls⟩ := OutboxEvent.project_ok emitted
  refine ⟨readable, calls, ?_⟩
  rw [lineageDrainEventSummary, Fallible.bind_eq_ok] at summarized
  obtain ⟨_, _, same⟩ := summarized
  exact (Except.ok.inj same).symm

theorem projectBatch_ok {sinks : Sinks} {defaultWarehouse : WarehouseName}
    {events : List OutboxEvent} {made after : List Emission}
    {entries : List (OutboxProjectionReceipt × LineageDrainEventSummary)}
    (projected : projectBatch sinks defaultWarehouse events made = (.ok entries, after)) :
    (∀ event ∈ events, (event.projectOutboxEvent defaultWarehouse []).1 = .ok ()) ∧
      after = made ++
        (events.flatMap fun event => (event.projectOutboxEvent defaultWarehouse []).2) ∧
      List.Forall₂ Summarizes events entries := by
  induction events generalizing made entries with
  | nil =>
      obtain ⟨rfl, rfl⟩ := (pure_eq_ok _ _ _ _).mp projected
      simp
  | cons event rest ih =>
      obtain ⟨first, _, one, others⟩ := (bind_eq_ok _ _ _ _ _).mp projected
      obtain ⟨later, _, batch, returned⟩ := (bind_eq_ok _ _ _ _ _).mp others
      obtain ⟨rfl, rfl⟩ := (pure_eq_ok _ _ _ _).mp returned
      obtain ⟨readable, calls, summarizes⟩ := projectOne_ok one
      obtain ⟨restReadable, restCalls, restSummarizes⟩ := ih batch
      refine ⟨?_, ?_, .cons summarizes restSummarizes⟩
      · simpa [readable] using restReadable
      · rw [restCalls, calls, List.flatMap_cons, List.append_assoc]

end

theorem rejectRepeatedIds_ok [External] (seen : List String) (events : List OutboxEvent) :
    rejectRepeatedIds seen events = .ok () ↔
      (events.map OutboxEvent.eventId).Nodup ∧ ∀ event ∈ events, event.eventId ∉ seen := by
  induction events generalizing seen with
  | nil => simp [rejectRepeatedIds]
  | cons event rest ih =>
      rw [rejectRepeatedIds, bind_unit_eq_ok, rejectIf_ok, ih]
      simp only [List.mem_cons, not_or, List.map_cons, List.nodup_cons, List.mem_map, not_exists,
        not_and, forall_eq_or_imp]
      constructor
      · rintro ⟨fresh, distinct, others⟩
        exact ⟨⟨fun other member same => (others other member).1 same, distinct⟩, fresh,
          fun other member => (others other member).2⟩
      · rintro ⟨⟨apart, distinct⟩, fresh, others⟩
        exact ⟨fresh, distinct, fun other member => ⟨apart other member, others other member⟩⟩

theorem validateSummaryIds_ok (index : Nat) (seen : List String)
    (summaries : List LineageDrainEventSummary)
    (named : ∀ summary ∈ summaries, isBlank summary.eventId = false)
    (fresh : ∀ summary ∈ summaries, summary.eventId ∉ seen)
    (distinct : (summaries.map LineageDrainEventSummary.eventId).Nodup) :
    validateSummaryIds index seen summaries = .ok () := by
  induction summaries generalizing index seen with
  | nil => rfl
  | cons summary rest ih =>
      rw [List.map_cons, List.nodup_cons, List.mem_map] at distinct
      have here : isBlank summary.eventId = false := named summary (by simp)
      have unseen : summary.eventId ∉ seen := fresh summary (by simp)
      rw [validateSummaryIds, rejectIf_neg _ (by simp [here]), ok_bind, rejectIf_neg _ unseen,
        ok_bind]
      refine ih (index + 1) _ (fun other member => named other (by simp [member])) ?_ distinct.2
      intro other member repeated
      rcases List.mem_cons.mp repeated with same | before
      · exact distinct.1 ⟨other, member, same⟩
      · exact fresh other (by simp [member]) before

theorem validateSummaryTypes_ok (index : Nat) (entries : List (String × LineageDrainEventSummary))
    (same : ∀ entry ∈ entries, entry.1 = entry.2.eventType) :
    validateSummaryTypes index entries = .ok () := by
  induction entries generalizing index with
  | nil => rfl
  | cons entry rest ih =>
      obtain ⟨eventType, summary⟩ := entry
      have here : eventType = summary.eventType := same (eventType, summary) (by simp)
      rw [validateSummaryTypes, rejectIf_neg _ (by simp [here]), ok_bind]
      exact ih (index + 1) fun other member => same other (by simp [member])

section
variable [External]

theorem contentHash_notBlank (text : String) : isBlank (contentHashBytes text) = false := by
  simp [isBlank, contentHashBytes, isWhitespace]

theorem validatePending_id {event : OutboxEvent} (valid : event.validatePending = .ok ()) :
    isBlank event.eventId = false := by
  simp only [OutboxEvent.validatePending, Fallible.bind_eq_ok, exists_unit, rejectIf_ok, okOr_ok,
    not_not] at valid
  obtain ⟨_, _, _, _, _, _, _, hashed⟩ := valid
  rw [hashed]
  exact contentHash_notBlank _

/-- A batch whose events were all marked is acknowledged. -/
theorem acknowledge_ok (projected : List ProjectedEvent)
    (summarizes : ∀ entry ∈ projected, Summarizes entry.1 entry.2)
    (valid : ∀ entry ∈ projected, entry.1.validatePending = .ok ())
    (distinct : (projected.map fun entry => entry.1.eventId).Nodup) :
    acknowledge projected projected.length = .ok (drainResponse projected projected.length) := by
  have ids : (projected.map fun entry => entry.2.2).map LineageDrainEventSummary.eventId =
      projected.map fun entry => entry.1.eventId := by
    rw [List.map_map]
    refine List.map_congr_left fun entry member => ?_
    rw [Function.comp_apply, summarizes entry member]
  have graphEvents : (projected.map fun entry => entry.2.2).map
      LineageDrainEventSummary.graphEvents = projected.map fun entry => entry.2.1.graphEvents := by
    rw [List.map_map]
    refine List.map_congr_left fun entry member => ?_
    rw [Function.comp_apply, summarizes entry member]
  have lineageEvents : (projected.map fun entry => entry.2.2).map
      LineageDrainEventSummary.lineageEvents =
        projected.map fun entry => entry.2.1.lineageEvents := by
    rw [List.map_map]
    refine List.map_congr_left fun entry member => ?_
    rw [Function.comp_apply, summarizes entry member]
  have named : ∀ summary ∈ projected.map fun entry => entry.2.2,
      isBlank summary.eventId = false := by
    intro summary member
    obtain ⟨entry, listed, rfl⟩ := List.mem_map.mp member
    rw [summarizes entry listed]
    exact validatePending_id (valid entry listed)
  have types : ∀ entry ∈ (projected.map fun entry => entry.1.eventType).zip
      (projected.map fun entry => entry.2.2), entry.1 = entry.2.eventType := by
    intro entry member
    rw [List.zip_map', List.mem_map] at member
    obtain ⟨source, listed, rfl⟩ := member
    rw [summarizes source listed]
  have manifest : validateLineageDrainResponseManifest
      (drainResponse projected projected.length) = .ok () := by
    simp only [validateLineageDrainResponseManifest, drainResponse, List.length_map, ne_eq,
      not_true, rejectIf_neg _ not_false, ok_bind, graphEvents, lineageEvents]
    rw [validateSummaryIds_ok 0 [] _ named (by simp) (ids ▸ distinct), ok_bind,
      validateSummaryTypes_ok 0 _ types, ok_bind]
  rw [acknowledge, rejectIf_neg _ (by simp), ok_bind, manifest, ok_bind, pure_eq]

end

end LakeCat
