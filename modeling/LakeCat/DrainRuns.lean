import LakeCat.OutboxDelivery

/-!
One run of the drain over an outbox that others write to while it projects. A
run marks its batch by ids. It keeps its promise when each event of the batch
is still pending by then and no other pending event has its id.
-/

namespace LakeCat

open Fallible

/-- The events that a run asks for. -/
def DrainCall.batch (call : DrainCall) : List OutboxEvent :=
  call.read.outboxBatch (some drainSink) call.limit

/-- Each id of the batch picks its own event among the pending ones. -/
def DrainCall.StandsAlone (call : DrainCall) (store : MemoryState) : Prop :=
  ∀ event ∈ call.batch,
    store.outboxEvents.filter (MemoryState.isDeliverable [event.eventId]) = [event]

def OutboxEvent.markIf (event : OutboxEvent) (ids : List String) (clock : Timestamp) :
    OutboxEvent :=
  if MemoryState.isDeliverable ids event then { event with deliveredAt := some clock } else event

namespace MemoryState

theorem isDeliverable_iff (ids : List String) (event : OutboxEvent) :
    isDeliverable ids event = true ↔ event.deliveredAt = none ∧ event.eventId ∈ ids := by
  simp [isDeliverable]

theorem mem_outboxBatch {state : MemoryState} {sink : String} {limit : Nat} {event : OutboxEvent}
    (member : event ∈ state.outboxBatch (some sink) limit) :
    event ∈ state.outboxEvents ∧ event.deliveredAt = none ∧ event.sink = sink := by
  have sorted := List.mem_of_mem_take member
  simp only [List.mem_mergeSort, List.mem_filter, Option.all_some, decide_eq_true_eq,
    Option.isNone_iff_eq_none] at sorted
  exact ⟨sorted.1.1, sorted.1.2, sorted.2⟩

theorem outboxBatch_sorted (state : MemoryState) (sink : Option String) (limit : Nat) :
    (state.outboxBatch sink limit).Pairwise fun earlier later => outboxLe earlier later = true :=
  (List.pairwise_mergeSort outboxLe_trans outboxLe_total _).sublist (List.take_sublist _ _)

/-- A pending event of earlier creation is in the batch too. -/
theorem outboxBatch_earlier {state : MemoryState} {sink : String} {limit : Nat}
    {event other : OutboxEvent} (member : event ∈ state.outboxBatch (some sink) limit)
    (recorded : other ∈ state.outboxEvents) (pending : other.deliveredAt = none)
    (sent : other.sink = sink) (earlier : other.createdAt < event.createdAt) :
    other ∈ state.outboxBatch (some sink) limit := by
  have listed : other ∈ ((state.outboxEvents.filter fun event => event.deliveredAt.isNone).filter
      fun event => (some sink).all (event.sink = ·)).mergeSort outboxLe := by
    simp [List.mem_mergeSort, recorded, pending, sent]
  have sorted := List.pairwise_mergeSort outboxLe_trans outboxLe_total
    ((state.outboxEvents.filter fun event => event.deliveredAt.isNone).filter
      fun event => (some sink).all (event.sink = ·))
  rw [← List.take_append_drop limit (List.mergeSort _ _), List.mem_append] at listed
  rw [← List.take_append_drop limit (List.mergeSort _ _), List.pairwise_append] at sorted
  rcases listed with taken | dropped
  · exact taken
  · have after := sorted.2.2 event member other dropped
    rw [outboxLe_of_later earlier] at after
    cases after

end MemoryState

section
variable [External]

theorem MemoryState.markOutboxDelivered_marks {state marked : MemoryState} {ids : List String}
    {clock : Timestamp} {count : Nat}
    (accepted : state.markOutboxDelivered ids clock = .ok (count, marked)) :
    marked.outboxEvents = state.outboxEvents.map (·.markIf ids clock) ∧
      count = (state.outboxEvents.filter (isDeliverable ids)).length := by
  rw [markOutboxDelivered] at accepted
  split at accepted
  next none =>
    subst none
    obtain ⟨rfl, rfl⟩ := Prod.mk.inj (Except.ok.inj accepted)
    have nothing : isDeliverable [] = fun _ => false := by
      funext event
      simp [isDeliverable]
    simp [nothing, OutboxEvent.markIf]
  next some =>
    simp only [bind_eq_ok, exists_unit, pure_eq, return_eq_ok] at accepted
    obtain ⟨_, _, rfl, rfl⟩ := accepted
    exact ⟨rfl, rfl⟩

/-- An event that a call of the store marks where it stands in the outbox. -/
structure MarkedAt (before after : MemoryState) (clock : Timestamp) (position : Nat)
    (event : OutboxEvent) : Prop where
  stood : before.outboxEvents[position]? = some event
  pending : event.deliveredAt = none
  delivered : after.outboxEvents[position]? = some { event with deliveredAt := some clock }

variable [OutboxEvidence]

/-- What a run that projected its batch has done. -/
structure Projects (call : DrainCall) (defaultWarehouse : WarehouseName)
    (projected : List ProjectedEvent) : Prop where
  batch : projected.map Prod.fst = call.batch
  summarizes : ∀ entry ∈ projected, Summarizes entry.1 entry.2
  valid : ∀ entry ∈ projected, entry.1.validatePending = .ok ()
  distinct : (projected.map fun entry => entry.1.eventId).Nodup
  made : AllProjected defaultWarehouse call.batch (call.projectPending defaultWarehouse []).2

theorem projectPending_ok {call : DrainCall} {defaultWarehouse : WarehouseName}
    {projected : List ProjectedEvent} {emissions : List Emission}
    (done : call.projectPending defaultWarehouse [] = (.ok projected, emissions)) :
    Projects call defaultWarehouse projected := by
  have made : (call.projectPending defaultWarehouse []).2 = emissions := congrArg Prod.snd done
  obtain ⟨events, _, read, rest⟩ := (Projection.bind_eq_ok _ _ _ _ _).mp done
  obtain ⟨loaded, rfl⟩ := (Projection.reading_eq_ok _ _ _ _).mp read
  have pending : call.read.pendingOutboxEvents (some drainSink) call.limit = .ok events := by
    cases fault : call.readFault with
    | none => simpa [orFault, fault] using loaded
    | some error => simp [orFault, fault] at loaded
  simp only [MemoryState.pendingOutboxEvents, bind_eq_ok, exists_unit, checkEach_ok, pure_eq,
    Except.ok.injEq] at pending
  obtain ⟨valid, rfl⟩ := pending
  rw [List.mergeSort_of_pairwise (call.read.outboxBatch_sorted _ _)] at rest
  obtain ⟨_, _, checked, rest⟩ := (Projection.bind_eq_ok _ _ _ _ _).mp rest
  obtain ⟨distinct, rfl⟩ := (Projection.reading_eq_ok _ _ _ _).mp checked
  obtain ⟨receipts, _, projections, returned⟩ := (Projection.bind_eq_ok _ _ _ _ _).mp rest
  obtain ⟨rfl, rfl⟩ := (Projection.pure_eq_ok _ _ _ _).mp returned
  obtain ⟨readable, calls, summarizes⟩ := projectBatch_ok projections
  have entries : (call.batch.zip receipts).map Prod.fst = call.batch :=
    List.map_fst_zip (Nat.le_of_eq summarizes.length_eq)
  have ids : (call.batch.zip receipts).map (fun entry => entry.1.eventId) =
      call.batch.map OutboxEvent.eventId :=
    (List.map_map ..).symm.trans (congrArg (List.map OutboxEvent.eventId) entries)
  refine ⟨entries, ?_, ?_, ids ▸ ((rejectRepeatedIds_ok _ _).mp distinct).1, readable, ?_⟩
  · intro entry member
    exact (List.forall₂_iff_zip.mp summarizes).2 member
  · intro entry member
    exact valid entry.1 (List.of_mem_zip member).1
  · rw [made, calls, List.nil_append]
    exact List.prefix_rfl

namespace Projects

variable {call : DrainCall} {defaultWarehouse : WarehouseName} {projected : List ProjectedEvent}
  {store : MemoryState}

theorem ids (projects : Projects call defaultWarehouse projected) :
    (projected.map fun entry => entry.1.eventId) = call.batch.map OutboxEvent.eventId := by
  rw [← projects.batch, List.map_map]
  rfl

omit [External] [OutboxEvidence] in
/-- Where each event stands alone, an event with an id of the batch is in the batch. -/
theorem mem_batch (alone : call.StandsAlone store) {event : OutboxEvent}
    (stood : event ∈ store.outboxEvents) (pending : event.deliveredAt = none)
    (named : event.eventId ∈ call.batch.map OutboxEvent.eventId) : event ∈ call.batch := by
  obtain ⟨other, member, same⟩ := List.mem_map.mp named
  have found : event ∈ store.outboxEvents.filter (MemoryState.isDeliverable [other.eventId]) := by
    rw [List.mem_filter, MemoryState.isDeliverable_iff]
    exact ⟨stood, pending, by rw [same, List.mem_singleton]⟩
  rw [alone other member, List.mem_singleton] at found
  exact found ▸ member

omit [External] [OutboxEvidence] in
/-- Where each event stands alone, it is still pending in the outbox. -/
theorem stands (alone : call.StandsAlone store) {event : OutboxEvent} (member : event ∈ call.batch) :
    event ∈ store.outboxEvents ∧ event.deliveredAt = none := by
  have found : event ∈ store.outboxEvents.filter (MemoryState.isDeliverable [event.eventId]) := by
    rw [alone event member]
    exact List.mem_singleton_self event
  obtain ⟨stood, due⟩ := List.mem_filter.mp found
  exact ⟨stood, ((MemoryState.isDeliverable_iff _ _).mp due).1⟩

/-- As many events are marked as were projected. -/
theorem count (projects : Projects call defaultWarehouse projected)
    (alone : call.StandsAlone store) :
    (store.outboxEvents.filter (MemoryState.isDeliverable
      (projected.map fun entry => entry.1.eventId))).length = projected.length := by
  have batchDistinct : call.batch.Nodup :=
    List.Nodup.of_map _ (projects.ids ▸ projects.distinct)
  have dueDistinct : (store.outboxEvents.filter (MemoryState.isDeliverable
      (projected.map fun entry => entry.1.eventId))).Nodup := by
    refine List.nodup_iff_sublist.mpr fun event twice => ?_
    obtain ⟨stood, due⟩ := List.mem_filter.mp (twice.subset (List.mem_cons_self ..))
    obtain ⟨pending, named⟩ := (MemoryState.isDeliverable_iff _ _).mp due
    have once := alone event (mem_batch alone stood pending (projects.ids ▸ named))
    have both : List.Sublist [event, event]
        (store.outboxEvents.filter (MemoryState.isDeliverable [event.eventId])) := by
      have found : MemoryState.isDeliverable [event.eventId] event = true :=
        (MemoryState.isDeliverable_iff _ _).mpr ⟨pending, List.mem_singleton_self _⟩
      have kept := (twice.trans List.filter_sublist).filter
        (MemoryState.isDeliverable [event.eventId])
      simpa [List.filter_cons, found] using kept
    have bound := both.length_le
    rw [once] at bound
    simp at bound
  have same : (store.outboxEvents.filter (MemoryState.isDeliverable
      (projected.map fun entry => entry.1.eventId))).Perm call.batch := by
    refine (List.perm_ext_iff_of_nodup dueDistinct batchDistinct).mpr fun event => ?_
    rw [List.mem_filter, MemoryState.isDeliverable_iff, projects.ids]
    constructor
    · rintro ⟨stood, pending, named⟩
      exact mem_batch alone stood pending named
    · intro member
      obtain ⟨stood, pending⟩ := stands alone member
      exact ⟨stood, pending, List.mem_map_of_mem member⟩
  rw [same.length_eq, ← projects.batch, List.length_map]

end Projects

/-- The two ways in which a run leaves the outbox. -/
theorem finish_cases (call : DrainCall) (defaultWarehouse : WarehouseName) (store : MemoryState)
    (markFault : Option LakeCatError) (clock : Timestamp) :
    let finished := call.finish defaultWarehouse store markFault clock
    ((∃ error, finished.1 = .error error) ∧ finished.2 = store) ∨
      ∃ projected, Projects call defaultWarehouse projected ∧
        finished.2.outboxEvents = store.outboxEvents.map
          (·.markIf (projected.map fun entry => entry.1.eventId) clock) ∧
        finished.1 = acknowledge projected (store.outboxEvents.filter
          (MemoryState.isDeliverable (projected.map fun entry => entry.1.eventId))).length := by
  rcases outcome : call.projectPending defaultWarehouse [] with ⟨error | projected, emissions⟩
  · left
    simp only [DrainCall.finish, outcome]
    exact ⟨⟨error, rfl⟩, trivial⟩
  · cases marking : orFault markFault
      (store.markOutboxDelivered (projected.map fun entry => entry.1.eventId) clock) with
    | error error =>
        left
        simp only [DrainCall.finish, outcome, acknowledgeBatch, marking]
        exact ⟨⟨error, rfl⟩, trivial⟩
    | ok answer =>
        right
        obtain ⟨count, marked⟩ := answer
        have accepted : store.markOutboxDelivered (projected.map fun entry => entry.1.eventId)
            clock = .ok (count, marked) := by
          cases fault : markFault with
          | none => simpa [orFault, fault] using marking
          | some error => simp [orFault, fault] at marking
        obtain ⟨left, counted⟩ := MemoryState.markOutboxDelivered_marks accepted
        refine ⟨projected, projectPending_ok outcome, ?_, ?_⟩
        · simp only [DrainCall.finish, outcome, acknowledgeBatch, marking]
          exact left
        · simp only [DrainCall.finish, outcome, acknowledgeBatch, marking, counted]

/-- A run marks a pending event or leaves it, and it never touches a delivered one. -/
theorem finish_kept (call : DrainCall) (defaultWarehouse : WarehouseName) (store : MemoryState)
    (markFault : Option LakeCatError) (clock : Timestamp) {position : Nat} {event : OutboxEvent}
    (stood : store.outboxEvents[position]? = some event) :
    (call.finish defaultWarehouse store markFault clock).2.outboxEvents[position]? = some event ∨
      MarkedAt store (call.finish defaultWarehouse store markFault clock).2 clock position
        event := by
  rcases finish_cases call defaultWarehouse store markFault clock with
    ⟨_, unchanged⟩ | ⟨projected, _, left, _⟩
  · left
    rw [unchanged]
    exact stood
  · have here : (call.finish defaultWarehouse store markFault clock).2.outboxEvents[position]? =
        some (event.markIf (projected.map fun entry => entry.1.eventId) clock) := by
      rw [left, List.getElem?_map, stood, Option.map_some]
    by_cases due : MemoryState.isDeliverable (projected.map fun entry => entry.1.eventId) event
    · rw [OutboxEvent.markIf, if_pos due] at here
      exact .inr ⟨stood, ((MemoryState.isDeliverable_iff _ _).mp due).1, here⟩
    · rw [OutboxEvent.markIf, if_neg due] at here
      exact .inl here

/-- What stands in the outbox after a run stood there before it, marked or not. -/
theorem finish_stands (call : DrainCall) (defaultWarehouse : WarehouseName) (store : MemoryState)
    (markFault : Option LakeCatError) (clock : Timestamp) {position : Nat} {later : OutboxEvent}
    (stands : (call.finish defaultWarehouse store markFault clock).2.outboxEvents[position]? =
      some later) :
    ∃ event, store.outboxEvents[position]? = some event ∧ (later = event ∨
      MarkedAt store (call.finish defaultWarehouse store markFault clock).2 clock position event ∧
        later = { event with deliveredAt := some clock }) := by
  have length : (call.finish defaultWarehouse store markFault clock).2.outboxEvents.length =
      store.outboxEvents.length := by
    rcases finish_cases call defaultWarehouse store markFault clock with
      ⟨_, same⟩ | ⟨_, _, marked, _⟩
    · rw [same]
    · rw [marked, List.length_map]
  have bound := length ▸ (List.getElem?_eq_some_iff.mp stands).1
  refine ⟨_, List.getElem?_eq_getElem bound, ?_⟩
  rcases finish_kept call defaultWarehouse store markFault clock (List.getElem?_eq_getElem bound)
    with kept | marked
  · exact .inl (Option.some.inj (stands.symm.trans kept))
  · exact .inr ⟨marked, Option.some.inj (stands.symm.trans marked.delivered)⟩

/-- All the projections of an event and of the events before it in the batch were made. -/
def ProjectedInTurn (call : DrainCall) (defaultWarehouse : WarehouseName) (event : OutboxEvent) :
    Prop :=
  ∃ earlier later, call.batch = earlier ++ event :: later ∧
    AllProjected defaultWarehouse (earlier ++ [event])
      (call.projectPending defaultWarehouse []).2

/-- What the drain promises of a run that finishes on this store. -/
structure DeliversOrRetries (call : DrainCall) (defaultWarehouse : WarehouseName)
    (store : MemoryState) (markFault : Option LakeCatError) (clock : Timestamp) : Prop where
  kept : ∀ position event, store.outboxEvents[position]? = some event →
    (call.finish defaultWarehouse store markFault clock).2.outboxEvents[position]? = some event ∨
      MarkedAt store (call.finish defaultWarehouse store markFault clock).2 clock position event
  projected : ∀ position event,
    MarkedAt store (call.finish defaultWarehouse store markFault clock).2 clock position event →
      ProjectedInTurn call defaultWarehouse event
  ordered : ∀ position event,
    MarkedAt store (call.finish defaultWarehouse store markFault clock).2 clock position event →
      ∀ other ∈ call.read.outboxEvents, other.deliveredAt = none → other.sink = drainSink →
        other.createdAt < event.createdAt → ∃ place,
          MarkedAt store (call.finish defaultWarehouse store markFault clock).2 clock place other
  completed : ∀ response,
    (call.finish defaultWarehouse store markFault clock).1 = .ok response →
      ∀ event ∈ call.batch, ∃ place,
        MarkedAt store (call.finish defaultWarehouse store markFault clock).2 clock place event
  retried : ∀ error, (call.finish defaultWarehouse store markFault clock).1 = .error error →
    (call.finish defaultWarehouse store markFault clock).2 = store

theorem finish_deliversOrRetries (call : DrainCall) (defaultWarehouse : WarehouseName)
    (store : MemoryState) (markFault : Option LakeCatError) (clock : Timestamp)
    (alone : call.StandsAlone store) :
    DeliversOrRetries call defaultWarehouse store markFault clock := by
  rcases finish_cases call defaultWarehouse store markFault clock with
    ⟨⟨error, failed⟩, unchanged⟩ | ⟨projected, projects, left, result⟩
  · have unmarked : ∀ position event, ¬MarkedAt store
        (call.finish defaultWarehouse store markFault clock).2 clock position event := by
      intro position event marked
      have delivered := marked.delivered
      rw [unchanged, marked.stood] at delivered
      have same := congrArg OutboxEvent.deliveredAt (Option.some.inj delivered)
      rw [marked.pending] at same
      cases same
    refine ⟨fun _ _ => finish_kept call defaultWarehouse store markFault clock, ?_, ?_, ?_,
      fun _ _ => unchanged⟩
    · exact fun position event marked => absurd marked (unmarked position event)
    · exact fun position event marked => absurd marked (unmarked position event)
    · intro response answered
      rw [failed] at answered
      cases answered
  · have listed : ∀ position event, MarkedAt store
        (call.finish defaultWarehouse store markFault clock).2 clock position event →
          event ∈ call.batch := by
      intro position event marked
      refine Projects.mem_batch alone (List.mem_of_getElem? marked.stood) marked.pending ?_
      have same := marked.delivered
      rw [left, List.getElem?_map, marked.stood, Option.map_some] at same
      by_cases due : MemoryState.isDeliverable (projected.map fun entry => entry.1.eventId) event
      · exact projects.ids ▸ ((MemoryState.isDeliverable_iff _ _).mp due).2
      · rw [OutboxEvent.markIf, if_neg due] at same
        have pending := marked.pending
        rw [Option.some.inj same] at pending
        cases pending
    have marks : ∀ event ∈ call.batch, ∃ place, MarkedAt store
        (call.finish defaultWarehouse store markFault clock).2 clock place event := by
      intro event member
      obtain ⟨stood, pending⟩ := Projects.stands alone member
      obtain ⟨place, stands⟩ := List.mem_iff_getElem?.mp stood
      have due : MemoryState.isDeliverable (projected.map fun entry => entry.1.eventId) event :=
        (MemoryState.isDeliverable_iff _ _).mpr
          ⟨pending, projects.ids ▸ List.mem_map_of_mem member⟩
      refine ⟨place, stands, pending, ?_⟩
      rw [left, List.getElem?_map, stands, Option.map_some, OutboxEvent.markIf, if_pos due]
    refine ⟨fun _ _ => finish_kept call defaultWarehouse store markFault clock, ?_, ?_, fun _ _ => marks, ?_⟩
    · intro position event marked
      obtain ⟨earlier, later, batch⟩ := List.append_of_mem (listed position event marked)
      refine ⟨earlier, later, batch, projects.made.initial ⟨later, ?_⟩⟩
      rw [batch, List.append_assoc, List.singleton_append]
    · intro position event marked other recorded pending sent created
      exact marks other (MemoryState.outboxBatch_earlier (listed position event marked) recorded
        pending sent created)
    · intro error failed
      rw [result, projects.count alone, acknowledge_ok projected projects.summarizes
        projects.valid projects.distinct] at failed
      cases failed

end

end LakeCat
