import LakeCat.MemorySteps

/-!
The events of some types among those that the memory store has recorded. A
call that writes no event of these types leaves them as they are, and a
delivery changes nothing about an outbox event but when it was delivered.
-/

namespace LakeCat

/-- The type of the event that a call writes by itself. -/
def MemoryOp.eventKind : MemoryOp → Option String
  | .renameTable .. => some "table.renamed"
  | .commitTable .. => some "table.commit"
  | .softDeleteTable .. => some "table.deleted"
  | .restoreTable .. => some "table.restored"
  | .publishModel .. => some "model.published"
  | .recordAuditEvent event => some event.eventType
  | _ => none

def OutboxEvent.undelivered (event : OutboxEvent) : OutboxEvent :=
  { event with deliveredAt := none }

namespace MemoryState

def auditOfKind (state : MemoryState) (kinds : String → Bool) : List CatalogAuditEvent :=
  state.auditEvents.filter fun event => kinds event.eventType

def outboxOfKind (state : MemoryState) (kinds : String → Bool) : List OutboxEvent :=
  (state.outboxEvents.filter fun event => kinds event.eventType).map OutboxEvent.undelivered

variable {state next : MemoryState} {event : CatalogAuditEvent} {outbox : OutboxEvent}
  {kinds : String → Bool}

theorem auditOfKind_append (written : next.auditEvents = state.auditEvents ++ [event]) :
    next.auditOfKind kinds =
      state.auditOfKind kinds ++ if kinds event.eventType then [event] else [] := by
  rw [auditOfKind, written, List.filter_append, auditOfKind]
  by_cases kind : kinds event.eventType = true <;> simp [kind]

theorem outboxOfKind_append (written : next.outboxEvents = state.outboxEvents ++ [outbox]) :
    next.outboxOfKind kinds =
      state.outboxOfKind kinds ++ if kinds outbox.eventType then [outbox.undelivered] else [] := by
  rw [outboxOfKind, written, List.filter_append, List.map_append, outboxOfKind]
  by_cases kind : kinds outbox.eventType = true <;> simp [kind]

theorem delivered_outboxOfKind (state : MemoryState) (eventIds : List String) (now : Timestamp) :
    (state.delivered eventIds now).outboxOfKind kinds = state.outboxOfKind kinds := by
  rw [outboxOfKind, outboxOfKind, delivered, List.filter_map, List.map_map]
  have kept : (fun event : OutboxEvent => kinds event.eventType) ∘
      (fun event => if isDeliverable eventIds event then { event with deliveredAt := some now }
        else event) = fun event => kinds event.eventType := by
    funext event
    rw [Function.comp_apply]
    split <;> rfl
  rw [kept]
  refine List.map_congr_left fun event _ => ?_
  rw [Function.comp_apply]
  split <;> rfl

variable [External]

theorem step_eventsOfKind (op : MemoryOp)
    (other : ∀ kind ∈ op.eventKind, kinds kind = false) :
    (state.step op).auditOfKind kinds = state.auditOfKind kinds ∧
      (state.step op).outboxOfKind kinds = state.outboxOfKind kinds := by
  have unlisted {next : MemoryState} {event : CatalogAuditEvent} {outbox : OutboxEvent}
      (kind : String) (absent : kinds kind = false)
      (audit : next.auditEvents = state.auditEvents ++ [event])
      (written : next.outboxEvents = state.outboxEvents ++ [outbox])
      (typed : event.eventType = kind ∧ outbox.eventType = kind) :
      next.auditOfKind kinds = state.auditOfKind kinds ∧
        next.outboxOfKind kinds = state.outboxOfKind kinds := by
    rw [auditOfKind_append audit, outboxOfKind_append written, typed.1, typed.2, absent]
    exact ⟨List.append_nil _, List.append_nil _⟩
  have successor := step_successor state op
  generalize state.step op = next at successor
  cases successor with
  | tableRenamed source destination principal receipt now table =>
      exact unlisted "table.renamed" (other _ rfl) rfl rfl ⟨rfl, rfl⟩
  | tableCommitted ident commit now current =>
      exact unlisted "table.commit" (other _ rfl) rfl rfl ⟨rfl, rfl⟩
  | tableDeleted ident table principal receipt now =>
      exact unlisted "table.deleted" (other _ rfl) rfl rfl ⟨rfl, rfl⟩
  | tableRestored ident table principal receipt now registered found =>
      exact unlisted "table.restored" (other _ rfl) rfl rfl ⟨rfl, rfl⟩
  | modelPublished publication expected now =>
      exact unlisted "model.published" (other _ rfl) rfl rfl ⟨rfl, rfl⟩
  | auditRecorded event recordable =>
      exact unlisted event.eventType (other _ rfl) rfl rfl ⟨rfl, rfl⟩
  | outboxDelivered eventIds now => exact ⟨rfl, delivered_outboxOfKind state eventIds now⟩
  | _ => exact ⟨rfl, rfl⟩

end MemoryState

end LakeCat
