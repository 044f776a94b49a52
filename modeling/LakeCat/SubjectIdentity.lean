import LakeCat.NamespaceSpelling
import LakeCat.RecordedObjects
import LakeCat.RetriedProjections

/-!
The subjects of live graph events. A subject tells the objects apart that are
written apart; two namespaces of one dotted path, and two principals of one
subject, share theirs.
-/

namespace LakeCat

open Fallible

/-- No two objects are written alike unless they are the same. -/
def GraphObject.ToldApart (one other : GraphObject) : Prop :=
  one.asWritten = other.asWritten → one = other

theorem Tagged.subject {event : OutboxEvent} {graphEvent : GraphEvent} {tag : GraphTag}
    (tagged : Tagged event graphEvent tag) : graphEvent.subject = tag.2.subject := by
  obtain ⟨action, properties, rfl⟩ := tagged.about
  exact tag.2.graphEvent_subject action properties

section
variable [External]

/-- The names of the table that the document names are valid ones. -/
def OutboxEvent.TableMade (event : OutboxEvent) : Prop :=
  ∀ ident, event.outboxTable = .ok (some ident) → ident.Made

/-- What the graph events of a recorded event are about, one by one. -/
structure OutboxEvent.About (event : OutboxEvent) (defaultWarehouse : WarehouseName)
    (tags : List GraphTag) : Prop where
  shown : event.ProjectedTags defaultWarehouse tags
  tagged : List.Forall₂ (Tagged event) (graphEvents (event.calls defaultWarehouse)) tags

section Made

variable {event : OutboxEvent} {defaultWarehouse : WarehouseName}

omit [External] in
theorem warehouseNamed_made {named : Option Json} {owner : WarehouseName}
    (made : defaultWarehouse.Made)
    (read : OutboxEvent.warehouseNamed named defaultWarehouse = .ok owner) : owner.Made := by
  rw [OutboxEvent.warehouseNamed] at read
  split at read
  · rwa [← Except.ok.inj read]
  next value _ => exact ⟨value, read⟩

theorem namespaceFromValue_made {components shape : String} {value : Json} {ns : Namespace}
    (read : event.namespaceFromValue components shape value = .ok ns) : ns.Made := by
  cases value with
  | arr parts =>
      simp only [OutboxEvent.namespaceFromValue, bind_eq_ok] at read
      obtain ⟨texts, _, built⟩ := read
      exact ⟨texts, built⟩
  | str path => exact ⟨_, read⟩
  | _ => cases read

theorem OutboxEvent.Names.made {object : GraphObject} (named : event.Names defaultWarehouse object)
    (made : defaultWarehouse.Made) (tableMade : event.TableMade) : object.Made := by
  cases named with
  | warehouse read => exact warehouseNamed_made made read
  | ns read =>
      simp only [OutboxEvent.outboxNamespace, bind_eq_ok, pure_eq, Except.ok.injEq,
        Prod.mk.injEq] at read
      obtain ⟨_, owned, _, _, _, path, rfl, rfl⟩ := read
      exact ⟨warehouseNamed_made made owned, namespaceFromValue_made path⟩
  | view read =>
      simp only [OutboxEvent.outboxView, bind_eq_ok, pure_eq, Except.ok.injEq,
        Prod.mk.injEq] at read
      obtain ⟨_, _, _, owned, _, _, _, path, _, _, rfl, rfl, rfl⟩ := read
      exact ⟨warehouseNamed_made made owned, namespaceFromValue_made path⟩
  | policy read =>
      simp only [OutboxEvent.outboxPolicyBinding, bind_eq_ok, pure_eq, Except.ok.injEq,
        Prod.mk.injEq] at read
      obtain ⟨_, _, _, owned, _, _, rfl, rfl⟩ := read
      exact warehouseNamed_made made owned
  | model owned _ => exact warehouseNamed_made made owned
  | project _ => trivial
  | server _ => trivial
  | storageProfile read =>
      simp only [OutboxEvent.outboxStorageProfile, bind_eq_ok, pure_eq, Except.ok.injEq,
        Prod.mk.injEq] at read
      obtain ⟨_, _, _, owned, _, _, rfl, rfl⟩ := read
      exact warehouseNamed_made made owned
  | table read => exact tableMade _ read

theorem OutboxEvent.MainTags.made {tags : List GraphTag}
    (main : event.MainTags defaultWarehouse tags) (made : defaultWarehouse.Made)
    (tableMade : event.TableMade) : ∀ tag ∈ tags, tag.2.Made := by
  intro tag member
  cases main with
  | silent _ => cases member
  | whole _ _ named =>
      rw [List.mem_singleton.mp member]
      exact named.made made tableMade
  | profile _ read =>
      rw [List.mem_singleton.mp member]
      rw [OutboxEvent.outboxOptionalStorageProfile] at read
      split at read
      · cases read
      · simp only [bind_eq_ok, pure_eq, Except.ok.injEq, Option.some.injEq,
          Prod.mk.injEq] at read
        obtain ⟨_, owned, rfl, rfl⟩ := read
        exact warehouseNamed_made made owned
  | history _ found _ =>
      obtain ⟨_, _, rfl⟩ := List.mem_map.mp member
      exact tableMade _ found
  | @table ident _ found =>
      have valid : ident.Made := tableMade ident found
      rcases List.mem_append.mp member with early | committed
      · rcases List.mem_append.mp early with shown | scan
        · rcases List.mem_cons.mp shown with rfl | shown
          · exact valid
          · rcases List.mem_append.mp shown with column | snapshot
            · obtain ⟨_, _, rfl⟩ := List.mem_map.mp column
              exact valid
            · obtain ⟨_, _, rfl⟩ := List.mem_map.mp snapshot
              exact valid
        · rw [OutboxEvent.scanTags] at scan
          split at scan
          · rw [List.mem_singleton.mp scan]
            trivial
          · cases scan
      · rw [OutboxEvent.commitTags] at committed
        split at committed
        · split at committed
          · rw [List.mem_singleton.mp committed]
            exact valid
          · cases committed
        · cases committed

theorem OutboxEvent.ProjectedTags.made {tags : List GraphTag}
    (shown : event.ProjectedTags defaultWarehouse tags) (made : defaultWarehouse.Made)
    (tableMade : event.TableMade) : ∀ tag ∈ tags, tag.2.Made := by
  cases shown with
  | unread _ => exact nofun
  | read _ _ main =>
      intro tag member
      rcases List.mem_append.mp member with who | what
      · rw [principalTags] at who
        split at who
        · cases who
        · rw [List.mem_singleton.mp who]
          trivial
      · exact main.made made tableMade tag what

end Made

/-- Live subjects identify the objects that are told apart, and each is the one acted on. -/
theorem OutboxEvent.liveSubjects_identify {one other : OutboxEvent}
    {defaultWarehouse otherWarehouse : WarehouseName} (made : defaultWarehouse.Made)
    (otherMade : otherWarehouse.Made) (tableMade : one.TableMade)
    (otherTableMade : other.TableMade) :
    ∃ tags others, one.About defaultWarehouse tags ∧ other.About otherWarehouse others ∧
      (∀ shown ∈ (graphEvents (one.calls defaultWarehouse)).zip tags,
        ∀ twin ∈ (graphEvents (other.calls otherWarehouse)).zip others,
          (shown.1.subject = twin.1.subject → shown.2.2 = twin.2.2) ↔
            shown.2.2.ToldApart twin.2.2) ∧
      ∀ principal object, Recorded principal object one →
        ∀ tag ∈ tags, ActedOn one principal object tag.2 := by
  obtain ⟨tags, shown, tagged⟩ := one.calls_tags defaultWarehouse
  obtain ⟨others, otherShown, otherTagged⟩ := other.calls_tags otherWarehouse
  refine ⟨tags, others, ⟨shown, tagged⟩, ⟨otherShown, otherTagged⟩, ?_, ?_⟩
  · intro pair among twin otherAmong
    have valid := shown.made made tableMade pair.2 (List.of_mem_zip among).2
    have otherValid := otherShown.made otherMade otherTableMade twin.2
      (List.of_mem_zip otherAmong).2
    have subject := (List.forall₂_zip tagged among).subject
    have otherSubject := (List.forall₂_zip otherTagged otherAmong).subject
    rw [subject, otherSubject, GraphObject.subject_eq_iff valid otherValid,
      GraphObject.ToldApart]
  · intro principal object recorded
    exact recorded.presents.actedOn shown

end

section Samples

@[reducible] def datedExternal : External :=
  { constantExternal with
    toRfc3339 := fun _ => "2026-01-01T00:00:00Z"
    serializeTimestamp := fun _ => "2026-01-01T00:00:00Z" }

def ordersIn (parts : List String) : TableIdent := ⟨⟨"main"⟩, ⟨parts⟩, ⟨"orders"⟩⟩

def adaReceipt : AuthorizationReceipt :=
  ⟨⟨"ada", .human⟩, .tableLoad, none, true, "local", none, .obj [], 0⟩

/-- The table as it is loaded. -/
def loadedOrders (parts : List String) : TableRecord :=
  { sampleTable with
    ident := ordersIn parts, metadataLocation := some "s3://lake/orders/metadata/v1.json" }

/-- What the handler records of the table of a namespace that is loaded. -/
def ordersRead (parts : List String) : OutboxEvent :=
  let _ := datedExternal
  MemoryState.auditOutbox (describedEvent adaReceipt 0 ("table.loaded", some (ordersIn parts),
    tableLoadedPayload adaReceipt (ordersIn parts) (loadedOrders parts)))

theorem ordersRead_recorded (parts : List String) :
    let _ := datedExternal
    Recorded adaReceipt.principal (some (.table (ordersIn parts))) (ordersRead parts) := by
  intro _
  exact @Recorded.read _ (.loadTable (ordersIn parts) (loadedOrders parts)) .empty adaReceipt 0 _
    rfl

theorem ordersRead_made {parts : List String} (named : Namespace.Made ⟨parts⟩) :
    let _ := datedExternal
    (ordersRead parts).TableMade := by
  intro _ ident read
  have found : (ordersRead parts).outboxTable = .ok (some (ordersIn parts)) :=
    auditOutbox_table _
  rw [found] at read
  rw [← Option.some.inj (Except.ok.inj read)]
  exact ⟨⟨"main", rfl⟩, named, ⟨"orders", rfl⟩⟩

theorem liveSubjects_identify_orders :
    let _ := datedExternal
    ∃ tags others, (ordersRead ["a", "b"]).About ⟨"main"⟩ tags ∧
      (ordersRead ["sales"]).About ⟨"main"⟩ others ∧
      (∀ shown ∈ (graphEvents ((ordersRead ["a", "b"]).calls ⟨"main"⟩)).zip tags,
        ∀ twin ∈ (graphEvents ((ordersRead ["sales"]).calls ⟨"main"⟩)).zip others,
          (shown.1.subject = twin.1.subject → shown.2.2 = twin.2.2) ↔
            shown.2.2.ToldApart twin.2.2) ∧
      ∀ principal object, Recorded principal object (ordersRead ["a", "b"]) →
        ∀ tag ∈ tags, ActedOn (ordersRead ["a", "b"]) principal object tag.2 := by
  intro _
  exact OutboxEvent.liveSubjects_identify ⟨"main", rfl⟩ ⟨"main", rfl⟩
    (ordersRead_made ⟨["a", "b"], rfl⟩) (ordersRead_made ⟨["sales"], rfl⟩)

/-- The tables of one name in the namespaces of one path have one subject. -/
theorem liveSubjects_collide : ∃ (_ : External) (_ : TimestampParser) (_ : EvidenceValidators)
    (one other : OutboxEvent) (principal : Principal),
    validateOutboxEventEvidence one = .ok () ∧ validateOutboxEventEvidence other = .ok () ∧
      Recorded principal (some (.table (ordersIn ["a.b"]))) one ∧
      Recorded principal (some (.table (ordersIn ["a", "b"]))) other ∧
      ∃ shown ∈ graphEvents (one.calls ⟨"main"⟩), ∃ twin ∈ graphEvents (other.calls ⟨"main"⟩),
        shown.subject = twin.subject ∧ shown.label = .table ∧ twin.label = .table ∧
          shown.table = some (ordersIn ["a.b"]) ∧ twin.table = some (ordersIn ["a", "b"]) ∧
            ordersIn ["a.b"] ≠ ordersIn ["a", "b"] := by
  let _ := datedExternal
  let _ := anyTime
  let _ := passingValidators
  refine ⟨datedExternal, anyTime, passingValidators, ordersRead ["a.b"], ordersRead ["a", "b"],
    adaReceipt.principal, ?_, ?_, ordersRead_recorded _, ordersRead_recorded _, ?_⟩
  · decide +kernel
  · decide +kernel
  · decide +kernel

end Samples

end LakeCat
