import LakeCat.CommitEvidence
import LakeCat.MemorySteps
import LakeCat.ObjectRuns
import LakeCat.Operability

/-!
The document of a table is the one in its object. The store adds two keys to a
committed document, and a client can name a location that no handler writes; apart
from that, what is registered is what the object of the pointer holds, for good.
-/

namespace LakeCat

open Fallible Asking Transition

/-- The keys that the store writes into a committed document. -/
def isStoreMark (key : String) : Bool :=
  key = "lakecat:version" || key = "lakecat:last-request-hash"

namespace Json

def withoutStoreMarks : Json → Json
  | .obj fields => .obj (fields.filter fun field => !isStoreMark field.1)
  | other => other

theorem insertField_marks {key : String} (mark : isStoreMark key = true) (value : Json)
    (fields : List (String × Json)) :
    (insertField key value fields).filter (fun field => !isStoreMark field.1) =
      fields.filter fun field => !isStoreMark field.1 := by
  induction fields with
  | nil => simp [insertField, mark]
  | cons field rest ih =>
      rw [insertField]
      split
      next same => simp [← same, mark]
      next =>
        split
        · simp [mark]
        · rw [List.filter_cons, List.filter_cons, ih]

theorem withoutStoreMarks_set {document : Json} (shape : document.isObject = true) {key : String}
    (mark : isStoreMark key = true) (value : Json) :
    (document.set key value).withoutStoreMarks = document.withoutStoreMarks := by
  cases document with
  | obj fields => exact congrArg Json.obj (insertField_marks mark value fields)
  | _ => cases shape

end Json

namespace MemoryState

variable [External]

theorem committedTable_marks {current : TableRecord} {commit : TableCommit} (now : Timestamp)
    (valid : commit.Valid) (table : current.Valid) :
    (committedTable current commit now).metadata.withoutStoreMarks =
      (baseMetadata current commit).withoutStoreMarks := by
  have shape := (baseMetadata_valid valid table).1
  rw [committedTable_metadata,
    Json.withoutStoreMarks_set (Json.isObject_set _ _ _ shape) (by decide),
    Json.withoutStoreMarks_set shape (by decide)]

/-- Where the pointer and the document of a table come from. -/
inductive TableOrigin (state : MemoryState) : MemoryOp → TableRecord → Prop
  | kept (op : MemoryOp) (key : String) (before table : TableRecord)
      (stored : state.tables[key]? = some before)
      (pointer : table.metadataLocation = before.metadataLocation)
      (metadata : table.metadata = before.metadata) : TableOrigin state op table
  | created (table : TableRecord) : TableOrigin state (.createTable table) table
  | committed (ident : TableIdent) (commit : TableCommit) (now : Timestamp)
      (current : TableRecord) (valid : commit.Valid)
      (fresh : state.storedReplay ident commit.idempotencyKey = none)
      (committable : state.Committable ident commit now current) :
      TableOrigin state (.commitTable ident commit now) (committedTable current commit now)

theorem step_origin (state : MemoryState) (op : MemoryOp) {key : String} {table : TableRecord}
    (stored : (state.step op).tables[key]? = some table) : state.TableOrigin op table := by
  have successor := step_successor state op
  generalize state.step op = next at stored successor
  have same (tables : next.tables = state.tables) : state.TableOrigin op table := by
    rw [tables] at stored
    exact .kept op key table table stored rfl rfl
  cases successor with
  | namespaceDropped warehouse ns _ =>
      simp only [withoutNamespace, OrderedMap.getElem?_filter] at stored
      exact .kept _ key table table stored.1 rfl rfl
  | tableCreated created _ _ _ =>
      dsimp only at stored
      rw [OrderedMap.getElem?_insert] at stored
      split at stored
      next =>
        obtain rfl := Option.some.inj stored
        exact .created created
      next => exact .kept _ key table table stored rfl rfl
  | tableRenamed source destination _ _ now moved renamable =>
      simp only [renamed, OrderedMap.getElem?_insert, OrderedMap.getElem?_erase] at stored
      split at stored
      next =>
        obtain rfl := Option.some.inj stored
        exact .kept _ (tableKey source) moved _ renamable.stored rfl rfl
      next =>
        split at stored
        next => cases stored
        next => exact .kept _ key table table stored rfl rfl
  | tableCommitted ident commit now current valid _ fresh committable =>
      dsimp only [committed] at stored
      rw [OrderedMap.getElem?_insert] at stored
      split at stored
      next =>
        obtain rfl := Option.some.inj stored
        exact .committed ident commit now current valid fresh committable
      next => exact .kept _ key table table stored rfl rfl
  | _ => exact same rfl

end MemoryState

section Serving

variable [External] [MetadataFiles]

/-- Where a table comes from that is there after an exchange. -/
inductive TableSource (store : MemoryState) (table : TableRecord) : LakeExchange → Prop
  | kept (exchange : LakeExchange) (key : String) (stored : store.tables[key]? = some table) :
      TableSource store table exchange
  | created (result : TableRecord) : TableSource store table ⟨.createTable table, .ok result⟩
  | committed (snapshot : TableCommitSnapshot) (commit : TableCommit) (result : TableRecord)
      (now : Timestamp) (current : TableRecord) (valid : commit.Valid)
      (fresh : store.storedReplay snapshot.ident commit.idempotencyKey = none)
      (committable : store.Committable snapshot.ident commit now current)
      (made : table = MemoryState.committedTable current commit now) :
      TableSource store table ⟨.commitTable snapshot commit, .ok result⟩
  | other (op : MemoryOp) (answer : LakeCatResult Unit) (origin : store.TableOrigin op table) :
      TableSource store table ⟨.store op, answer⟩

omit [External] in
theorem change_cases {lake next : Lake} {moment : Moment}
    {result : LakeCatResult (α × MemoryState)} {answer : LakeCatResult α}
    (changed : lake.change moment result = (answer, next)) :
    (∃ error, answer = .error error ∧ next = lake) ∨
      ∃ value store, result = .ok (value, store) ∧ answer = .ok value ∧
        next = { lake with store := store } := by
  simp only [Lake.change, Moment.reach] at changed
  split at changed
  next value store reached =>
    obtain ⟨rfl, rfl⟩ := Prod.mk.inj changed
    split at reached
    · cases reached
    · exact .inr ⟨value, store, reached, rfl, rfl⟩
  next error _ =>
    obtain ⟨rfl, rfl⟩ := Prod.mk.inj changed
    exact .inl ⟨error, rfl, rfl⟩

theorem serve_source {state : LakeCatState} {caller : Nat} {moment : Moment} {lake next : Lake}
    {request : LakeCall} {answer : request.Answer}
    (served : Lake.serve state caller moment lake request = (answer, next)) {key : String}
    {table : TableRecord} (stored : next.store.tables[key]? = some table) :
    TableSource lake.store table ⟨request, answer⟩ := by
  cases request with
  | createTable created =>
      rcases change_cases served with ⟨error, rfl, rfl⟩ | ⟨result, store, accepted, rfl, rfl⟩
      · exact .kept _ key stored
      · obtain ⟨_, _, _, _, rfl⟩ := (MemoryState.createTable_ok _ _ _ _).mp accepted
        dsimp only at stored
        rw [OrderedMap.getElem?_insert] at stored
        split at stored
        next =>
          obtain rfl := Option.some.inj stored
          exact .created result
        next => exact .kept _ key stored
  | commitTable snapshot commit =>
      rcases change_cases served with ⟨error, rfl, rfl⟩ | ⟨result, store, accepted, rfl, rfl⟩
      · exact .kept _ key stored
      · obtain ⟨valid, _, committed⟩ := (MemoryState.commitTable_ok _ _ _ _ _ _).mp accepted
        cases committed with
        | replayed => exact .kept _ key stored
        | advanced current fresh committable =>
            dsimp only [MemoryState.committed] at stored
            rw [OrderedMap.getElem?_insert] at stored
            split at stored
            next =>
              obtain rfl := Option.some.inj stored
              exact .committed snapshot commit _ _ current valid fresh committable rfl
            next => exact .kept _ key stored
  | recordAuditEvent event =>
      rcases change_cases served with ⟨error, rfl, rfl⟩ | ⟨result, store, accepted, rfl, rfl⟩
      · exact .kept _ key stored
      · obtain ⟨_, _, rfl⟩ := (MemoryState.recordAuditEvent_ok _ _ _ _).mp accepted
        exact .kept _ key stored
  | store op =>
      simp only [Lake.serve] at served
      split at served
      · obtain ⟨rfl, rfl⟩ := Prod.mk.inj served
        exact .kept _ key stored
      · obtain ⟨rfl, rfl⟩ := Prod.mk.inj served
        exact .other op _ (MemoryState.step_origin lake.store op stored)
  | put place metadata =>
      simp only [Lake.serve, Lake.put] at served
      split at served
      · obtain ⟨rfl, rfl⟩ := Prod.mk.inj served
        exact .kept _ key stored
      · split at served <;>
        · obtain ⟨rfl, rfl⟩ := Prod.mk.inj served
          exact .kept _ key stored
  | delete place =>
      simp only [Lake.serve, Lake.delete] at served
      split at served <;>
      · obtain ⟨rfl, rfl⟩ := Prod.mk.inj served
        exact .kept _ key stored
  | _ =>
      obtain ⟨rfl, rfl⟩ := Prod.mk.inj served
      exact .kept _ key stored

end Serving

section Runs

variable [External] [LocationUrls] [ObjectStores] [MetadataFiles] [SailRequirements] [SailTables]

/-- A client names the location, and no handler writes or reads it. -/
def TableRequest.Names (engine : SailEngine) (location : String) : TableRequest → Prop
  | .create _ _ _ request => request.metadata.isObject = true ∧
      request.metadataLocation = some location
  | .register .. => False
  | .commit _ _ _ _ _ request => engine = .restModels ∧
      request.metadataLocation = some location ∧ request.metadata = none ∧ request.updates = []
  | .store (.createTable table) => table.metadataLocation = some location
  | .store (.commitTable _ change _) => change.newMetadataLocation = some location
  | .store _ => False

/-- The object was read while its writer could still take it back. -/
def ReadEarly (log : List LakeEntry) (place : Place) : Prop :=
  ∃ later entry earlier, log = later ++ entry :: earlier ∧ entry.exchange.1 = .get place ∧
    ∃ caller metadata, held earlier caller = some (place, metadata)

inductive Excused (engine : SailEngine) (requests : Nat → TableRequest) (log : List LakeEntry)
    (location : String) : Prop
  | named (caller : Nat) (names : (requests caller).Names engine location)
  | early (place : Place) (located : objectPlace location = .ok place)
      (read : ReadEarly log place)

/-- The object of the location holds the document, up to the keys of the store, for good. -/
structure Mirrors (pool : LakePool) (location : String) (metadata : Json) (place : Place)
    (file : File) (document : Json) : Prop where
  located : objectPlace location = .ok place
  settled : (objectCells pool).Settled place file
  shows : file = MetadataFiles.encode document ∨ MetadataFiles.decode location file = .ok document
  same : document.withoutStoreMarks = metadata.withoutStoreMarks

/-- The pointer of a table leads to its document. -/
def Reflected (engine : SailEngine) (requests : Nat → TableRequest) (pool : LakePool)
    (table : TableRecord) : Prop :=
  ∀ location, table.metadataLocation = some location →
    Excused engine requests pool.log location ∨
      ∃ place file document, Mirrors pool location table.metadata place file document

structure Mirrored (service : TableService) (requests : Nat → TableRequest) (pool : LakePool) :
    Prop where
  tended : Tended service requests pool
  tables : ∀ (key : String) table, pool.state.store.tables[key]? = some table →
    Reflected service.engine requests pool table
  loaded : ∀ entry ∈ pool.log, ∀ ident table, entry.exchange = ⟨.loadTable ident, .ok table⟩ →
    Reflected service.engine requests pool table
  read : ∀ entry ∈ pool.log, ∀ place file, entry.exchange = ⟨.get place, .ok file⟩ →
    ReadEarly pool.log place ∨ (objectCells pool).Settled place file

variable {service : TableService} {requests : Nat → TableRequest} {pool next : LakePool}
  {turn : Nat × Moment} {request : LakeCall} {answer : request.Answer} {lake : Lake}

omit [External] [LocationUrls] [ObjectStores] [SailRequirements] [SailTables] in
theorem ReadEarly.cons {log : List LakeEntry} {place : Place} (early : ReadEarly log place)
    (entry : LakeEntry) : ReadEarly (entry :: log) place := by
  obtain ⟨later, read, earlier, split, rest⟩ := early
  exact ⟨entry :: later, read, earlier, by rw [split, List.cons_append], rest⟩

/-- What is reflected is reflected later. -/
theorem TurnTaken.reflected (taken : TurnTaken service requests pool next turn request answer lake)
    {table : TableRecord} (reflected : Reflected service.engine requests pool table) :
    Reflected service.engine requests next table := by
  intro location pointer
  rcases reflected location pointer with excused | ⟨place, file, document, mirrors⟩
  · left
    cases excused with
    | named caller names => exact .named caller names
    | early place located read =>
        refine .early place located ?_
        rw [taken.log]
        exact read.cons _
  · exact .inr ⟨place, file, document, mirrors.located, taken.move.settled mirrors.settled,
      mirrors.shows, mirrors.same⟩

omit [External] [LocationUrls] [ObjectStores] [MetadataFiles] [SailRequirements] [SailTables] in
theorem plan_object_some {plan : CommitPlan} {object : String × Json}
    (planned : plan.object = some object) :
    plan.newMetadataLocation = some object.1 ∧ plan.newMetadata = object.2 := by
  rw [CommitPlan.object] at planned
  split at planned
  · obtain ⟨location, named, rfl⟩ := Option.map_eq_some_iff.mp planned
    exact ⟨named, rfl⟩
  · cases planned

/-- The table that a handler creates. -/
theorem TurnTaken.created {table result : TableRecord} {lake : Lake}
    (mirrored : Mirrored service requests pool)
    (taken : TurnTaken service requests pool next turn (.createTable table) (.ok result) lake) :
    Reflected service.engine requests next table := by
  intro location pointer
  have order : CreateOrder (Pool.history turn.1 pool.log) table (requests turn.1) := taken.orderly
  generalize asking : requests turn.1 = asked at order
  cases order with
  | brought _ _ _ request _ named supplied =>
      refine .inl (.named turn.1 ?_)
      rw [asking]
      exact ⟨supplied, named.symm.trans pointer⟩
  | made _ _ _ _ other named _ holder =>
      obtain rfl := Option.some.inj (named.symm.trans pointer)
      obtain ⟨place, located, holds⟩ := holder
      refine .inr ⟨place, _, table.metadata, located, ?_, .inl rfl, rfl⟩
      rw [taken.releases rfl]
      exact HeldCells.release_settled mirrored.tended.sound
        ⟨congrArg (Option.map Prod.fst) holds, mirrored.tended.written _ _ _ holds⟩
  | registered _ _ _ request place file _ named _ located read decoded =>
      obtain rfl := Option.some.inj (named.symm.trans pointer)
      obtain ⟨entry, logged, -, exchanged⟩ := mem_history read
      rcases mirrored.read entry logged place file exchanged with early | settled
      · refine .inl (.early place located ?_)
        rw [taken.log]
        exact early.cons _
      · exact .inr ⟨place, file, table.metadata, located, taken.move.settled settled,
          .inr decoded, rfl⟩

/-- The table that a handler commits. -/
theorem TurnTaken.committed {snapshot : TableCommitSnapshot} {commit : TableCommit}
    {result current : TableRecord} {lake : Lake} {now : Timestamp}
    (mirrored : Mirrored service requests pool)
    (taken : TurnTaken service requests pool next turn (.commitTable snapshot commit) (.ok result)
      lake) (valid : commit.Valid) (table : current.Valid) :
    Reflected service.engine requests next (MemoryState.committedTable current commit now) := by
  intro location pointer
  obtain ⟨_, _, _, _, _, request, _, loaded, plan, asked, order⟩ := taken.orderly
  obtain ⟨receipt, key, rfl⟩ := order.commit
  have named : plan.newMetadataLocation = some location := pointer
  have marks : (MemoryState.committedTable current (plan.commit loaded receipt key
      (key.map fun _ => request.hash)) now).metadata.withoutStoreMarks =
        plan.newMetadata.withoutStoreMarks :=
    MemoryState.committedTable_marks now valid table
  have holder := order.holds
  cases object : plan.object with
  | some written =>
      rw [object] at holder
      obtain ⟨place, located, holds⟩ := holder
      have planned := plan_object_some object
      obtain rfl := Option.some.inj (planned.1.symm.trans named)
      refine .inr ⟨place, _, written.2, located, ?_, .inl rfl, by rw [marks, planned.2]⟩
      rw [taken.releases rfl]
      exact HeldCells.release_settled mirrored.tended.sound
        ⟨congrArg (Option.map Prod.fst) holds, mirrored.tended.written _ _ _ holds⟩
  | none =>
      obtain ⟨draw, principal, prepared⟩ := order.planned
      have keeps := prepareCommit_keeps prepared (order.unwritten object)
      have kept : plan.newMetadata = loaded.metadata := keeps.metadata
      have either := keeps.location.symm.trans named
      cases requested : request.metadataLocation with
      | some other =>
          refine .inl (.named turn.1 ?_)
          rw [asked]
          have restModels := keeps.named (by
            change request.metadataLocation.isSome = true
            rw [requested]
            rfl)
          change request.metadataLocation.or loaded.metadataLocation = some location at either
          rw [requested] at either
          exact ⟨restModels, requested.trans either, keeps.bare⟩
      | none =>
          change request.metadataLocation.or loaded.metadataLocation = some location at either
          rw [requested] at either
          obtain ⟨entry, logged, -, exchanged⟩ := mem_history order.loaded
          have reflected := taken.reflected (mirrored.loaded entry logged _ _ exchanged)
          rcases reflected location either with excused | ⟨place, file, document, mirrors⟩
          · exact .inl excused
          · exact .inr ⟨place, file, document, mirrors.located, mirrors.settled, mirrors.shows,
              by rw [mirrors.same, marks, kept]⟩

theorem Mirrored.step (mirrored : Mirrored service requests pool) (turn : Nat × Moment) :
    Mirrored service requests (service.step pool turn) := by
  rcases step_taken mirrored.tended.follows turn with same | ⟨request, answer, lake, taken⟩
  · rw [same]
    exact mirrored
  · refine ⟨mirrored.tended.step turn, ?_, ?_, ?_⟩
    · intro key table stored
      rw [taken.state] at stored
      have source := serve_source taken.served stored
      generalize exchanging : (⟨request, answer⟩ : LakeExchange) = exchange at source
      cases source with
      | kept _ key stored => exact taken.reflected (mirrored.tables key table stored)
      | created result =>
          cases exchanging
          exact taken.created mirrored
      | committed snapshot commit result now current valid _ committable made =>
          cases exchanging
          rw [made]
          exact taken.committed mirrored valid committable.valid
      | other op answer origin =>
          cases exchanging
          have asked : requests turn.1 = .store op := taken.orderly
          cases origin with
          | kept _ key before table stored pointer metadata =>
              intro location named
              rw [pointer] at named
              rw [metadata]
              exact taken.reflected (mirrored.tables key before stored) location named
          | created table =>
              intro location named
              refine .inl (.named turn.1 ?_)
              rw [asked]
              exact named
          | committed ident commit now current _ _ _ =>
              intro location named
              refine .inl (.named turn.1 ?_)
              rw [asked]
              exact named
    · intro entry logged ident table exchanged
      rw [taken.log] at logged
      rcases List.mem_cons.mp logged with rfl | earlier
      · cases exchanged
        have loaded : pool.state.store.loadTable ident = .ok table := by
          have served := taken.served
          simp only [Lake.serve, Moment.reach] at served
          obtain ⟨answered, -⟩ := Prod.mk.inj served
          split at answered
          · cases answered
          · exact answered
        obtain ⟨_, stored, _, _⟩ := (MemoryState.loadTable_ok _ _ _).mp loaded
        exact taken.reflected (mirrored.tables _ table stored)
      · exact taken.reflected (mirrored.loaded entry earlier ident table exchanged)
    · intro entry logged place file exchanged
      rw [taken.log] at logged ⊢
      rcases List.mem_cons.mp logged with rfl | earlier
      · cases exchanged
        have there : (objectCells pool).contents place = some file := by
          have served := taken.served
          simp only [Lake.serve, Lake.get] at served
          obtain ⟨answered, -⟩ := Prod.mk.inj served
          split at answered
          · cases answered
          · exact (okOr_ok _ _ _).mp answered
        rcases HeldCells.settled_or_held there with
          settled | ⟨holder, holds, _⟩
        · exact .inr (taken.move.settled settled)
        · obtain ⟨⟨_, metadata⟩, found, rfl⟩ := Option.map_eq_some_iff.mp holds
          exact .inl ⟨[], _, pool.log, rfl, rfl, holder, metadata, found⟩
      · rcases mirrored.read entry earlier place file exchanged with early | settled
        · exact .inl (early.cons _)
        · exact .inr (taken.move.settled settled)

theorem mirrored_run (service : TableService) (requests : Nat → TableRequest)
    (files : Place → Option File) (turns : List (Nat × Moment)) :
    Mirrored service requests (service.run requests files turns) :=
  run_invariant service.step (Mirrored service requests)
    (fun _ turn mirrored => Mirrored.step mirrored turn) _ turns {
      tended := tended_begin service requests files
      tables := fun _ _ stored => by simp [TableService.begin, Pool.start, MemoryState.empty] at stored
      loaded := fun _ => nofun
      read := fun _ => nofun }

end Runs

section Samples

attribute [local instance] constantExternal fileUrls fileObjects documentFiles textUuids untypedTables

end Samples

end LakeCat
