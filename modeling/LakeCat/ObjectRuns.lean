import LakeCat.HeldCells
import LakeCat.OrderlyHandlers

/-!
Handlers in any order of their steps over one store and one object store. Each
step is a move of cells that are written while empty and held until the store has
taken them: what is held by nobody stays as it is.
-/

namespace LakeCat

open Fallible Asking Transition

section

variable [MetadataFiles]

abbrev LakeAnswer := Except LakeCatError (Option TableRecord)

abbrev LakeEntry := Entry Lake LakeCall LakeCall.Answer

abbrev LakePool := Pool Lake LakeCall LakeCall.Answer LakeAnswer

/-- The object that a caller has written and may take back. -/
def held (log : List LakeEntry) (caller : Nat) : Option (Place × Json) :=
  heldObject (Pool.history caller log)

/-- The objects, and who may still take them back. -/
def objectCells (pool : LakePool) : HeldCells Nat Place File where
  contents := pool.state.files
  held caller := (held pool.log caller).map Prod.fst

/-- The store has taken what the handler brings. -/
def acceptedCall : LakeExchange → Bool
  | ⟨.createTable _, .ok _⟩ => true
  | ⟨.commitTable .., .ok _⟩ => true
  | _ => false

theorem acceptedCall_gone {exchange : LakeExchange} (accepted : acceptedCall exchange = true)
    (held : Option (Place × Json)) : heldAfter held exchange = none := by
  obtain ⟨request, answer⟩ := exchange
  cases request with
  | createTable table => cases answer <;> [cases accepted; rfl]
  | commitTable snapshot commit => cases answer <;> [cases accepted; rfl]
  | _ => cases accepted

/-- The call was accepted by the store for a table whose object lies at the place. -/
inductive LakeEntry.Takes [External] [LocationUrls] [ObjectStores] (place : Place) :
    LakeEntry → Prop
  | created (caller : Nat) (before : Lake) (table result : TableRecord) (location : String)
      (named : table.metadataLocation = some location)
      (located : objectPlace location = .ok place) :
      LakeEntry.Takes place ⟨caller, before, ⟨.createTable table, .ok result⟩⟩
  | committed (caller : Nat) (before : Lake) (snapshot : TableCommitSnapshot)
      (commit : TableCommit) (result : TableRecord) (location : String)
      (named : commit.newMetadataLocation = some location)
      (located : objectPlace location = .ok place) :
      LakeEntry.Takes place ⟨caller, before, ⟨.commitTable snapshot commit, .ok result⟩⟩

end

section Runs

variable [External] [LocationUrls] [ObjectStores] [MetadataFiles] [SailRequirements] [SailTables]
  (service : TableService) (requests : Nat → TableRequest) (files : Place → Option File)

def TableService.programs (caller : Nat) : Program LakeCall LakeCall.Answer LakeAnswer :=
  (service.handler (requests caller)).run

/-- An empty store, and whatever lies in the object store. -/
def TableService.begin : LakePool :=
  Pool.start ⟨.empty, files⟩ (service.programs requests)

def TableService.step (pool : LakePool) (turn : Nat × Moment) : LakePool :=
  pool.step (Lake.serve service.state) turn

def TableService.run (turns : List (Nat × Moment)) : LakePool :=
  Transition.run service.step (service.begin requests files) turns

/-- The callers are in the middle of their handlers, and hold what they have written. -/
structure Tended (pool : LakePool) : Prop where
  follows : pool.Follows (service.programs requests)
  sound : (objectCells pool).Sound
  written : ∀ caller place metadata, held pool.log caller = some (place, metadata) →
    pool.state.files place = some (MetadataFiles.encode metadata)

variable {service requests files}

/-- A step of a caller: what it asks, which is in order, and what it is answered. -/
structure TurnTaken (service : TableService) (requests : Nat → TableRequest) (pool next : LakePool) (turn : Nat × Moment) (request : LakeCall)
    (answer : request.Answer) (lake : Lake) : Prop where
  orderly : Orderly service.engine (requests turn.1) (Pool.history turn.1 pool.log) request
  served : Lake.serve service.state turn.1 turn.2 pool.state request = (answer, lake)
  state : next.state = lake
  log : next.log = ⟨turn.1, pool.state, ⟨request, answer⟩⟩ :: pool.log
  unfinished : ∃ rest, pool.programs turn.1 = .ask request rest

theorem step_taken {pool : LakePool} (follows : pool.Follows (service.programs requests))
    (turn : Nat × Moment) : service.step pool turn = pool ∨
      ∃ request answer lake, TurnTaken service requests pool
        (service.step pool turn) turn request answer lake := by
  have cases : pool.step (Lake.serve service.state) turn = pool ∨ _ := pool.step_cases turn
  rcases cases with same | ⟨request, rest, asks, stepped⟩
  · exact .inl same
  · generalize served : Lake.serve service.state turn.1 turn.2 pool.state request = answered
      at stepped
    have obeys := (handler_orderly service (requests turn.1)).reaches (follows turn.1)
    rw [asks] at obeys
    refine .inr ⟨request, answered.1, answered.2, obeys.1, served, ?_, ?_, rest, asks⟩
    · rw [TableService.step, stepped]
    · rw [TableService.step, stepped]

/-! What a step does to the objects. -/

omit [External] [LocationUrls] [ObjectStores] [SailRequirements] [SailTables] in
/-- The objects after an exchange, and what its caller holds then. -/
inductive ObjectEffect (files : Place → Option File) :
    LakeExchange → (Place → Option File) → Prop
  | stored (place : Place) (metadata : Json) (empty : files place = none) :
      ObjectEffect files ⟨.put place metadata, .stored⟩
        (Function.update files place (some (MetadataFiles.encode metadata)))
  | deleted (place : Place) :
      ObjectEffect files ⟨.delete place, .deleted⟩ (Function.update files place none)
  | taken (exchange : LakeExchange) (accepted : acceptedCall exchange = true) :
      ObjectEffect files exchange files
  | idle (exchange : LakeExchange) (kept : ∀ held, heldAfter held exchange = held) :
      ObjectEffect files exchange files

omit [External] [LocationUrls] [ObjectStores] [SailRequirements] [SailTables] in
theorem change_files (lake : Lake) (moment : Moment) (result : LakeCatResult (α × MemoryState)) :
    (lake.change moment result).2.files = lake.files := by
  rw [Lake.change]
  split <;> rfl

omit [LocationUrls] [ObjectStores] [SailRequirements] [SailTables] in
theorem serve_effect {state : LakeCatState} {caller : Nat} {moment : Moment} {lake next : Lake}
    {request : LakeCall} {answer : request.Answer}
    (served : Lake.serve state caller moment lake request = (answer, next)) :
    ObjectEffect lake.files ⟨request, answer⟩ next.files := by
  cases request with
  | put place metadata =>
      simp only [Lake.serve, Lake.put] at served
      split at served
      · obtain ⟨rfl, rfl⟩ := Prod.mk.inj served
        exact .idle _ fun _ => rfl
      · split at served
        · obtain ⟨rfl, rfl⟩ := Prod.mk.inj served
          exact .idle _ fun _ => rfl
        next empty =>
          obtain ⟨rfl, rfl⟩ := Prod.mk.inj served
          exact .stored place metadata empty
  | delete place =>
      simp only [Lake.serve, Lake.delete] at served
      split at served
      · obtain ⟨rfl, rfl⟩ := Prod.mk.inj served
        exact .idle _ fun _ => rfl
      · obtain ⟨rfl, rfl⟩ := Prod.mk.inj served
        exact .deleted place
  | createTable table =>
      have files := change_files lake moment (lake.store.createTable table)
      simp only [Lake.serve] at served
      rw [served] at files
      rw [files]
      cases answer with
      | ok created => exact .taken _ rfl
      | error error => exact .idle _ fun _ => rfl
  | commitTable snapshot commit =>
      have files := change_files lake moment
        (lake.store.commitTableWithSnapshot snapshot commit moment.drawn.now)
      simp only [Lake.serve] at served
      rw [served] at files
      rw [files]
      cases answer with
      | ok table => exact .taken _ rfl
      | error error => exact .idle _ fun _ => rfl
  | recordAuditEvent event =>
      have files := change_files lake moment (lake.store.recordAuditEvent event)
      simp only [Lake.serve] at served
      rw [served] at files
      rw [files]
      exact .idle _ fun _ => rfl
  | store op =>
      simp only [Lake.serve] at served
      split at served <;>
      · obtain ⟨rfl, rfl⟩ := Prod.mk.inj served
        exact .idle _ fun _ => rfl
  | _ =>
      obtain ⟨rfl, rfl⟩ := Prod.mk.inj served
      exact .idle _ fun _ => rfl

section Steps

variable {pool next : LakePool} {turn : Nat × Moment} {request : LakeCall}
  {answer : request.Answer} {lake : Lake}

theorem TurnTaken.holders (taken : TurnTaken service requests pool next turn
      request answer lake) (caller : Nat) :
    held next.log caller = if caller = turn.1 then
      heldAfter (held pool.log caller) ⟨request, answer⟩ else held pool.log caller := by
  simp only [held, taken.log]
  split
  next own => rw [own, Pool.history_cons_self, heldObject_append]
  next other =>
    rw [Pool.history_cons_other (fun same => other same.symm)]

omit [External] [LocationUrls] [ObjectStores] [SailRequirements] [SailTables] in
/-- Cells with the same contents, whose holders differ by one caller. -/
theorem objectCells_eq {cells : HeldCells Nat Place File} {contents : Place → Option File}
    (files : next.state.files = contents)
    (holders : ∀ caller, (held next.log caller).map Prod.fst = cells.held caller)
    (same : cells.contents = contents) : objectCells next = cells := by
  rw [objectCells, files, ← same]
  congr 1
  funext caller
  exact holders caller

/-- What the store takes is given up by its caller. -/
theorem TurnTaken.releases (taken : TurnTaken service requests pool next turn request answer lake)
    (accepted : acceptedCall ⟨request, answer⟩ = true) :
    objectCells next = (objectCells pool).release turn.1 := by
  have kept : next.state.files = pool.state.files := by
    have effect := serve_effect taken.served
    rw [← taken.state] at effect
    generalize exchanging : (⟨request, answer⟩ : LakeExchange) = exchange at effect accepted
    generalize next.state.files = contents at effect
    cases effect with
    | stored => cases accepted
    | deleted => cases accepted
    | taken => rfl
    | idle => rfl
  refine objectCells_eq kept (fun caller => ?_) rfl
  rw [HeldCells.release_held, taken.holders]
  split
  · rw [acceptedCall_gone accepted]
    rfl
  · rfl

/-- A step of the handlers is a move of the cells. -/
theorem TurnTaken.move (taken : TurnTaken service requests pool next turn request answer lake) :
    (objectCells pool).Move (objectCells next) := by
  have effect := serve_effect taken.served
  have orderly := taken.orderly
  have holders := taken.holders
  rw [← taken.state] at effect
  generalize exchanging : (⟨request, answer⟩ : LakeExchange) = exchange at effect holders
  generalize files : next.state.files = contents at effect
  have others (caller : Nat) (other : caller ≠ turn.1) :
      (held next.log caller).map Prod.fst = (held pool.log caller).map Prod.fst := by
    rw [holders, if_neg other]
  have own := holders turn.1
  rw [if_pos rfl] at own
  cases effect with
  | stored place metadata empty =>
      cases exchanging
      have free : held pool.log turn.1 = none := orderly.1
      have made : objectCells next =
          (objectCells pool).create turn.1 place (MetadataFiles.encode metadata) := by
        refine objectCells_eq files (fun caller => ?_) rfl
        rw [HeldCells.create_held]
        split
        next same =>
          rw [same, own]
          rfl
        next other => exact others caller other
      rw [made]
      exact .create turn.1 place _ (congrArg (Option.map Prod.fst) free) empty
  | deleted place =>
      cases exchanging
      obtain ⟨metadata, holds⟩ := orderly
      have holding : (objectCells pool).held turn.1 = some place :=
        congrArg (Option.map Prod.fst) holds
      have emptied : objectCells next = (objectCells pool).takeBack turn.1 := by
        refine objectCells_eq files (fun caller => ?_) ?_
        · rw [HeldCells.takeBack_held]
          split
          next same =>
            rw [same, own]
            rfl
          next other => exact others caller other
        · funext query
          rw [HeldCells.takeBack_contents holding, Function.update_apply]
          rfl
      rw [emptied]
      exact .takeBack turn.1
  | taken exchange accepted =>
      cases exchanging
      rw [taken.releases accepted]
      exact .release turn.1
  | idle exchange kept =>
      have stayed : objectCells next = objectCells pool := by
        refine objectCells_eq files (fun caller => ?_) rfl
        by_cases same : caller = turn.1
        · rw [same, own, kept]
          rfl
        · exact others caller same
      rw [stayed]
      exact .stay

theorem Tended.step (tended : Tended service requests pool) (turn : Nat × Moment) :
    Tended service requests (service.step pool turn) := by
  rcases step_taken tended.follows turn with same | ⟨request, answer, lake, taken⟩
  · rw [same]
    exact tended
  · refine ⟨Pool.step_follows tended.follows turn, taken.move.sound tended.sound, ?_⟩
    intro caller place metadata holds
    have effect := serve_effect taken.served
    have orderly := taken.orderly
    rw [← taken.state] at effect
    rw [taken.holders] at holds
    generalize exchanging : (⟨request, answer⟩ : LakeExchange) = exchange at effect holds
    generalize (service.step pool turn).state.files = contents at effect
    have before (held : held pool.log caller = some (place, metadata)) :=
      tended.written caller place metadata held
    cases effect with
    | stored place' metadata' empty =>
        rw [Function.update_apply]
        split at holds
        next =>
          cases holds
          rw [if_pos rfl]
        next =>
          have filled := before holds
          rw [if_neg fun same => by rw [same, empty] at filled; cases filled]
          exact filled
    | deleted place' =>
        cases exchanging
        split at holds
        next => cases holds
        next other =>
          obtain ⟨removed, holding⟩ := orderly
          have apart : place ≠ place' := by
            rintro rfl
            exact other (tended.sound.alone caller turn.1 place (congrArg (Option.map Prod.fst) holds)
              (congrArg (Option.map Prod.fst) holding))
          rw [Function.update_of_ne apart]
          exact before holds
    | taken exchange accepted =>
        split at holds
        · rw [acceptedCall_gone accepted] at holds
          cases holds
        · exact before holds
    | idle exchange kept =>
        split at holds
        · rw [kept] at holds
          exact before holds
        · exact before holds

theorem tended_begin (service : TableService) (requests : Nat → TableRequest)
    (files : Place → Option File) : Tended service requests (service.begin requests files) where
  follows := Pool.start_follows _ _
  sound := ⟨fun _ _ => nofun, fun _ _ _ => nofun⟩
  written _ _ _ := nofun

/-- What a caller holds when the store accepts its call lies at the location of that call. -/
theorem TurnTaken.takes (taken : TurnTaken service requests pool next turn request answer lake)
    (accepted : acceptedCall ⟨request, answer⟩ = true) {place : Place} {metadata : Json}
    (holds : held pool.log turn.1 = some (place, metadata)) :
    LakeEntry.Takes place ⟨turn.1, pool.state, ⟨request, answer⟩⟩ := by
  have orderly := taken.orderly
  generalize requests turn.1 = asked at orderly
  have planned {object : Option (String × Json)}
      (holder : HoldsPlanned (Pool.history turn.1 pool.log) object) :
      ∃ location, object = some (location, metadata) ∧ objectPlace location = .ok place := by
    cases object with
    | none => cases holds.symm.trans holder
    | some object =>
        obtain ⟨other, located, held⟩ := holder
        obtain ⟨rfl, rfl⟩ := Prod.mk.inj (Option.some.inj (holds.symm.trans held))
        exact ⟨object.1, rfl, located⟩
  cases request with
  | createTable table =>
      cases answer with
      | error error => cases accepted
      | ok created =>
          cases orderly with
          | brought _ _ _ _ free => cases holds.symm.trans free
          | made _ _ _ _ location named _ holder =>
              obtain ⟨found, same, located⟩ := planned holder
              cases same
              exact .created _ _ _ _ _ named located
          | registered _ _ _ _ _ _ free => cases holds.symm.trans free
  | commitTable snapshot commit =>
      cases answer with
      | error error => cases accepted
      | ok result =>
          obtain ⟨_, _, _, _, _, _, _, _, plan, -, order⟩ := orderly
          obtain ⟨location, object, located⟩ := planned order.holds
          obtain ⟨receipt, key, rfl⟩ := order.commit
          have named := (plan_object plan location).mp (by rw [object]; rfl)
          exact .committed _ _ _ _ _ _ named.2 located
  | _ => cases accepted

/-- Every object was there before, is held, or was taken. -/
def Traced (files : Place → Option File) (pool : LakePool) : Prop :=
  ∀ place file, pool.state.files place = some file → files place = some file ∨
    (∃ caller metadata, held pool.log caller = some (place, metadata)) ∨
    ∃ entry ∈ pool.log, LakeEntry.Takes place entry

theorem Traced.step (tended : Tended service requests pool) (traced : Traced files pool)
    (turn : Nat × Moment) : Traced files (service.step pool turn) := by
  rcases step_taken tended.follows turn with same | ⟨request, answer, lake, taken⟩
  · rw [same]
    exact traced
  · intro place file there
    have effect := serve_effect taken.served
    have holders := taken.holders
    rw [← taken.state] at effect
    -- What was traced before is traced still, unless its holder has lost it.
    have before (stood : pool.state.files place = some file)
        (still : ∀ metadata, held pool.log turn.1 = some (place, metadata) →
          heldAfter (held pool.log turn.1) ⟨request, answer⟩ = some (place, metadata) ∨
            acceptedCall ⟨request, answer⟩ = true) :
        files place = some file ∨
          (∃ caller metadata, held (service.step pool turn).log caller = some (place, metadata)) ∨
          ∃ entry ∈ (service.step pool turn).log, LakeEntry.Takes place entry := by
      rcases traced place file stood with initial | ⟨caller, metadata, holds⟩ | ⟨entry, logged, takes⟩
      · exact .inl initial
      · by_cases own : caller = turn.1
        · rw [own] at holds
          rcases still metadata holds with kept | accepted
          · exact .inr (.inl ⟨turn.1, metadata, by rw [holders, if_pos rfl, kept]⟩)
          · refine .inr (.inr ⟨_, ?_, taken.takes accepted holds⟩)
            rw [taken.log]
            exact List.mem_cons_self
        · exact .inr (.inl ⟨caller, metadata, by rw [holders, if_neg own, holds]⟩)
      · refine .inr (.inr ⟨entry, ?_, takes⟩)
        rw [taken.log]
        exact List.mem_cons_of_mem _ logged
    generalize exchanging : (⟨request, answer⟩ : LakeExchange) = exchange at effect before holders
    generalize (service.step pool turn).state.files = contents at effect there
    cases effect with
    | stored written metadata empty =>
        rw [Function.update_apply] at there
        split at there
        next same =>
          refine .inr (.inl ⟨turn.1, metadata, ?_⟩)
          rw [holders, if_pos rfl, same]
          rfl
        next other =>
          apply before there
          intro kept holds
          cases exchanging
          have free : held pool.log turn.1 = none := taken.orderly.1
          cases holds.symm.trans free
    | deleted removed =>
        rw [Function.update_apply] at there
        split at there
        next => cases there
        next other =>
          apply before there
          intro metadata holds
          cases exchanging
          obtain ⟨document, holding⟩ := taken.orderly
          cases holds.symm.trans holding
          exact absurd rfl other
    | taken exchange accepted => exact before there fun _ _ => .inr accepted
    | idle exchange kept => exact before there fun _ holds => .inl (by rw [kept, holds])

end Steps

/-! Whole runs. -/

theorem tended_run (service : TableService) (requests : Nat → TableRequest)
    (files : Place → Option File) (turns : List (Nat × Moment)) :
    Tended service requests (service.run requests files turns) ∧
      Traced files (service.run requests files turns) :=
  run_invariant service.step (fun pool => Tended service requests pool ∧ Traced files pool)
    (fun _ turn both => ⟨both.1.step turn, both.2.step both.1 turn⟩) _ turns
    ⟨tended_begin service requests files, fun _ _ there => .inl there⟩

/-- The store answers a commit with what it has stored for its key. -/
def LakeEntry.Replays (entry : LakeEntry) : Prop :=
  ∃ snapshot commit, entry.exchange.1 = .commitTable snapshot commit ∧
    (entry.before.store.storedReplay snapshot.ident commit.idempotencyKey).isSome = true

/-- Why an object is there. -/
inductive ObjectReason (files : Place → Option File) (pool : LakePool) (place : Place)
    (file : File) : Prop
  | initial (found : files place = some file)
  | published (entry : LakeEntry) (logged : entry ∈ pool.log)
      (takes : LakeEntry.Takes place entry) (fresh : ¬LakeEntry.Replays entry)
  | leftByReplay (entry : LakeEntry) (logged : entry ∈ pool.log)
      (takes : LakeEntry.Takes place entry) (replays : LakeEntry.Replays entry)
  | underWay (caller : Nat) (metadata : Json) (request : LakeCall)
      (next : request.Answer → Program LakeCall LakeCall.Answer LakeAnswer)
      (holds : held pool.log caller = some (place, metadata))
      (unfinished : pool.programs caller = .ask request next)
  | undeleted (entry : LakeEntry) (detail : String) (logged : entry ∈ pool.log)
      (failed : entry.exchange = ⟨.delete place, .failed detail⟩)

omit [External] [LocationUrls] [ObjectStores] [SailRequirements] [SailTables] in
theorem mem_history {caller : Nat} {log : List LakeEntry} {exchange : LakeExchange}
    (member : exchange ∈ Pool.history caller log) :
    ∃ entry ∈ log, entry.caller = caller ∧ entry.exchange = exchange := by
  simp only [Pool.history, List.mem_reverse, List.mem_map, List.mem_filter,
    decide_eq_true_eq] at member
  obtain ⟨entry, ⟨logged, own⟩, same⟩ := member
  exact ⟨entry, logged, own, same⟩

/-- What nobody may take back stays for good. -/
theorem settled_run {service : TableService} {requests : Nat → TableRequest} {place : Place}
    {file : File} (turns : List (Nat × Moment)) {pool : LakePool}
    (tended : Tended service requests pool) (settled : (objectCells pool).Settled place file) :
    (objectCells (Transition.run service.step pool turns)).Settled place file := by
  have both := run_invariant service.step
    (fun pool => Tended service requests pool ∧ (objectCells pool).Settled place file)
    (fun pool turn both => ⟨both.1.step turn, by
      rcases step_taken both.1.follows turn with same | ⟨request, answer, lake, taken⟩
      · rw [same]
        exact both.2
      · exact taken.move.settled both.2⟩) pool turns ⟨tended, settled⟩
  exact both.2

/-- The store has accepted the call of the step between. -/
def newlyAccepted (before after : LakePool) : Bool :=
  before.log.length < after.log.length &&
    after.log.head?.any fun entry => acceptedCall entry.exchange

theorem published_objects_stay (service : TableService) (requests : Nat → TableRequest)
    (files : Place → Option File) (turns later : List (Nat × Moment)) (turn : Nat × Moment)
    (place : Place) (metadata : Json)
    (holds : held (service.run requests files turns).log turn.1 = some (place, metadata))
    (accepted : newlyAccepted (service.run requests files turns)
      (service.run requests files (turns ++ [turn])) = true) :
    (service.run requests files (turns ++ [turn] ++ later)).state.files place =
      some (MetadataFiles.encode metadata) := by
  have tended := (tended_run service requests files turns).1
  have after := (tended_run service requests files (turns ++ [turn])).1
  have stepped : service.run requests files (turns ++ [turn]) =
      service.step (service.run requests files turns) turn := run_append _ _ _
  have settled : (objectCells (service.run requests files (turns ++ [turn]))).Settled place
      (MetadataFiles.encode metadata) := by
    rw [stepped] at accepted ⊢
    rcases step_taken tended.follows turn with same | ⟨request, answer, lake, taken⟩
    · rw [same] at accepted
      simp [newlyAccepted] at accepted
    · simp only [newlyAccepted, taken.log, List.head?_cons, Option.any_some,
        Bool.and_eq_true] at accepted
      rw [taken.releases accepted.2]
      exact HeldCells.release_settled tended.sound
        ⟨congrArg (Option.map Prod.fst) holds, tended.written _ _ _ holds⟩
  have stays := settled_run later after settled
  rw [TableService.run, run_append]
  exact stays.1

end Runs

section Samples

attribute [local instance] constantExternal fileUrls fileObjects documentFiles textUuids untypedTables

/-- The table is created, and another request commits to it. -/
theorem published_objects_stay_orders :
    ∃ metadata, (deferredService.run ordersRequests (fun _ => none)
        (calmTurns 0 1 ++ calmTurns 1 5 ++ [calmTurn 1] ++ (calmTurns 1 2 ++ calmTurns 2 7))).state.files
      (pathSegments createdOrders) = some metadata := by
  have holds : (held (deferredService.run ordersRequests (fun _ => none)
      (calmTurns 0 1 ++ calmTurns 1 5)).log 1).map Prod.fst =
      some (pathSegments createdOrders) := by decide +kernel
  have accepted : newlyAccepted (deferredService.run ordersRequests (fun _ => none)
      (calmTurns 0 1 ++ calmTurns 1 5)) (deferredService.run ordersRequests (fun _ => none)
        (calmTurns 0 1 ++ calmTurns 1 5 ++ [calmTurn 1])) = true := by
    decide +kernel
  obtain ⟨⟨_, metadata⟩, found, rfl⟩ := Option.map_eq_some_iff.mp holds
  exact ⟨metadata, published_objects_stay deferredService ordersRequests (fun _ => none) _
    (calmTurns 1 2 ++ calmTurns 2 7) (calmTurn 1) _ metadata found accepted⟩

end Samples

end LakeCat
