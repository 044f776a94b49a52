import LakeCat.MirroredTables
import LakeCat.StorageProfiles

/-!
What an accepted change of a pointer has behind it: the place was checked against
the prefix of a storage profile of the table, and the requirements of a commit were
checked on the document that the commit replaces.
-/

namespace LakeCat

open Fallible Asking Transition

/-- Documents are told apart by their bytes, and read as they were written. -/
structure MetadataFiles.Documented [MetadataFiles] : Prop where
  distinct : ∀ one other : Json, MetadataFiles.encode one = MetadataFiles.encode other → one = other
  faithful : ∀ location document read,
    MetadataFiles.decode location (MetadataFiles.encode document) = .ok read → read = document

section Runs

variable [External] [LocationUrls] [ObjectStores] [MetadataFiles] [SailRequirements] [SailTables]

/-- Why a location may become the pointer of a table. -/
inductive PointerReason (engine : SailEngine) (asked : TableRequest) (ident : TableIdent)
    (previous : Option String) (location : String) : Prop
  | kept (same : previous = some location)
  | named (names : asked.Names engine location)
  | accepted (table : TableRecord) (storageProfile : StorageProfile) (owner : table.ident = ident)
      (covers : locationMatchesStorageProfilePrefix table.location
        storageProfile.locationPrefix = true)
      (valid : validateMetadataObjectLocation location previous storageProfile = .ok ())

/-- The pointers that a call brings are in order. -/
def PointersFounded (engine : SailEngine) (requests : Nat → TableRequest) (entry : LakeEntry) :
    Prop :=
  match entry.exchange.1 with
  | .createTable table => ∀ location, table.metadataLocation = some location →
      PointerReason engine (requests entry.caller) table.ident none location
  | .commitTable snapshot commit => ∀ location, commit.newMetadataLocation = some location →
      PointerReason engine (requests entry.caller) snapshot.ident
        commit.expectedPreviousMetadataLocation location
  | _ => True

/-- A commit was planned on a table, and the store has the same document when it accepts it. -/
structure CheckedCommit (engine : SailEngine) (requests : Nat → TableRequest)
    (log : List LakeEntry) (entry : LakeEntry) (snapshot : TableCommitSnapshot)
    (commit : TableCommit) (request : CommitTableRequest) (ident : TableIdent)
    (loaded stored : TableRecord) (plan : CommitPlan) : Prop where
  asked : ∃ catalogPrefix ns table headers identity,
    requests entry.caller = .commit catalogPrefix ns table headers identity request
  planned : ∃ draw principal,
    engine.prepareCommit draw (request.preparation ident principal loaded) = .ok plan
  follows : ∃ receipt key, commit = plan.commit loaded receipt key (key.map fun _ => request.hash)
  replaces : entry.before.store.tables[tableKey snapshot.ident]? = some stored
  pointer : stored.metadataLocation = loaded.metadataLocation
  document : ∀ location, loaded.metadataLocation = some location →
    Excused engine requests log location ∨
      stored.metadata.withoutStoreMarks = loaded.metadata.withoutStoreMarks

variable {service : TableService} {requests : Nat → TableRequest} {pool next : LakePool}
  {turn : Nat × Moment} {request : LakeCall} {answer : request.Answer} {lake : Lake}

omit [SailRequirements] [SailTables] in
/-- One object shows one document. -/
theorem Mirrors.same_document (documented : MetadataFiles.Documented) {location : String}
    {one other : Json} {place place' : Place} {file file' : File} {document document' : Json}
    (first : Mirrors pool location one place file document)
    (second : Mirrors pool location other place' file' document') :
    one.withoutStoreMarks = other.withoutStoreMarks := by
  obtain rfl := Except.ok.inj (first.located.symm.trans second.located)
  obtain rfl := Option.some.inj (first.settled.1.symm.trans second.settled.1)
  have equal : document = document' := by
    rcases first.shows with written | read <;> rcases second.shows with written' | read'
    · exact documented.distinct _ _ (written.symm.trans written')
    · rw [written] at read'
      exact (documented.faithful _ _ _ read').symm
    · rw [written'] at read
      exact documented.faithful _ _ _ read
    · exact Except.ok.inj (read.symm.trans read')
  rw [← first.same, ← second.same, equal]

omit [SailRequirements] [SailTables] in
theorem Excused.cons {engine : SailEngine} {log : List LakeEntry} {location : String}
    (excused : Excused engine requests log location) (entry : LakeEntry) :
    Excused engine requests (entry :: log) location := by
  cases excused with
  | named caller names => exact .named caller names
  | early place located read => exact .early place located (read.cons entry)

/-- Every fresh commit of the log is checked. -/
def CommitsChecked (service : TableService) (requests : Nat → TableRequest) (pool : LakePool) :
    Prop :=
  ∀ entry ∈ pool.log, ∀ snapshot commit result,
    entry.exchange = ⟨.commitTable snapshot commit, .ok result⟩ → ¬LakeEntry.Replays entry →
    ∃ request ident loaded stored plan, CheckedCommit service.engine requests pool.log entry snapshot
      commit request ident loaded stored plan

theorem CommitsChecked.step (documented : MetadataFiles.Documented)
    (mirrored : Mirrored service requests pool) (checked : CommitsChecked service requests pool)
    (turn : Nat × Moment) : CommitsChecked service requests (service.step pool turn) := by
  rcases step_taken mirrored.tended.follows turn with same | ⟨request, answer, lake, taken⟩
  · rw [same]
    exact checked
  · intro entry logged snapshot commit result exchanged fresh
    rw [taken.log] at logged ⊢
    rcases List.mem_cons.mp logged with rfl | earlier
    · cases exchanged
      obtain ⟨catalogPrefix, ns, table, headers, identity, request, ident, loaded, plan, asked,
        order⟩ := taken.orderly
      have accepted := taken.served
      rcases change_cases accepted with ⟨error, failed, -⟩ | ⟨committed, store, accepted, -, -⟩
      · cases failed
      · obtain ⟨_, _, answered⟩ := (MemoryState.commitTable_ok _ _ _ _ _ _).mp accepted
        cases answered with
        | replayed replay stored =>
            exact absurd ⟨snapshot, commit, rfl, by rw [stored]; rfl⟩ fresh
        | advanced stored _ committable =>
            obtain ⟨receipt, key, follows⟩ := order.commit
            have pointer : stored.metadataLocation = loaded.metadataLocation := by
              rw [committable.pointer, follows]
              rfl
            refine ⟨request, ident, loaded, stored, plan,
              ⟨_, _, _, _, _, asked⟩, order.planned, order.commit, committable.stored, pointer, ?_⟩
            intro location named
            obtain ⟨entry, logged, -, exchanged⟩ := mem_history order.loaded
            rcases mirrored.tables _ stored committable.stored location (pointer.trans named) with
              excused | ⟨_, _, _, mirrors⟩
            · exact .inl (excused.cons _)
            · rcases mirrored.loaded entry logged _ _ exchanged location named with
                excused | ⟨_, _, _, mirrors'⟩
              · exact .inl (excused.cons _)
              · exact .inr (mirrors.same_document documented mirrors')
    · obtain ⟨request, ident, loaded, stored, plan, check⟩ :=
        checked entry earlier snapshot commit result exchanged fresh
      refine ⟨request, ident, loaded, stored, plan, check.asked, check.planned, check.follows,
        check.replaces, check.pointer, fun location named => ?_⟩
      rcases check.document location named with excused | same
      · exact .inl (excused.cons _)
      · exact .inr same

/-- The store selects profiles whose prefix covers the table. -/
def ProfilesCover (pool : LakePool) : Prop :=
  ∀ entry ∈ pool.log, ∀ table storageProfile,
    entry.exchange = ⟨.storageProfileForTable table, .ok storageProfile⟩ →
    locationMatchesStorageProfilePrefix table.location storageProfile.locationPrefix = true

omit [ObjectStores] [SailRequirements] [SailTables] in
theorem PlaceAccepted.reason {engine : SailEngine} {asked : TableRequest} {caller : Nat}
    {location : String} {previous : Option String} {ident : TableIdent}
    (cover : ProfilesCover pool)
    (accepted : PlaceAccepted (Pool.history caller pool.log) location previous ident) :
    PointerReason engine asked ident previous location := by
  obtain ⟨table, storageProfile, answered, owner, valid⟩ := accepted
  obtain ⟨entry, logged, -, exchanged⟩ := mem_history answered
  exact .accepted table storageProfile owner (cover entry logged table storageProfile exchanged) valid

theorem ProfilesCover.step (tended : Tended service requests pool) (cover : ProfilesCover pool)
    (turn : Nat × Moment) : ProfilesCover (service.step pool turn) := by
  rcases step_taken tended.follows turn with same | ⟨request, answer, lake, taken⟩
  · rw [same]
    exact cover
  · intro entry logged table storageProfile exchanged
    rw [taken.log] at logged
    rcases List.mem_cons.mp logged with rfl | earlier
    · cases exchanged
      have served := taken.served
      simp only [Lake.serve, Moment.reach] at served
      obtain ⟨answered, -⟩ := Prod.mk.inj served
      split at answered
      · cases answered
      · exact (storageProfileForTable_selects answered).covers
    · exact cover entry earlier table storageProfile exchanged

theorem TurnTaken.founded (taken : TurnTaken service requests pool next turn request answer lake)
    (cover : ProfilesCover pool) :
    PointersFounded service.engine requests ⟨turn.1, pool.state, ⟨request, answer⟩⟩ := by
  have orderly := taken.orderly
  cases request with
  | createTable table =>
      intro location pointer
      change PointerReason service.engine (requests turn.1) table.ident none location
      generalize requests turn.1 = asked at orderly
      cases orderly with
      | brought _ _ _ _ _ named supplied => exact .named ⟨supplied, named.symm.trans pointer⟩
      | made _ _ _ _ other named accepted _ =>
          obtain rfl := Option.some.inj (named.symm.trans pointer)
          exact accepted.reason cover
      | registered _ _ _ _ _ _ _ named accepted =>
          obtain rfl := Option.some.inj (named.symm.trans pointer)
          exact accepted.reason cover
  | commitTable snapshot commit =>
      intro location pointer
      obtain ⟨_, _, _, _, _, request, ident, loaded, plan, asked, order⟩ := orderly
      obtain ⟨receipt, key, rfl⟩ := order.commit
      change PointerReason service.engine (requests turn.1) snapshot.ident
        loaded.metadataLocation location
      have named : plan.newMetadataLocation = some location := pointer
      have owner : loaded.ident = snapshot.ident := by
        have taken := order.snapshot
        simp only [TableCommitSnapshot.tryFromTable, bind_eq_ok, exists_unit, pure_eq,
          Except.ok.injEq] at taken
        obtain ⟨-, rfl⟩ := taken
        rfl
      cases object : plan.object with
      | some written =>
          have planned := (plan_object_some object).1
          obtain rfl := Option.some.inj (planned.symm.trans named)
          have accepted := order.accepted written.1 (by rw [object]; rfl)
          rw [owner] at accepted
          exact accepted.reason cover
      | none =>
          obtain ⟨draw, principal, prepared⟩ := order.planned
          have keeps := prepareCommit_keeps prepared (order.unwritten object)
          have either := keeps.location.symm.trans named
          change request.metadataLocation.or loaded.metadataLocation = some location at either
          cases requested : request.metadataLocation with
          | some other =>
              refine .named ?_
              rw [asked]
              rw [requested] at either
              exact ⟨keeps.named (by change request.metadataLocation.isSome = true; rw [requested]; rfl),
                requested.trans either, keeps.bare⟩
          | none =>
              rw [requested] at either
              exact .kept either
  | _ => trivial

end Runs

section Samples

attribute [local instance] constantExternal fileUrls fileObjects documentFiles textUuids untypedTables

end Samples

end LakeCat
