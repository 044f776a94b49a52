import LakeCat.TableHandlers

/-!
What the handlers keep to, whatever they are answered: an object is written for a
location that was accepted, once; it is deleted by the handler that wrote it,
before the store has taken it; and what the store is told is what was written.
-/

namespace LakeCat

open Fallible Asking

section Held

variable [MetadataFiles]

/-- What an exchange does to the object that a handler has written and may take back. -/
def heldAfter (held : Option (Place × Json)) : LakeExchange → Option (Place × Json)
  | ⟨.put place metadata, .stored⟩ => some (place, metadata)
  | ⟨.delete _, .deleted⟩ => none
  | ⟨.createTable _, .ok _⟩ => none
  | ⟨.commitTable .., .ok _⟩ => none
  | _ => held

def heldObject (history : List LakeExchange) : Option (Place × Json) :=
  history.foldl heldAfter none

theorem heldObject_append (history : List LakeExchange) (exchange : LakeExchange) :
    heldObject (history ++ [exchange]) = heldAfter (heldObject history) exchange := by
  rw [heldObject, List.foldl_append]
  rfl

/-- A handler ends with nothing in its hands, or with an object that it failed to delete. -/
def Concluded (history : List LakeExchange) : Prop :=
  heldObject history = none ∨ ∃ place metadata detail, heldObject history = some (place, metadata) ∧
    ⟨.delete place, .failed detail⟩ ∈ history

end Held

section Rules

variable [External] [LocationUrls] [ObjectStores] [MetadataFiles]

omit [ObjectStores] in
/-- The location was accepted for a table of this name. -/
def PlaceAccepted (history : List LakeExchange) (location : String) (previous : Option String)
    (ident : TableIdent) : Prop :=
  ∃ table storageProfile, ⟨.storageProfileForTable table, .ok storageProfile⟩ ∈ history ∧
    table.ident = ident ∧
    validateMetadataObjectLocation location previous storageProfile = .ok ()

/-- The handler holds the object that a plan asks for. -/
def HoldsPlanned (history : List LakeExchange) : Option (String × Json) → Prop
  | none => heldObject history = none
  | some (location, metadata) => ∃ place, objectPlace location = .ok place ∧
      heldObject history = some (place, metadata)

omit [ObjectStores] in
theorem PlaceAccepted.append {history : List LakeExchange} {location : String}
    {previous : Option String} {ident : TableIdent}
    (accepted : PlaceAccepted history location previous ident) (later : List LakeExchange) :
    PlaceAccepted (history ++ later) location previous ident := by
  obtain ⟨table, storageProfile, asked, rest⟩ := accepted
  exact ⟨table, storageProfile, List.mem_append_left _ asked, rest⟩

variable [SailRequirements] [SailTables]

/-- A commit is planned on a table that the handler has loaded, and follows its plan. -/
structure CommitOrder (engine : SailEngine) (request : CommitTableRequest)
    (history : List LakeExchange) (snapshot : TableCommitSnapshot) (commit : TableCommit)
    (ident : TableIdent) (current : TableRecord) (plan : CommitPlan) : Prop where
  loaded : ⟨.loadTable ident, .ok current⟩ ∈ history
  snapshot : TableCommitSnapshot.tryFromTable current = .ok snapshot
  planned : ∃ draw principal,
    engine.prepareCommit draw (request.preparation ident principal current) = .ok plan
  commit : ∃ receipt key, commit = plan.commit current receipt key (key.map fun _ => request.hash)
  accepted : ∀ location, plan.object.map Prod.fst = some location →
    PlaceAccepted history location current.metadataLocation current.ident
  holds : HoldsPlanned history plan.object
  unwritten : plan.object = none → plan.metadataWriteRequired = false

omit [SailRequirements] [SailTables] in
/-- The table is created with what was written for it, or with what the client names. -/
inductive CreateOrder (history : List LakeExchange) (table : TableRecord) : TableRequest → Prop
  | brought (catalogPrefix : CatalogPrefix) (ns : String)
      (identity : LakeCatResult RequestIdentity) (request : CreateTableRequest)
      (free : heldObject history = none)
      (named : table.metadataLocation = request.metadataLocation)
      (supplied : request.metadata.isObject = true) :
      CreateOrder history table (.create catalogPrefix ns identity request)
  | made (catalogPrefix : CatalogPrefix) (ns : String)
      (identity : LakeCatResult RequestIdentity) (request : CreateTableRequest)
      (location : String) (named : table.metadataLocation = some location)
      (accepted : PlaceAccepted history location none table.ident)
      (holds : HoldsPlanned history (some (location, table.metadata))) :
      CreateOrder history table (.create catalogPrefix ns identity request)
  | registered (catalogPrefix : CatalogPrefix) (ns : String)
      (identity : LakeCatResult RequestIdentity) (request : RegisterTableRequest)
      (place : Place) (file : File) (free : heldObject history = none)
      (named : table.metadataLocation = some request.metadataLocation)
      (accepted : PlaceAccepted history request.metadataLocation none table.ident)
      (located : objectPlace request.metadataLocation = .ok place)
      (read : ⟨.get place, .ok file⟩ ∈ history)
      (decoded : MetadataFiles.decode request.metadataLocation file = .ok table.metadata) :
      CreateOrder history table (.register catalogPrefix ns identity request)

/-- What the handler of a request may ask after what it was answered. -/
def Orderly (engine : SailEngine) (asked : TableRequest) (history : List LakeExchange) :
    LakeCall → Prop
  | .put place _ => heldObject history = none ∧ ∃ location previous ident,
      objectPlace location = .ok place ∧ PlaceAccepted history location previous ident
  | .delete place => ∃ metadata, heldObject history = some (place, metadata)
  | .createTable table => CreateOrder history table asked
  | .commitTable snapshot commit =>
      ∃ catalogPrefix ns table headers identity request ident current plan,
        asked = .commit catalogPrefix ns table headers identity request ∧
          CommitOrder engine request history snapshot commit ident current plan
  | .store op => asked = .store op
  | _ => True

variable {engine : SailEngine} {asked : TableRequest} {history : List LakeExchange}

attribute [local irreducible] validateMetadataObjectLocationShape validateMetadataObjectLocation

/-! The parts of the handlers. -/

theorem authorizeTable_orderly
    {ends : List LakeExchange → LakeCatResult AuthorizationReceipt → Prop}
    {action : CatalogAction} {description : String} {identity : RequestIdentity}
    {ident : TableIdent} (free : heldObject history = none)
    (later : ∀ history result, heldObject history = none → ends history result) :
    Program.Obeys (Orderly engine asked) ends
      (authorizeTable action description identity ident).run history := by
  refine Method.obeys_request_bind trivial fun answer => ?_
  have stillFree : heldObject (history ++ [⟨.authorize (.onTable action ident) identity, answer⟩]) =
      none := (heldObject_append history _).trans free
  refine Method.obeys_ofExcept_bind (fun receipt _ => ?_) fun error _ => later _ _ stillFree
  exact Method.obeys_ofExcept_bind (fun _ _ => later _ _ stillFree) fun _ _ => later _ _ stillFree

theorem replayedCommit_orderly
    {ends : List LakeExchange → LakeCatResult (Option TableRecord) → Prop} {ident : TableIdent}
    {idempotencyKey : Option String} {request : CommitTableRequest}
    (free : heldObject history = none)
    (later : ∀ history result, heldObject history = none → ends history result) :
    Program.Obeys (Orderly engine asked) ends
      (replayedCommit ident idempotencyKey request).run history := by
  cases idempotencyKey with
  | none => exact later _ _ free
  | some key =>
      refine Method.obeys_request_bind trivial fun answer => ?_
      exact later _ _ ((heldObject_append history _).trans free)

theorem recordTableEvent_orderly {ends : List LakeExchange → LakeCatResult TableRecord → Prop}
    {eventType : String} {receipt : AuthorizationReceipt} {table : TableRecord}
    (free : heldObject history = none)
    (later : ∀ history result, heldObject history = none → ends history result) :
    Program.Obeys (Orderly engine asked) ends
      (recordTableEvent eventType receipt table).run history := by
  refine Method.obeys_request_bind trivial fun drawn => ?_
  have drawnFree : heldObject (history ++ [⟨.draw, drawn⟩]) = none :=
    (heldObject_append history _).trans free
  refine Method.obeys_request_bind trivial fun recorded => ?_
  have stillFree := (heldObject_append _ ⟨.recordAuditEvent (CatalogAuditEvent.new eventType
    (some table.ident) receipt.principal (tableEventPayload eventType receipt table) drawn.now),
    recorded⟩).trans drawnFree
  exact Method.obeys_ofExcept_bind (fun _ _ => later _ _ stillFree) fun _ _ => later _ _ stillFree

theorem writeMetadataObject_orderly
    {ends : List LakeExchange → LakeCatResult PlannedMetadataWrite → Prop} {location : String}
    {metadata : Json} {previous : Option String} {ident : TableIdent}
    (free : heldObject history = none) (accepted : PlaceAccepted history location previous ident)
    (written : ∀ later, HoldsPlanned (history ++ later) (some (location, metadata)) →
      ends (history ++ later) (.ok ⟨location⟩))
    (refused : ∀ history error, heldObject history = none → ends history (.error error)) :
    Program.Obeys (Orderly engine asked) ends
      (writeMetadataObject location metadata).run history := by
  refine Method.obeys_ofExcept_bind (fun place located => ?_) fun error _ => refused _ error free
  refine Method.obeys_request_bind ⟨free, location, previous, ident, located, accepted⟩
    fun answer => ?_
  cases answer with
  | stored => exact written [_] ⟨place, located, heldObject_append history _⟩
  | alreadyExists => exact refused _ _ ((heldObject_append history _).trans free)
  | failed detail => exact refused _ _ ((heldObject_append history _).trans free)

theorem readMetadataObject_orderly {ends : List LakeExchange → LakeCatResult Json → Prop}
    {location : String} (free : heldObject history = none)
    (read : ∀ history place file metadata, heldObject history = none →
      objectPlace location = .ok place → ⟨.get place, .ok file⟩ ∈ history →
      MetadataFiles.decode location file = .ok metadata → ends history (.ok metadata))
    (refused : ∀ history error, heldObject history = none → ends history (.error error)) :
    Program.Obeys (Orderly engine asked) ends (readMetadataObject location).run history := by
  refine Method.obeys_ofExcept_bind (fun _ _ => ?_) fun error _ => refused _ error free
  refine Method.obeys_ofExcept_bind (fun place located => ?_) fun error _ => refused _ error free
  refine Method.obeys_request_bind trivial fun answer => ?_
  have stillFree := (heldObject_append history ⟨.get place, answer⟩).trans free
  refine Method.obeys_ofExcept_bind (fun file found => ?_) fun error _ => refused _ error stillFree
  apply Method.obeys_ofExcept
  cases decoded : MetadataFiles.decode location file with
  | error error => exact refused _ error stillFree
  | ok metadata =>
      cases answer with
      | error detail => cases found
      | ok bytes =>
          obtain rfl := Except.ok.inj found
          exact read _ place bytes metadata stillFree located
            (List.mem_append_right _ List.mem_cons_self) decoded

theorem deleteMetadataObject_orderly
    {ends : List LakeExchange → LakeCatResult (LakeCatResult Unit) → Prop} {location : String}
    {place : Place} {metadata : Json} (retries : Nat)
    (holds : heldObject history = some (place, metadata))
    (later : ∀ history result, Concluded history → ends history (.ok result)) :
    Program.Obeys (Orderly engine asked) ends
      (deleteMetadataObject location place retries).run history := by
  induction retries generalizing history with
  | zero =>
      refine Method.obeys_request_bind ⟨metadata, holds⟩ fun answer => ?_
      cases answer with
      | deleted => exact later _ _ (.inl (heldObject_append history _))
      | failed detail =>
          refine later _ _ (.inr ⟨place, metadata, detail, ?_, ?_⟩)
          · exact (heldObject_append history _).trans holds
          · exact List.mem_append_right _ List.mem_cons_self
  | succ retries ih =>
      refine Method.obeys_request_bind ⟨metadata, holds⟩ fun answer => ?_
      cases answer with
      | deleted => exact later _ _ (.inl (heldObject_append history _))
      | failed detail =>
          exact ih ((heldObject_append history ⟨.delete place, .failed detail⟩).trans holds)

/-- What was written for a planned object. -/
def writtenFor (object : Option (String × Json)) : Option PlannedMetadataWrite :=
  object.map fun object => ⟨object.1⟩

theorem cleanupPlannedMetadata_orderly
    {ends : List LakeExchange → LakeCatResult (LakeCatResult Unit) → Prop}
    {object : Option (String × Json)} {previous : Option String}
    (holds : HoldsPlanned history object)
    (apart : ∀ location, object.map Prod.fst = some location → previous ≠ some location)
    (later : ∀ history result, Concluded history → ends history (.ok result)) :
    Program.Obeys (Orderly engine asked) ends
      (cleanupPlannedMetadata (writtenFor object) previous).run history := by
  cases object with
  | none => exact later _ _ (.inl holds)
  | some object =>
      obtain ⟨place, located, held⟩ := holds
      rw [writtenFor, Option.map_some, cleanupPlannedMetadata, if_neg (apart object.1 rfl), located]
      exact deleteMetadataObject_orderly _ held later

theorem answerOrCleanUp_orderly {ends : List LakeExchange → LakeCatResult TableRecord → Prop}
    {answer : LakeCatResult TableRecord} {object : Option (String × Json)}
    {previous : Option String}
    (holds : ∀ error, answer = .error error → HoldsPlanned history object)
    (apart : ∀ location, object.map Prod.fst = some location → previous ≠ some location)
    (accepted : ∀ table, answer = .ok table → ends history (.ok table))
    (refused : ∀ history error, Concluded history → ends history (.error error)) :
    Program.Obeys (Orderly engine asked) ends
      (answerOrCleanUp answer (writtenFor object) previous).run history := by
  cases answer with
  | ok table => exact accepted table rfl
  | error error =>
      refine Method.obeys_bind ?_
      refine cleanupPlannedMetadata_orderly (holds error rfl) apart fun ended result concluded => ?_
      cases result with
      | ok done => exact refused ended _ concluded
      | error cleanupError => exact refused ended _ concluded

omit [External] [LocationUrls] [ObjectStores] [MetadataFiles] [SailRequirements] [SailTables] in
theorem plan_object (plan : CommitPlan) (location : String) :
    plan.object.map Prod.fst = some location ↔
      plan.metadataWriteRequired = true ∧ plan.newMetadataLocation = some location := by
  rw [CommitPlan.object]
  split
  next required =>
    rw [Option.map_map]
    cases plan.newMetadataLocation <;> simp [required]
  next absent => simp [absent]

omit [SailRequirements] [SailTables] in
/-- The object is still there to be taken back when the store refuses. -/
theorem HoldsPlanned.refused {object : Option (String × Json)} (holds : HoldsPlanned history object)
    {exchange : LakeExchange} (kept : heldAfter (heldObject history) exchange = heldObject history) :
    HoldsPlanned (history ++ [exchange]) object := by
  have same := (heldObject_append history exchange).trans kept
  cases object with
  | none => exact same.trans holds
  | some object =>
      obtain ⟨place, located, held⟩ := holds
      exact ⟨place, located, same.trans held⟩

theorem writePlannedMetadata_orderly
    {ends : List LakeExchange → LakeCatResult (Option PlannedMetadataWrite) → Prop}
    {plan : CommitPlan} {previous : Option String} {ident : TableIdent}
    (free : heldObject history = none)
    (accepted : ∀ location, plan.object.map Prod.fst = some location →
      PlaceAccepted history location previous ident)
    (written : ∀ later, HoldsPlanned (history ++ later) plan.object →
      ends (history ++ later) (.ok (writtenFor plan.object)))
    (refused : ∀ history error, heldObject history = none → ends history (.error error)) :
    Program.Obeys (Orderly engine asked) ends (writePlannedMetadata plan).run history := by
  rw [writePlannedMetadata]
  cases planned : plan.object with
  | none =>
      rw [planned] at written
      have now := written [] (by rw [List.append_nil]; exact free)
      rw [List.append_nil] at now
      exact now
  | some object =>
      rw [planned] at accepted written
      refine Method.obeys_bind ?_
      exact writeMetadataObject_orderly free (accepted object.1 rfl) written refused

omit [ObjectStores] [MetadataFiles] [SailRequirements] [SailTables] in
theorem validatePlanned_location {plan : CommitPlan} {current : Option String}
    {storageProfile : StorageProfile}
    (valid : validatePlannedMetadataLocation plan current storageProfile = .ok ())
    {location : String} (planned : plan.object.map Prod.fst = some location) :
    validateMetadataObjectLocation location current storageProfile = .ok () := by
  obtain ⟨required, named⟩ := (plan_object plan location).mp planned
  rw [validatePlannedMetadataLocation, if_pos required, named, okOr_some, ok_bind] at valid
  exact valid

omit [ObjectStores] [MetadataFiles] [SailRequirements] [SailTables] in
theorem validatePlanned_unwritten {plan : CommitPlan} {current : Option String}
    {storageProfile : StorageProfile}
    (valid : validatePlannedMetadataLocation plan current storageProfile = .ok ())
    (absent : plan.object = none) : plan.metadataWriteRequired = false := by
  by_contra written
  rw [Bool.not_eq_false] at written
  rw [CommitPlan.object, if_pos written, Option.map_eq_none_iff] at absent
  rw [validatePlannedMetadataLocation, if_pos written, absent] at valid
  cases valid

omit [ObjectStores] [MetadataFiles] [SailRequirements] [SailTables] in
theorem validateMetadataObjectLocation_apart {location : String} {current : Option String}
    {storageProfile : StorageProfile}
    (accepted : validateMetadataObjectLocation location current storageProfile = .ok ()) :
    current ≠ some location := by
  simp only [validateMetadataObjectLocation, bind_eq_ok, exists_unit, rejectIf_ok] at accepted
  exact accepted.1

/-! The handlers. -/

section Handlers

variable {ends : List LakeExchange → LakeCatResult TableRecord → Prop}
  {identity : LakeCatResult RequestIdentity} {warehouse : WarehouseName}

theorem plannedCommit_orderly {catalogPrefix : CatalogPrefix} {ns name : String}
    {headers : HeaderMap} {request : CommitTableRequest} {ident : TableIdent}
    {receipt : AuthorizationReceipt} {idempotencyKey : Option String}
    (commits : asked = .commit catalogPrefix ns name headers identity request)
    (free : heldObject history = none)
    (later : ∀ history result, Concluded history → ends history result) :
    Program.Obeys (Orderly engine asked) ends
      (plannedCommit engine ident receipt idempotencyKey request).run history := by
  refine Method.obeys_request_bind trivial fun answer => ?_
  have loadedFree := (heldObject_append history ⟨.loadTable ident, answer⟩).trans free
  refine Method.obeys_ofExcept_bind (fun current loaded => ?_) fun _ _ => later _ _ (.inl loadedFree)
  subst loaded
  refine Method.obeys_request_bind trivial fun answer => ?_
  have selectedFree :=
    (heldObject_append _ ⟨.storageProfileForTable current, answer⟩).trans loadedFree
  refine Method.obeys_ofExcept_bind (fun storageProfile selected => ?_)
    fun _ _ => later _ _ (.inl selectedFree)
  subst selected
  refine Method.obeys_ofExcept_bind (fun snapshot taken => ?_)
    fun _ _ => later _ _ (.inl selectedFree)
  refine Method.obeys_request_bind trivial fun drawn => ?_
  have drawnFree := (heldObject_append _ ⟨.draw, drawn⟩).trans selectedFree
  refine Method.obeys_ofExcept_bind (fun plan planned => ?_) fun _ _ => later _ _ (.inl drawnFree)
  refine Method.obeys_ofExcept_bind (fun _ valid => ?_) fun _ _ => later _ _ (.inl drawnFree)
  have loaded : ⟨.loadTable ident, .ok current⟩ ∈ history ++ [⟨.loadTable ident, .ok current⟩] ++
      [⟨.storageProfileForTable current, .ok storageProfile⟩] ++ [⟨.draw, drawn⟩] := by simp
  have accepted (location : String) (object : plan.object.map Prod.fst = some location) :
      PlaceAccepted (history ++ [⟨.loadTable ident, .ok current⟩] ++
        [⟨.storageProfileForTable current, .ok storageProfile⟩] ++ [⟨.draw, drawn⟩]) location
        current.metadataLocation current.ident :=
    ⟨current, storageProfile, by simp, rfl, validatePlanned_location valid object⟩
  refine Method.obeys_bind ?_
  refine writePlannedMetadata_orderly drawnFree accepted (fun written holds => ?_)
    fun _ _ free => later _ _ (.inl free)
  refine Method.obeys_request_bind ⟨catalogPrefix, ns, name, headers, identity, request, ident,
    current, plan, commits, ?_⟩ fun answer => ?_
  · exact {
      loaded := List.mem_append_left _ loaded
      snapshot := taken
      planned := ⟨drawn.plan, receipt.principal, planned⟩
      commit := ⟨receipt, idempotencyKey, rfl⟩
      accepted := fun location object => (accepted location object).append written
      holds := holds
      unwritten := validatePlanned_unwritten valid }
  · refine answerOrCleanUp_orderly (fun error refused => ?_) (fun location object => ?_)
      (fun table accepted => ?_) fun _ _ => later _ _
    · subst refused
      exact holds.refused rfl
    · exact validateMetadataObjectLocation_apart (validatePlanned_location valid object)
    · subst accepted
      exact later _ _ (.inl (heldObject_append _ _))

theorem commitTableInWarehouse_orderly {catalogPrefix : CatalogPrefix} {ns name : String}
    {headers : HeaderMap} {request : CommitTableRequest}
    (commits : asked = .commit catalogPrefix ns name headers identity request)
    (free : heldObject history = none)
    (later : ∀ history result, Concluded history → ends history result) :
    Program.Obeys (Orderly engine asked) ends
      (commitTableInWarehouse engine warehouse ns name headers identity request).run history := by
  have failed (error : LakeCatError) := later history (.error error) (.inl free)
  refine Method.obeys_ofExcept_bind (fun idempotencyKey _ => ?_) fun error _ => failed error
  refine Method.obeys_ofExcept_bind (fun identity _ => ?_) fun error _ => failed error
  refine Method.obeys_ofExcept_bind (fun ident _ => ?_) fun error _ => failed error
  refine Method.obeys_bind ?_
  refine authorizeTable_orderly free fun authorized result free => ?_
  cases result with
  | error error => exact later _ _ (.inl free)
  | ok receipt =>
      refine Method.obeys_bind ?_
      refine replayedCommit_orderly free fun replayed result free => ?_
      cases result with
      | error error => exact later _ _ (.inl free)
      | ok answered =>
          cases answered with
          | some table => exact later _ _ (.inl free)
          | none => exact plannedCommit_orderly commits free later

theorem writeInitialMetadata_orderly
    {ends : List LakeExchange → LakeCatResult (Option PlannedMetadataWrite) → Prop}
    {planned : PlannedTable} {table : TableRecord} (free : heldObject history = none)
    (written : ∀ history location, table.metadataLocation = some location →
      PlaceAccepted history location none table.ident →
      HoldsPlanned history (some (location, table.metadata)) →
      ends history (.ok (writtenFor (some (location, table.metadata)))))
    (unwritten : planned.persistInitialMetadata = false → ends history (.ok none))
    (refused : ∀ history error, heldObject history = none → ends history (.error error)) :
    Program.Obeys (Orderly engine asked) ends (writeInitialMetadata planned table).run history := by
  rw [writeInitialMetadata]
  split
  next =>
    refine Method.obeys_request_bind trivial fun answer => ?_
    have selectedFree :=
      (heldObject_append history ⟨.storageProfileForTable table, answer⟩).trans free
    refine Method.obeys_ofExcept_bind (fun storageProfile selected => ?_)
      fun error _ => refused _ error selectedFree
    subst selected
    refine Method.obeys_ofExcept_bind (fun location named => ?_)
      fun error _ => refused _ error selectedFree
    rw [okOr_ok] at named
    refine Method.obeys_ofExcept_bind (fun _ valid => ?_)
      fun error _ => refused _ error selectedFree
    have accepted : PlaceAccepted (history ++ [⟨.storageProfileForTable table, .ok storageProfile⟩])
        location none table.ident :=
      ⟨table, storageProfile, List.mem_append_right _ List.mem_cons_self, rfl, valid⟩
    refine Method.obeys_bind ?_
    exact writeMetadataObject_orderly selectedFree accepted
      (fun later => written _ location named (accepted.append later)) refused
  next absent => exact unwritten (by simpa using absent)

omit [External] [LocationUrls] [ObjectStores] [MetadataFiles] [SailRequirements] [SailTables] in
/-- A document that the client brings is not written. -/
theorem CreateTableRequest.plan_unwritten {request : CreateTableRequest}
    {tableLocationRoot : Option String} {ident : TableIdent} {given : Surroundings}
    {planned : PlannedTable} (made : request.plan tableLocationRoot ident given = .ok planned)
    (unwritten : planned.persistInitialMetadata = false) :
    request.metadata.isObject = true ∧ planned.metadataLocation = request.metadataLocation := by
  rw [plan] at made
  split at made
  next supplied =>
    simp only [bind_eq_ok, pure_eq, Except.ok.injEq] at made
    obtain ⟨_, -, rfl⟩ := made
    exact ⟨supplied, rfl⟩
  next =>
    split at made
    · obtain rfl := Except.ok.inj made
      cases unwritten
    · cases made

theorem createTableInWarehouse_orderly {catalogPrefix : CatalogPrefix} {ns : String}
    {tableLocationRoot : Option String} {request : CreateTableRequest}
    (creates : asked = .create catalogPrefix ns identity request)
    (free : heldObject history = none)
    (later : ∀ history result, Concluded history → ends history result) :
    Program.Obeys (Orderly engine asked) ends
      (createTableInWarehouse tableLocationRoot warehouse ns identity request).run history := by
  have failed (error : LakeCatError) := later history (.error error) (.inl free)
  refine Method.obeys_ofExcept_bind (fun identity _ => ?_) fun error _ => failed error
  refine Method.obeys_ofExcept_bind (fun name _ => ?_) fun error _ => failed error
  refine Method.obeys_ofExcept_bind (fun ident _ => ?_) fun error _ => failed error
  refine Method.obeys_bind ?_
  refine authorizeTable_orderly free fun authorized result free => ?_
  cases result with
  | error error => exact later _ _ (.inl free)
  | ok receipt =>
      refine Method.obeys_request_bind trivial fun drawn => ?_
      have drawnFree := (heldObject_append authorized ⟨.draw, drawn⟩).trans free
      refine Method.obeys_ofExcept_bind (fun planned made => ?_) fun _ _ =>
        later _ _ (.inl drawnFree)
      generalize building : { TableRecord.new ident planned.location planned.metadataLocation
          planned.metadata receipt.principal drawn.now with
        staged := request.stageCreate.getD false } = table
      have named : table.metadataLocation = planned.metadataLocation := by rw [← building]; rfl
      -- After the write, whatever is held, the table is created and its event is recorded.
      have finishes (object : Option (String × Json)) (history : List LakeExchange)
          (holds : HoldsPlanned history object) (order : CreateOrder history table asked) :
          Program.Obeys (Orderly engine asked) ends (do
            let answer ← ask (.createTable table)
            let created ← answerOrCleanUp answer (writtenFor object) none
            recordTableEvent "table.created" receipt created : TableHandler TableRecord).run
          history := by
        refine Method.obeys_request_bind order fun answer => ?_
        refine Method.obeys_bind ?_
        refine answerOrCleanUp_orderly (fun error refused => ?_) (fun _ _ => nofun)
          (fun created accepted => ?_) fun _ _ => later _ _
        · subst refused
          exact holds.refused rfl
        · subst accepted
          exact recordTableEvent_orderly (heldObject_append _ _) fun _ _ free =>
            later _ _ (.inl free)
      refine Method.obeys_bind ?_
      refine writeInitialMetadata_orderly drawnFree (fun _ location found accepted holds => ?_)
        (fun unwritten => ?_) fun _ _ free => later _ _ (.inl free)
      · refine finishes _ _ holds ?_
        rw [creates]
        exact .made _ _ _ _ location found accepted holds
      · obtain ⟨supplied, brought⟩ := CreateTableRequest.plan_unwritten made unwritten
        refine finishes none _ drawnFree ?_
        rw [creates]
        exact .brought _ _ _ _ drawnFree (named.trans brought) supplied

theorem createRegistered_orderly {receipt : AuthorizationReceipt} {table : TableRecord}
    (free : heldObject history = none) (order : CreateOrder history table asked)
    (later : ∀ history result, Concluded history → ends history result) :
    Program.Obeys (Orderly engine asked) ends (do
      let answer ← ask (.createTable table)
      let created ← Method.ofExcept answer
      recordTableEvent "table.registered" receipt created : TableHandler TableRecord).run history := by
  refine Method.obeys_request_bind order fun answer => ?_
  cases answer with
  | ok created =>
      have gone : heldObject (history ++ [⟨.createTable table, .ok created⟩]) = none :=
        heldObject_append _ _
      exact Method.obeys_ofExcept_bind (fun _ _ => recordTableEvent_orderly gone
        fun _ _ free => later _ _ (.inl free)) fun _ _ => later _ _ (.inl gone)
  | error error =>
      have stillFree := (heldObject_append history ⟨.createTable table, .error error⟩).trans free
      exact Method.obeys_ofExcept_bind (fun _ created => nomatch created) fun _ _ =>
        later _ _ (.inl stillFree)

theorem registerTableInWarehouse_orderly {catalogPrefix : CatalogPrefix} {ns : String}
    {request : RegisterTableRequest} (registers : asked = .register catalogPrefix ns identity request)
    (free : heldObject history = none)
    (later : ∀ history result, Concluded history → ends history result) :
    Program.Obeys (Orderly engine asked) ends
      (registerTableInWarehouse warehouse ns identity request).run history := by
  have failed (error : LakeCatError) := later history (.error error) (.inl free)
  refine Method.obeys_ofExcept_bind (fun name _ => ?_) fun error _ => failed error
  refine Method.obeys_ofExcept_bind (fun ident _ => ?_) fun error _ => failed error
  refine Method.obeys_ofExcept_bind (fun identity _ => ?_) fun error _ => failed error
  refine Method.obeys_bind ?_
  refine authorizeTable_orderly free fun authorized result free => ?_
  cases result with
  | error error => exact later _ _ (.inl free)
  | ok receipt =>
      refine Method.obeys_ofExcept_bind (fun _ _ => ?_) fun _ _ => later _ _ (.inl free)
      refine Method.obeys_request_bind trivial fun found => ?_
      have foundFree :=
        (heldObject_append authorized ⟨.loadNamespace ident.warehouse ident.ns, found⟩).trans free
      refine Method.obeys_ofExcept_bind (fun _ _ => ?_) fun _ _ => later _ _ (.inl foundFree)
      refine Method.obeys_bind ?_
      refine readMetadataObject_orderly foundFree
        (fun history place file metadata free located read decoded => ?_)
        fun _ _ free => later _ _ (.inl free)
      refine Method.obeys_ofExcept_bind (fun location _ => ?_) fun _ _ => later _ _ (.inl free)
      refine Method.obeys_request_bind trivial fun drawn => ?_
      have drawnFree := (heldObject_append history ⟨.draw, drawn⟩).trans free
      generalize building : TableRecord.new ident location (some request.metadataLocation) metadata
        receipt.principal drawn.now = table
      refine Method.obeys_ofExcept_bind (fun _ _ => ?_) fun _ _ => later _ _ (.inl drawnFree)
      refine Method.obeys_request_bind trivial fun answer => ?_
      have selectedFree :=
        (heldObject_append _ ⟨.storageProfileForTable table, answer⟩).trans drawnFree
      refine Method.obeys_ofExcept_bind (fun storageProfile selected => ?_)
        fun _ _ => later _ _ (.inl selectedFree)
      subst selected
      refine Method.obeys_ofExcept_bind (fun _ valid => ?_) fun _ _ => later _ _ (.inl selectedFree)
      have accepted : PlaceAccepted (history ++ [⟨.draw, drawn⟩] ++
          [⟨.storageProfileForTable table, .ok storageProfile⟩]) request.metadataLocation none
          table.ident :=
        ⟨table, storageProfile, List.mem_append_right _ List.mem_cons_self, rfl, valid⟩
      refine createRegistered_orderly selectedFree ?_ later
      rw [registers]
      refine .registered _ _ _ _ place file selectedFree ?_ accepted located
        (List.mem_append_left _ (List.mem_append_left _ read)) ?_
      · rw [← building]
        rfl
      · rw [← building]
        exact decoded

end Handlers

theorem onWarehouse_orderly {ends : List LakeExchange → LakeCatResult (Option TableRecord) → Prop}
    {catalogPrefix : CatalogPrefix} {handler : WarehouseName → TableHandler TableRecord}
    (free : heldObject history = none)
    (handled : ∀ warehouse history, heldObject history = none →
      Program.Obeys (Orderly engine asked) (fun history _ => Concluded history)
        (handler warehouse).run history)
    (later : ∀ history result, Concluded history → ends history result) :
    Program.Obeys (Orderly engine asked) ends (onWarehouse catalogPrefix handler).run history := by
  refine Method.obeys_request_bind trivial fun answer => ?_
  have foundFree := (heldObject_append history ⟨.warehouse catalogPrefix, answer⟩).trans free
  refine Method.obeys_ofExcept_bind (fun warehouse _ => ?_) fun _ _ => later _ _ (.inl foundFree)
  refine Method.obeys_bind ?_
  apply (handled warehouse _ foundFree).imp
  intro history result concluded
  cases result with
  | ok table => exact later _ _ concluded
  | error error => exact later _ _ concluded

/-- Every handler keeps the order, whatever it is answered. -/
theorem handler_orderly (service : TableService) (asked : TableRequest) :
    Program.Obeys (Orderly service.engine asked) (fun history _ => Concluded history)
      (service.handler asked).run [] := by
  cases asked with
  | create catalogPrefix ns identity request =>
      exact onWarehouse_orderly rfl (fun warehouse _ free =>
        createTableInWarehouse_orderly rfl free fun _ _ concluded => concluded)
        fun _ _ concluded => concluded
  | register catalogPrefix ns identity request =>
      exact onWarehouse_orderly rfl (fun warehouse _ free =>
        registerTableInWarehouse_orderly rfl free fun _ _ concluded => concluded)
        fun _ _ concluded => concluded
  | commit catalogPrefix ns table headers identity request =>
      exact onWarehouse_orderly rfl (fun warehouse _ free =>
        commitTableInWarehouse_orderly rfl free fun _ _ concluded => concluded)
        fun _ _ concluded => concluded
  | store op =>
      refine Method.obeys_request_bind rfl fun answer => ?_
      have stillFree : heldObject ([] ++ [⟨.store op, answer⟩]) = none := heldObject_append _ _
      exact Method.obeys_ofExcept_bind (fun _ _ => .inl stillFree) fun _ _ => .inl stillFree

end Rules

end LakeCat
