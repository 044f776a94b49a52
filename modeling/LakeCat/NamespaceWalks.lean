import LakeCat.AuthorizationNames
import LakeCat.BootstrapRequests
import LakeCat.ChangeEvents
import LakeCat.EventIds
import LakeCat.NamespaceTrees
import LakeCat.ReceiptEvidence

/-!
The request that lists the namespaces below a parent, and a client that walks
the tree with it: it asks without a parent first, and then with each namespace
that a response shows, in any order.
-/

namespace LakeCat

open Fallible ForestWalk

section

variable [External]

def authorizeNamespaceList (state : LakeCatState) (store : MemoryState)
    (identity : RequestIdentity) (now : Timestamp) : LakeCatResult AuthorizationReceipt := do
  let receipt ← authorize state store identity .namespaceList none now
  catalogCapabilityFromReceipt receipt .namespaceList "list namespaces"

def namespaceListedEvent (receipt : AuthorizationReceipt) (warehouse : WarehouseName)
    (namespaces : List Namespace) (now : Timestamp) : CatalogAuditEvent :=
  .new "namespace.listed" none receipt.principal
    (.object [("event-type", .str "namespace.listed"), ("authorization-receipt", receipt.toJson),
      ("warehouse", .str warehouse.value), ("namespace-count", .int namespaces.length),
      ("namespace-paths", strings (namespaces.map Namespace.path))]) now

/-- The clock is read for the receipt and again for the event. -/
def listNamespacesInWarehouse (warehouse : WarehouseName) (state : LakeCatState)
    (store : MemoryState) (identity : RequestIdentity) (query : ListNamespacesQuery)
    (checked recorded : Timestamp) : LakeCatResult (NamespacePage × MemoryState) := do
  let receipt ← authorizeNamespaceList state store identity checked
  let parent ← namespaceParent query.parent
  checkSome (fun parent => do let _ ← store.loadNamespace warehouse parent) parent
  let namespaces ← store.listNamespaces warehouse
  let page ← namespacePage namespaces parent query
  let written ← store.recordAuditEvent
    (namespaceListedEvent receipt warehouse page.namespaces recorded)
  return (page, written.2)

def listNamespaces (catalogPrefix : CatalogPrefix) (state : LakeCatState) (store : MemoryState)
    (identity : RequestIdentity) (query : ListNamespacesQuery) (checked recorded : Timestamp) :
    LakeCatResult (NamespacePage × MemoryState) := do
  let warehouse ← catalogPrefix.warehouse state store
  listNamespacesInWarehouse warehouse state store identity query checked recorded

/-- A client, with the clock readings of its requests and the order it makes them in. -/
structure NamespaceWalker where
  state : LakeCatState
  catalogPrefix : CatalogPrefix
  identity : RequestIdentity
  checked : Nat → Timestamp
  recorded : Nat → Timestamp
  pick : Nat → Nat

/-- A walk on its way: the parents that are left to ask for and what was shown so far. -/
structure NamespaceWalk where
  store : MemoryState
  turn : Nat
  todo : List (Option Namespace)
  visited : List Namespace

def NamespaceWalk.start (store : MemoryState) : NamespaceWalk :=
  ⟨store, 0, [none], []⟩

/-- The parent at a place is answered, and what was shown under it is left to ask for. -/
def NamespaceWalk.answered (walk : NamespaceWalk) (place : Nat)
    (answer : NamespacePage × MemoryState) : NamespaceWalk where
  store := answer.2
  turn := walk.turn + 1
  todo := walk.todo.eraseIdx place ++ answer.1.namespaces.map some
  visited := walk.visited ++ answer.1.namespaces

namespace NamespaceWalker

def place (walker : NamespaceWalker) (walk : NamespaceWalk) : Nat :=
  walker.pick walk.turn % walk.todo.length

/-- One request without paging, for the parent as the protocol spells it. -/
def ask (walker : NamespaceWalker) (walk : NamespaceWalk) (parent : Option Namespace) :
    LakeCatResult (NamespacePage × MemoryState) :=
  listNamespaces walker.catalogPrefix walker.state walk.store walker.identity
    ⟨parent.map Namespace.restPath, none, none⟩ (walker.checked walk.turn)
    (walker.recorded walk.turn)

/-- The next request, if a parent is left. -/
def advance (walker : NamespaceWalker) (walk : NamespaceWalk) : LakeCatResult NamespaceWalk :=
  match walk.todo[walker.place walk]? with
  | none => .ok walk
  | some parent => do return walk.answered (walker.place walk) (← walker.ask walk parent)

/-- So many requests, up to the first that fails. -/
def walk (walker : NamespaceWalker) : Nat → NamespaceWalk → LakeCatResult NamespaceWalk
  | 0, walk => .ok walk
  | turns + 1, walk => do walker.walk turns (← walker.advance walk)

/-- The walk ends without a failed request, and has been shown each stored namespace once. -/
def Discovers (walker : NamespaceWalker) (store : MemoryState) (warehouse : WarehouseName) : Prop :=
  ∃ turns final, walker.walk turns (.start store) = .ok final ∧ final.todo = [] ∧
    final.visited.Perm (store.storedNamespaces warehouse)

/-- What the walk can record at a turn: the event of a request for the top or for a stored
parent. -/
structure Records (walker : NamespaceWalker) (store : MemoryState) (warehouse : WarehouseName)
    (turn : Nat) (parent : Option Namespace) (event : CatalogAuditEvent) : Prop where
  within : turn ≤ (store.storedNamespaces warehouse).length
  stored : ∀ ns, parent = some ns → store.namespaceExists warehouse ns = true
  made : ∃ receipt,
    authorizeNamespaceList walker.state store walker.identity (walker.checked turn) = .ok receipt ∧
      event = namespaceListedEvent receipt warehouse (store.shownUnder warehouse parent)
        (walker.recorded turn)

/-- The client may list the namespaces of the warehouse, and no event of its walk has the id of
another or of one that is in the outbox. -/
structure Heard (walker : NamespaceWalker) (store : MemoryState) (warehouse : WarehouseName) :
    Prop where
  known : walker.catalogPrefix.warehouse walker.state store = .ok warehouse
  allowed : ∀ turn ≤ (store.storedNamespaces warehouse).length, ∃ receipt,
    authorizeNamespaceList walker.state store walker.identity (walker.checked turn) = .ok receipt
  fresh : ∀ turn parent event, walker.Records store warehouse turn parent event →
    ∀ other ∈ store.outboxEvents, other.eventId ≠ (MemoryState.auditOutbox event).eventId
  apart : ∀ turn later parent otherParent event other, turn < later → parent ≠ otherParent →
    walker.Records store warehouse turn parent event →
    walker.Records store warehouse later otherParent other →
    (MemoryState.auditOutbox event).eventId ≠ (MemoryState.auditOutbox other).eventId

end NamespaceWalker

/-! What one request answers. -/

theorem namespaceListed_recordable (receipt : AuthorizationReceipt) (warehouse : WarehouseName)
    (namespaces : List Namespace) (now : Timestamp) :
    (namespaceListedEvent receipt warehouse namespaces now).validateRecordable = .ok () := by
  have payload (key : String) :
      (namespaceListedEvent receipt warehouse namespaces now).payload.get key =
        List.lookup key [("namespace-paths", strings (namespaces.map Namespace.path)),
          ("namespace-count", .int namespaces.length), ("warehouse", .str warehouse.value),
          ("authorization-receipt", receipt.toJson), ("event-type", .str "namespace.listed")] := by
    rw [namespaceListedEvent, CatalogAuditEvent.new, Json.get_object]
    rfl
  have typed : (namespaceListedEvent receipt warehouse namespaces now).payload.get "event-type" =
      some (.str "namespace.listed") := by
    rw [payload]
    rfl
  have listed : (namespaceListedEvent receipt warehouse namespaces now).payload.get
      "authorization-receipt" = some receipt.toJson := by
    rw [payload]
    rfl
  have action : (receipt.toJson.get "action").bind Json.asStr = some receipt.action.asStr := by
    rw [AuthorizationReceipt.toJson, Json.get_object]
    rfl
  have principal : receipt.toJson.get "principal" = some receipt.principal.toJson := by
    rw [AuthorizationReceipt.toJson, Json.get_object]
    rfl
  have named : isBlank receipt.action.asStr = false := by
    cases receipt.action <;> decide
  have owner : validateReceiptPrincipal receipt.principal receipt.toJson = .ok () := by
    rw [validateReceiptPrincipal, action, okOr_some, ok_bind, rejectIf_neg _ (by simp [named]),
      ok_bind, principal, checkSome, Principal.fromJson_toJson, okOr_some, ok_bind,
      rejectIf_neg _ (by simp)]
  have event : (namespaceListedEvent receipt warehouse namespaces now).eventType =
      "namespace.listed" := rfl
  have table : (namespaceListedEvent receipt warehouse namespaces now).table = none := rfl
  have hashed : (namespaceListedEvent receipt warehouse namespaces now).requestHash =
      some (contentHashJson (namespaceListedEvent receipt warehouse namespaces now).payload) := rfl
  have caller : (namespaceListedEvent receipt warehouse namespaces now).principal =
      receipt.principal := rfl
  rw [CatalogAuditEvent.validateRecordable, event, typed, hashed, table, caller,
    rejectIf_neg _ (by decide), ok_bind, Option.bind_some, Json.asStr, okOr_some, ok_bind,
    rejectIf_neg _ (by simp), ok_bind, okOr_some, ok_bind, rejectIf_neg _ (by simp), ok_bind,
    validateAuditPayloadAuthorizationPrincipal, listed, checkSome, owner, ok_bind, checkSome]

omit [External] in
theorem namespacePage_whole (namespaces : List Namespace) (parent : Option Namespace)
    (text : Option String) :
    namespacePage namespaces parent ⟨text, none, none⟩ =
      .ok ⟨namespacesUnder namespaces parent, none⟩ := by
  rw [namespacePage, PageRequest.fromQuery, if_pos ⟨rfl, rfl⟩, ok_bind]
  rfl

/-- A request is answered when the client may list, the parent is stored and the event is new. -/
theorem listNamespacesInWarehouse_ok (warehouse : WarehouseName) (state : LakeCatState)
    (store next : MemoryState) (identity : RequestIdentity) (text : Option String)
    (checked recorded : Timestamp) (page : NamespacePage) :
    listNamespacesInWarehouse warehouse state store identity ⟨text, none, none⟩ checked recorded =
        .ok (page, next) ↔
      ∃ receipt parent, authorizeNamespaceList state store identity checked = .ok receipt ∧
        namespaceParent text = .ok parent ∧
        (∀ ns, parent = some ns → store.namespaceExists warehouse ns = true) ∧
        page = ⟨store.shownUnder warehouse parent, none⟩ ∧
        store.recordAuditEvent (namespaceListedEvent receipt warehouse
          (store.shownUnder warehouse parent) recorded) = .ok ((), next) := by
  have loaded (parent : Option Namespace) :
      checkSome (fun parent => do let _ ← store.loadNamespace warehouse parent) parent = .ok () ↔
        ∀ ns, parent = some ns → store.namespaceExists warehouse ns = true := by
    rw [checkSome_ok]
    refine forall_congr' fun ns => imp_congr_right fun _ => ?_
    simp [MemoryState.loadNamespace, bind_eq_ok, rejectIf_ok]
  have listed : store.listNamespaces warehouse = .ok (store.storedNamespaces warehouse) := rfl
  have shown (parent : Option Namespace)
      (stored : ∀ ns, parent = some ns → store.namespaceExists warehouse ns = true) :
      namespacesUnder (store.storedNamespaces warehouse) parent =
        store.shownUnder warehouse parent := by
    cases parent with
    | none => rfl
    | some ns => rw [MemoryState.shownUnder, if_pos (stored ns rfl)]
  simp only [listNamespacesInWarehouse, bind_eq_ok, exists_unit, listed,
    namespacePage_whole, Except.ok.injEq, exists_eq_left', pure_eq, Prod.mk.injEq]
  constructor
  · rintro ⟨receipt, allowed, parent, read, stored, ⟨_, after⟩, written, rfl, rfl⟩
    have found := (loaded parent).mp stored
    rw [shown parent found] at written
    exact ⟨receipt, parent, allowed, read, found, by rw [shown parent found], written⟩
  · rintro ⟨receipt, parent, allowed, read, stored, rfl, written⟩
    refine ⟨receipt, allowed, parent, read, (loaded parent).mpr stored, ((), next), ?_, ?_, rfl⟩
    · rw [shown parent stored]
      exact written
    · rw [shown parent stored]

/-! The walk. -/

namespace NamespaceWalker

variable {walker : NamespaceWalker} {store : MemoryState} {warehouse : WarehouseName}
  {walk next : NamespaceWalk} {asked : List (Option Namespace)}

/-- A walk that started in this store: the namespaces are as they were, and each event that was
added is that of a parent it has asked for. -/
structure Follows (walker : NamespaceWalker) (store : MemoryState) (warehouse : WarehouseName)
    (asked : List (Option Namespace)) (walk : NamespaceWalk) : Prop where
  covers : Covers (store.shownUnder warehouse) asked walk.todo walk.visited
  turn : walk.turn = asked.length
  namespaces : walk.store.namespaces = store.namespaces
  warehouses : walk.store.warehouses = store.warehouses
  events : ∀ other ∈ walk.store.outboxEvents, other ∈ store.outboxEvents ∨
    ∃ turn parent event, turn < walk.turn ∧ parent ∈ asked ∧
      walker.Records store warehouse turn parent event ∧
      other = MemoryState.auditOutbox event

theorem Follows.start (walker : NamespaceWalker) (store : MemoryState)
    (warehouse : WarehouseName) : walker.Follows store warehouse [] (.start store) where
  covers := .start _
  turn := rfl
  namespaces := rfl
  warehouses := rfl
  events := fun _ member => .inl member

omit [External] in
theorem shownUnder_congr {later : MemoryState} (same : later.namespaces = store.namespaces)
    (parent : Option Namespace) :
    later.shownUnder warehouse parent = store.shownUnder warehouse parent := by
  have stored : later.storedNamespaces warehouse = store.storedNamespaces warehouse := by
    rw [MemoryState.storedNamespaces, MemoryState.namespacesOf, same]
    rfl
  cases parent with
  | none => rw [MemoryState.shownUnder, MemoryState.shownUnder, stored]
  | some ns =>
      rw [MemoryState.shownUnder, MemoryState.shownUnder, stored,
        MemoryState.namespaceExists_congr same]

theorem warehouse_congr {later : MemoryState} (same : later.warehouses = store.warehouses) :
    walker.catalogPrefix.warehouse walker.state later =
      walker.catalogPrefix.warehouse walker.state store := by
  cases walker.catalogPrefix with
  | default => rfl
  | named warehouse =>
      simp only [CatalogPrefix.warehouse, prefixedCatalogWarehouse, MemoryState.loadWarehouse, same]

/-- What a request can answer, in any store with the namespaces of the first. -/
theorem ask_shown {page : NamespacePage} {after : MemoryState} {parent : Option Namespace}
    (known : walker.catalogPrefix.warehouse walker.state store = .ok warehouse)
    (namespaces : walk.store.namespaces = store.namespaces)
    (warehouses : walk.store.warehouses = store.warehouses)
    (answered : walker.ask walk parent = .ok (page, after)) :
    (∃ place, page.namespaces = store.shownUnder warehouse place) ∧
      after.namespaces = store.namespaces ∧ after.warehouses = store.warehouses := by
  simp only [ask, listNamespaces, warehouse_congr warehouses, known, ok_bind,
    listNamespacesInWarehouse_ok] at answered
  obtain ⟨receipt, place, -, -, -, rfl, written⟩ := answered
  obtain ⟨-, -, rfl⟩ := (MemoryState.recordAuditEvent_ok _ _ _ _).mp written
  exact ⟨⟨place, shownUnder_congr namespaces place⟩, namespaces, warehouses⟩

theorem advance_shown
    (known : walker.catalogPrefix.warehouse walker.state store = .ok warehouse)
    (namespaces : walk.store.namespaces = store.namespaces)
    (warehouses : walk.store.warehouses = store.warehouses)
    (shown : ∀ ns ∈ walk.visited, ∃ place, ns ∈ store.shownUnder warehouse place)
    (advanced : walker.advance walk = .ok next) :
    next.store.namespaces = store.namespaces ∧ next.store.warehouses = store.warehouses ∧
      ∀ ns ∈ next.visited, ∃ place, ns ∈ store.shownUnder warehouse place := by
  rw [advance] at advanced
  split at advanced
  next =>
    cases advanced
    exact ⟨namespaces, warehouses, shown⟩
  next parent found =>
    simp only [bind_eq_ok, pure_eq, Except.ok.injEq] at advanced
    obtain ⟨⟨page, after⟩, answered, rfl⟩ := advanced
    obtain ⟨⟨place, listed⟩, sameNamespaces, sameWarehouses⟩ :=
      ask_shown known namespaces warehouses answered
    refine ⟨sameNamespaces, sameWarehouses, ?_⟩
    intro ns member
    rcases List.mem_append.mp member with before | own
    · exact shown ns before
    · exact ⟨place, by rwa [← listed]⟩

/-- Whatever a walk is shown is listed under the top or under a stored parent. -/
theorem walk_shown (known : walker.catalogPrefix.warehouse walker.state store = .ok warehouse)
    {turns : Nat} {final : NamespaceWalk}
    (namespaces : walk.store.namespaces = store.namespaces)
    (warehouses : walk.store.warehouses = store.warehouses)
    (shown : ∀ ns ∈ walk.visited, ∃ place, ns ∈ store.shownUnder warehouse place)
    (walked : walker.walk turns walk = .ok final) :
    ∀ ns ∈ final.visited, ∃ place, ns ∈ store.shownUnder warehouse place := by
  induction turns generalizing walk with
  | zero =>
      cases walked
      exact shown
  | succ turns ih =>
      rw [NamespaceWalker.walk, bind_eq_ok] at walked
      obtain ⟨next, advanced, rest⟩ := walked
      obtain ⟨sameNamespaces, sameWarehouses, visited⟩ :=
        advance_shown known namespaces warehouses shown advanced
      exact ih sameNamespaces sameWarehouses visited rest

/-- The next request of a client that is heard is answered with what its parent shows. -/
theorem Follows.ask (follows : walker.Follows store warehouse asked walk)
    (heard : walker.Heard store warehouse) (made : store.NamespacesMade)
    {parent : Option Namespace} (left : parent ∈ walk.todo) :
    ∃ event after, walker.ask walk parent = .ok (⟨store.shownUnder warehouse parent, none⟩, after) ∧
      walker.Records store warehouse walk.turn parent event ∧
      after.namespaces = walk.store.namespaces ∧ after.warehouses = walk.store.warehouses ∧
      after.outboxEvents = walk.store.outboxEvents ++ [MemoryState.auditOutbox event] := by
  have stored : ∀ ns, parent = some ns → store.namespaceExists warehouse ns = true := by
    rintro ns rfl
    exact MemoryState.stored_of_rooted made (follows.covers.place_rooted left)
  have within : walk.turn ≤ (store.storedNamespaces warehouse).length := by
    have bound := follows.covers.length_le fun ns rooted =>
      MemoryState.mem_storedNamespaces.mpr (MemoryState.stored_of_rooted made rooted)
    have more := List.length_pos_of_mem left
    have turn := follows.turn
    omega
  obtain ⟨receipt, allowed⟩ := heard.allowed walk.turn within
  let event := namespaceListedEvent receipt warehouse (store.shownUnder warehouse parent)
    (walker.recorded walk.turn)
  have records : walker.Records store warehouse walk.turn parent event :=
    ⟨within, stored, receipt, allowed, rfl⟩
  have read : namespaceParent (parent.map Namespace.restPath) = .ok parent := by
    cases parent with
    | none => rfl
    | some ns =>
        have named := made _ _ (stored ns rfl)
        have read := named.restPath_read
        have filled : ns.restPath ≠ "" := by
          intro empty
          rw [empty] at read
          cases read
        have kept : (some ns.restPath).filter (fun text => text ≠ "") = some ns.restPath := by
          simp [filled]
        rw [Option.map_some, namespaceParent, kept]
        simp only [read, ok_bind, pure_eq]
  have unasked : parent ∉ asked := fun before =>
    (List.nodup_append.mp follows.covers.once).2.2 parent before parent left rfl
  refine ⟨event, {
    walk.store with
    auditEvents := walk.store.auditEvents ++ [event]
    outboxEvents := walk.store.outboxEvents ++ [MemoryState.auditOutbox event] },
    ?_, records, rfl, rfl, rfl⟩
  rw [NamespaceWalker.ask, listNamespaces, warehouse_congr follows.warehouses, heard.known, ok_bind,
    listNamespacesInWarehouse_ok]
  refine ⟨receipt, parent, allowed, read, ?_, ?_, ?_⟩
  · intro ns same
    rw [MemoryState.namespaceExists_congr follows.namespaces]
    exact stored ns same
  · rw [shownUnder_congr follows.namespaces]
  · rw [shownUnder_congr follows.namespaces, MemoryState.recordAuditEvent_ok]
    refine ⟨namespaceListed_recordable _ _ _ _, ?_, rfl⟩
    intro other member
    rcases follows.events other member with before | ⟨turn, earlier, event, past, own, noted, rfl⟩
    · exact heard.fresh _ _ _ records other before
    · have differs : earlier ≠ parent := by
        rintro rfl
        exact unasked own
      exact heard.apart _ _ _ _ _ _ past differs noted records

/-- One request further. -/
theorem Follows.advance (follows : walker.Follows store warehouse asked walk)
    (heard : walker.Heard store warehouse) (made : store.NamespacesMade)
    (more : walk.todo ≠ []) :
    ∃ parent next, walker.advance walk = .ok next ∧
      walker.Follows store warehouse (parent :: asked) next := by
  have bound : walker.place walk < walk.todo.length :=
    Nat.mod_lt _ (List.length_pos_iff.mpr more)
  have found := List.getElem?_eq_getElem bound
  generalize walk.todo[walker.place walk] = parent at found
  obtain ⟨event, after, answered, records, namespaces, warehouses, outbox⟩ :=
    follows.ask heard made (List.mem_of_getElem? found)
  refine ⟨parent, walk.answered (walker.place walk)
    (⟨store.shownUnder warehouse parent, none⟩, after), ?_, ?_⟩
  · rw [NamespaceWalker.advance, found]
    simp only [answered, ok_bind, pure_eq]
  · refine ⟨follows.covers.next (MemoryState.shownUnder_forest made) found, ?_,
      namespaces.trans follows.namespaces, warehouses.trans follows.warehouses, ?_⟩
    · rw [NamespaceWalk.answered, List.length_cons, follows.turn]
    · intro other member
      rw [NamespaceWalk.answered, outbox] at member
      rcases List.mem_append.mp member with before | own
      · rcases follows.events other before with old |
          ⟨turn, earlier, noted, past, held, recorded, same⟩
        · exact .inl old
        · exact .inr ⟨turn, earlier, noted, Nat.lt_succ_of_lt past, List.mem_cons_of_mem _ held,
            recorded, same⟩
      · exact .inr ⟨walk.turn, parent, event, Nat.lt_succ_self _, List.mem_cons_self, records,
          List.mem_singleton.mp own⟩

theorem walk_finished (done : walk.todo = []) (turns : Nat) : walker.walk turns walk = .ok walk := by
  have idle : walker.advance walk = .ok walk := by
    rw [NamespaceWalker.advance, done]
    rfl
  induction turns with
  | zero => rfl
  | succ turns ih => rw [NamespaceWalker.walk, idle, ok_bind, ih]

/-- With a request for each stored namespace and one for the top, nothing is left. -/
theorem Follows.finish (follows : walker.Follows store warehouse asked walk)
    (heard : walker.Heard store warehouse) (made : store.NamespacesMade) {turns : Nat}
    (enough : asked.length + turns = (store.storedNamespaces warehouse).length + 1) :
    ∃ whole final, walker.walk turns walk = .ok final ∧ final.todo = [] ∧
      walker.Follows store warehouse whole final := by
  induction turns generalizing asked walk with
  | zero =>
      have bound := follows.covers.length_le fun ns rooted =>
        MemoryState.mem_storedNamespaces.mpr (MemoryState.stored_of_rooted made rooted)
      have done : walk.todo = [] := by
        rw [← List.length_eq_zero_iff]
        omega
      exact ⟨asked, walk, rfl, done, follows⟩
  | succ turns ih =>
      by_cases done : walk.todo = []
      · exact ⟨asked, walk, walk_finished done _, done, follows⟩
      · obtain ⟨parent, next, advanced, onward⟩ := follows.advance heard made done
        have left : (parent :: asked).length + turns =
            (store.storedNamespaces warehouse).length + 1 := by
          rw [List.length_cons]
          omega
        obtain ⟨whole, final, walked, finished, ends⟩ := ih onward left
        refine ⟨whole, final, ?_, finished, ends⟩
        rw [NamespaceWalker.walk, advanced, ok_bind, walked]

theorem discovers_of_parents (made : store.NamespacesMade) (parents : store.ParentsStored)
    (heard : walker.Heard store warehouse) : walker.Discovers store warehouse := by
  have start := Follows.start walker store warehouse
  obtain ⟨whole, final, walked, done, ends⟩ := start.finish heard made (Nat.zero_add _)
  have covers := ends.covers
  rw [done] at covers
  refine ⟨_, final, walked, done, ?_⟩
  rw [List.perm_ext_iff_of_nodup covers.seen_nodup MemoryState.storedNamespaces_nodup]
  intro ns
  rw [covers.finished, MemoryState.mem_storedNamespaces]
  exact ⟨MemoryState.stored_of_rooted made, MemoryState.rooted_of_stored made parents⟩

theorem not_discovers (made : store.NamespacesMade) {ns : Namespace}
    (stored : store.namespaceExists warehouse ns = true) (several : 1 < ns.parts.length)
    (missing : store.namespaceExists warehouse ns.parent = false)
    (known : walker.catalogPrefix.warehouse walker.state store = .ok warehouse) :
    ¬walker.Discovers store warehouse := by
  rintro ⟨turns, final, walked, -, same⟩
  have fresh : ∀ ns ∈ (NamespaceWalk.start store).visited,
      ∃ place, ns ∈ store.shownUnder warehouse place := by simp [NamespaceWalk.start]
  obtain ⟨place, listed⟩ := walk_shown known rfl rfl fresh walked ns
    (same.mem_iff.mpr (MemoryState.mem_storedNamespaces.mpr stored))
  exact MemoryState.not_shown made several missing place listed

end NamespaceWalker

/-- Where each namespace that is created with several components is put under a stored one, every
walk of a client that is heard discovers the namespaces of its warehouse in every state of the
run. Otherwise some state has a warehouse that no walk discovers. -/
theorem namespaces_discovered (ops : List MemoryOp) (made : ∀ op ∈ ops, op.NamesMade) :
    (Transition.Along MemoryState.step MemoryState.AddsUnderParent .empty ops →
      ∀ done rest, ops = done ++ rest → ∀ (walker : NamespaceWalker) (warehouse : WarehouseName),
        walker.Heard (MemoryState.empty.run done) warehouse →
          walker.Discovers (MemoryState.empty.run done) warehouse) ∧
    (¬Transition.Along MemoryState.step MemoryState.AddsUnderParent .empty ops →
      ∃ done rest warehouse, ops = done ++ rest ∧ ∀ walker : NamespaceWalker,
        walker.catalogPrefix.warehouse walker.state (MemoryState.empty.run done) = .ok warehouse →
          ¬walker.Discovers (MemoryState.empty.run done) warehouse) := by
  have named {done rest : List MemoryOp} (split : ops = done ++ rest) :
      (MemoryState.empty.run done).NamespacesMade := by
    refine MemoryState.namespacesMade_run done fun op member => made op ?_
    rw [split]
    exact List.mem_append_left _ member
  rw [MemoryState.parentsStored_run]
  constructor
  · intro parents done rest split walker warehouse heard
    exact NamespaceWalker.discovers_of_parents (named split) (parents done rest split) heard
  · intro orphaned
    simp only [MemoryState.ParentsStored, not_forall, Bool.not_eq_true] at orphaned
    obtain ⟨done, rest, split, warehouse, ns, stored, several, missing⟩ := orphaned
    refine ⟨done, rest, warehouse, split, fun walker known => ?_⟩
    exact NamespaceWalker.not_discovers (named split) stored several missing known

end

/-! A client of the service's own warehouse. -/

/-- A digest of one decimal digit. -/
def digitDigest (digit : Char) : Sha256Hex where
  text := String.ofList (List.replicate 64 (if '0' ≤ digit ∧ digit ≤ '9' then digit else '0'))
  length := by simp
  digits := by
    rw [String.toList_ofList, List.all_replicate]
    by_cases decimal : '0' ≤ digit ∧ digit ≤ '9'
    · simp [decimal]
    · simp [decimal]

/-- A digest of the first character of the time of an event, or of what an outbox event records. -/
@[reducible] def tickExternal : External where
  sha256 text := digitDigest
    (if text.toList.getD 15 ' ' = 'd' then text.toList.getD 31 ' ' else text.toList.getD 15 ' ')
  parseUrl _ := none
  toRfc3339 time := String.ofList [Nat.digitChar time.toNat]
  serializeTimestamp := unaryTime
  constraintText text := text

theorem compact_first (key : String) (value : Json) (rest : List (String × Json)) :
    ∃ more, (Json.obj ((key, value) :: rest)).compact.toList =
      '\x7b' :: ((Json.quote key).toList ++ ':' :: value.compact.toList ++ more) := by
  obtain ⟨more, joined⟩ := joinText_cons (Json.quote key ++ ":" ++ value.compact)
    (Json.compactFields rest)
  refine ⟨more ++ ['\x7d'], ?_⟩
  rw [Json.compact, Json.compactFields, String.toList_append, String.toList_append, joined,
    String.toList_append, String.toList_append]
  simp

section Samples

variable [External]

/-- What the engine answers to a request for a list. -/
def mainReceipt (now : Timestamp) : AuthorizationReceipt where
  principal := .anonymous
  action := .namespaceList
  table := none
  allowed := true
  engine := "lakecat-allow-all-local"
  policyHash := none
  context := baseContext ⟨"main"⟩ anonymousIdentity []
  checkedAt := now

theorem mainReceipt_allowed (store : MemoryState) (now : Timestamp) :
    authorizeNamespaceList mainState store anonymousIdentity now = .ok (mainReceipt now) :=
  rfl

/-- A client that the engine allows, a tick of the clock after the other. -/
def mainWalker : NamespaceWalker where
  state := mainState
  catalogPrefix := .default
  identity := anonymousIdentity
  checked turn := turn + 1
  recorded turn := turn + 1
  pick _ := 0

/-- The event of the request that creates a namespace of two components. -/
def nestedEvent : CatalogAuditEvent :=
  let receipt := { mainReceipt 0 with action := .namespaceCreate }
  .new "namespace.created" none receipt.principal
    (namespaceEventPayload "namespace.created" receipt ⟨"main"⟩ ⟨["accounting", "tax"]⟩) 0

def nestedCreation : List MemoryOp :=
  [.createNamespace ⟨"main"⟩ ⟨["accounting", "tax"]⟩ .default] ++ [.recordAuditEvent nestedEvent]

/-- The same after the namespace above it. -/
def treeCreation : List MemoryOp :=
  [.createNamespace ⟨"main"⟩ ⟨["accounting"]⟩ .default,
    .createNamespace ⟨"main"⟩ ⟨["accounting", "tax"]⟩ .default]

theorem auditDocument_time (event : CatalogAuditEvent) : ∃ rest, auditDocument event =
    .obj (("created-at", .str (External.toRfc3339 event.createdAt)) :: rest) := by
  have table : compare "table" "event-type" = .gt := by decide
  have principal : compare "principal" "event-type" = .gt := by decide
  have requestHash : compare "request-hash" "event-type" = .gt := by decide
  have payload : compare "payload" "event-type" = .gt := by decide
  have created : compare "created-at" "event-type" = .lt := by decide
  simp [auditDocument, Json.object, Json.insertField, table, principal, requestHash, payload,
    created]

end Samples

def digitHash (digit : Char) : String :=
  "sha256:" ++ String.ofList (List.replicate 64 digit)

section Ticks

variable {digit : Char}

theorem digitDigest_decimal (decimal : '0' ≤ digit ∧ digit ≤ '9') :
    "sha256:" ++ (digitDigest digit).text = digitHash digit := by
  simp only [digitHash, digitDigest, if_pos decimal]

theorem tickExternal_time (plain : Json.escapeChar digit = [digit])
    (decimal : '0' ≤ digit ∧ digit ≤ '9') (rest : List (String × Json)) :
    @contentHashJson tickExternal
      (.obj (("created-at", .str (String.ofList [digit])) :: rest)) = digitHash digit := by
  obtain ⟨more, text⟩ := compact_first "created-at" (.str (String.ofList [digit])) rest
  have key : (Json.quote "created-at").toList = "\"created-at\"".toList := by decide
  have value : (Json.str (String.ofList [digit])).compact.toList = ['"', digit, '"'] := by
    simp [Json.compact, Json.quote, plain]
  rw [key, value] at text
  have other : digit ≠ 'd' := by
    rintro rfl
    exact absurd decimal.2 (by decide)
  have shown : (Json.obj (("created-at", .str (String.ofList [digit])) :: rest)).compact.toList.getD
      15 ' ' = digit := by
    rw [text]
    rfl
  change "sha256:" ++ (digitDigest (if _ = 'd' then _ else _)).text = _
  rw [shown, if_neg other, digitDigest_decimal decimal]

theorem tickExternal_recorded (plain : Json.escapeChar digit = [digit])
    (decimal : '0' ≤ digit ∧ digit ≤ '9') (rest : List (String × Json)) :
    @contentHashJson tickExternal
      (.obj (("audit-event-id", .str (digitHash digit)) :: rest)) = digitHash digit := by
  obtain ⟨more, text⟩ := compact_first "audit-event-id" (.str (digitHash digit)) rest
  have key : (Json.quote "audit-event-id").toList = "\"audit-event-id\"".toList := by decide
  have head : "sha256:".toList.flatMap Json.escapeChar = "sha256:".toList := by decide
  have digits : (List.replicate 64 digit).flatMap Json.escapeChar = List.replicate 64 digit := by
    simp [plain]
  have value : (Json.str (digitHash digit)).compact.toList =
      '"' :: ("sha256:".toList ++ List.replicate 64 digit) ++ ['"'] := by
    simp only [Json.compact, Json.quote, digitHash, String.toList_append, String.toList_ofList,
      List.flatMap_append, head, digits]
    rfl
  rw [key, value] at text
  have named : (Json.obj (("audit-event-id", .str (digitHash digit)) :: rest)).compact.toList.getD
      15 ' ' = 'd' := by
    rw [text]
    rfl
  have shown : (Json.obj (("audit-event-id", .str (digitHash digit)) :: rest)).compact.toList.getD
      31 ' ' = digit := by
    rw [text]
    rfl
  change "sha256:" ++ (digitDigest (if _ = 'd' then _ else _)).text = _
  rw [named, if_pos rfl, shown, digitDigest_decimal decimal]

/-- In the sample, the id of an event shows its time. -/
theorem tickExternal_eventId (event : CatalogAuditEvent) (early : event.createdAt.toNat < 10) :
    (@MemoryState.auditOutbox tickExternal event).eventId =
      digitHash (Nat.digitChar event.createdAt.toNat) := by
  let _ := tickExternal
  have plain : ∀ value < 10, Json.escapeChar (Nat.digitChar value) = [Nat.digitChar value] := by
    decide
  have decimal : ∀ value < 10, '0' ≤ Nat.digitChar value ∧ Nat.digitChar value ≤ '9' := by decide
  obtain ⟨rest, document⟩ := auditDocument_time event
  have audit : auditEventId event = digitHash (Nat.digitChar event.createdAt.toNat) := by
    change contentHashJson (auditDocument event) = _
    rw [document]
    exact tickExternal_time (plain _ early) (decimal _ early) rest
  obtain ⟨others, payload⟩ := auditOutboxPayload_fields (auditEventId event) event
  change contentHashJson (auditOutboxPayload (auditEventId event) event) = _
  rw [payload, audit]
  exact tickExternal_recorded (plain _ early) (decimal _ early) others

theorem digitHash_ne {one other : Nat} (early : one < 10) (late : other < 10)
    (apart : one ≠ other) : digitHash (Nat.digitChar one) ≠ digitHash (Nat.digitChar other) := by
  have each : ∀ one < 10, ∀ other < 10, Nat.digitChar one = Nat.digitChar other → one = other := by
    decide
  intro same
  have chars := congrArg String.toList same
  rw [digitHash, digitHash, String.toList_append, String.toList_append,
    List.append_cancel_left_eq, String.toList_ofList, String.toList_ofList] at chars
  exact apart (each one early other late ((List.replicate_right_inj (by decide)).mp chars))

end Ticks

/-- In a store of few namespaces whose events are older, the client is heard. -/
theorem mainWalker_heard {store : MemoryState}
    (few : (store.storedNamespaces ⟨"main"⟩).length < 9)
    (old : ∀ other ∈ store.outboxEvents, ∃ event, event.createdAt = 0 ∧
      other = @MemoryState.auditOutbox tickExternal event) :
    @NamespaceWalker.Heard tickExternal mainWalker store ⟨"main"⟩ := by
  let _ := tickExternal
  have recorded {turn : Nat} {parent : Option Namespace} {event : CatalogAuditEvent}
      (records : mainWalker.Records store ⟨"main"⟩ turn parent event) :
      turn + 1 < 10 ∧
        (MemoryState.auditOutbox event).eventId = digitHash (Nat.digitChar (turn + 1)) := by
    obtain ⟨receipt, allowed, rfl⟩ := records.made
    have within := records.within
    have early : turn + 1 < 10 := by omega
    refine ⟨early, ?_⟩
    exact tickExternal_eventId (namespaceListedEvent receipt ⟨"main"⟩
      (store.shownUnder ⟨"main"⟩ parent) ((turn + 1 : Nat) : Int)) early
  constructor
  · rfl
  · intro turn _
    exact ⟨_, mainReceipt_allowed store _⟩
  · intro turn parent event records other member
    obtain ⟨early, shown⟩ := recorded records
    obtain ⟨past, start, rfl⟩ := old other member
    have zero : past.createdAt.toNat = 0 := by rw [start]; rfl
    rw [tickExternal_eventId past (by omega), shown, zero]
    exact digitHash_ne (by decide) early (by omega)
  · intro turn later parent otherParent event other before _ first second
    obtain ⟨early, shown⟩ := recorded first
    obtain ⟨late, otherShown⟩ := recorded second
    rw [shown, otherShown]
    exact digitHash_ne early late (by omega)

theorem namespaces_discovered_tree : ∃ (_ : External) (ops : List MemoryOp),
    (∀ op ∈ ops, op.NamesMade) ∧
      Transition.Along MemoryState.step MemoryState.AddsUnderParent .empty ops ∧
      mainWalker.Heard (MemoryState.empty.run ops) ⟨"main"⟩ ∧
      ((MemoryState.empty.run ops).storedNamespaces ⟨"main"⟩).length = 2 ∧
      mainWalker.Discovers (MemoryState.empty.run ops) ⟨"main"⟩ := by
  let _ := tickExternal
  have made : ∀ op ∈ treeCreation, op.NamesMade := by
    simp only [treeCreation, List.mem_cons, List.not_mem_nil, or_false]
    rintro op (rfl | rfl)
    · exact ⟨["accounting"], rfl⟩
    · exact ⟨["accounting", "tax"], rfl⟩
  have under : Transition.Along MemoryState.step MemoryState.AddsUnderParent .empty
      treeCreation := by
    refine ⟨?_, ?_, trivial⟩
    · intro _ several
      exact absurd several (by decide)
    · intro _ _
      decide +kernel
  have two : ((MemoryState.empty.run treeCreation).storedNamespaces ⟨"main"⟩).length = 2 := by
    decide +kernel
  have silent : (MemoryState.empty.run treeCreation).outboxEvents = [] := rfl
  have heard : mainWalker.Heard (MemoryState.empty.run treeCreation) ⟨"main"⟩ :=
    mainWalker_heard (by rw [two]; decide) (by simp [silent])
  exact ⟨tickExternal, treeCreation, made, under, heard, two,
    (namespaces_discovered treeCreation made).1 under treeCreation [] (by simp) _ _ heard⟩

/-- An event that is recorded leaves the namespaces as they are. -/
theorem recordAuditEvent_kept [External] (store : MemoryState) (event : CatalogAuditEvent) :
    (store.step (.recordAuditEvent event)).namespaces = store.namespaces ∧
      ∀ other ∈ (store.step (.recordAuditEvent event)).outboxEvents,
        other ∈ store.outboxEvents ∨ other = MemoryState.auditOutbox event := by
  rcases atomic_cases store (store.recordAuditEvent event) with ⟨done, recorded⟩ | ⟨_, _, same⟩
  · obtain ⟨-, -, next⟩ := (MemoryState.recordAuditEvent_ok _ _ _ _).mp recorded
    rw [MemoryState.step, next]
    refine ⟨rfl, fun other member => ?_⟩
    exact (List.mem_append.mp member).imp_right List.mem_singleton.mp
  · rw [MemoryState.step, same]
    exact ⟨rfl, fun other member => .inl member⟩

/-- A namespace that is created without the one above it is shown by no request, though each
request of the walk is answered. -/
theorem nestedNamespace_undiscovered : ∃ (_ : External) (ops : List MemoryOp),
    (∀ op ∈ ops, op.NamesMade) ∧
      mainWalker.Heard (MemoryState.empty.run ops) ⟨"main"⟩ ∧
      (MemoryState.empty.run ops).namespaceExists ⟨"main"⟩ ⟨["accounting", "tax"]⟩ = true ∧
      (∃ turns final, mainWalker.walk turns (.start (MemoryState.empty.run ops)) = .ok final ∧
        final.todo = [] ∧ ⟨["accounting", "tax"]⟩ ∉ final.visited) ∧
      ¬mainWalker.Discovers (MemoryState.empty.run ops) ⟨"main"⟩ := by
  let _ := tickExternal
  have made : ∀ op ∈ nestedCreation, op.NamesMade := by
    simp only [nestedCreation, List.mem_append, List.mem_singleton]
    rintro op (rfl | rfl)
    · exact ⟨["accounting", "tax"], rfl⟩
    · trivial
  have names := MemoryState.namespacesMade_run nestedCreation made
  -- the event that follows the creation does not matter to the walk
  let created := MemoryState.empty.run
    [.createNamespace ⟨"main"⟩ ⟨["accounting", "tax"]⟩ .default]
  obtain ⟨namespaces, events⟩ : (MemoryState.empty.run nestedCreation).namespaces =
      created.namespaces ∧ ∀ other ∈ (MemoryState.empty.run nestedCreation).outboxEvents,
        ∃ event : CatalogAuditEvent, event.createdAt = 0 ∧
          other = MemoryState.auditOutbox event := by
    obtain ⟨kept, added⟩ := recordAuditEvent_kept created nestedEvent
    rw [nestedCreation, MemoryState.run_snoc]
    refine ⟨kept, fun other member => ?_⟩
    rcases added other member with before | same
    · exact absurd before List.not_mem_nil
    · exact ⟨nestedEvent, rfl, same⟩
  have listed : (MemoryState.empty.run nestedCreation).storedNamespaces ⟨"main"⟩ =
      [⟨["accounting", "tax"]⟩] := by
    have first : created.storedNamespaces ⟨"main"⟩ = [⟨["accounting", "tax"]⟩] := by decide +kernel
    rw [← first, MemoryState.storedNamespaces, MemoryState.namespacesOf, namespaces]
    rfl
  have heard : mainWalker.Heard (MemoryState.empty.run nestedCreation) ⟨"main"⟩ :=
    mainWalker_heard (by rw [listed]; decide) events
  have stored : (MemoryState.empty.run nestedCreation).namespaceExists ⟨"main"⟩
      ⟨["accounting", "tax"]⟩ = true :=
    MemoryState.mem_storedNamespaces.mp (by rw [listed]; exact List.mem_singleton_self _)
  have missing : (MemoryState.empty.run nestedCreation).namespaceExists ⟨"main"⟩
      (Namespace.parent ⟨["accounting", "tax"]⟩) = false := by
    rw [← Bool.not_eq_true, ← MemoryState.mem_storedNamespaces, listed]
    decide
  have several : 1 < (⟨["accounting", "tax"]⟩ : Namespace).parts.length := by decide
  refine ⟨tickExternal, nestedCreation, made, heard, stored, ?_, ?_⟩
  · have start := NamespaceWalker.Follows.start mainWalker
      (MemoryState.empty.run nestedCreation) ⟨"main"⟩
    obtain ⟨whole, final, walked, done, ends⟩ := start.finish heard names (Nat.zero_add _)
    refine ⟨_, final, walked, done, fun visited => ?_⟩
    obtain ⟨place, -, shown⟩ := ends.covers.mem_seen.mp visited
    exact MemoryState.not_shown names several missing place shown
  · exact NamespaceWalker.not_discovers names stored several missing heard.known

end LakeCat
