import LakeCat.AuthorizationNames
import LakeCat.CatalogProvider
import LakeCat.ChangeEvents
import LakeCat.InitialMetadata
import LakeCat.MetadataLocations

/-!
Where tables are put that are created without a location. The place is spelled
with the dotted path of the namespace, and a table that is renamed stays in its
place; a table that is created later can be put into the same place.
-/

namespace LakeCat

open Fallible Transition

structure CreateTableRequest where
  name : String
  location : Option String
  schema : Option Json
  partitionSpec : Option Json
  writeOrder : Option Json
  properties : Option Json
  stageCreate : Option Bool
  metadataLocation : Option String
  metadata : Json

/-- What a handler reads besides its request: who asks, the clock, a new id and what the object
store answers. -/
structure Surroundings where
  identity : LakeCatResult RequestIdentity
  now : Timestamp
  recorded : Timestamp
  nowMs : Int
  tableUuid : String
  written : LakeCatResult Unit

def localTables : String := "file:///tmp/lakecat/"

def defaultLocation (tableLocationRoot : Option String) (ident : TableIdent) : String :=
  let inside := ident.ns.path ++ "/" ++ ident.name.value
  match tableLocationRoot with
  | none => localTables ++ ident.warehouse.value ++ "/" ++ inside
  | some root => root ++ "/" ++ inside

/-- `location.trim_end_matches('/')`. -/
def withoutTrailingSlashes (location : String) : String :=
  String.ofList (location.toList.reverse.dropWhile fun ch => ch = '/').reverse

structure PlannedTable where
  location : String
  metadataLocation : Option String
  metadata : Json
  persistInitialMetadata : Bool

/-- The client brings a metadata document, or a schema that the catalog makes one of. -/
def CreateTableRequest.plan (request : CreateTableRequest) (tableLocationRoot : Option String)
    (ident : TableIdent) (given : Surroundings) : LakeCatResult PlannedTable :=
  if request.metadata.isObject then do
    let location ← okOr request.location
      (.invalidArgument "create table requires a location when metadata is supplied")
    return ⟨location, request.metadataLocation, request.metadata, false⟩
  else
    match request.schema with
    | some schema =>
        let location := request.location.getD (defaultLocation tableLocationRoot ident)
        let metadata := initialTableMetadata given.nowMs ⟨given.tableUuid, location, schema,
          request.partitionSpec, request.writeOrder, request.properties.getD .null⟩
        let metadataLocation := withoutTrailingSlashes location ++ "/metadata/00000-" ++
          given.tableUuid ++ ".metadata.json"
        .ok ⟨location, some metadataLocation, metadata, true⟩
    | none => .error (.invalidArgument ("create table requires either a schema " ++
        "(standard createTable) or a metadata document"))

/-! What is made of the names. -/

/-- Two tables are put into one place by default. -/
def LooksAlike (tableLocationRoot : Option String) (one other : TableIdent) : Prop :=
  (tableLocationRoot = none → one.warehouse = other.warehouse) ∧
    one.ns.path = other.ns.path ∧ one.name = other.name

def LiesInside (inner outer : String) : Prop :=
  ∃ rest, inner = outer ++ "/" ++ rest

def PlacesApart (one other : String) : Prop :=
  one ≠ other ∧ ¬LiesInside one other ∧ ¬LiesInside other one

theorem LooksAlike.symm {tableLocationRoot : Option String} {one other : TableIdent}
    (alike : LooksAlike tableLocationRoot one other) : LooksAlike tableLocationRoot other one :=
  ⟨fun absent => (alike.1 absent).symm, alike.2.1.symm, alike.2.2.symm⟩

theorem IsNameText.slash {text : String} (named : IsNameText text) : '/' ∉ text.toList :=
  fun member => absurd (named '/' member) (by decide)

/-- A default location goes on after its root with names that have no slash. -/
def locationChars (ident : TableIdent) (rest : List Char) : List Char :=
  ident.ns.path.toList ++ '/' :: (ident.name.value.toList ++ rest)

theorem locationChars_inj {one other : TableIdent} (made : one.Made) (otherMade : other.Made)
    {rest : List Char} (ends : rest = [] ∨ ∃ more, rest = '/' :: more)
    (same : locationChars one rest = locationChars other []) :
    rest = [] ∧ one.ns.path = other.ns.path ∧ one.name = other.name := by
  obtain ⟨path, inner⟩ := append_separator_inj (isNameText_path made.ns.text).slash
    (isNameText_path otherMade.ns.text).slash same
  have paths := String.toList_inj.mp path
  rw [List.append_nil] at inner
  rcases ends with rfl | ⟨more, rfl⟩
  · rw [List.append_nil] at inner
    exact ⟨rfl, paths, congrArg TableName.mk (String.toList_inj.mp inner)⟩
  · have slash : '/' ∈ other.name.value.toList := by
      rw [← inner]
      simp
    exact absurd slash otherMade.name.text.slash

theorem defaultLocation_toList (tableLocationRoot : Option String) (ident : TableIdent)
    (rest : List Char) :
    (defaultLocation tableLocationRoot ident).toList ++ rest =
      match tableLocationRoot with
      | none => localTables.toList ++
          (ident.warehouse.value.toList ++ '/' :: locationChars ident rest)
      | some root => root.toList ++ '/' :: locationChars ident rest := by
  have slash : "/".toList = ['/'] := rfl
  unfold defaultLocation locationChars
  cases tableLocationRoot with
  | none => simp [slash]
  | some root => simp [slash]

/-- A default location that begins with another, up to its end or a slash, is that other. -/
theorem defaultLocation_inj {tableLocationRoot : Option String} {one other : TableIdent}
    (made : one.Made) (otherMade : other.Made) {rest : List Char}
    (ends : rest = [] ∨ ∃ more, rest = '/' :: more)
    (same : (defaultLocation tableLocationRoot one).toList ++ rest =
      (defaultLocation tableLocationRoot other).toList) :
    rest = [] ∧ LooksAlike tableLocationRoot one other := by
  rw [← List.append_nil (defaultLocation tableLocationRoot other).toList, defaultLocation_toList,
    defaultLocation_toList] at same
  cases tableLocationRoot with
  | none =>
      rw [List.append_cancel_left_eq] at same
      obtain ⟨warehouse, inner⟩ := append_separator_inj made.warehouse.text.slash
        otherMade.warehouse.text.slash same
      obtain ⟨done, parts⟩ := locationChars_inj made otherMade ends inner
      exact ⟨done, fun _ => congrArg WarehouseName.mk (String.toList_inj.mp warehouse), parts⟩
  | some root =>
      rw [List.append_cancel_left_eq] at same
      obtain ⟨done, parts⟩ := locationChars_inj made otherMade ends (List.cons.inj same).2
      exact ⟨done, nofun, parts⟩

theorem defaultLocation_alike {tableLocationRoot : Option String} {one other : TableIdent}
    (alike : LooksAlike tableLocationRoot one other) :
    defaultLocation tableLocationRoot one = defaultLocation tableLocationRoot other := by
  obtain ⟨warehouse, path, name⟩ := alike
  cases tableLocationRoot with
  | none => simp only [defaultLocation, warehouse rfl, path, name]
  | some root => simp only [defaultLocation, path, name]

theorem defaultLocation_not_inside {tableLocationRoot : Option String} {one other : TableIdent}
    (made : one.Made) (otherMade : other.Made) :
    ¬LiesInside (defaultLocation tableLocationRoot other)
      (defaultLocation tableLocationRoot one) := by
  rintro ⟨rest, inside⟩
  have chars := congrArg String.toList inside
  rw [String.toList_append, String.toList_append, List.append_assoc] at chars
  obtain ⟨done, -⟩ := defaultLocation_inj made otherMade (.inr ⟨rest.toList, rfl⟩) chars.symm
  cases done

/-- Default locations are apart exactly when the tables do not look alike. -/
theorem defaultLocations_apart_iff {tableLocationRoot : Option String} {one other : TableIdent}
    (made : one.Made) (otherMade : other.Made) :
    PlacesApart (defaultLocation tableLocationRoot one) (defaultLocation tableLocationRoot other) ↔
      ¬LooksAlike tableLocationRoot one other := by
  constructor
  · rintro ⟨different, -⟩ alike
    exact different (defaultLocation_alike alike)
  · intro unlike
    refine ⟨fun same => unlike ?_, defaultLocation_not_inside otherMade made,
      defaultLocation_not_inside made otherMade⟩
    exact (defaultLocation_inj made otherMade (.inl rfl)
      (by rw [List.append_nil, same])).2

/-! The handlers. -/

section Handlers

variable [External]

def authorizeTableCreate (state : LakeCatState) (store : MemoryState) (identity : RequestIdentity)
    (table : TableIdent) (now : Timestamp) : LakeCatResult AuthorizationReceipt := do
  let receipt ← (Access.onTable .tableCreate table).authorize state store identity now
  validateTableAuthorizationReceipt receipt table .tableCreate "create table"
  return receipt

def authorizeTableRename (state : LakeCatState) (store : MemoryState) (identity : RequestIdentity)
    (source destination : TableIdent) (now : Timestamp) : LakeCatResult AuthorizationReceipt := do
  let _ ← TableRenameTarget.new source destination
  let receipt ← (Access.onRename source destination).authorize state store identity now
  validateTableAuthorizationReceipt receipt source .tableRename "rename table"
  let receiptDestination ← okOr (receipt.context.get "destination-table")
    (.invalidArgument "table rename authorization receipt is missing destination table")
  let receiptDestination ← okOr (tableIdentFromJson receiptDestination)
    (.invalidArgument "table rename authorization receipt destination table is malformed")
  rejectIf (receiptDestination ≠ destination)
    (.invalidArgument "table rename authorization receipt destination does not match target")
  return receipt

variable [LocationUrls] (state : LakeCatState) (tableLocationRoot : Option String)

/-- The initial metadata is written before the table is created. -/
def persistInitialMetadata (store : MemoryState) (table : TableRecord)
    (written : LakeCatResult Unit) : LakeCatResult Unit := do
  let storageProfile ← store.storageProfileForTable table
  let metadataLocation ← okOr table.metadataLocation
    (.internal "generated table metadata must have a metadata location")
  validateMetadataObjectLocation metadataLocation none storageProfile
  written

/-- `create_table_in_warehouse` up to the call of the store. -/
def newTable (store : MemoryState) (catalogPrefix : CatalogPrefix) (ns : String)
    (request : CreateTableRequest) (given : Surroundings) :
    LakeCatResult (AuthorizationReceipt × TableRecord) := do
  let warehouse ← catalogPrefix.warehouse state store
  let identity ← given.identity
  let name ← TableName.new request.name
  let ident ← restTableIdent warehouse ns name.value
  let receipt ← authorizeTableCreate state store identity ident given.now
  let planned ← request.plan tableLocationRoot ident given
  let table := {
    TableRecord.new ident planned.location planned.metadataLocation planned.metadata
      receipt.principal given.now with
    staged := request.stageCreate.getD false
  }
  checkWhen planned.persistInitialMetadata (persistInitialMetadata store table given.written)
  return (receipt, table)

/-- `rename_table_in_warehouse` up to the call of the store. -/
def renamedPair (store : MemoryState) (catalogPrefix : CatalogPrefix)
    (source destination : TableIdentifier) (given : Surroundings) :
    LakeCatResult (AuthorizationReceipt × TableIdent × TableIdent) := do
  let warehouse ← catalogPrefix.warehouse state store
  let source ← tableIdentifierInWarehouse warehouse source
  let destination ← tableIdentifierInWarehouse warehouse destination
  let identity ← given.identity
  let receipt ← authorizeTableRename state store identity source destination given.now
  return (receipt, source, destination)

end Handlers

inductive LocationCall where
  | createTable (catalogPrefix : CatalogPrefix) (ns : String) (request : CreateTableRequest)
      (given : Surroundings)
  | renameTable (catalogPrefix : CatalogPrefix) (source destination : TableIdentifier)
      (given : Surroundings)

/-- A table that was created without a location: the name it was created under and the name that
it has now. -/
structure DefaultedTable where
  origin : TableIdent
  current : TableIdent
  deriving DecidableEq

def DefaultedTable.moved (source destination : TableIdent) (table : DefaultedTable) :
    DefaultedTable :=
  if table.current = source then { table with current := destination } else table

/-- A store and those of its tables that were created without a location. -/
structure LocationSystem where
  store : MemoryState
  defaulted : List DefaultedTable

section Runs

variable [External] [LocationUrls] (state : LakeCatState) (tableLocationRoot : Option String)

omit [LocationUrls] in
/-- A table stays when its event is not recorded. -/
def storeCreated (store : MemoryState) (receipt : AuthorizationReceipt) (table : TableRecord)
    (given : Surroundings) : MemoryState :=
  match (ChangeRequest.createTable table).event store receipt given.now given.recorded with
  | .ok event => (store.step (.createTable table)).step (.recordAuditEvent event)
  | .error _ => store

namespace LocationSystem

def step (system : LocationSystem) : LocationCall → LocationSystem
  | .createTable catalogPrefix ns request given =>
      match newTable state tableLocationRoot system.store catalogPrefix ns request given with
      | .ok (receipt, table) => {
          store := storeCreated system.store receipt table given
          defaulted :=
            if request.location = none ∧ system.store.succeeds (.createTable table) then
              system.defaulted ++ [⟨table.ident, table.ident⟩]
            else system.defaulted
        }
      | .error _ => system
  | .renameTable catalogPrefix source destination given =>
      match renamedPair state system.store catalogPrefix source destination given with
      | .ok (receipt, source, destination) =>
          let op := .renameTable source destination receipt.principal (some receipt.toJson)
            given.now
          {
            store := system.store.step op
            defaulted :=
              if system.store.succeeds op then
                system.defaulted.map (DefaultedTable.moved source destination)
              else system.defaulted
          }
      | .error _ => system

def run (start : MemoryState) (calls : List LocationCall) : LocationSystem :=
  Transition.run (step state tableLocationRoot) ⟨start, []⟩ calls

omit [External] [LocationUrls] in
/-- No two tables that were created without a location are in one place, nor one in another. -/
def LocationsApart (system : LocationSystem) : Prop :=
  ∀ one ∈ system.defaulted, ∀ other ∈ system.defaulted, one.current ≠ other.current →
    ∀ table another, system.store.tables[tableKey one.current]? = some table →
      system.store.tables[tableKey other.current]? = some another →
      table.ident = one.current → another.ident = other.current →
      PlacesApart table.location another.location

omit [External] [LocationUrls] in
/-- No two of them were created under names that look alike. -/
def OriginsApart (tableLocationRoot : Option String) (system : LocationSystem) : Prop :=
  ∀ one ∈ system.defaulted, ∀ other ∈ system.defaulted, one.current ≠ other.current →
    ¬LooksAlike tableLocationRoot one.origin other.origin

/-- A table that is to be created without a location does not look like the origin of one that is
there. -/
def TakesFreshPlace (system : LocationSystem) : LocationCall → Prop
  | .createTable catalogPrefix ns request _ =>
      request.location = none → ∀ warehouse ident,
        catalogPrefix.warehouse state system.store = .ok warehouse →
        restTableIdent warehouse ns request.name = .ok ident →
        ∀ table ∈ system.defaulted, ¬LooksAlike tableLocationRoot table.origin ident
  | .renameTable .. => True

omit [External] [LocationUrls] in
/-- Each of them is stored, in the default place of the name that it was created under. -/
structure Tracks (tableLocationRoot : Option String) (system : LocationSystem) : Prop where
  made : ∀ entry ∈ system.defaulted, entry.origin.Made
  stored : ∀ entry ∈ system.defaulted, ∃ table,
    system.store.tables[tableKey entry.current]? = some table ∧ table.ident = entry.current ∧
      table.location = defaultLocation tableLocationRoot entry.origin

omit [External] [LocationUrls] in
theorem Tracks.locationsApart_iff {tableLocationRoot : Option String} {system : LocationSystem}
    (tracks : Tracks tableLocationRoot system) :
    system.LocationsApart ↔ OriginsApart tableLocationRoot system := by
  constructor
  · intro apart one member other otherMember different
    obtain ⟨table, stored, owner, place⟩ := tracks.stored one member
    obtain ⟨another, otherStored, otherOwner, otherPlace⟩ := tracks.stored other otherMember
    have places := apart one member other otherMember different table another stored otherStored
      owner otherOwner
    rw [place, otherPlace] at places
    exact (defaultLocations_apart_iff (tracks.made one member)
      (tracks.made other otherMember)).mp places
  · intro apart one member other otherMember different table another stored otherStored _ _
    obtain ⟨found, held, _, place⟩ := tracks.stored one member
    obtain ⟨otherFound, otherHeld, _, otherPlace⟩ := tracks.stored other otherMember
    obtain rfl := Option.some.inj (held.symm.trans stored)
    obtain rfl := Option.some.inj (otherHeld.symm.trans otherStored)
    rw [place, otherPlace]
    exact (defaultLocations_apart_iff (tracks.made one member)
      (tracks.made other otherMember)).mpr (apart one member other otherMember different)

variable {state tableLocationRoot} {system : LocationSystem} {catalogPrefix : CatalogPrefix}
  {ns : String} {request : CreateTableRequest} {given : Surroundings}
  {receipt : AuthorizationReceipt} {table : TableRecord}

omit [External] [LocationUrls] in
theorem plan_location {ident : TableIdent} {planned : PlannedTable}
    (plan : request.plan tableLocationRoot ident given = .ok planned)
    (absent : request.location = none) :
    planned.location = defaultLocation tableLocationRoot ident := by
  unfold CreateTableRequest.plan at plan
  rw [absent] at plan
  split at plan
  · cases plan
  · split at plan
    · cases plan
      rfl
    · cases plan

/-- The table that is to be stored has the name that was asked for, and in the default place
unless the client knows better. -/
theorem newTable_named
    (planned : newTable state tableLocationRoot system.store catalogPrefix ns request given =
      .ok (receipt, table)) :
    (∃ warehouse, catalogPrefix.warehouse state system.store = .ok warehouse ∧
      restTableIdent warehouse ns request.name = .ok table.ident) ∧
    (request.location = none →
      table.location = defaultLocation tableLocationRoot table.ident) := by
  simp only [newTable, bind_eq_ok, exists_unit, pure_eq, Except.ok.injEq,
    Prod.mk.injEq] at planned
  obtain ⟨warehouse, within, identity, -, name, named, ident, read, granted, -, plan, made, -,
    rfl, rfl⟩ := planned
  have same : name.value = request.name := by
    simp only [TableName.new, bind_eq_ok, exists_unit, pure_eq, Except.ok.injEq] at named
    obtain ⟨-, rfl⟩ := named
    rfl
  refine ⟨⟨warehouse, within, same ▸ read⟩, fun absent => plan_location made absent⟩

omit [LocationUrls] in
theorem recordAuditEvent_tables (store : MemoryState) (event : CatalogAuditEvent) :
    (store.step (.recordAuditEvent event)).tables = store.tables := by
  rcases atomic_cases store (store.recordAuditEvent event) with
    ⟨done, recorded⟩ | ⟨_, _, left⟩
  · rw [MemoryState.step, ((MemoryState.recordAuditEvent_ok _ _ _ _).mp recorded).2.2]
  · rw [MemoryState.step, left]

omit [LocationUrls] in
/-- The store adds the table under a key that is free, or leaves all tables. -/
theorem storeCreated_cases (store : MemoryState) (receipt : AuthorizationReceipt)
    (table : TableRecord) (given : Surroundings) :
    (store.succeeds (.createTable table) = true ∧ store.tables[tableKey table.ident]? = none ∧
      (storeCreated store receipt table given).tables =
        store.tables.insert (tableKey table.ident) table) ∨
    (store.succeeds (.createTable table) = false ∧
      (storeCreated store receipt table given).tables = store.tables) := by
  cases created : store.createTable table with
  | error error =>
      right
      refine ⟨by rw [MemoryState.succeeds, created]; rfl, ?_⟩
      simp only [storeCreated, ChangeRequest.event, ChangeRequest.describe, created,
        error_bind]
  | ok outcome =>
      left
      obtain ⟨result, next⟩ := outcome
      obtain ⟨-, -, vacant, rfl, rfl⟩ := (MemoryState.createTable_ok _ _ _ _).mp created
      refine ⟨by rw [MemoryState.succeeds, created]; rfl,
        (OrderedMap.contains_eq_false _ _).mp vacant, ?_⟩
      simp only [storeCreated, ChangeRequest.event, ChangeRequest.describe, created, ok_bind,
        pure_eq, recordAuditEvent_tables]
      rw [MemoryState.step, created]
      rfl

omit [LocationUrls] in
/-- A rename moves a table that is there to a key that is free, or leaves all tables. -/
theorem storeRenamed_cases (store : MemoryState) (source destination : TableIdent)
    (principal : Principal) (document : Option Json) (now : Timestamp) :
    let op := .renameTable source destination principal document now
    (store.succeeds op = true ∧ store.tables[tableKey destination]? = none ∧ ∃ table,
      store.tables[tableKey source]? = some table ∧ table.ident = source ∧
      (store.step op).tables = (store.tables.erase (tableKey source)).insert
        (tableKey destination) (MemoryState.renamedTable destination now table)) ∨
    (store.succeeds op = false ∧ (store.step op).tables = store.tables) := by
  intro op
  cases renamed : store.renameTable source destination principal document now with
  | error error =>
      right
      refine ⟨?_, ?_⟩
      · rw [MemoryState.succeeds, renamed]
        rfl
      · rw [MemoryState.step, renamed]
        rfl
  | ok outcome =>
      left
      obtain ⟨result, next⟩ := outcome
      obtain ⟨table, ready, rfl, rfl⟩ := (MemoryState.renameTable_ok _ _ _ _ _ _ _ _).mp renamed
      refine ⟨?_, (OrderedMap.contains_eq_false _ _).mp ready.vacant, table, ready.stored,
        ready.owner, ?_⟩
      · rw [MemoryState.succeeds, renamed]
        rfl
      · rw [MemoryState.step, renamed]
        rfl

theorem tracks_create (tracks : Tracks tableLocationRoot system)
    (catalogPrefix : CatalogPrefix) (ns : String) (request : CreateTableRequest)
    (given : Surroundings) :
    Tracks tableLocationRoot
      (step state tableLocationRoot system (.createTable catalogPrefix ns request given)) := by
  rw [step]
  split
  next receipt table planned =>
    obtain ⟨⟨warehouse, -, read⟩, place⟩ := newTable_named planned
    rcases storeCreated_cases system.store receipt table given with
      ⟨succeeds, vacant, tables⟩ | ⟨failed, tables⟩
    · have kept : ∀ entry ∈ system.defaulted, ∃ found,
          (storeCreated system.store receipt table given).tables[tableKey entry.current]? =
            some found ∧ found.ident = entry.current ∧
          found.location = defaultLocation tableLocationRoot entry.origin := by
        intro entry member
        obtain ⟨found, stored, rest⟩ := tracks.stored entry member
        refine ⟨found, ?_, rest⟩
        rw [tables, OrderedMap.getElem?_insert, if_neg, stored]
        intro same
        rw [← same, vacant] at stored
        cases stored
      by_cases absent : request.location = none
      · simp only [absent, succeeds, and_self, if_true]
        constructor
        · intro entry member
          rcases List.mem_append.mp member with earlier | new
          · exact tracks.made entry earlier
          · rw [List.mem_singleton.mp new]
            exact restTableIdent_made read
        · intro entry member
          rcases List.mem_append.mp member with earlier | new
          · exact kept entry earlier
          · rw [List.mem_singleton.mp new]
            refine ⟨table, ?_, rfl, place absent⟩
            rw [tables, OrderedMap.getElem?_insert, if_pos rfl]
      · simp only [absent, false_and, if_false]
        exact ⟨tracks.made, kept⟩
    · simp only [failed, Bool.false_eq_true, and_false, if_false]
      refine ⟨tracks.made, fun entry member => ?_⟩
      rw [tables]
      exact tracks.stored entry member
  next => exact tracks

theorem tracks_rename (tracks : Tracks tableLocationRoot system)
    (catalogPrefix : CatalogPrefix) (source destination : TableIdentifier)
    (given : Surroundings) :
    Tracks tableLocationRoot (step state tableLocationRoot system
      (.renameTable catalogPrefix source destination given)) := by
  rw [step]
  split
  next receipt source destination planned =>
    dsimp only
    rcases storeRenamed_cases system.store source destination receipt.principal
      (some receipt.toJson) given.now with
      ⟨succeeds, vacant, table, stored, owner, tables⟩ | ⟨failed, tables⟩
    · rw [if_pos succeeds]
      constructor
      · intro entry member
        obtain ⟨earlier, listed, rfl⟩ := List.mem_map.mp member
        have made := tracks.made earlier listed
        rw [DefaultedTable.moved]
        split <;> exact made
      · intro entry member
        obtain ⟨earlier, listed, rfl⟩ := List.mem_map.mp member
        obtain ⟨found, held, named, place⟩ := tracks.stored earlier listed
        rw [tables, DefaultedTable.moved]
        split
        next same =>
          rw [same] at held
          obtain rfl := Option.some.inj (held.symm.trans stored)
          refine ⟨MemoryState.renamedTable destination given.now found, ?_, rfl, place⟩
          rw [OrderedMap.getElem?_insert, if_pos rfl]
        next different =>
          refine ⟨found, ?_, named, place⟩
          rw [OrderedMap.getElem?_insert, if_neg, OrderedMap.getElem?_erase, if_neg, held]
          · intro same
            rw [← same] at held
            obtain rfl := Option.some.inj (held.symm.trans stored)
            exact different (named.symm.trans owner)
          · intro same
            rw [← same, vacant] at held
            cases held
    · rw [if_neg (by simp [failed])]
      refine ⟨tracks.made, fun entry member => ?_⟩
      rw [tables]
      exact tracks.stored entry member
  next => exact tracks

theorem tracks_step (tracks : Tracks tableLocationRoot system) (call : LocationCall) :
    Tracks tableLocationRoot (step state tableLocationRoot system call) := by
  cases call with
  | createTable catalogPrefix ns request given => exact tracks_create tracks _ _ _ _
  | renameTable catalogPrefix source destination given => exact tracks_rename tracks _ _ _ _

/-- A step that takes a fresh place adds no origin that looks like another. -/
theorem originsApart_step (apart : OriginsApart tableLocationRoot system) {call : LocationCall}
    (fresh : TakesFreshPlace state tableLocationRoot system call) :
    OriginsApart tableLocationRoot (step state tableLocationRoot system call) := by
  cases call with
  | createTable catalogPrefix ns request given =>
      rw [step]
      split
      next receipt table planned =>
        obtain ⟨⟨warehouse, within, read⟩, -⟩ := newTable_named planned
        intro one member other otherMember different
        dsimp only at member otherMember
        split at member
        next new =>
          have unlike := fresh new.1 warehouse table.ident within read
          rw [if_pos new] at otherMember
          rcases List.mem_append.mp member with earlier | latest
          · rcases List.mem_append.mp otherMember with otherEarlier | otherLatest
            · exact apart one earlier other otherEarlier different
            · rw [List.mem_singleton.mp otherLatest]
              exact unlike one earlier
          · rcases List.mem_append.mp otherMember with otherEarlier | otherLatest
            · rw [List.mem_singleton.mp latest]
              exact fun alike => unlike other otherEarlier alike.symm
            · rw [List.mem_singleton.mp latest, List.mem_singleton.mp otherLatest] at different
              exact absurd rfl different
        next unnamed =>
          rw [if_neg unnamed] at otherMember
          exact apart one member other otherMember different
      next => exact apart
  | renameTable catalogPrefix source destination given =>
      rw [step]
      split
      next receipt source destination planned =>
        intro one member other otherMember different
        dsimp only at member otherMember
        split at member
        next succeeds =>
          rw [if_pos succeeds] at otherMember
          obtain ⟨before, listed, rfl⟩ := List.mem_map.mp member
          obtain ⟨otherBefore, otherListed, rfl⟩ := List.mem_map.mp otherMember
          have origins (table : DefaultedTable) :
              (table.moved source destination).origin = table.origin := by
            rw [DefaultedTable.moved]
            split <;> rfl
          rw [origins, origins]
          refine apart before listed otherBefore otherListed fun same => different ?_
          rw [DefaultedTable.moved, DefaultedTable.moved, same]
          split
          · rfl
          · exact same
        next failed =>
          rw [if_neg failed] at otherMember
          exact apart one member other otherMember different
      next => exact apart

variable (state tableLocationRoot)

/-- Where tables that are created without a location end up. In any state that is reached they lie
apart exactly when no two of them were created under names that look alike; and in a run in which
each of them takes a fresh place they lie apart in every state. -/
theorem defaultLocations_stayApart (start : MemoryState) (calls : List LocationCall) :
    ((run state tableLocationRoot start calls).LocationsApart ↔
      OriginsApart tableLocationRoot (run state tableLocationRoot start calls)) ∧
    (Along (step state tableLocationRoot) (TakesFreshPlace state tableLocationRoot) ⟨start, []⟩
        calls →
      ∀ done rest, calls = done ++ rest →
        (run state tableLocationRoot start done).LocationsApart) := by
  have initial : Tracks tableLocationRoot ⟨start, []⟩ := ⟨by simp, by simp⟩
  have tracked (done : List LocationCall) :
      Tracks tableLocationRoot (run state tableLocationRoot start done) :=
    run_invariant (step state tableLocationRoot) (Tracks tableLocationRoot)
      (fun _ call tracks => tracks_step tracks call) ⟨start, []⟩ done initial
  refine ⟨(tracked calls).locationsApart_iff, ?_⟩
  rintro along done rest rfl
  refine (tracked done).locationsApart_iff.mpr ?_
  exact run_invariant_along (step state tableLocationRoot)
    (TakesFreshPlace state tableLocationRoot) (OriginsApart tableLocationRoot)
    (fun _ _ apart fresh => originsApart_step apart fresh) ⟨start, []⟩ done (by simp [OriginsApart])
    ((along_append _ _ _).mp along).1

end LocationSystem

end Runs

/-! A store with two namespaces of one dotted path. -/

def dottedStore : MemoryState :=
  let lookAlikes := ((∅ : NamespaceMap).insert ⟨["a.b"]⟩ .default).insert ⟨["a", "b"]⟩ .default
  { MemoryState.empty with namespaces := (∅ : BTreeMap NamespaceMap).insert "main" lookAlikes }

def createByDefault (ns name : String) : LocationCall :=
  .createTable .default ns ⟨name, none, some (.object []), none, none, none, none, none, .null⟩
    ⟨.ok anonymousIdentity, 0, 0, 0, "1", .ok ()⟩

def dottedTable (parts : List String) (name : String) : TableIdent := ⟨⟨"main"⟩, ⟨parts⟩, ⟨name⟩⟩

theorem defaultLocations_stayApart_names :
    let _ := constantExternal
    let _ := fileUrls
    (LocationSystem.run mainState none dottedStore
      [createByDefault "a.b" "t", createByDefault "a.b" "u"]).LocationsApart := by
  intro _ _
  refine (LocationSystem.defaultLocations_stayApart mainState none dottedStore
    [createByDefault "a.b" "t", createByDefault "a.b" "u"]).2 ?_ _ [] rfl
  refine ⟨fun _ _ _ _ _ table member => absurd member List.not_mem_nil, ?_, trivial⟩
  intro _ warehouse ident _ read table member alike
  have first : (LocationSystem.step mainState none ⟨dottedStore, []⟩
      (createByDefault "a.b" "t")).defaulted.map (fun table => table.origin.name) = [⟨"t"⟩] := by
    decide +kernel
  have named : table.origin.name = ⟨"t"⟩ := by
    have listed := List.mem_map_of_mem (f := fun table => table.origin.name) member
    rw [first] at listed
    exact List.mem_singleton.mp listed
  have other : ident.name = ⟨"u"⟩ := by
    simp only [restTableIdent, bind_eq_ok, pure_eq, Except.ok.injEq] at read
    obtain ⟨_, _, _, _, name, made, rfl⟩ := read
    have built : TableName.new "u" = .ok ⟨"u"⟩ := by decide +kernel
    exact (Except.ok.inj (made.symm.trans built))
  have same := alike.2.2
  rw [named, other] at same
  exact absurd same (by decide)

/-- Each table that was created without a location, and what is stored under its name. -/
def LocationSystem.places (system : LocationSystem) :
    List (DefaultedTable × Option (TableIdent × String)) :=
  system.defaulted.map fun entry => (entry, (system.store.tables[tableKey entry.current]?).map
    fun table => (table.ident, table.location))

theorem LocationSystem.not_apart {system : LocationSystem} (one other : DefaultedTable)
    (place : String) (different : one.current ≠ other.current)
    (listed : system.places =
      [(one, some (one.current, place)), (other, some (other.current, place))]) :
    ¬system.LocationsApart := by
  intro apart
  have found (entry : DefaultedTable)
      (member : (entry, some (entry.current, place)) ∈ system.places) :
      entry ∈ system.defaulted ∧ ∃ table, system.store.tables[tableKey entry.current]? =
        some table ∧ table.ident = entry.current ∧ table.location = place := by
    obtain ⟨held, own, same⟩ := List.mem_map.mp member
    obtain ⟨rfl, stored⟩ := Prod.mk.inj same
    obtain ⟨table, present, parts⟩ := Option.map_eq_some_iff.mp stored
    exact ⟨own, table, present, Prod.mk.inj parts⟩
  obtain ⟨member, table, stored, owner, here⟩ := found one (by simp [listed])
  obtain ⟨otherMember, another, otherStored, otherOwner, there⟩ := found other (by simp [listed])
  exact (apart one member other otherMember different table another stored otherStored owner
    otherOwner).1 (here.trans there.symm)

/-- Two namespaces are spelled alike; and a name is free again after a rename. -/
theorem defaultLocations_collide :
    let _ := constantExternal
    let _ := fileUrls
    let renamed : LocationCall := .renameTable .default ⟨["a.b"], "t"⟩ ⟨["a.b"], "u"⟩
      ⟨.ok anonymousIdentity, 0, 0, 0, "1", .ok ()⟩
    ¬(LocationSystem.run mainState none dottedStore
        [createByDefault "a.b" "t", createByDefault "a\x1fb" "t"]).LocationsApart ∧
    ¬(LocationSystem.run mainState (some "s3://lake") dottedStore
        [createByDefault "a.b" "t", renamed, createByDefault "a.b" "t"]).LocationsApart := by
  intro _ _ renamed
  constructor
  · exact LocationSystem.not_apart ⟨dottedTable ["a.b"] "t", dottedTable ["a.b"] "t"⟩
      ⟨dottedTable ["a", "b"] "t", dottedTable ["a", "b"] "t"⟩ "file:///tmp/lakecat/main/a.b/t"
      (by decide) (by decide +kernel)
  · exact LocationSystem.not_apart ⟨dottedTable ["a.b"] "t", dottedTable ["a.b"] "u"⟩
      ⟨dottedTable ["a.b"] "t", dottedTable ["a.b"] "t"⟩ "s3://lake/a.b/t"
      (by decide) (by decide +kernel)

end LakeCat
