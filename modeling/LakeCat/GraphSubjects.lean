import LakeCat.NameKeys
import LakeCat.ProjectedGraph

/-!
What the subject of a graph event tells of its object. A subject is a list of
fields with a colon after each, and a last one that may hold any text; it can be
read back up to how a namespace is spelled and of what kind a principal is.
-/

namespace LakeCat

/-- Fields with a colon after each, and then the last one. -/
def joinedFields (fields : List String) (last : String) : String :=
  fields.foldr (fun field rest => field ++ ":" ++ rest) last

theorem joinedFields_cons (field : String) (fields : List String) (last : String) :
    (joinedFields (field :: fields) last).toList =
      field.toList ++ ':' :: (joinedFields fields last).toList := by
  simp [joinedFields]

/-- Two texts that agree have the same fields, or one goes on with fields where the other has
its last one. -/
theorem joinedFields_cases {fields others : List String} {last otherLast : String}
    (free : ∀ field ∈ fields, ':' ∉ field.toList)
    (otherFree : ∀ field ∈ others, ':' ∉ field.toList)
    (same : joinedFields fields last = joinedFields others otherLast) :
    (fields = others ∧ last = otherLast) ∨
      (∃ next rest, others = fields ++ next :: rest ∧ ':' ∈ last.toList) ∨
      ∃ next rest, fields = others ++ next :: rest ∧ ':' ∈ otherLast.toList := by
  induction fields generalizing others with
  | nil =>
      cases others with
      | nil => exact .inl ⟨rfl, same⟩
      | cons next rest =>
          refine .inr (.inl ⟨next, rest, rfl, ?_⟩)
          rw [show last = joinedFields [] last from rfl, same, joinedFields_cons]
          simp
  | cons field fields ih =>
      cases others with
      | nil =>
          refine .inr (.inr ⟨field, fields, rfl, ?_⟩)
          rw [show otherLast = joinedFields [] otherLast from rfl, ← same, joinedFields_cons]
          simp
      | cons other others =>
          have parts := congrArg String.toList same
          rw [joinedFields_cons, joinedFields_cons] at parts
          obtain ⟨heads, tails⟩ := append_separator_inj (free field List.mem_cons_self)
            (otherFree other List.mem_cons_self) parts
          obtain rfl := String.toList_inj.mp heads
          rcases ih (fun name member => free name (List.mem_cons_of_mem _ member))
            (fun name member => otherFree name (List.mem_cons_of_mem _ member))
            (String.toList_inj.mp tails) with
            ⟨rfl, rfl⟩ | ⟨next, rest, rfl, colon⟩ | ⟨next, rest, rfl, colon⟩
          · exact .inl ⟨rfl, rfl⟩
          · exact .inr (.inl ⟨next, rest, rfl, colon⟩)
          · exact .inr (.inr ⟨next, rest, rfl, colon⟩)

/-- The table with the namespace as its path spells it. -/
def TableIdent.asWritten (ident : TableIdent) : TableIdent :=
  { ident with ns := ⟨[ident.ns.path]⟩ }

namespace GraphObject

def subject (object : GraphObject) : String :=
  (object.graphEvent .loaded .null).subject

theorem graphEvent_subject (object : GraphObject) (action : GraphAction) (properties : Json) :
    (object.graphEvent action properties).subject = object.subject := by
  cases object <;> rfl

/-- Made of valid names. An id may be any text. -/
def Made : GraphObject → Prop
  | warehouse name => name.Made
  | ns owner path | view owner path _ => owner.Made ∧ path.Made
  | table ident | column ident _ | snapshot ident _ | commit ident _ => ident.Made
  | policy owner _ | storageProfile owner _ | model owner _ => owner.Made
  | server _ | project _ | principal _ | scanPlan _ => True

/-- The object as far as its subject tells. -/
def asWritten : GraphObject → GraphObject
  | ns owner path => ns owner ⟨[path.path]⟩
  | view owner path name => view owner ⟨[path.path]⟩ name
  | table ident => table ident.asWritten
  | column ident columnId => column ident.asWritten columnId
  | snapshot ident snapshotId => snapshot ident.asWritten snapshotId
  | commit ident sequenceNumber => commit ident.asWritten sequenceNumber
  | principal named => principal ⟨named.subject, .anonymous⟩
  | other => other

def tableFields (ident : TableIdent) : List String :=
  ["lakecat", "table", ident.warehouse.value, ident.ns.path]

def localFields (kind : String) (ident : TableIdent) : List String :=
  "lakecat" :: kind :: (tableFields ident ++ [ident.name.value])

def fields : GraphObject → List String
  | server _ => ["lakecat", "server"]
  | project _ => ["lakecat", "project"]
  | principal _ => ["lakecat", "principal"]
  | scanPlan _ => ["lakecat", "scan-plan"]
  | warehouse _ => ["lakecat", "warehouse"]
  | ns owner _ => ["lakecat", "warehouse", owner.value, "namespace"]
  | view owner path _ => ["lakecat", "warehouse", owner.value, "namespace", path.path, "view"]
  | policy owner _ => ["lakecat", "warehouse", owner.value, "policy"]
  | storageProfile owner _ => ["lakecat", "warehouse", owner.value, "storage-profile"]
  | model owner _ => ["lakecat", "warehouse", owner.value, "querygraph-model"]
  | table ident => tableFields ident
  | column ident _ => localFields "column" ident
  | snapshot ident _ => localFields "snapshot" ident
  | commit ident _ => localFields "commit" ident

def last : GraphObject → String
  | server serverId => serverId
  | project projectId => projectId
  | principal named => named.subject
  | scanPlan planId => planId
  | warehouse name => name.value
  | ns _ path => path.path
  | view _ _ name => name
  | policy _ policyId => policyId
  | storageProfile _ profileId => profileId
  | model _ modelId => modelId
  | table ident => ident.name.value
  | column _ columnId => columnId
  | snapshot _ snapshotId => snapshotId
  | commit _ sequenceNumber => toString sequenceNumber

def ofFields : List String → String → Option GraphObject
  | ["lakecat", "server"], serverId => some (server serverId)
  | ["lakecat", "project"], projectId => some (project projectId)
  | ["lakecat", "principal"], subject => some (principal ⟨subject, .anonymous⟩)
  | ["lakecat", "scan-plan"], planId => some (scanPlan planId)
  | ["lakecat", "warehouse"], name => some (warehouse ⟨name⟩)
  | ["lakecat", "warehouse", owner, "namespace"], path => some (ns ⟨owner⟩ ⟨[path]⟩)
  | ["lakecat", "warehouse", owner, "namespace", path, "view"], name =>
      some (view ⟨owner⟩ ⟨[path]⟩ name)
  | ["lakecat", "warehouse", owner, "policy"], policyId => some (policy ⟨owner⟩ policyId)
  | ["lakecat", "warehouse", owner, "storage-profile"], profileId =>
      some (storageProfile ⟨owner⟩ profileId)
  | ["lakecat", "warehouse", owner, "querygraph-model"], modelId => some (model ⟨owner⟩ modelId)
  | ["lakecat", "table", owner, path], name => some (table ⟨⟨owner⟩, ⟨[path]⟩, ⟨name⟩⟩)
  | ["lakecat", "column", "lakecat", "table", owner, path, name], columnId =>
      some (column ⟨⟨owner⟩, ⟨[path]⟩, ⟨name⟩⟩ columnId)
  | ["lakecat", "snapshot", "lakecat", "table", owner, path, name], snapshotId =>
      some (snapshot ⟨⟨owner⟩, ⟨[path]⟩, ⟨name⟩⟩ snapshotId)
  | ["lakecat", "commit", "lakecat", "table", owner, path, name], sequenceNumber =>
      some (commit ⟨⟨owner⟩, ⟨[path]⟩, ⟨name⟩⟩ (Nat.ofDigitChars 10 sequenceNumber.toList 0))
  | _, _ => none

theorem ofFields_fields (object : GraphObject) :
    ofFields object.fields object.last = some object.asWritten := by
  cases object with
  | commit ident sequenceNumber =>
      have read : Nat.ofDigitChars 10 (toString sequenceNumber).toList 0 = sequenceNumber := by
        simp
      have found : ofFields (localFields "commit" ident) (toString sequenceNumber) =
          some (commit ident.asWritten
            (Nat.ofDigitChars 10 (toString sequenceNumber).toList 0)) := rfl
      rw [read] at found
      exact found
  | _ => rfl

/-- More fields belong to another object only where the last one is a name. -/
theorem last_free {object other : GraphObject} {next : String} {rest : List String}
    (made : object.Made) (more : other.fields = object.fields ++ next :: rest) :
    ':' ∉ object.last.toList := by
  have found := ofFields_fields other
  rw [more] at found
  cases object with
  | warehouse name => exact made.text.colon
  | ns owner path => exact (isNameText_path made.2.text).colon
  | table ident => exact made.name.text.colon
  | _ => simp [fields, localFields, tableFields, ofFields] at found

theorem fields_free {object : GraphObject} (made : object.Made) :
    ∀ field ∈ object.fields, ':' ∉ field.toList := by
  have table {ident : TableIdent} (named : ident.Made) :
      ∀ field ∈ tableFields ident, ':' ∉ field.toList := by
    simp only [tableFields, List.forall_mem_cons]
    exact ⟨by decide, by decide, named.warehouse.text.colon,
      (isNameText_path named.ns.text).colon, nofun⟩
  have inside {kind : String} {ident : TableIdent} (plain : ':' ∉ kind.toList)
      (named : ident.Made) : ∀ field ∈ localFields kind ident, ':' ∉ field.toList := by
    simp only [localFields, List.forall_mem_cons, List.forall_mem_append]
    exact ⟨by decide, plain, table named, named.name.text.colon, nofun⟩
  have owned {owner : WarehouseName} {kind : String} (named : owner.Made)
      (plain : ':' ∉ kind.toList) :
      ∀ field ∈ ["lakecat", "warehouse", owner.value, kind], ':' ∉ field.toList := by
    simp only [List.forall_mem_cons]
    exact ⟨by decide, by decide, named.text.colon, plain, nofun⟩
  cases object with
  | server | project | principal | scanPlan | warehouse =>
      simp only [fields, List.forall_mem_cons]
      exact ⟨by decide, by decide, nofun⟩
  | ns owner path => exact owned made.1 (by decide)
  | policy owner | storageProfile owner | model owner => exact owned made (by decide)
  | view owner path name =>
      simp only [fields, List.forall_mem_cons]
      exact ⟨by decide, by decide, made.1.text.colon, by decide,
        (isNameText_path made.2.text).colon, by decide, nofun⟩
  | table ident => exact table made
  | column ident | snapshot ident | commit ident => exact inside (by decide) made

theorem subject_heads :
    "lakecat:server:" = "lakecat" ++ (":" ++ ("server" ++ ":")) ∧
      "lakecat:project:" = "lakecat" ++ (":" ++ ("project" ++ ":")) ∧
      "lakecat:principal:" = "lakecat" ++ (":" ++ ("principal" ++ ":")) ∧
      "lakecat:scan-plan:" = "lakecat" ++ (":" ++ ("scan-plan" ++ ":")) ∧
      "lakecat:warehouse:" = "lakecat" ++ (":" ++ ("warehouse" ++ ":")) ∧
      "lakecat:table:" = "lakecat" ++ (":" ++ ("table" ++ ":")) ∧
      "lakecat:" = "lakecat" ++ ":" := by
  decide +kernel

theorem subject_kinds :
    ":namespace:" = ":" ++ ("namespace" ++ ":") ∧ ":view:" = ":" ++ ("view" ++ ":") ∧
      ":policy:" = ":" ++ ("policy" ++ ":") ∧
      ":storage-profile:" = ":" ++ ("storage-profile" ++ ":") ∧
      ":querygraph-model:" = ":" ++ ("querygraph-model" ++ ":") := by
  decide +kernel

theorem warehouseStableId_fields (owner : WarehouseName) :
    GraphEvent.warehouseStableId owner =
      "lakecat" ++ (":" ++ ("warehouse" ++ (":" ++ owner.value))) := by
  unfold GraphEvent.warehouseStableId
  simp only [subject_heads, String.append_assoc]

theorem stableId_fields (ident : TableIdent) :
    ident.stableId = "lakecat" ++ (":" ++ ("table" ++ (":" ++ (ident.warehouse.value ++
      (":" ++ (ident.ns.path ++ (":" ++ ident.name.value))))))) := by
  unfold TableIdent.stableId
  simp only [subject_heads, String.append_assoc]

theorem subject_fields (object : GraphObject) :
    object.subject = joinedFields object.fields object.last := by
  rw [subject]
  cases object <;>
    simp only [graphEvent, GraphEvent.server, GraphEvent.project, GraphEvent.principal,
      GraphEvent.scanPlan, GraphEvent.warehouse, GraphEvent.ofNamespace, GraphEvent.view,
      GraphEvent.policy, GraphEvent.storageProfile, GraphEvent.querygraphModel,
      GraphEvent.ofTable, GraphEvent.column, GraphEvent.snapshot, GraphEvent.commit,
      GraphEvent.tableScopedStableId, warehouseStableId_fields, stableId_fields,
      joinedFields, fields, last, tableFields, localFields, List.foldr_cons, List.foldr_nil,
      List.cons_append, List.nil_append] <;>
    simp only [subject_heads, subject_kinds, String.append_assoc]

theorem subject_asWritten (object : GraphObject) : object.asWritten.subject = object.subject := by
  have path (ns : Namespace) : (⟨[ns.path]⟩ : Namespace).path = ns.path := by
    simp [Namespace.path, joinText]
  rw [subject_fields, subject_fields]
  cases object <;> simp only [asWritten, fields, last, tableFields, localFields,
    TableIdent.asWritten, path]

/-- Two objects have one subject exactly when they are written alike. -/
theorem subject_eq_iff {one other : GraphObject} (made : one.Made) (otherMade : other.Made) :
    one.subject = other.subject ↔ one.asWritten = other.asWritten := by
  constructor
  · intro same
    rw [subject_fields, subject_fields] at same
    rcases joinedFields_cases (fields_free made) (fields_free otherMade) same with
      ⟨fields, last⟩ | ⟨next, rest, more, colon⟩ | ⟨next, rest, more, colon⟩
    · have read := ofFields_fields one
      rw [fields, last, ofFields_fields] at read
      exact (Option.some.inj read).symm
    · exact absurd colon (last_free made more)
    · exact absurd colon (last_free otherMade more)
  · intro alike
    rw [← subject_asWritten one, alike, subject_asWritten]

end GraphObject

end LakeCat
