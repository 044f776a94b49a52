import LakeCat.AuthorizationNames

/-!
The spelling of a namespace in a request. Most handlers split it at the unit
separator that the protocol joins components with; the handlers of views split it at dots.
-/

namespace LakeCat

open Fallible

/-- The components as the protocol joins them. -/
def Namespace.restPath (ns : Namespace) : String :=
  joinText "\x1f" ns.parts

/-- The percent-encoding of a path segment, which the HTTP layer undoes. -/
class PathSegments where
  encode : String → String
  decode : String → Option String
  decode_encode : ∀ text, decode (encode text) = some text

/-- The namespace of a policy binding, which a request body lists by component. -/
def policyBindingNamespace (ns : Option (List String)) : LakeCatResult (Option Namespace) :=
  match ns with
  | none => .ok none
  | some parts => do return some (← Namespace.new parts)

namespace ServiceRequest

/-- The spelled namespace of a request. -/
def nsText : ServiceRequest → Option String
  | listNamespaces _ parent => parent
  | listTables _ ns | loadNamespace _ ns | updateNamespaceProperties _ ns | dropNamespace _ ns
  | createTable _ ns _ | registerTable _ ns _ | loadTable _ ns _ | commitTable _ ns _
  | deleteTable _ ns _ | planTableScan _ ns _ | fetchScanTasks _ ns _ | loadCredentials _ ns _
  | restoreTable _ ns _ | listTableCommits _ ns _ | catalogListViews _ ns
  | catalogLoadView _ ns _ | catalogUpsertView _ ns _ | catalogDropView _ ns _ | listViews _ ns
  | listViewVersionReceipts _ ns _ | listViewVersionReceiptChains _ ns | upsertView _ ns _
  | dropView _ ns _ => some ns
  | _ => none

/-- The request with the namespace spelled as the text. -/
def respelled (text : String) : ServiceRequest → ServiceRequest
  | listNamespaces catalogPrefix _ => listNamespaces catalogPrefix (some text)
  | listTables catalogPrefix _ => listTables catalogPrefix text
  | loadNamespace catalogPrefix _ => loadNamespace catalogPrefix text
  | updateNamespaceProperties catalogPrefix _ => updateNamespaceProperties catalogPrefix text
  | dropNamespace catalogPrefix _ => dropNamespace catalogPrefix text
  | createTable catalogPrefix _ name => createTable catalogPrefix text name
  | registerTable catalogPrefix _ name => registerTable catalogPrefix text name
  | loadTable catalogPrefix _ table => loadTable catalogPrefix text table
  | commitTable catalogPrefix _ table => commitTable catalogPrefix text table
  | deleteTable catalogPrefix _ table => deleteTable catalogPrefix text table
  | planTableScan catalogPrefix _ table => planTableScan catalogPrefix text table
  | fetchScanTasks catalogPrefix _ table => fetchScanTasks catalogPrefix text table
  | loadCredentials catalogPrefix _ table => loadCredentials catalogPrefix text table
  | restoreTable warehouse _ table => restoreTable warehouse text table
  | listTableCommits warehouse _ table => listTableCommits warehouse text table
  | catalogListViews warehouse _ => catalogListViews warehouse text
  | catalogLoadView warehouse _ view => catalogLoadView warehouse text view
  | catalogUpsertView warehouse _ view => catalogUpsertView warehouse text view
  | catalogDropView warehouse _ view => catalogDropView warehouse text view
  | listViews warehouse _ => listViews warehouse text
  | listViewVersionReceipts warehouse _ view => listViewVersionReceipts warehouse text view
  | listViewVersionReceiptChains warehouse _ => listViewVersionReceiptChains warehouse text
  | upsertView warehouse _ view => upsertView warehouse text view
  | dropView warehouse _ view => dropView warehouse text view
  | request => request

/-- The handlers that are about views. -/
def onViews : ServiceRequest → Bool
  | catalogListViews .. | catalogLoadView .. | catalogUpsertView .. | catalogDropView ..
  | listViews .. | listViewVersionReceipts .. | listViewVersionReceiptChains .. | upsertView ..
  | dropView .. => true
  | _ => false

end ServiceRequest

/-- The namespace that the object of a request is in. -/
def CatalogObject.ns? : CatalogObject → Option Namespace
  | .namespaces _ parent => parent
  | .ns _ name | .tables _ name | .views _ name | .view _ name _ => some name
  | .table ident | .renamed ident _ => some ident.ns
  | _ => none

/-- One component, which has no dot. -/
def Namespace.IsPlain (ns : Namespace) : Prop :=
  ∃ part, ns.parts = [part] ∧ '.' ∉ part.toList

theorem Namespace.Made.new {ns : Namespace} (made : ns.Made) : Namespace.new ns.parts = .ok ns := by
  obtain ⟨parts, built⟩ := made
  have same : ns = ⟨parts⟩ := by
    simp only [Namespace.new, bind_eq_ok, exists_unit, pure_eq, Except.ok.injEq] at built
    exact built.2.2.symm
  rwa [same] at built ⊢

theorem Namespace.Made.filled {ns : Namespace} (made : ns.Made) :
    ns.parts ≠ [] ∧ ∀ part ∈ ns.parts, part.toList ≠ [] := by
  have built := made.new
  simp only [Namespace.new, bind_eq_ok, checkEach_ok, validateName_ok, rejectIf_ok, exists_unit,
    pure_eq] at built
  exact ⟨built.1, fun part member => (built.2.1 part member).1⟩

/-- What is joined with a separator that no part has is split back into its parts. -/
theorem splitText_joinText (separator : Char) {parts : List String} (filled : parts ≠ [])
    (absent : ∀ part ∈ parts, separator ∉ part.toList) :
    splitText (joinText (String.singleton separator) parts) separator = parts := by
  have free {part : String} (member : part ∈ parts) (ch : Char) (inside : ch ∈ part.toList) :
      decide (ch = separator) = false := by
    refine decide_eq_false fun same => absent part member ?_
    rwa [← same]
  rw [splitText, joinText, String.toList_intercalate]
  induction parts with
  | nil => exact absurd rfl filled
  | cons part others ih =>
      cases others with
      | nil => simp [splitChars_free _ _ (free List.mem_cons_self)]
      | cons next later =>
          have rest := ih (by simp) (fun part member => absent part (by simp [member]))
            (fun {part} member => free (by simp [member]))
          rw [List.map_cons, List.map_cons, List.intercalate_cons_cons]
          rw [List.map_cons, String.toList_singleton] at rest
          simp only [String.toList_singleton, List.singleton_append, List.append_assoc]
          rw [splitChars_append _ separator (by simp) _ _ (free List.mem_cons_self), List.map_cons,
            rest, String.ofList_toList]

theorem splitChars_absent (separator : Char) (text : List Char) :
    ∀ piece ∈ splitChars (fun ch => ch = separator) text, separator ∉ piece := by
  induction text with
  | nil => simp [splitChars]
  | cons ch rest ih =>
      rw [splitChars]
      by_cases same : ch = separator
      · simp only [same, decide_true, if_true, List.mem_cons]
        rintro piece (rfl | member)
        · simp
        · exact ih piece member
      · simp only [same, decide_false, Bool.false_eq_true, if_false]
        have differs : separator ≠ ch := fun other => same other.symm
        cases pieces : splitChars (fun ch => ch = separator) rest with
        | nil => simp [differs]
        | cons first others =>
            rw [pieces] at ih
            intro piece member
            rcases List.mem_cons.mp member with rfl | member
            · simp [differs, ih first List.mem_cons_self]
            · exact ih piece (List.mem_cons_of_mem _ member)

theorem mem_trimText {ch : Char} {text : String} (member : ch ∈ (trimText text).toList) :
    ch ∈ text.toList := by
  rw [trimText, String.toList_ofList, List.mem_reverse] at member
  have kept := (List.dropWhile_suffix _).subset member
  rw [List.mem_reverse] at kept
  exact (List.dropWhile_suffix _).subset kept

theorem trimText_plain {text : String} (plain : ∀ ch ∈ text.toList, isWhitespace ch = false) :
    trimText text = text := by
  have kept (chars : List Char) (free : ∀ ch ∈ chars, isWhitespace ch = false) :
      chars.dropWhile isWhitespace = chars := by
    cases chars with
    | nil => rfl
    | cons ch rest => exact List.dropWhile_cons_of_neg (by simp [free ch])
  rw [trimText, kept _ plain, kept _ fun ch member => plain ch (List.mem_reverse.mp member),
    List.reverse_reverse, String.ofList_toList]

theorem isNameChar_bounds {ch : Char} (named : isNameChar ch = true) :
    0x2d ≤ ch.toNat ∧ ch.toNat ≤ 0x7a := by
  have le_toNat (one other : Char) : one ≤ other ↔ one.toNat ≤ other.toNat := Iff.rfl
  simp only [isNameChar, isAsciiAlphanumeric, Bool.or_eq_true, Bool.and_eq_true, decide_eq_true_eq,
    le_toNat] at named
  rcases named with ((((⟨low, high⟩ | ⟨low, high⟩) | ⟨low, high⟩) | rfl) | rfl) | rfl
  all_goals
    simp only [Char.reduceToNat] at *
    omega

theorem isNameChar_printed {ch : Char} (named : isNameChar ch = true) :
    isWhitespace ch = false := by
  obtain ⟨low, high⟩ := isNameChar_bounds named
  simp only [isWhitespace, Bool.or_eq_false_iff, Bool.and_eq_false_iff, decide_eq_false_iff_not]
  omega

theorem mem_joinText {separator : String} {parts : List String} {ch : Char}
    (member : ch ∈ (joinText separator parts).toList) :
    ch ∈ separator.toList ∨ ∃ part ∈ parts, ch ∈ part.toList := by
  rw [joinText, String.toList_intercalate] at member
  induction parts with
  | nil => simp at member
  | cons part others ih =>
      cases others with
      | nil => exact .inr ⟨part, by simp, by simpa using member⟩
      | cons next later =>
          rw [List.map_cons, List.map_cons, List.intercalate_cons_cons, List.append_assoc,
            List.mem_append, List.mem_append] at member
          rcases member with first | inside | rest
          · exact .inr ⟨part, by simp, first⟩
          · exact .inl inside
          · rcases ih rest with inside | ⟨part, found, inside⟩
            · exact .inl inside
            · exact .inr ⟨part, List.mem_cons_of_mem _ found, inside⟩

theorem Namespace.Made.restPath_read {ns : Namespace} (made : ns.Made) :
    parseRestNamespace ns.restPath = .ok ns := by
  have absent (part : String) (member : part ∈ ns.parts) : '\x1f' ∉ part.toList :=
    (made.text part member).separator
  have split : splitText ns.restPath restNamespaceSeparator = ns.parts :=
    splitText_joinText '\x1f' made.filled.1 absent
  rw [parseRestNamespace, split, made.new]

/-- A namespace that is read at the dots of its own spelling is plain. -/
theorem Namespace.Made.restPath_dotted {ns : Namespace} (made : ns.Made) :
    Namespace.fromStr ns.restPath = .ok ns ↔ ns.IsPlain := by
  have single {part : String} (parts : ns.parts = [part]) : ns.restPath = part := by
    rw [Namespace.restPath, parts, joinText, String.intercalate_singleton]
  constructor
  · intro read
    simp only [Namespace.fromStr, Namespace.new, bind_eq_ok, exists_unit, pure_eq,
      Except.ok.injEq] at read
    have parts := congrArg Namespace.parts read.2.2
    simp only at parts
    have undotted (part : String) (member : part ∈ ns.parts) : '.' ∉ part.toList := by
      rw [← parts] at member
      obtain ⟨piece, inside, rfl⟩ := List.mem_map.mp (List.mem_filter.mp member).1
      rw [splitText] at inside
      obtain ⟨chars, found, rfl⟩ := List.mem_map.mp inside
      intro dot
      have kept := mem_trimText dot
      rw [String.toList_ofList] at kept
      exact splitChars_absent '.' _ chars found kept
    -- without a dot the whole spelling is one component
    have joined (ch : Char) (inside : ch ∈ ns.restPath.toList) :
        ch = '\x1f' ∨ ∃ part ∈ ns.parts, ch ∈ part.toList := by
      rcases mem_joinText inside with separator | found
      · exact .inl (by simpa using separator)
      · exact .inr found
    have free (ch : Char) (inside : ch ∈ ns.restPath.toList) : decide (ch = '.') = false := by
      refine decide_eq_false fun same => ?_
      subst same
      rcases joined '.' inside with separator | ⟨part, member, dot⟩
      · exact absurd separator (by decide)
      · exact undotted part member dot
    have printed (ch : Char) (inside : ch ∈ ns.restPath.toList) : isWhitespace ch = false := by
      rcases joined ch inside with rfl | ⟨part, member, found⟩
      · decide
      · exact isNameChar_printed (made.text part member ch found)
    have whole : ns.parts = [ns.restPath].filter fun part => part ≠ "" := by
      rw [← parts, splitText, splitChars_free _ _ free]
      simp only [List.map_singleton, String.ofList_toList, trimText_plain printed]
    have kept : ns.parts = [ns.restPath] := by
      by_cases empty : ns.restPath = ""
      · rw [empty] at whole
        exact absurd whole made.filled.1
      · rw [whole]
        simp [empty]
    refine ⟨ns.restPath, kept, undotted _ ?_⟩
    rw [kept]
    exact List.mem_singleton_self _
  · rintro ⟨part, parts, undotted⟩
    have member : part ∈ ns.parts := by simp [parts]
    have free (ch : Char) (inside : ch ∈ part.toList) : decide (ch = '.') = false :=
      decide_eq_false fun same => undotted (by rwa [← same])
    have printed (ch : Char) (inside : ch ∈ part.toList) : isWhitespace ch = false :=
      isNameChar_printed (made.text part member ch inside)
    have split : splitText part '.' = [part] := by
      rw [splitText, splitChars_free _ _ free]
      simp
    have filled : part ≠ "" := fun same => made.filled.2 part member (by simp [same])
    rw [Namespace.fromStr, single parts, split, List.map_singleton, trimText_plain printed]
    simp only [ne_eq, filled, not_false_eq_true, decide_true, List.filter_cons_of_pos,
      List.filter_nil]
    rw [← parts, made.new]

/-- A request reads its namespace with the parser, and its object is in what was read. -/
def ReadsWith (parser : String → LakeCatResult Namespace)
    (access : String → LakeCatResult Access) : Prop :=
  ∃ shape : LakeCatResult (Namespace → Access),
    (∀ build, shape = .ok build → ∀ ns, (build ns).object.ns? = some ns) ∧
    ∀ text found, access text = .ok found ↔
      ∃ build ns, shape = .ok build ∧ parser text = .ok ns ∧ found = build ns

/-- Where the rest of a request is sound, it reaches a namespace exactly when that is read. -/
theorem ReadsWith.reached {parser : String → LakeCatResult Namespace}
    {access : String → LakeCatResult Access} (reads : ReadsWith parser access)
    (sound : ∃ other found, access other = .ok found) (text : String) (ns : Namespace) :
    (∃ found, access text = .ok found ∧ found.object.ns? = some ns) ↔ parser text = .ok ns := by
  obtain ⟨shape, inside, reading⟩ := reads
  constructor
  · rintro ⟨found, done, reached⟩
    obtain ⟨build, other, built, read, rfl⟩ := (reading text found).mp done
    rw [inside build built other, Option.some.injEq] at reached
    rw [read, reached]
  · intro read
    obtain ⟨other, found, done⟩ := sound
    obtain ⟨build, _, built, _, _⟩ := (reading other found).mp done
    exact ⟨build ns, (reading text (build ns)).mpr ⟨build, ns, built, read, rfl⟩,
      inside build built ns⟩

section

variable [External] (state : LakeCatState) (store : MemoryState)

namespace ServiceRequest

theorem inNamespace_reads (catalogPrefix : CatalogPrefix) (action : CatalogAction)
    (object : WarehouseName → Namespace → CatalogObject)
    (inside : ∀ warehouse ns, (object warehouse ns).ns? = some ns) :
    ReadsWith parseRestNamespace fun text =>
      inNamespace state store catalogPrefix text action object := by
  refine ⟨do
    let warehouse ← catalogPrefix.warehouse state store
    return fun ns => .onCatalog action (object warehouse ns), ?_, ?_⟩
  · intro build built ns
    simp only [bind_eq_ok, pure_eq, Except.ok.injEq] at built
    obtain ⟨warehouse, _, rfl⟩ := built
    exact inside warehouse ns
  · intro text found
    simp only [inNamespace, inWarehouse, bind_eq_ok, pure_eq, Except.ok.injEq]
    constructor
    · rintro ⟨warehouse, known, _, ⟨ns, read, rfl⟩, rfl⟩
      exact ⟨_, ns, ⟨warehouse, known, rfl⟩, read, rfl⟩
    · rintro ⟨_, ns, ⟨warehouse, known, rfl⟩, read, rfl⟩
      exact ⟨warehouse, known, _, ⟨ns, read, rfl⟩, rfl⟩

/-- An empty parent is none, so the request is sound with it but reaches no namespace. -/
theorem listNamespaces_reached (catalogPrefix : CatalogPrefix)
    (sound : ∃ other found, (listNamespaces catalogPrefix other).access state store = .ok found)
    {text : String} (filled : text ≠ "") (ns : Namespace) :
    (∃ found, (listNamespaces catalogPrefix (some text)).access state store = .ok found ∧
      found.object.ns? = some ns) ↔ parseRestNamespace text = .ok ns := by
  have kept : (some text).filter (fun text => text ≠ "") = some text := by simp [filled]
  simp only [access, inWarehouse, namespaceParent, kept, bind_eq_ok, pure_eq, Except.ok.injEq]
    at sound ⊢
  constructor
  · rintro ⟨_, ⟨warehouse, known, _, ⟨parent, ⟨other, read, rfl⟩, rfl⟩, rfl⟩, reached⟩
    rw [read]
    exact congrArg Except.ok (Option.some.inj reached)
  · intro read
    obtain ⟨_, _, warehouse, known, _⟩ := sound
    exact ⟨_, ⟨warehouse, known, _, ⟨_, ⟨ns, read, rfl⟩, rfl⟩, rfl⟩, rfl⟩

omit [External] in
/-- The handlers that put a table together, on whichever warehouse. -/
theorem onTable_reads (warehouse : LakeCatResult WarehouseName) (table : String)
    (action : CatalogAction) :
    ReadsWith parseRestNamespace fun text => (do
      let warehouse ← warehouse
      return .onTable action (← restTableIdent warehouse text table)) := by
  refine ⟨do
    let warehouse ← warehouse
    let warehouse ← WarehouseName.new warehouse.value
    let table ← TableName.new table
    return fun ns => .onTable action ⟨warehouse, ns, table⟩, ?_, ?_⟩
  · intro build built ns
    simp only [bind_eq_ok, pure_eq, Except.ok.injEq] at built
    obtain ⟨_, _, _, _, _, _, rfl⟩ := built
    rfl
  · intro text found
    simp only [restTableIdent, bind_eq_ok, pure_eq, Except.ok.injEq]
    constructor
    · rintro ⟨owner, known, _, ⟨warehouse, again, ns, read, name, named, rfl⟩, rfl⟩
      exact ⟨_, ns, ⟨owner, known, warehouse, again, name, named, rfl⟩, read, rfl⟩
    · rintro ⟨_, ns, ⟨owner, known, warehouse, again, name, named, rfl⟩, read, rfl⟩
      exact ⟨owner, known, _, ⟨warehouse, again, ns, read, name, named, rfl⟩, rfl⟩

omit [External] in
theorem manageNamespace_reads (warehouse : String) (action : CatalogAction)
    (object : WarehouseName → Namespace → CatalogObject)
    (inside : ∀ warehouse ns, (object warehouse ns).ns? = some ns) :
    ReadsWith Namespace.fromStr fun text => manageNamespace warehouse text action object := by
  refine ⟨do
    let warehouse ← managementWarehouse warehouse
    return fun ns => .onCatalog action (object warehouse ns), ?_, ?_⟩
  · intro build built ns
    simp only [bind_eq_ok, pure_eq, Except.ok.injEq] at built
    obtain ⟨warehouse, _, rfl⟩ := built
    exact inside warehouse ns
  · intro text found
    simp only [manageNamespace, bind_eq_ok, pure_eq, Except.ok.injEq]
    constructor
    · rintro ⟨warehouse, known, ns, read, rfl⟩
      exact ⟨_, ns, ⟨warehouse, known, rfl⟩, read, rfl⟩
    · rintro ⟨_, ns, ⟨warehouse, known, rfl⟩, read, rfl⟩
      exact ⟨warehouse, known, ns, read, rfl⟩

omit [External] in
theorem manageView_reads (warehouse view : String) (action : CatalogAction) :
    ReadsWith Namespace.fromStr fun text => manageView warehouse text view action := by
  refine ⟨do
    let warehouse ← managementWarehouse warehouse
    let name ← TableName.new view
    return fun ns => .onCatalog action (.view warehouse ns name), ?_, ?_⟩
  · intro build built ns
    simp only [bind_eq_ok, pure_eq, Except.ok.injEq] at built
    obtain ⟨_, _, _, _, rfl⟩ := built
    rfl
  · intro text found
    simp only [manageView, bind_eq_ok, pure_eq, Except.ok.injEq]
    constructor
    · rintro ⟨warehouse, known, ns, read, name, named, rfl⟩
      exact ⟨_, ns, ⟨warehouse, known, name, named, rfl⟩, read, rfl⟩
    · rintro ⟨_, ns, ⟨warehouse, known, name, named, rfl⟩, read, rfl⟩
      exact ⟨warehouse, known, ns, read, name, named, rfl⟩

omit [External] in
theorem respelled_own {request : ServiceRequest} {text : String}
    (spelled : request.nsText = some text) : request.respelled text = request := by
  cases request
  all_goals
    first
    | cases spelled
      rfl
    | cases spelled

theorem access_reads {request : ServiceRequest} {text : String}
    (spelled : request.nsText = some text)
    (named : ∀ catalogPrefix parent, request ≠ listNamespaces catalogPrefix parent) :
    ReadsWith (if request.onViews then Namespace.fromStr else parseRestNamespace)
      fun text => (request.respelled text).access state store := by
  cases request with
  | listNamespaces catalogPrefix parent => exact absurd rfl (named catalogPrefix parent)
  | listTables catalogPrefix ns | loadNamespace catalogPrefix ns
  | updateNamespaceProperties catalogPrefix ns | dropNamespace catalogPrefix ns =>
      exact inNamespace_reads state store catalogPrefix _ _ fun _ _ => rfl
  | createTable catalogPrefix ns table | registerTable catalogPrefix ns table
  | loadTable catalogPrefix ns table | commitTable catalogPrefix ns table
  | deleteTable catalogPrefix ns table | planTableScan catalogPrefix ns table
  | fetchScanTasks catalogPrefix ns table | loadCredentials catalogPrefix ns table =>
      exact onTable_reads (catalogPrefix.warehouse state store) table _
  | restoreTable warehouse ns table | listTableCommits warehouse ns table =>
      exact onTable_reads (managementWarehouse warehouse) table _
  | catalogListViews warehouse ns | listViews warehouse ns
  | listViewVersionReceiptChains warehouse ns =>
      exact manageNamespace_reads warehouse _ _ fun _ _ => rfl
  | catalogLoadView warehouse ns view | catalogUpsertView warehouse ns view
  | catalogDropView warehouse ns view | listViewVersionReceipts warehouse ns view
  | upsertView warehouse ns view | dropView warehouse ns view =>
      exact manageView_reads warehouse view _
  | _ => cases spelled

end ServiceRequest

/-- The spelling of the protocol reaches its namespace through every handler but those of views,
and through those exactly when the namespace is one component without a dot. -/
theorem spelledNamespace_reached [PathSegments] {ns : Namespace} (made : ns.Made) :
    policyBindingNamespace (some ns.parts) = .ok (some ns) ∧
    ∀ (request : ServiceRequest) (text : String),
      PathSegments.decode (PathSegments.encode ns.restPath) = some text →
      request.nsText = some text →
      (∃ other found, (request.respelled other).access state store = .ok found) →
      ((∃ found, request.access state store = .ok found ∧ found.object.ns? = some ns) ↔
        (request.onViews = false ∨ ns.IsPlain)) := by
  refine ⟨by rw [policyBindingNamespace, made.new]; rfl, ?_⟩
  intro request text sent spelled sound
  rw [PathSegments.decode_encode, Option.some.injEq] at sent
  subst sent
  by_cases named : ∃ catalogPrefix parent, request = .listNamespaces catalogPrefix parent
  · obtain ⟨catalogPrefix, parent, rfl⟩ := named
    cases spelled
    have filled : ns.restPath ≠ "" := by
      intro empty
      have read := made.restPath_read
      rw [empty] at read
      cases read
    obtain ⟨other, found, done⟩ := sound
    rw [ServiceRequest.listNamespaces_reached state store catalogPrefix ⟨_, found, done⟩ filled]
    simp [made.restPath_read, ServiceRequest.onViews]
  · have reads := ServiceRequest.access_reads state store spelled
      fun catalogPrefix parent same => named ⟨catalogPrefix, parent, same⟩
    have reached := reads.reached sound ns.restPath ns
    rw [ServiceRequest.respelled_own spelled] at reached
    rw [reached]
    cases views : request.onViews
    · simp [made.restPath_read]
    · simp [made.restPath_dotted]

end

@[reducible] def plainSegments : PathSegments := ⟨id, some, fun _ => rfl⟩

theorem spelledNamespace_reached_sales : ∃ (_ : External) (found : Access),
    (ServiceRequest.listViews "main" "sales").access mainState MemoryState.empty = .ok found ∧
      found.object.ns? = some ⟨["sales"]⟩ := by
  let _ := constantExternal
  let _ := plainSegments
  have made : Namespace.Made ⟨["sales"]⟩ := ⟨["sales"], rfl⟩
  have reached := spelledNamespace_reached mainState MemoryState.empty made
  obtain ⟨found, done, inside⟩ := (reached.2 (.listViews "main" "sales") "sales" rfl rfl
    ⟨"sales", _, rfl⟩).mpr (.inr ⟨"sales", rfl, by decide⟩)
  exact ⟨constantExternal, found, done, inside⟩

/-- The views of a nested namespace are not found under its spelling. -/
theorem nestedNamespace_unread : ∃ _ : External,
    ¬∀ (ns : Namespace) (request : ServiceRequest), ns.Made →
      request.nsText = some ns.restPath →
      (∃ other found,
        (request.respelled other).access mainState MemoryState.empty = .ok found) →
      ∃ found, request.access mainState MemoryState.empty = .ok found ∧
        found.object.ns? = some ns := by
  let _ := constantExternal
  refine ⟨constantExternal, fun reaches => ?_⟩
  obtain ⟨found, done, _⟩ := reaches ⟨["accounting", "tax"]⟩
    (.listViews "main" "accounting\x1ftax") ⟨["accounting", "tax"], rfl⟩ rfl ⟨"accounting", _, rfl⟩
  cases done

end LakeCat
