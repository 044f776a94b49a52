import LakeCat.AuthorizationNames
import LakeCat.FirstInserted
import LakeCat.QueryGraphProjections

/-!
What the catalog graph holds. A node is the first that was inserted under its
id, and an edge is there when one of the insertions brought it.
-/

namespace LakeCat

/-! The nodes and edges that the parts of a snapshot bring, in order. -/

def graphPolicyId (table : QueryGraphTableProjection) : String :=
  ((table.odrl.get "@id").bind Json.asStr).getD "lakecat:policy:unknown"

def namespaceNode (warehouse ns : String) : QueryGraphNode :=
  ⟨namespaceGraphId warehouse ns, "Namespace",
    .object [("warehouse", .str warehouse), ("namespace", .str ns)]⟩

def tableNode (table : QueryGraphTableProjection) : QueryGraphNode :=
  ⟨table.stableId, "IcebergTable",
    .object [("name", .str table.ident.name.asStr), ("location", .str table.location),
      ("metadataLocation", ofOptionStr table.metadataLocation),
      ("formatVersion", Json.ofOption .int table.formatVersion)]⟩

def policyNode (table : QueryGraphTableProjection) : QueryGraphNode :=
  ⟨graphPolicyId table, "ODRLPolicy", .object [("target", .str table.stableId)]⟩

def viewNode (view : QueryGraphViewProjection) : QueryGraphNode :=
  ⟨view.stableId, "View",
    .object [("name", .str view.name), ("viewVersion", ofU64 view.viewVersion),
      ("dialect", .str view.dialect), ("schemaVersion", Json.ofOption ofU64 view.schemaVersion),
      ("columns", view.columns)]⟩

def tableNamespaceId (table : QueryGraphTableProjection) : String :=
  namespaceGraphId table.ident.warehouse.asStr table.ident.ns.path

def viewNamespaceId (view : QueryGraphViewProjection) : String :=
  namespaceGraphId view.warehouse (joinText "." view.ns)

def tableNodes (table : QueryGraphTableProjection) : List QueryGraphNode :=
  [namespaceNode table.ident.warehouse.asStr table.ident.ns.path, tableNode table,
    policyNode table]

def viewNodes (view : QueryGraphViewProjection) : List QueryGraphNode :=
  [namespaceNode view.warehouse (joinText "." view.ns), viewNode view]

def spineNodes (warehouse : WarehouseName) (tenant : QueryGraphTenantProjection) :
    List QueryGraphNode :=
  [⟨"lakecat:catalog", "Catalog", .object [("name", .str "LakeCat")]⟩,
    ⟨serverGraphId tenant.serverId, "Server",
      .object [("serverId", .str tenant.serverId),
        ("displayName", ofOptionStr tenant.serverDisplayName),
        ("endpointUrlHash", ofOptionStr tenant.serverEndpointUrlHash),
        ("source", .str tenant.source)]⟩,
    ⟨projectGraphId tenant.projectId, "Project",
      .object [("projectId", .str tenant.projectId),
        ("displayName", ofOptionStr tenant.projectDisplayName),
        ("serverId", .str tenant.serverId), ("source", .str tenant.source)]⟩,
    ⟨warehouseGraphId warehouse, "Warehouse",
      .object [("warehouse", .str (tenant.warehouse.getD warehouse.asStr)),
        ("projectId", .str (tenant.warehouseProjectId.getD tenant.projectId)),
        ("storageRootHash", ofOptionStr tenant.warehouseStorageRootHash),
        ("source", .str tenant.source)]⟩]

def namespaceEdges (warehouse ns : String) (validated : Option WarehouseName) :
    List QueryGraphEdge :=
  ⟨"lakecat:catalog", namespaceGraphId warehouse ns, "HAS_NAMESPACE"⟩ ::
    (validated.map fun name =>
      ⟨warehouseGraphId name, namespaceGraphId warehouse ns, "HAS_NAMESPACE"⟩).toList

def tableEdges (table : QueryGraphTableProjection) : List QueryGraphEdge :=
  [⟨tableNamespaceId table, table.stableId, "CONTAINS_TABLE"⟩,
    ⟨table.stableId, graphPolicyId table, "GOVERNED_BY"⟩]

def tableNamespaceEdges (table : QueryGraphTableProjection) : List QueryGraphEdge :=
  namespaceEdges table.ident.warehouse.asStr table.ident.ns.path (some table.ident.warehouse)

def viewEdge (view : QueryGraphViewProjection) : QueryGraphEdge :=
  ⟨viewNamespaceId view, view.stableId, "CONTAINS_VIEW"⟩

def viewNamespaceEdges (view : QueryGraphViewProjection) : List QueryGraphEdge :=
  namespaceEdges view.warehouse (joinText "." view.ns) (WarehouseName.new view.warehouse).toOption

def spineEdges (warehouse : WarehouseName) (tenant : QueryGraphTenantProjection) :
    List QueryGraphEdge :=
  [⟨"lakecat:catalog", serverGraphId tenant.serverId, "HAS_SERVER"⟩,
    ⟨serverGraphId tenant.serverId, projectGraphId tenant.projectId, "HAS_PROJECT"⟩,
    ⟨projectGraphId tenant.projectId, warehouseGraphId warehouse, "HAS_WAREHOUSE"⟩]

/-! The set of edges. -/

theorem QueryGraphEdge.order_eq (edge other : QueryGraphEdge) :
    edge.order other = .eq ↔ edge = other := by
  cases edge
  cases other
  simp [QueryGraphEdge.order, Ordering.then_eq_eq, Std.LawfulEqCmp.compare_eq_iff_eq]

instance : Std.TransCmp QueryGraphEdge.order :=
  inferInstanceAs (Std.TransCmp (compareLex (compareOn QueryGraphEdge.from_)
    (compareLex (compareOn QueryGraphEdge.to_) (compareOn QueryGraphEdge.label))))

theorem mem_insertEdge (edge other : QueryGraphEdge) (edges : List QueryGraphEdge) :
    other ∈ insertEdge edge edges ↔ other = edge ∨ other ∈ edges := by
  induction edges with
  | nil => simp [insertEdge]
  | cons first rest ih =>
      rw [insertEdge]
      split
      next => simp
      next same =>
        rw [(edge.order_eq first).mp same]
        simp
      next => simp [ih, or_left_comm]

/-- The edges stand in their order, each once. -/
def Ascending (edges : List QueryGraphEdge) : Prop :=
  edges.Pairwise fun edge other => edge.order other = .lt

theorem insertEdge_ascending (edge : QueryGraphEdge) {edges : List QueryGraphEdge}
    (ascending : Ascending edges) : Ascending (insertEdge edge edges) := by
  induction edges with
  | nil => exact List.pairwise_singleton _ _
  | cons first rest ih =>
      obtain ⟨below, sorted⟩ := List.pairwise_cons.mp ascending
      rw [insertEdge]
      split
      next less =>
        refine List.pairwise_cons.mpr ⟨?_, ascending⟩
        intro other member
        rcases List.mem_cons.mp member with rfl | later
        · exact less
        · exact Std.TransCmp.lt_trans less (below other later)
      next => exact ascending
      next more =>
        refine List.pairwise_cons.mpr ⟨?_, ih sorted⟩
        intro other member
        rcases (mem_insertEdge edge other rest).mp member with rfl | later
        · exact Std.OrientedCmp.lt_of_gt more
        · exact below other later

theorem ascending_ext {edges others : List QueryGraphEdge} (ascending : Ascending edges)
    (otherAscending : Ascending others) (same : ∀ edge, edge ∈ edges ↔ edge ∈ others) :
    edges = others := by
  have distinct : ∀ {edges : List QueryGraphEdge}, Ascending edges → edges.Nodup := by
    intro edges ascending
    refine ascending.imp ?_
    rintro edge other less rfl
    rw [(edge.order_eq edge).mpr rfl] at less
    cases less
  have permuted := (List.perm_ext_iff_of_nodup (distinct ascending)
    (distinct otherAscending)).mpr same
  refine permuted.eq_of_pairwise ?_ ascending otherAscending
  intro edge other _ _ less more
  have turned := Std.OrientedCmp.gt_of_lt less
  rw [more] at turned
  cases turned

/-! Nodes, by their ids. -/

namespace GraphParts

/-- The first of some nodes under an id. -/
def firstNode (id : String) (nodes : List QueryGraphNode) : Option QueryGraphNode :=
  nodes.find? fun node => node.id = id

theorem firstNode_cons (id : String) (node : QueryGraphNode) (rest : List QueryGraphNode) :
    firstNode id (node :: rest) = (firstNode id [node]).or (firstNode id rest) := by
  rw [firstNode, ← List.singleton_append, List.find?_append]
  rfl

theorem firstNode_single (id : String) (node : QueryGraphNode) :
    firstNode id [node] = if node.id = id then some node else none := by
  by_cases same : node.id = id <;> simp [firstNode, same]

theorem firstNode_id {id : String} {nodes : List QueryGraphNode} {node : QueryGraphNode}
    (found : firstNode id nodes = some node) : node.id = id := by
  simpa using List.find?_some found

theorem insertNode_nodes (parts : GraphParts) (id label : String) (properties : Json)
    (query : String) :
    (parts.insertNode id label properties).nodes[query]? =
      parts.nodes[query]?.or (firstNode query [⟨id, label, properties⟩]) := by
  rw [firstNode_single]
  exact OrderedMap.getElem?_insertIfNew parts.nodes id query _

theorem insertNamespaceNode_present {parts : GraphParts} {warehouse ns : String}
    (validated : Option WarehouseName)
    (present : parts.nodes.contains (namespaceGraphId warehouse ns) = true) :
    insertNamespaceNode parts warehouse ns validated = parts :=
  if_pos present

/-- A namespace that is new brings its node and its edges. -/
theorem insertNamespaceNode_absent {parts : GraphParts} {warehouse ns : String}
    (validated : Option WarehouseName)
    (absent : ¬parts.nodes.contains (namespaceGraphId warehouse ns) = true) :
    insertNamespaceNode parts warehouse ns validated =
      ⟨(parts.insertNode (namespaceGraphId warehouse ns) "Namespace"
        (namespaceNode warehouse ns).properties).nodes,
        (namespaceEdges warehouse ns validated).foldl (fun edges edge => LakeCat.insertEdge edge edges)
          parts.edges⟩ := by
  refine (if_neg absent).trans ?_
  cases validated <;> rfl

theorem insertNamespaceNode_nodes (parts : GraphParts) (warehouse ns : String)
    (validated : Option WarehouseName) (query : String) :
    (insertNamespaceNode parts warehouse ns validated).nodes[query]? =
      parts.nodes[query]?.or (firstNode query [namespaceNode warehouse ns]) := by
  by_cases present : parts.nodes.contains (namespaceGraphId warehouse ns) = true
  · rw [insertNamespaceNode_present validated present, firstNode_single]
    obtain ⟨node, stored⟩ := (OrderedMap.contains_eq_true _ _).mp present
    by_cases same : (namespaceNode warehouse ns).id = query
    · have here : parts.nodes[query]? = some node := by rw [← same]; exact stored
      rw [here, Option.some_or]
    · rw [if_neg same, Option.or_none]
  · rw [insertNamespaceNode_absent validated present]
    exact parts.insertNode_nodes (namespaceGraphId warehouse ns) "Namespace" _ query

theorem insertTable_nodes (parts : GraphParts) (table : QueryGraphTableProjection)
    (query : String) :
    (insertTable parts table).nodes[query]? =
      parts.nodes[query]?.or (firstNode query (tableNodes table)) := by
  let named := insertNamespaceNode parts table.ident.warehouse.asStr table.ident.ns.path
    (some table.ident.warehouse)
  have first := insertNamespaceNode_nodes parts table.ident.warehouse.asStr table.ident.ns.path
    (some table.ident.warehouse) query
  have second := named.insertNode_nodes table.stableId "IcebergTable" (tableNode table).properties
    query
  have third := (named.insertNode table.stableId "IcebergTable"
    (tableNode table).properties).insertNode_nodes (graphPolicyId table) "ODRLPolicy"
      (policyNode table).properties query
  refine third.trans ?_
  rw [second, first, tableNodes, firstNode_cons query _ [tableNode table, policyNode table],
    firstNode_cons query (tableNode table) [policyNode table], Option.or_assoc, Option.or_assoc]
  rfl

theorem insertView_nodes (parts : GraphParts) (view : QueryGraphViewProjection)
    (query : String) :
    (insertView parts view).nodes[query]? =
      parts.nodes[query]?.or (firstNode query (viewNodes view)) := by
  let named := insertNamespaceNode parts view.warehouse (joinText "." view.ns)
    (WarehouseName.new view.warehouse).toOption
  have first := insertNamespaceNode_nodes parts view.warehouse (joinText "." view.ns)
    (WarehouseName.new view.warehouse).toOption query
  have second := named.insertNode_nodes view.stableId "View" (viewNode view).properties query
  refine second.trans ?_
  rw [first, viewNodes, firstNode_cons query _ [viewNode view], Option.or_assoc]
  rfl

/-- A graph of the catalog and its tenant only. -/
def spine (warehouse : WarehouseName) (tenant : QueryGraphTenantProjection) : GraphParts :=
  insertTenantSpine (insertNode ⟨∅, []⟩ "lakecat:catalog" "Catalog"
    (.object [("name", .str "LakeCat")])) warehouse tenant

theorem spine_nodes (warehouse : WarehouseName) (tenant : QueryGraphTenantProjection)
    (query : String) :
    (spine warehouse tenant).nodes[query]? = firstNode query (spineNodes warehouse tenant) := by
  have inserted : (spine warehouse tenant).nodes =
      ((spineNodes warehouse tenant).foldl (fun parts node =>
        insertNode parts node.id node.label node.properties) ⟨∅, []⟩).nodes := rfl
  have folded : ∀ (nodes : List QueryGraphNode) (parts : GraphParts),
      (nodes.foldl (fun parts node =>
        insertNode parts node.id node.label node.properties) parts).nodes[query]? =
        parts.nodes[query]?.or (firstNode query nodes) := by
    intro nodes
    induction nodes with
    | nil => simp [firstNode]
    | cons node rest ih =>
        intro parts
        rw [List.foldl_cons, ih, insertNode_nodes, Option.or_assoc, ← firstNode_cons]
  rw [inserted, folded, Std.ExtTreeMap.getElem?_empty, Option.none_or]

/-- The parts of a whole graph. -/
def catalog (warehouse : WarehouseName) (tables : List QueryGraphTableProjection)
    (views : List QueryGraphViewProjection) (tenant : QueryGraphTenantProjection) : GraphParts :=
  views.foldl insertView (tables.foldl insertTable (spine warehouse tenant))

theorem foldl_nodes {Item : Type} {insert : GraphParts → Item → GraphParts}
    {brought : Item → List QueryGraphNode} {query : String}
    (inserted : ∀ parts item, (insert parts item).nodes[query]? =
      parts.nodes[query]?.or (firstNode query (brought item)))
    (items : List Item) : ∀ parts : GraphParts, (items.foldl insert parts).nodes[query]? =
      parts.nodes[query]?.or (items.findSome? fun item => firstNode query (brought item)) := by
  induction items with
  | nil => simp
  | cons item rest ih =>
      intro parts
      rw [List.foldl_cons, ih, inserted, Option.or_assoc, List.findSome?_cons]
      cases firstNode query (brought item) <;> rfl

theorem catalog_nodes (warehouse : WarehouseName) (tables : List QueryGraphTableProjection)
    (views : List QueryGraphViewProjection) (tenant : QueryGraphTenantProjection)
    (query : String) :
    (catalog warehouse tables views tenant).nodes[query]? =
      ((firstNode query (spineNodes warehouse tenant)).or
        (tables.findSome? fun table => firstNode query (tableNodes table))).or
        (views.findSome? fun view => firstNode query (viewNodes view)) := by
  rw [catalog, foldl_nodes fun parts view => insertView_nodes parts view query,
    foldl_nodes fun parts table => insertTable_nodes parts table query, spine_nodes]

theorem catalog_keyed (warehouse : WarehouseName) (tables : List QueryGraphTableProjection)
    (views : List QueryGraphViewProjection) (tenant : QueryGraphTenantProjection) (id : String)
    (node : QueryGraphNode)
    (stored : (catalog warehouse tables views tenant).nodes[id]? = some node) : node.id = id := by
  rw [catalog_nodes, Option.or_eq_some_iff, Option.or_eq_some_iff] at stored
  rcases stored with (found | ⟨_, found⟩) | ⟨_, found⟩
  · exact firstNode_id found
  · obtain ⟨table, _, found⟩ := List.exists_of_findSome?_eq_some found
    exact firstNode_id found
  · obtain ⟨view, _, found⟩ := List.exists_of_findSome?_eq_some found
    exact firstNode_id found

/-! Edges. -/

theorem mem_foldl_insertEdge (brought : List QueryGraphEdge) (edge : QueryGraphEdge) :
    ∀ edges, edge ∈ brought.foldl (fun edges edge => LakeCat.insertEdge edge edges) edges ↔
      edge ∈ edges ∨ edge ∈ brought := by
  induction brought with
  | nil => simp
  | cons first rest ih =>
      intro edges
      rw [List.foldl_cons, ih, mem_insertEdge, List.mem_cons]
      tauto

theorem foldl_insertEdge_ascending (brought : List QueryGraphEdge) :
    ∀ edges, Ascending edges →
      Ascending (brought.foldl (fun edges edge => LakeCat.insertEdge edge edges) edges) := by
  induction brought with
  | nil => exact fun edges ascending => ascending
  | cons first rest ih =>
      exact fun edges ascending => ih _ (insertEdge_ascending first ascending)

/-- The edges that a namespace brings at this point. -/
def newEdges (parts : GraphParts) (warehouse ns : String) (validated : Option WarehouseName) :
    List QueryGraphEdge :=
  if parts.nodes.contains (namespaceGraphId warehouse ns) = true then []
  else namespaceEdges warehouse ns validated

theorem insertNamespaceNode_edges (parts : GraphParts) (warehouse ns : String)
    (validated : Option WarehouseName) :
    (insertNamespaceNode parts warehouse ns validated).edges =
      (newEdges parts warehouse ns validated).foldl
        (fun edges edge => LakeCat.insertEdge edge edges) parts.edges := by
  unfold newEdges
  split
  next present => rw [insertNamespaceNode_present validated present, List.foldl_nil]
  next absent => rw [insertNamespaceNode_absent validated absent]

theorem insertTable_edges (parts : GraphParts) (table : QueryGraphTableProjection) :
    (insertTable parts table).edges =
      (newEdges parts table.ident.warehouse.asStr table.ident.ns.path
          (some table.ident.warehouse) ++ tableEdges table).foldl
        (fun edges edge => LakeCat.insertEdge edge edges) parts.edges := by
  rw [List.foldl_append, ← insertNamespaceNode_edges]
  rfl

theorem insertView_edges (parts : GraphParts) (view : QueryGraphViewProjection) :
    (insertView parts view).edges =
      (newEdges parts view.warehouse (joinText "." view.ns)
          (WarehouseName.new view.warehouse).toOption ++ [viewEdge view]).foldl
        (fun edges edge => LakeCat.insertEdge edge edges) parts.edges := by
  rw [List.foldl_append, ← insertNamespaceNode_edges]
  rfl

theorem spine_edges (warehouse : WarehouseName) (tenant : QueryGraphTenantProjection) :
    (spine warehouse tenant).edges = (spineEdges warehouse tenant).foldl
      (fun edges edge => LakeCat.insertEdge edge edges) [] :=
  rfl

theorem newEdges_subset {parts : GraphParts} {warehouse ns : String}
    {validated : Option WarehouseName} {edge : QueryGraphEdge}
    (member : edge ∈ newEdges parts warehouse ns validated) :
    edge ∈ namespaceEdges warehouse ns validated := by
  unfold newEdges at member
  split at member
  · cases member
  · exact member

theorem catalog_ascending (warehouse : WarehouseName) (tables : List QueryGraphTableProjection)
    (views : List QueryGraphViewProjection) (tenant : QueryGraphTenantProjection) :
    Ascending (catalog warehouse tables views tenant).edges := by
  apply List.foldlRecOn (motive := fun parts : GraphParts => Ascending parts.edges)
  · apply List.foldlRecOn (motive := fun parts : GraphParts => Ascending parts.edges)
    · rw [spine_edges]
      exact foldl_insertEdge_ascending _ _ List.Pairwise.nil
    · intro parts ascending table _
      rw [insertTable_edges]
      exact foldl_insertEdge_ascending _ _ ascending
  · intro parts ascending view _
    rw [insertView_edges]
    exact foldl_insertEdge_ascending _ _ ascending

/-- All that may be among the edges. -/
def Brought (warehouse : WarehouseName) (tables : List QueryGraphTableProjection)
    (views : List QueryGraphViewProjection) (tenant : QueryGraphTenantProjection)
    (edge : QueryGraphEdge) : Prop :=
  edge ∈ spineEdges warehouse tenant ∨
    (∃ table ∈ tables, edge ∈ tableNamespaceEdges table ∨ edge ∈ tableEdges table) ∨
    ∃ view ∈ views, edge ∈ viewNamespaceEdges view ∨ edge = viewEdge view

theorem catalog_brought {warehouse : WarehouseName} {tables : List QueryGraphTableProjection}
    {views : List QueryGraphViewProjection} {tenant : QueryGraphTenantProjection} :
    ∀ edge ∈ (catalog warehouse tables views tenant).edges,
      Brought warehouse tables views tenant edge := by
  apply List.foldlRecOn (motive := fun parts : GraphParts =>
    ∀ edge ∈ parts.edges, Brought warehouse tables views tenant edge)
  · apply List.foldlRecOn (motive := fun parts : GraphParts =>
      ∀ edge ∈ parts.edges, Brought warehouse tables views tenant edge)
    · intro edge member
      rw [spine_edges, mem_foldl_insertEdge] at member
      exact .inl (member.resolve_left (List.not_mem_nil))
    · intro parts before table listed edge member
      rw [insertTable_edges, mem_foldl_insertEdge, List.mem_append] at member
      rcases member with old | new | own
      · exact before edge old
      · exact .inr (.inl ⟨table, listed, .inl (newEdges_subset new)⟩)
      · exact .inr (.inl ⟨table, listed, .inr own⟩)
  · intro parts before view listed edge member
    rw [insertView_edges, mem_foldl_insertEdge, List.mem_append] at member
    rcases member with old | new | own
    · exact before edge old
    · exact .inr (.inr ⟨view, listed, .inl (newEdges_subset new)⟩)
    · exact .inr (.inr ⟨view, listed, .inr (List.mem_singleton.mp own)⟩)

theorem insertTable_keeps {parts : GraphParts} {edge : QueryGraphEdge}
    (table : QueryGraphTableProjection) (member : edge ∈ parts.edges) :
    edge ∈ (insertTable parts table).edges := by
  rw [insertTable_edges, mem_foldl_insertEdge]
  exact .inl member

theorem insertView_keeps {parts : GraphParts} {edge : QueryGraphEdge}
    (view : QueryGraphViewProjection) (member : edge ∈ parts.edges) :
    edge ∈ (insertView parts view).edges := by
  rw [insertView_edges, mem_foldl_insertEdge]
  exact .inl member

theorem foldl_keeps {Item : Type} {insert : GraphParts → Item → GraphParts}
    {edge : QueryGraphEdge}
    (keeps : ∀ parts item, edge ∈ parts.edges → edge ∈ (insert parts item).edges)
    (items : List Item) {parts : GraphParts} (member : edge ∈ parts.edges) :
    edge ∈ (items.foldl insert parts).edges :=
  List.foldlRecOn (motive := fun parts : GraphParts => edge ∈ parts.edges) items insert member
    fun parts before item _ => keeps parts item before

/-- What one item brings whenever it is inserted is there in the end. -/
theorem foldl_brings {Item : Type} {insert : GraphParts → Item → GraphParts}
    {edge : QueryGraphEdge} {items : List Item} {item : Item}
    (keeps : ∀ parts item, edge ∈ parts.edges → edge ∈ (insert parts item).edges)
    (listed : item ∈ items) (brings : ∀ parts, edge ∈ (insert parts item).edges)
    (parts : GraphParts) : edge ∈ (items.foldl insert parts).edges := by
  obtain ⟨front, rest, rfl⟩ := List.append_of_mem listed
  rw [List.foldl_append, List.foldl_cons]
  exact foldl_keeps keeps rest (brings _)

theorem catalog_spineEdges {warehouse : WarehouseName}
    (tables : List QueryGraphTableProjection) (views : List QueryGraphViewProjection)
    {tenant : QueryGraphTenantProjection} {edge : QueryGraphEdge}
    (member : edge ∈ spineEdges warehouse tenant) :
    edge ∈ (catalog warehouse tables views tenant).edges := by
  apply foldl_keeps fun parts view => insertView_keeps view
  apply foldl_keeps fun parts table => insertTable_keeps table
  rw [spine_edges, mem_foldl_insertEdge]
  exact .inr member

theorem catalog_tableEdges (warehouse : WarehouseName)
    {tables : List QueryGraphTableProjection} (views : List QueryGraphViewProjection)
    (tenant : QueryGraphTenantProjection) {table : QueryGraphTableProjection}
    {edge : QueryGraphEdge} (listed : table ∈ tables) (member : edge ∈ tableEdges table) :
    edge ∈ (catalog warehouse tables views tenant).edges := by
  apply foldl_keeps fun parts view => insertView_keeps view
  refine foldl_brings (fun parts table => insertTable_keeps table) listed ?_ _
  intro parts
  rw [insertTable_edges, mem_foldl_insertEdge, List.mem_append]
  exact .inr (.inr member)

theorem catalog_viewEdge (warehouse : WarehouseName) (tables : List QueryGraphTableProjection)
    {views : List QueryGraphViewProjection} (tenant : QueryGraphTenantProjection)
    {view : QueryGraphViewProjection} (listed : view ∈ views) :
    viewEdge view ∈ (catalog warehouse tables views tenant).edges := by
  refine foldl_brings (fun parts view => insertView_keeps view) listed ?_ _
  intro parts
  rw [insertView_edges, mem_foldl_insertEdge, List.mem_append]
  exact .inr (.inr (List.mem_singleton_self _))

end GraphParts

theorem catalogGraph_parts (warehouse : WarehouseName) (tables : List QueryGraphTableProjection)
    (views : List QueryGraphViewProjection) (tenant : QueryGraphTenantProjection) :
    catalogGraphFromTablesAndViewsForWarehouse warehouse tables views tenant =
      ⟨(GraphParts.catalog warehouse tables views tenant).nodes.values,
        (GraphParts.catalog warehouse tables views tenant).edges⟩ :=
  rfl

theorem mem_catalogGraph_nodes (warehouse : WarehouseName)
    (tables : List QueryGraphTableProjection) (views : List QueryGraphViewProjection)
    (tenant : QueryGraphTenantProjection) (node : QueryGraphNode) :
    node ∈ (catalogGraphFromTablesAndViewsForWarehouse warehouse tables views tenant).nodes ↔
      (GraphParts.catalog warehouse tables views tenant).nodes[node.id]? = some node := by
  rw [catalogGraph_parts, OrderedMap.mem_values]
  constructor
  · rintro ⟨id, stored⟩
    rw [GraphParts.catalog_keyed warehouse tables views tenant id node stored]
    exact stored
  · intro stored
    exact ⟨node.id, stored⟩

end LakeCat
