import LakeCat.BundleConstruction
import LakeCat.GraphContents

/-!
When the catalog graph is faithful to its snapshot. Nodes are merged by their
ids, and the first to come stays: two objects that share an id, or a policy
that takes the id of an object, leave a graph that depends on the order.
-/

namespace LakeCat

open GraphParts

/-! Ids of different kinds are different texts. -/

def graphKind (id : String) : Option Char := id.toList[8]?

theorem graphKind_append {head : String} {kind : Char} (known : graphKind head = some kind)
    (rest : String) : graphKind (head ++ rest) = some kind := by
  unfold graphKind at known ⊢
  obtain ⟨bound, _⟩ := List.getElem?_eq_some_iff.mp known
  rw [String.toList_append, List.getElem?_append_left bound, known]

theorem graphKind_namespace (warehouse ns : String) :
    graphKind (namespaceGraphId warehouse ns) = some 'n' := by
  have named : graphKind "lakecat:namespace:" = some 'n' := by decide +kernel
  exact graphKind_append (graphKind_append (graphKind_append named _) _) _

theorem graphKind_table (ident : TableIdent) : graphKind ident.stableId = some 't' := by
  have named : graphKind "lakecat:table:" = some 't' := by decide +kernel
  exact graphKind_append (graphKind_append (graphKind_append (graphKind_append
    (graphKind_append named _) _) _) _) _

theorem graphKind_view (warehouse : WarehouseName) (ns : Namespace) (name : TableName) :
    graphKind (viewStableIdParts warehouse ns name) = some 'v' := by
  have named : graphKind "lakecat:view:" = some 'v' := by decide +kernel
  exact graphKind_append (graphKind_append (graphKind_append (graphKind_append
    (graphKind_append named _) _) _) _) _

theorem graphKind_spine {warehouse : WarehouseName} {tenant : QueryGraphTenantProjection}
    {id : String} (member : id ∈ (spineNodes warehouse tenant).map QueryGraphNode.id) :
    ∃ kind ∈ ['c', 's', 'p', 'w'], graphKind id = some kind := by
  have catalog : graphKind "lakecat:catalog" = some 'c' := by decide +kernel
  have server : graphKind "lakecat:server:" = some 's' := by decide +kernel
  have project : graphKind "lakecat:project:" = some 'p' := by decide +kernel
  have own : graphKind "lakecat:warehouse:" = some 'w' := by decide +kernel
  obtain ⟨node, listed, rfl⟩ := List.mem_map.mp member
  rw [spineNodes] at listed
  rcases List.mem_cons.mp listed with rfl | listed
  · exact ⟨'c', by decide, catalog⟩
  · rcases List.mem_cons.mp listed with rfl | listed
    · exact ⟨'s', by decide, graphKind_append server _⟩
    · rcases List.mem_cons.mp listed with rfl | listed
      · exact ⟨'p', by decide, graphKind_append project _⟩
      · obtain rfl := List.mem_singleton.mp listed
        exact ⟨'w', by decide, graphKind_append own _⟩

theorem namespaceGraphId_injective {warehouse ns other : String}
    (same : namespaceGraphId warehouse ns = namespaceGraphId warehouse other) : ns = other := by
  have chars := congrArg String.toList same
  unfold namespaceGraphId at chars
  generalize "lakecat:namespace:" = head at chars
  simp only [String.toList_append, List.append_assoc, List.append_cancel_left_eq] at chars
  exact String.toList_inj.mp chars

/-! What a graph should hold. -/

/-- The namespaces that a snapshot uses, each by its components. -/
def graphNamespaces (tables : List QueryGraphTableProjection)
    (views : List QueryGraphViewProjection) : List (List String) :=
  tables.map (fun table => table.ident.ns.parts) ++ views.map QueryGraphViewProjection.ns

def namespaceId (warehouse : WarehouseName) (parts : List String) : String :=
  namespaceGraphId warehouse.asStr (joinText "." parts)

def spineIds (warehouse : WarehouseName) (tenant : QueryGraphTenantProjection) : List String :=
  (spineNodes warehouse tenant).map QueryGraphNode.id

def objectIds (warehouse : WarehouseName) (tables : List QueryGraphTableProjection)
    (views : List QueryGraphViewProjection) : List String :=
  (graphNamespaces tables views).map (namespaceId warehouse) ++
    (tables.map QueryGraphTableProjection.stableId ++
      views.map QueryGraphViewProjection.stableId)

/-- Tables and views of one warehouse as they are projected, none of them twice. -/
structure CatalogLists (warehouse : WarehouseName) (tables : List QueryGraphTableProjection)
    (views : List QueryGraphViewProjection) : Prop where
  warehouseMade : warehouse.Made
  ownTables : ∀ table ∈ tables, table.ident.warehouse = warehouse ∧ table.ident.Made ∧
    table.stableId = table.ident.stableId
  ownViews : ∀ view ∈ views, view.warehouse = warehouse.asStr ∧ Namespace.Made ⟨view.ns⟩ ∧
    view.stableId = viewStableIdParts warehouse ⟨view.ns⟩ ⟨view.name⟩
  distinctTables : (tables.map QueryGraphTableProjection.ident).Nodup
  distinctViews : (views.map fun view => (view.ns, view.name)).Nodup

/-- Nothing of a snapshot is lost in a graph, and nothing of the graph hangs loose. -/
structure Lossless (warehouse : WarehouseName) (tables : List QueryGraphTableProjection)
    (views : List QueryGraphViewProjection) (graph : QueryGraphCatalogGraph) : Prop where
  closed : ∀ edge ∈ graph.edges, (∃ node ∈ graph.nodes, node.id = edge.from_) ∧
    ∃ node ∈ graph.nodes, node.id = edge.to_
  distinctIds : (graph.nodes.map QueryGraphNode.id).Nodup
  keepsTables : ∀ table ∈ tables, tableNode table ∈ graph.nodes
  keepsViews : ∀ view ∈ views, viewNode view ∈ graph.nodes
  keepsNamespaces : ∀ parts ∈ graphNamespaces tables views,
    namespaceNode warehouse.asStr (joinText "." parts) ∈ graph.nodes
  tablesApart : ∀ table ∈ tables, ∀ other ∈ tables,
    (tableNode table).id = (tableNode other).id → table.ident = other.ident
  viewsApart : ∀ view ∈ views, ∀ other ∈ views,
    (viewNode view).id = (viewNode other).id → view.ns = other.ns ∧ view.name = other.name
  namespacesApart : ∀ parts ∈ graphNamespaces tables views,
    ∀ other ∈ graphNamespaces tables views,
    namespaceId warehouse parts = namespaceId warehouse other → parts = other
  containsTable : ∀ table ∈ tables, ∀ source,
    ⟨source, table.stableId, "CONTAINS_TABLE"⟩ ∈ graph.edges ↔
      source = namespaceId warehouse table.ident.ns.parts
  containsView : ∀ view ∈ views, ∀ source,
    ⟨source, view.stableId, "CONTAINS_VIEW"⟩ ∈ graph.edges ↔
      source = namespaceId warehouse view.ns
  hangs : ∀ parts ∈ graphNamespaces tables views,
    ⟨warehouseGraphId warehouse, namespaceId warehouse parts, "HAS_NAMESPACE"⟩ ∈ graph.edges

/-- Nothing is lost, whatever the order of the lists. -/
structure FaithfulGraph (warehouse : WarehouseName) (tables : List QueryGraphTableProjection)
    (views : List QueryGraphViewProjection) (tenant : QueryGraphTenantProjection) : Prop where
  lossless : Lossless warehouse tables views
    (catalogGraphFromTablesAndViewsForWarehouse warehouse tables views tenant)
  orderIndependent : ∀ otherTables otherViews, tables.Perm otherTables → views.Perm otherViews →
    catalogGraphFromTablesAndViewsForWarehouse warehouse tables views tenant =
      catalogGraphFromTablesAndViewsForWarehouse warehouse otherTables otherViews tenant

/-- Namespaces differ in their dotted paths, and a policy does not take the place of an object or
of another policy. -/
structure GraphReady (warehouse : WarehouseName) (tables : List QueryGraphTableProjection)
    (views : List QueryGraphViewProjection) (tenant : QueryGraphTenantProjection) : Prop where
  paths : ∀ parts ∈ graphNamespaces tables views, ∀ other ∈ graphNamespaces tables views,
    joinText "." parts = joinText "." other → parts = other
  policies : ∀ table ∈ tables, graphPolicyId table ∈ spineIds warehouse tenant ∨
    graphPolicyId table = namespaceId warehouse table.ident.ns.parts ∨
    graphPolicyId table = table.stableId ∨
    graphPolicyId table ∉ objectIds warehouse tables views
  shared : ∀ table ∈ tables, ∀ other ∈ tables, graphPolicyId table = graphPolicyId other →
    table.ident = other.ident ∨ graphPolicyId table ∈ spineIds warehouse tenant ∨
    graphPolicyId table = namespaceId warehouse table.ident.ns.parts

section Lists

variable {warehouse : WarehouseName} {tables : List QueryGraphTableProjection}
  {views : List QueryGraphViewProjection} {tenant : QueryGraphTenantProjection}

namespace CatalogLists

theorem tableNamespaceId_eq (lists : CatalogLists warehouse tables views)
    {table : QueryGraphTableProjection} (listed : table ∈ tables) :
    tableNamespaceId table = namespaceId warehouse table.ident.ns.parts := by
  rw [tableNamespaceId, (lists.ownTables table listed).1]
  rfl

theorem viewNamespaceId_eq (lists : CatalogLists warehouse tables views)
    {view : QueryGraphViewProjection} (listed : view ∈ views) :
    viewNamespaceId view = namespaceId warehouse view.ns := by
  rw [viewNamespaceId, (lists.ownViews view listed).1]
  rfl

theorem tableKind (lists : CatalogLists warehouse tables views)
    {table : QueryGraphTableProjection} (listed : table ∈ tables) :
    graphKind table.stableId = some 't' := by
  rw [(lists.ownTables table listed).2.2]
  exact graphKind_table table.ident

theorem viewKind (lists : CatalogLists warehouse tables views)
    {view : QueryGraphViewProjection} (listed : view ∈ views) :
    graphKind view.stableId = some 'v' := by
  rw [(lists.ownViews view listed).2.2]
  exact graphKind_view warehouse _ _

theorem table_eq (lists : CatalogLists warehouse tables views)
    {table other : QueryGraphTableProjection} (listed : table ∈ tables)
    (otherListed : other ∈ tables) (same : table.ident = other.ident) : table = other :=
  List.inj_on_of_nodup_map lists.distinctTables listed otherListed same

theorem view_eq (lists : CatalogLists warehouse tables views)
    {view other : QueryGraphViewProjection} (listed : view ∈ views)
    (otherListed : other ∈ views) (ns : view.ns = other.ns) (name : view.name = other.name) :
    view = other :=
  List.inj_on_of_nodup_map lists.distinctViews listed otherListed (Prod.ext ns name)

/-- Tables with one stable id have one dotted path and one name. -/
theorem table_parts (lists : CatalogLists warehouse tables views)
    {table other : QueryGraphTableProjection} (listed : table ∈ tables)
    (otherListed : other ∈ tables) (same : table.stableId = other.stableId) :
    table.ident.warehouse = other.ident.warehouse ∧
      joinText "." table.ident.ns.parts = joinText "." other.ident.ns.parts ∧
      table.ident.name = other.ident.name := by
  obtain ⟨_, made, named⟩ := lists.ownTables table listed
  obtain ⟨_, otherMade, otherNamed⟩ := lists.ownTables other otherListed
  rw [named, otherNamed] at same
  exact stableId_parts made otherMade same

theorem view_parts (lists : CatalogLists warehouse tables views)
    {view other : QueryGraphViewProjection} (listed : view ∈ views)
    (otherListed : other ∈ views) (same : view.stableId = other.stableId) :
    joinText "." view.ns = joinText "." other.ns ∧ view.name = other.name := by
  obtain ⟨_, made, named⟩ := lists.ownViews view listed
  obtain ⟨_, otherMade, otherNamed⟩ := lists.ownViews other otherListed
  rw [named, otherNamed] at same
  obtain ⟨path, name⟩ := (viewStableIdParts_eq_iff made otherMade).mp same
  exact ⟨path, congrArg TableName.value name⟩

end CatalogLists

theorem mem_graphNamespaces (parts : List String) : parts ∈ graphNamespaces tables views ↔
    (∃ table ∈ tables, table.ident.ns.parts = parts) ∨ ∃ view ∈ views, view.ns = parts := by
  rw [graphNamespaces, List.mem_append, List.mem_map, List.mem_map]

theorem mem_graphNamespaces_table {table : QueryGraphTableProjection} (listed : table ∈ tables) :
    table.ident.ns.parts ∈ graphNamespaces tables views :=
  (mem_graphNamespaces _).mpr (.inl ⟨table, listed, rfl⟩)

theorem mem_graphNamespaces_view {view : QueryGraphViewProjection} (listed : view ∈ views) :
    view.ns ∈ graphNamespaces tables views :=
  (mem_graphNamespaces _).mpr (.inr ⟨view, listed, rfl⟩)

theorem spineIds_kind {id : String} {kind : Char} (known : graphKind id = some kind)
    (object : kind ∈ ['n', 't', 'v']) : id ∉ spineIds warehouse tenant := by
  intro member
  obtain ⟨other, listed, same⟩ := graphKind_spine member
  obtain rfl := Option.some.inj (known.symm.trans same)
  have apart : ∀ kind ∈ ['c', 's', 'p', 'w'], kind ∉ ['n', 't', 'v'] := by
    simp
  exact apart kind listed object

theorem mem_objectIds (id : String) : id ∈ objectIds warehouse tables views ↔
    (∃ parts ∈ graphNamespaces tables views, namespaceId warehouse parts = id) ∨
    (∃ table ∈ tables, table.stableId = id) ∨ ∃ view ∈ views, view.stableId = id := by
  simp only [objectIds, List.mem_append, List.mem_map]

theorem firstNode_table (id : String) (table : QueryGraphTableProjection) :
    firstNode id (tableNodes table) =
      if tableNamespaceId table = id then
        some (namespaceNode table.ident.warehouse.asStr table.ident.ns.path)
      else if table.stableId = id then some (tableNode table)
      else if graphPolicyId table = id then some (policyNode table) else none := by
  have ns : (namespaceNode table.ident.warehouse.asStr table.ident.ns.path).id =
      tableNamespaceId table := rfl
  have own : (tableNode table).id = table.stableId := rfl
  have policy : (policyNode table).id = graphPolicyId table := rfl
  rw [tableNodes, firstNode_cons id _ [tableNode table, policyNode table],
    firstNode_cons id _ [policyNode table], firstNode_single, firstNode_single, firstNode_single,
    ns, own, policy]
  split
  · rfl
  · split
    · rfl
    · rfl

theorem firstNode_view (id : String) (view : QueryGraphViewProjection) :
    firstNode id (viewNodes view) =
      if viewNamespaceId view = id then some (namespaceNode view.warehouse (joinText "." view.ns))
      else if view.stableId = id then some (viewNode view) else none := by
  have ns : (namespaceNode view.warehouse (joinText "." view.ns)).id = viewNamespaceId view := rfl
  have own : (viewNode view).id = view.stableId := rfl
  rw [viewNodes, firstNode_cons id _ [viewNode view], firstNode_single, firstNode_single, ns, own]
  split
  · rfl
  · rfl

/-- Under distinct dotted paths a stable id is the id of one table. -/
theorem GraphReady.table_unique (ready : GraphReady warehouse tables views tenant)
    (lists : CatalogLists warehouse tables views) {table other : QueryGraphTableProjection}
    (listed : table ∈ tables) (otherListed : other ∈ tables)
    (same : table.stableId = other.stableId) : table = other := by
  obtain ⟨own, path, name⟩ := lists.table_parts listed otherListed same
  have parts := ready.paths _ (mem_graphNamespaces_table listed) _
    (mem_graphNamespaces_table otherListed) path
  have ns : table.ident.ns = other.ident.ns := congrArg Namespace.mk parts
  apply lists.table_eq listed otherListed
  calc
    table.ident = ⟨table.ident.warehouse, table.ident.ns, table.ident.name⟩ := rfl
    _ = ⟨other.ident.warehouse, other.ident.ns, other.ident.name⟩ := by rw [own, ns, name]

theorem GraphReady.view_unique (ready : GraphReady warehouse tables views tenant)
    (lists : CatalogLists warehouse tables views) {view other : QueryGraphViewProjection}
    (listed : view ∈ views) (otherListed : other ∈ views)
    (same : view.stableId = other.stableId) : view = other := by
  obtain ⟨path, name⟩ := lists.view_parts listed otherListed same
  have ns := ready.paths _ (mem_graphNamespaces_view listed) _
    (mem_graphNamespaces_view otherListed) path
  exact lists.view_eq listed otherListed ns name

/-- The node that an id of a snapshot is for. -/
inductive Owns (warehouse : WarehouseName) (tables : List QueryGraphTableProjection)
    (views : List QueryGraphViewProjection) : String → QueryGraphNode → Prop
  | ofNamespace (parts) : parts ∈ graphNamespaces tables views →
      Owns warehouse tables views (namespaceId warehouse parts)
        (namespaceNode warehouse.asStr (joinText "." parts))
  | ofTable (table) : table ∈ tables →
      Owns warehouse tables views table.stableId (tableNode table)
  | ofView (view) : view ∈ views → Owns warehouse tables views view.stableId (viewNode view)
  | ofPolicy (table) : table ∈ tables →
      graphPolicyId table ∉ objectIds warehouse tables views →
      Owns warehouse tables views (graphPolicyId table) (policyNode table)

namespace Owns

theorem object_or_policy {id : String} {node : QueryGraphNode}
    (owns : Owns warehouse tables views id node) :
    id ∈ objectIds warehouse tables views ∨
      ∃ table ∈ tables, graphPolicyId table = id ∧ policyNode table = node ∧
        id ∉ objectIds warehouse tables views := by
  cases owns with
  | ofNamespace parts listed => exact .inl ((mem_objectIds _).mpr (.inl ⟨parts, listed, rfl⟩))
  | ofTable table listed => exact .inl ((mem_objectIds _).mpr (.inr (.inl ⟨table, listed, rfl⟩)))
  | ofView view listed => exact .inl ((mem_objectIds _).mpr (.inr (.inr ⟨view, listed, rfl⟩)))
  | ofPolicy table listed apart => exact .inr ⟨table, listed, rfl, rfl, apart⟩

/-- What kind of object an id is for can be read from it. -/
theorem object_kind (lists : CatalogLists warehouse tables views) {id : String}
    {node : QueryGraphNode} (owns : Owns warehouse tables views id node)
    (object : id ∈ objectIds warehouse tables views) :
    (graphKind id = some 'n' ∧ ∃ parts, id = namespaceId warehouse parts ∧
      node = namespaceNode warehouse.asStr (joinText "." parts)) ∨
    (graphKind id = some 't' ∧ ∃ table ∈ tables, id = table.stableId ∧ node = tableNode table) ∨
    graphKind id = some 'v' ∧ ∃ view ∈ views, id = view.stableId ∧ node = viewNode view := by
  cases owns with
  | ofNamespace parts _ => exact .inl ⟨graphKind_namespace _ _, parts, rfl, rfl⟩
  | ofTable table listed => exact .inr (.inl ⟨lists.tableKind listed, table, listed, rfl, rfl⟩)
  | ofView view listed => exact .inr (.inr ⟨lists.viewKind listed, view, listed, rfl, rfl⟩)
  | ofPolicy table _ apart => exact absurd object apart

theorem object_unique (lists : CatalogLists warehouse tables views)
    (ready : GraphReady warehouse tables views tenant) {id : String} {node other : QueryGraphNode}
    (owns : Owns warehouse tables views id node) (also : Owns warehouse tables views id other)
    (object : id ∈ objectIds warehouse tables views) : node = other := by
  rcases owns.object_kind lists object with ⟨kind, parts, rfl, rfl⟩ |
      ⟨kind, table, listed, rfl, rfl⟩ | ⟨kind, view, listed, rfl, rfl⟩ <;>
    rcases also.object_kind lists object with ⟨otherKind, second, same, rfl⟩ |
      ⟨otherKind, second, secondListed, same, rfl⟩ |
      ⟨otherKind, second, secondListed, same, rfl⟩ <;>
    first
    | exact absurd (kind.symm.trans otherKind) (by decide)
    | skip
  · rw [namespaceGraphId_injective same]
  · rw [ready.table_unique lists listed secondListed same]
  · rw [ready.view_unique lists listed secondListed same]

theorem unique (lists : CatalogLists warehouse tables views)
    (ready : GraphReady warehouse tables views tenant) {id : String} {node other : QueryGraphNode}
    (outside : id ∉ spineIds warehouse tenant) (owns : Owns warehouse tables views id node)
    (also : Owns warehouse tables views id other) : node = other := by
  rcases owns.object_or_policy with object | ⟨table, listed, rfl, rfl, apart⟩
  · exact owns.object_unique lists ready also object
  · rcases also.object_or_policy with object | ⟨second, secondListed, same, rfl, _⟩
    · exact absurd object apart
    · rcases ready.shared table listed second secondListed same.symm with ident | spine | own
      · rw [lists.table_eq listed secondListed ident]
      · exact absurd spine outside
      · rw [own] at apart
        exact absurd ((mem_objectIds _).mpr
          (.inl ⟨_, mem_graphNamespaces_table listed, rfl⟩)) apart

end Owns

/-- Off the spine, a table only brings nodes under the ids that they are for. -/
theorem table_owns (lists : CatalogLists warehouse tables views)
    (ready : GraphReady warehouse tables views tenant) {table : QueryGraphTableProjection}
    (listed : table ∈ tables) {id : String} (outside : id ∉ spineIds warehouse tenant)
    {node : QueryGraphNode} (brought : firstNode id (tableNodes table) = some node) :
    Owns warehouse tables views id node := by
  rw [firstNode_table, lists.tableNamespaceId_eq listed, (lists.ownTables table listed).1]
    at brought
  split at brought
  next ofNs =>
    obtain rfl := Option.some.inj brought
    rw [← ofNs]
    exact .ofNamespace _ (mem_graphNamespaces_table listed)
  next notNs =>
    split at brought
    next ofTable =>
      obtain rfl := Option.some.inj brought
      rw [← ofTable]
      exact .ofTable table listed
    next notTable =>
      split at brought
      next ofPolicy =>
        obtain rfl := Option.some.inj brought
        subst ofPolicy
        rcases ready.policies table listed with spine | own | self | apart
        · exact absurd spine outside
        · exact absurd own.symm notNs
        · exact absurd self.symm notTable
        · exact .ofPolicy table listed apart
      next => cases brought

theorem view_owns (lists : CatalogLists warehouse tables views) {view : QueryGraphViewProjection}
    (listed : view ∈ views) {id : String} {node : QueryGraphNode}
    (brought : firstNode id (viewNodes view) = some node) :
    Owns warehouse tables views id node := by
  rw [firstNode_view, lists.viewNamespaceId_eq listed, (lists.ownViews view listed).1] at brought
  split at brought
  next ofNs =>
    obtain rfl := Option.some.inj brought
    rw [← ofNs]
    exact .ofNamespace _ (mem_graphNamespaces_view listed)
  next =>
    split at brought
    next ofView =>
      obtain rfl := Option.some.inj brought
      rw [← ofView]
      exact .ofView view listed
    next => cases brought

/-! The nodes of the graph. -/

theorem firstNode_some {id : String} {nodes : List QueryGraphNode} {node : QueryGraphNode}
    (member : node ∈ nodes) (named : node.id = id) :
    ∃ first, firstNode id nodes = some first :=
  Option.isSome_iff_exists.mp (List.find?_isSome.mpr ⟨node, member, by simpa using named⟩)

theorem catalog_spine {node : QueryGraphNode} (member : node ∈ spineNodes warehouse tenant) :
    ∃ stored, (catalog warehouse tables views tenant).nodes[node.id]? = some stored := by
  obtain ⟨first, found⟩ := firstNode_some member rfl
  exact ⟨first, by rw [catalog_nodes, found, Option.some_or, Option.some_or]⟩

theorem catalog_table {table : QueryGraphTableProjection} (listed : table ∈ tables)
    {node : QueryGraphNode} (member : node ∈ tableNodes table) :
    ∃ stored, (catalog warehouse tables views tenant).nodes[node.id]? = some stored := by
  obtain ⟨first, found⟩ := firstNode_some member rfl
  have answered : (tables.findSome? fun table => firstNode node.id (tableNodes table)).isSome =
      true := List.findSome?_isSome_iff.mpr ⟨table, listed, by rw [found]; rfl⟩
  obtain ⟨answer, answered⟩ := Option.isSome_iff_exists.mp answered
  rw [catalog_nodes, answered]
  cases firstNode node.id (spineNodes warehouse tenant) with
  | none => exact ⟨answer, rfl⟩
  | some spine => exact ⟨spine, rfl⟩

theorem catalog_view {view : QueryGraphViewProjection} (listed : view ∈ views)
    {node : QueryGraphNode} (member : node ∈ viewNodes view) :
    ∃ stored, (catalog warehouse tables views tenant).nodes[node.id]? = some stored := by
  obtain ⟨first, found⟩ := firstNode_some member rfl
  have answered : (views.findSome? fun view => firstNode node.id (viewNodes view)).isSome =
      true := List.findSome?_isSome_iff.mpr ⟨view, listed, by rw [found]; rfl⟩
  obtain ⟨answer, answered⟩ := Option.isSome_iff_exists.mp answered
  rw [catalog_nodes, answered]
  cases (firstNode node.id (spineNodes warehouse tenant)).or
      (tables.findSome? fun table => firstNode node.id (tableNodes table)) with
  | none => exact ⟨answer, rfl⟩
  | some earlier => exact ⟨earlier, rfl⟩

theorem firstNode_outside {id : String} (outside : id ∉ spineIds warehouse tenant) :
    firstNode id (spineNodes warehouse tenant) = none := by
  refine List.find?_eq_none.mpr fun node member same => outside ?_
  have named : node.id = id := by simpa using same
  rw [← named]
  exact List.mem_map_of_mem member

/-- A stored node that is not of the spine is the node that its id is for. -/
theorem catalog_owns (lists : CatalogLists warehouse tables views)
    (ready : GraphReady warehouse tables views tenant) {id : String}
    (outside : id ∉ spineIds warehouse tenant) {node : QueryGraphNode}
    (stored : (catalog warehouse tables views tenant).nodes[id]? = some node) :
    Owns warehouse tables views id node := by
  rw [catalog_nodes, firstNode_outside outside, Option.none_or, Option.or_eq_some_iff] at stored
  rcases stored with found | ⟨_, found⟩
  · obtain ⟨table, listed, brought⟩ := List.exists_of_findSome?_eq_some found
    exact table_owns lists ready listed outside brought
  · obtain ⟨view, listed, brought⟩ := List.exists_of_findSome?_eq_some found
    exact view_owns lists listed brought

/-- The node of an object is in the graph. -/
theorem catalog_keeps (lists : CatalogLists warehouse tables views)
    (ready : GraphReady warehouse tables views tenant) {node : QueryGraphNode}
    (owns : Owns warehouse tables views node.id node)
    (outside : node.id ∉ spineIds warehouse tenant)
    (present : ∃ stored, (catalog warehouse tables views tenant).nodes[node.id]? = some stored) :
    node ∈ (catalogGraphFromTablesAndViewsForWarehouse warehouse tables views tenant).nodes := by
  obtain ⟨stored, found⟩ := present
  rw [mem_catalogGraph_nodes, found,
    owns.unique lists ready outside (catalog_owns lists ready outside found)]

theorem catalog_keepsTable (lists : CatalogLists warehouse tables views)
    (ready : GraphReady warehouse tables views tenant) {table : QueryGraphTableProjection}
    (listed : table ∈ tables) : tableNode table ∈
      (catalogGraphFromTablesAndViewsForWarehouse warehouse tables views tenant).nodes := by
  apply catalog_keeps lists ready (.ofTable table listed)
  · exact spineIds_kind (lists.tableKind listed) (by decide)
  · exact catalog_table listed (List.mem_cons_of_mem _ List.mem_cons_self)

theorem catalog_keepsView (lists : CatalogLists warehouse tables views)
    (ready : GraphReady warehouse tables views tenant) {view : QueryGraphViewProjection}
    (listed : view ∈ views) : viewNode view ∈
      (catalogGraphFromTablesAndViewsForWarehouse warehouse tables views tenant).nodes := by
  apply catalog_keeps lists ready (.ofView view listed)
  · exact spineIds_kind (lists.viewKind listed) (by decide)
  · exact catalog_view listed (List.mem_cons_of_mem _ List.mem_cons_self)

theorem catalog_namespace (lists : CatalogLists warehouse tables views)
    {parts : List String} (used : parts ∈ graphNamespaces tables views)
    {otherTables : List QueryGraphTableProjection} {otherViews : List QueryGraphViewProjection}
    (sameTables : ∀ table ∈ tables, table ∈ otherTables)
    (sameViews : ∀ view ∈ views, view ∈ otherViews) :
    ∃ stored, (catalog warehouse otherTables otherViews tenant).nodes[
      namespaceId warehouse parts]? = some stored := by
  rcases (mem_graphNamespaces parts).mp used with ⟨table, listed, rfl⟩ | ⟨view, listed, rfl⟩
  · rw [← lists.tableNamespaceId_eq listed]
    exact catalog_table (sameTables table listed) List.mem_cons_self
  · rw [← lists.viewNamespaceId_eq listed]
    exact catalog_view (sameViews view listed) List.mem_cons_self

theorem catalog_keepsNamespace (lists : CatalogLists warehouse tables views)
    (ready : GraphReady warehouse tables views tenant) {parts : List String}
    (used : parts ∈ graphNamespaces tables views) :
    namespaceNode warehouse.asStr (joinText "." parts) ∈
      (catalogGraphFromTablesAndViewsForWarehouse warehouse tables views tenant).nodes := by
  apply catalog_keeps lists ready (.ofNamespace parts used)
  · exact spineIds_kind (graphKind_namespace _ _) (by decide)
  · exact catalog_namespace lists used (fun _ listed => listed) fun _ listed => listed

/-- The nodes do not depend on the order of the lists. -/
theorem catalog_nodes_perm (lists : CatalogLists warehouse tables views)
    (ready : GraphReady warehouse tables views tenant)
    {otherTables : List QueryGraphTableProjection} {otherViews : List QueryGraphViewProjection}
    (sameTables : tables.Perm otherTables) (sameViews : views.Perm otherViews) :
    (catalog warehouse tables views tenant).nodes =
      (catalog warehouse otherTables otherViews tenant).nodes := by
  refine Std.ExtTreeMap.ext_getElem? fun id => ?_
  rw [catalog_nodes, catalog_nodes]
  by_cases spine : id ∈ spineIds warehouse tenant
  · obtain ⟨node, member, named⟩ := List.mem_map.mp spine
    obtain ⟨first, found⟩ := firstNode_some member named
    rw [found, Option.some_or, Option.some_or, Option.some_or, Option.some_or]
  · rw [OrderedMap.findSome?_perm sameTables, OrderedMap.findSome?_perm sameViews]
    · intro view listed other otherListed node second brought also
      exact (view_owns lists listed brought).unique lists ready spine
        (view_owns lists otherListed also)
    · intro table listed other otherListed node second brought also
      exact (table_owns lists ready listed spine brought).unique lists ready spine
        (table_owns lists ready otherListed spine also)

/-! The edges of the graph. -/

omit tables views tenant in
theorem warehouse_again (made : warehouse.Made) :
    (WarehouseName.new warehouse.asStr).toOption = some warehouse := by
  obtain ⟨value, built⟩ := made
  have named : value = warehouse.asStr := by
    simp only [WarehouseName.new, Fallible.bind_eq_ok, Fallible.pure_eq, Except.ok.injEq] at built
    obtain ⟨_, _, rfl⟩ := built
    rfl
  rw [← named, built]
  rfl

/-- Every namespace that has a node has its edges. -/
def NamespacesHang (warehouse : WarehouseName) (tables : List QueryGraphTableProjection)
    (views : List QueryGraphViewProjection) (parts : GraphParts) : Prop :=
  ∀ used ∈ graphNamespaces tables views,
    (∃ stored, parts.nodes[namespaceId warehouse used]? = some stored) →
    ∀ edge ∈ namespaceEdges warehouse.asStr (joinText "." used) (some warehouse),
      edge ∈ parts.edges

theorem newEdges_absent {parts : GraphParts} {used : List String}
    (absent : parts.nodes[namespaceId warehouse used]? = none) :
    newEdges parts warehouse.asStr (joinText "." used) (some warehouse) =
      namespaceEdges warehouse.asStr (joinText "." used) (some warehouse) := by
  rw [newEdges, if_neg]
  rw [Bool.not_eq_true]
  exact (OrderedMap.contains_eq_false _ _).mpr absent

theorem spine_hang : NamespacesHang warehouse tables views (spine warehouse tenant) := by
  rintro used _ ⟨stored, found⟩
  rw [spine_nodes] at found
  have member : namespaceId warehouse used ∈ spineIds warehouse tenant := by
    rw [← firstNode_id found]
    exact List.mem_map_of_mem (List.mem_of_find?_eq_some found)
  exact absurd member (spineIds_kind (graphKind_namespace _ _) (by decide))

theorem insertTable_hang (lists : CatalogLists warehouse tables views)
    (ready : GraphReady warehouse tables views tenant) {parts : GraphParts}
    {table : QueryGraphTableProjection} (listed : table ∈ tables)
    (hang : NamespacesHang warehouse tables views parts) :
    NamespacesHang warehouse tables views (insertTable parts table) := by
  rintro used member ⟨stored, found⟩ edge brought
  cases before : parts.nodes[namespaceId warehouse used]? with
  | some node => exact insertTable_keeps table (hang used member ⟨node, before⟩ edge brought)
  | none =>
      rw [insertTable_nodes, before, Option.none_or] at found
      have outside : namespaceId warehouse used ∉ spineIds warehouse tenant :=
        spineIds_kind (graphKind_namespace _ _) (by decide)
      have owns := table_owns lists ready listed outside found
      rw [firstNode_table, lists.tableNamespaceId_eq listed] at found
      have kind := graphKind_namespace warehouse.asStr (joinText "." used)
      split at found
      next ofNs =>
        have path := namespaceGraphId_injective ofNs
        rw [insertTable_edges, mem_foldl_insertEdge, List.mem_append]
        refine .inr (.inl ?_)
        rw [(lists.ownTables table listed).1, Namespace.path, path, newEdges_absent before]
        exact brought
      next notNs =>
        split at found
        next ofTable =>
          have tableKind := lists.tableKind listed
          rw [ofTable, namespaceId, kind] at tableKind
          cases tableKind
        next notTable =>
          split at found
          next ofPolicy =>
            rcases ready.policies table listed with spine | own | self | apart
            · rw [ofPolicy] at spine
              exact absurd spine outside
            · exact absurd (own.symm.trans ofPolicy) notNs
            · exact absurd (self.symm.trans ofPolicy) notTable
            · rw [ofPolicy] at apart
              exact absurd ((mem_objectIds _).mpr (.inl ⟨used, member, rfl⟩)) apart
          next => cases found

theorem insertView_hang (lists : CatalogLists warehouse tables views) {parts : GraphParts}
    {view : QueryGraphViewProjection} (listed : view ∈ views)
    (hang : NamespacesHang warehouse tables views parts) :
    NamespacesHang warehouse tables views (insertView parts view) := by
  rintro used member ⟨stored, found⟩ edge brought
  cases before : parts.nodes[namespaceId warehouse used]? with
  | some node => exact insertView_keeps view (hang used member ⟨node, before⟩ edge brought)
  | none =>
      rw [insertView_nodes, before, Option.none_or, firstNode_view,
        lists.viewNamespaceId_eq listed] at found
      split at found
      next ofNs =>
        have path := namespaceGraphId_injective ofNs
        rw [insertView_edges, mem_foldl_insertEdge, List.mem_append]
        refine .inr (.inl ?_)
        rw [(lists.ownViews view listed).1, path, warehouse_again lists.warehouseMade,
          newEdges_absent before]
        exact brought
      next =>
        split at found
        next ofView =>
          have viewKind := lists.viewKind listed
          rw [ofView, namespaceId, graphKind_namespace] at viewKind
          cases viewKind
        next => cases found

theorem catalog_hang (lists : CatalogLists warehouse tables views)
    (ready : GraphReady warehouse tables views tenant)
    {otherTables : List QueryGraphTableProjection} {otherViews : List QueryGraphViewProjection}
    (ownTables : ∀ table ∈ otherTables, table ∈ tables)
    (ownViews : ∀ view ∈ otherViews, view ∈ views) :
    NamespacesHang warehouse tables views (catalog warehouse otherTables otherViews tenant) := by
  apply List.foldlRecOn (motive := NamespacesHang warehouse tables views)
  · apply List.foldlRecOn (motive := NamespacesHang warehouse tables views)
    · exact spine_hang
    · intro parts hang table listed
      exact insertTable_hang lists ready (ownTables table listed) hang
  · intro parts hang view listed
    exact insertView_hang lists (ownViews view listed) hang

/-- Everything that may be among the edges is. -/
theorem mem_catalog_edges (lists : CatalogLists warehouse tables views)
    (ready : GraphReady warehouse tables views tenant)
    {otherTables : List QueryGraphTableProjection} {otherViews : List QueryGraphViewProjection}
    (sameTables : tables.Perm otherTables) (sameViews : views.Perm otherViews)
    (edge : QueryGraphEdge) :
    edge ∈ (catalog warehouse otherTables otherViews tenant).edges ↔
      Brought warehouse tables views tenant edge := by
  have brought : Brought warehouse otherTables otherViews tenant edge ↔
      Brought warehouse tables views tenant edge := by
    simp only [Brought, sameTables.mem_iff, sameViews.mem_iff]
  have hang : NamespacesHang warehouse tables views (catalog warehouse _ _ tenant) :=
    catalog_hang lists ready (fun _ listed => sameTables.mem_iff.mpr listed)
      fun _ listed => sameViews.mem_iff.mpr listed
  constructor
  · exact fun member => brought.mp (catalog_brought edge member)
  · rintro (spine | ⟨table, listed, new | own⟩ | ⟨view, listed, new | rfl⟩)
    · exact catalog_spineEdges otherTables otherViews spine
    · refine hang _ (mem_graphNamespaces_table listed) (catalog_namespace lists
        (mem_graphNamespaces_table listed) (fun _ => sameTables.mem_iff.mp)
        fun _ => sameViews.mem_iff.mp) edge ?_
      rw [tableNamespaceEdges, (lists.ownTables table listed).1] at new
      exact new
    · exact catalog_tableEdges warehouse otherViews tenant (sameTables.mem_iff.mp listed) own
    · refine hang _ (mem_graphNamespaces_view listed) (catalog_namespace lists
        (mem_graphNamespaces_view listed) (fun _ => sameTables.mem_iff.mp)
        fun _ => sameViews.mem_iff.mp) edge ?_
      rw [viewNamespaceEdges, (lists.ownViews view listed).1,
        warehouse_again lists.warehouseMade] at new
      exact new
    · exact catalog_viewEdge warehouse otherTables tenant (sameViews.mem_iff.mp listed)

theorem catalogGraph_perm (lists : CatalogLists warehouse tables views)
    (ready : GraphReady warehouse tables views tenant)
    {otherTables : List QueryGraphTableProjection} {otherViews : List QueryGraphViewProjection}
    (sameTables : tables.Perm otherTables) (sameViews : views.Perm otherViews) :
    catalogGraphFromTablesAndViewsForWarehouse warehouse tables views tenant =
      catalogGraphFromTablesAndViewsForWarehouse warehouse otherTables otherViews tenant := by
  have edges : (catalog warehouse tables views tenant).edges =
      (catalog warehouse otherTables otherViews tenant).edges := by
    apply ascending_ext (catalog_ascending _ _ _ _) (catalog_ascending _ _ _ _)
    intro edge
    rw [mem_catalog_edges lists ready (List.Perm.refl _) (List.Perm.refl _),
      mem_catalog_edges lists ready sameTables sameViews]
  rw [catalogGraph_parts, catalogGraph_parts, edges,
    catalog_nodes_perm lists ready sameTables sameViews]

/-! No edge hangs loose. -/

theorem catalog_node {id : String}
    (present : ∃ stored, (catalog warehouse tables views tenant).nodes[id]? = some stored) :
    ∃ node ∈ (catalogGraphFromTablesAndViewsForWarehouse warehouse tables views tenant).nodes,
      node.id = id := by
  obtain ⟨stored, found⟩ := present
  have named := catalog_keyed warehouse tables views tenant id stored found
  refine ⟨stored, ?_, named⟩
  rw [mem_catalogGraph_nodes, named]
  exact found

theorem namespaceEdges_ends {ns : String} {edge : QueryGraphEdge}
    (member : edge ∈ namespaceEdges warehouse.asStr ns (some warehouse)) :
    edge.to_ = namespaceGraphId warehouse.asStr ns ∧
      (edge.from_ = "lakecat:catalog" ∨ edge.from_ = warehouseGraphId warehouse) := by
  rcases List.mem_cons.mp member with rfl | member
  · exact ⟨rfl, .inl rfl⟩
  · obtain rfl := List.mem_singleton.mp member
    exact ⟨rfl, .inr rfl⟩

theorem catalog_ends (lists : CatalogLists warehouse tables views) (edge : QueryGraphEdge)
    (brought : Brought warehouse tables views tenant edge) :
    (∃ stored, (catalog warehouse tables views tenant).nodes[edge.from_]? = some stored) ∧
      ∃ stored, (catalog warehouse tables views tenant).nodes[edge.to_]? = some stored := by
  have spine : ∀ node ∈ spineNodes warehouse tenant,
      ∃ stored, (catalog warehouse tables views tenant).nodes[node.id]? = some stored := by
    intro node member
    exact catalog_spine member
  have catalogNode := spine _ List.mem_cons_self
  have serverNode := spine _ (List.mem_cons_of_mem _ List.mem_cons_self)
  have projectNode := spine _ (List.mem_cons_of_mem _ (List.mem_cons_of_mem _ List.mem_cons_self))
  have warehouseNode := spine _ (List.mem_cons_of_mem _ (List.mem_cons_of_mem _
    (List.mem_cons_of_mem _ List.mem_cons_self)))
  have hangs : ∀ parts ∈ graphNamespaces tables views,
      ∀ edge ∈ namespaceEdges warehouse.asStr (joinText "." parts) (some warehouse),
      (∃ stored, (catalog warehouse tables views tenant).nodes[edge.from_]? = some stored) ∧
        ∃ stored, (catalog warehouse tables views tenant).nodes[edge.to_]? = some stored := by
    intro parts used edge member
    obtain ⟨target, source⟩ := namespaceEdges_ends member
    rw [target]
    refine ⟨?_, catalog_namespace lists used (fun _ listed => listed) fun _ listed => listed⟩
    rcases source with source | source
    · rw [source]
      exact catalogNode
    · rw [source]
      exact warehouseNode
  rcases brought with own | ⟨table, listed, new | own⟩ | ⟨view, listed, new | rfl⟩
  · rcases List.mem_cons.mp own with rfl | own
    · exact ⟨catalogNode, serverNode⟩
    · rcases List.mem_cons.mp own with rfl | own
      · exact ⟨serverNode, projectNode⟩
      · obtain rfl := List.mem_singleton.mp own
        exact ⟨projectNode, warehouseNode⟩
  · rw [tableNamespaceEdges, (lists.ownTables table listed).1] at new
    exact hangs _ (mem_graphNamespaces_table listed) edge new
  · have node : ∀ node ∈ tableNodes table,
        ∃ stored, (catalog warehouse tables views tenant).nodes[node.id]? = some stored := by
      intro node member
      exact catalog_table listed member
    have tableStored := node _ (List.mem_cons_of_mem _ List.mem_cons_self)
    rcases List.mem_cons.mp own with rfl | own
    · exact ⟨node _ List.mem_cons_self, tableStored⟩
    · obtain rfl := List.mem_singleton.mp own
      exact ⟨tableStored, node _ (List.mem_cons_of_mem _ (List.mem_cons_of_mem _
        List.mem_cons_self))⟩
  · rw [viewNamespaceEdges, (lists.ownViews view listed).1,
      warehouse_again lists.warehouseMade] at new
    exact hangs _ (mem_graphNamespaces_view listed) edge new
  · exact ⟨catalog_view listed List.mem_cons_self,
      catalog_view listed (List.mem_cons_of_mem _ List.mem_cons_self)⟩

/-- Only tables and views bring edges of other labels than these. -/
theorem brought_contains {edge : QueryGraphEdge}
    (brought : Brought warehouse tables views tenant edge)
    (contains : edge.label ∉
      ["HAS_SERVER", "HAS_PROJECT", "HAS_WAREHOUSE", "HAS_NAMESPACE", "GOVERNED_BY"]) :
    (∃ table ∈ tables, edge = ⟨tableNamespaceId table, table.stableId, "CONTAINS_TABLE"⟩) ∨
      ∃ view ∈ views, edge = viewEdge view := by
  have hangs : ∀ {ns own : String} {validated : Option WarehouseName},
      edge ∉ namespaceEdges own ns validated := by
    intro ns own validated member
    apply contains
    rcases List.mem_cons.mp member with rfl | member
    · simp
    · obtain ⟨_, _, rfl⟩ := Option.map_eq_some_iff.mp (Option.mem_toList.mp member)
      simp
  rcases brought with own | ⟨table, listed, new | own⟩ | ⟨view, listed, new | rfl⟩
  · rcases List.mem_cons.mp own with rfl | own
    · simp at contains
    · rcases List.mem_cons.mp own with rfl | own
      · simp at contains
      · obtain rfl := List.mem_singleton.mp own
        simp at contains
  · exact absurd new hangs
  · rcases List.mem_cons.mp own with rfl | own
    · exact .inl ⟨table, listed, rfl⟩
    · obtain rfl := List.mem_singleton.mp own
      simp at contains
  · exact absurd new hangs
  · exact .inr ⟨view, listed, rfl⟩

theorem catalog_containsTable (lists : CatalogLists warehouse tables views)
    {table : QueryGraphTableProjection} (listed : table ∈ tables) (source : String) :
    ⟨source, table.stableId, "CONTAINS_TABLE"⟩ ∈
        (catalog warehouse tables views tenant).edges ↔
      source = namespaceId warehouse table.ident.ns.parts := by
  constructor
  · intro member
    rcases brought_contains (catalog_brought _ member) (by simp) with
      ⟨other, otherListed, same⟩ | ⟨view, _, same⟩
    · obtain ⟨ofNs, ofTable, _⟩ := QueryGraphEdge.mk.inj same
      obtain ⟨_, path, _⟩ := lists.table_parts listed otherListed ofTable
      rw [ofNs, lists.tableNamespaceId_eq otherListed, namespaceId, namespaceId, path]
    · have label := (QueryGraphEdge.mk.inj same).2.2
      exact absurd label (by decide)
  · rintro rfl
    rw [← lists.tableNamespaceId_eq listed]
    exact catalog_tableEdges warehouse views tenant listed List.mem_cons_self

theorem catalog_containsView (lists : CatalogLists warehouse tables views)
    {view : QueryGraphViewProjection} (listed : view ∈ views) (source : String) :
    ⟨source, view.stableId, "CONTAINS_VIEW"⟩ ∈
        (catalog warehouse tables views tenant).edges ↔
      source = namespaceId warehouse view.ns := by
  constructor
  · intro member
    rcases brought_contains (catalog_brought _ member) (by simp) with
      ⟨table, _, same⟩ | ⟨other, otherListed, same⟩
    · have label := (QueryGraphEdge.mk.inj same).2.2
      exact absurd label (by decide)
    · obtain ⟨ofNs, ofView, _⟩ := QueryGraphEdge.mk.inj same
      obtain ⟨path, _⟩ := lists.view_parts listed otherListed ofView
      rw [ofNs, lists.viewNamespaceId_eq otherListed, namespaceId, namespaceId, path]
  · rintro rfl
    rw [← lists.viewNamespaceId_eq listed]
    exact catalog_viewEdge warehouse tables tenant listed

theorem catalogGraph_lossless (lists : CatalogLists warehouse tables views)
    (ready : GraphReady warehouse tables views tenant) :
    Lossless warehouse tables views
      (catalogGraphFromTablesAndViewsForWarehouse warehouse tables views tenant) where
  closed := by
    intro edge member
    obtain ⟨source, target⟩ := catalog_ends lists edge (catalog_brought edge member)
    exact ⟨catalog_node source, catalog_node target⟩
  distinctIds := OrderedMap.nodup_map_values (catalog_keyed warehouse tables views tenant)
  keepsTables := fun _ listed => catalog_keepsTable lists ready listed
  keepsViews := fun _ listed => catalog_keepsView lists ready listed
  keepsNamespaces := fun _ used => catalog_keepsNamespace lists ready used
  tablesApart := fun _ listed _ otherListed same =>
    congrArg QueryGraphTableProjection.ident (ready.table_unique lists listed otherListed same)
  viewsApart := by
    intro view listed other otherListed same
    rw [ready.view_unique lists listed otherListed same]
    exact ⟨rfl, rfl⟩
  namespacesApart := fun parts used other otherUsed same =>
    ready.paths parts used other otherUsed (namespaceGraphId_injective same)
  containsTable := fun _ listed source => catalog_containsTable lists listed source
  containsView := fun _ listed source => catalog_containsView lists listed source
  hangs := by
    intro parts used
    have hang : NamespacesHang warehouse tables views (catalog warehouse tables views tenant) :=
      catalog_hang lists ready (fun _ listed => listed) fun _ listed => listed
    exact hang parts used (catalog_namespace lists used (fun _ listed => listed)
      fun _ listed => listed) _ (List.mem_cons_of_mem _ List.mem_cons_self)

/-! What a faithful graph says of its snapshot. -/

namespace FaithfulGraph

theorem node_unique {node other : QueryGraphNode}
    (member : node ∈
      (catalogGraphFromTablesAndViewsForWarehouse warehouse tables views tenant).nodes)
    (otherMember : other ∈
      (catalogGraphFromTablesAndViewsForWarehouse warehouse tables views tenant).nodes)
    (same : node.id = other.id) : node = other := by
  rw [mem_catalogGraph_nodes] at member otherMember
  rw [same, otherMember] at member
  exact (Option.some.inj member).symm

/-- A policy id that is new when its table comes first gets the node of that policy. -/
theorem policy_first (faithful : FaithfulGraph warehouse tables views tenant)
    (lists : CatalogLists warehouse tables views) {table : QueryGraphTableProjection}
    (listed : table ∈ tables) (outside : graphPolicyId table ∉ spineIds warehouse tenant)
    (notNs : graphPolicyId table ≠ namespaceId warehouse table.ident.ns.parts)
    (notTable : graphPolicyId table ≠ table.stableId) : policyNode table ∈
      (catalogGraphFromTablesAndViewsForWarehouse warehouse tables views tenant).nodes := by
  obtain ⟨front, rest, parts⟩ := List.append_of_mem listed
  have moved : tables.Perm (table :: (front ++ rest)) := by
    rw [parts]
    exact List.perm_middle
  rw [faithful.orderIndependent _ _ moved (List.Perm.refl _), mem_catalogGraph_nodes]
  have brought : firstNode (graphPolicyId table) (tableNodes table) = some (policyNode table) := by
    rw [firstNode_table, lists.tableNamespaceId_eq listed, if_neg notNs.symm,
      if_neg notTable.symm, if_pos rfl]
  have first := catalog_nodes warehouse (table :: (front ++ rest)) views tenant
    (graphPolicyId table)
  rw [firstNode_outside outside, Option.none_or, List.findSome?_cons, brought] at first
  exact first

theorem policy_apart (faithful : FaithfulGraph warehouse tables views tenant)
    (lists : CatalogLists warehouse tables views) {table : QueryGraphTableProjection}
    (listed : table ∈ tables) (outside : graphPolicyId table ∉ spineIds warehouse tenant)
    (notNs : graphPolicyId table ≠ namespaceId warehouse table.ident.ns.parts)
    (notTable : graphPolicyId table ≠ table.stableId) :
    graphPolicyId table ∉ objectIds warehouse tables views := by
  intro object
  have policy := faithful.policy_first lists listed outside notNs notTable
  have labels : ∀ node ∈ (catalogGraphFromTablesAndViewsForWarehouse warehouse tables views
      tenant).nodes, node.id = graphPolicyId table → node.label = "ODRLPolicy" := by
    intro node member named
    rw [node_unique member policy named]
    rfl
  rcases (mem_objectIds _).mp object with ⟨parts, used, same⟩ | ⟨other, otherListed, same⟩ |
    ⟨view, viewListed, same⟩
  · have label : "Namespace" = "ODRLPolicy" :=
      labels _ (faithful.lossless.keepsNamespaces parts used) same
    exact absurd label (by decide)
  · have label : "IcebergTable" = "ODRLPolicy" :=
      labels _ (faithful.lossless.keepsTables other otherListed) same
    exact absurd label (by decide)
  · have label : "View" = "ODRLPolicy" :=
      labels _ (faithful.lossless.keepsViews view viewListed) same
    exact absurd label (by decide)

/-- Two tables with one policy off the spine and their namespaces are one table. -/
theorem policy_shared (faithful : FaithfulGraph warehouse tables views tenant)
    (lists : CatalogLists warehouse tables views) {table other : QueryGraphTableProjection}
    (listed : table ∈ tables) (otherListed : other ∈ tables)
    (same : graphPolicyId table = graphPolicyId other)
    (outside : graphPolicyId table ∉ spineIds warehouse tenant)
    (notNs : graphPolicyId table ≠ namespaceId warehouse table.ident.ns.parts) :
    table.ident = other.ident := by
  have apart := faithful.lossless.tablesApart table listed other otherListed
  have otherOutside : graphPolicyId other ∉ spineIds warehouse tenant := same ▸ outside
  by_cases self : graphPolicyId table = table.stableId
  · by_cases otherSelf : graphPolicyId other = other.stableId
    · exact apart (self.symm.trans (same.trans otherSelf))
    · have otherNs : graphPolicyId other ≠ namespaceId warehouse other.ident.ns.parts := by
        intro ns
        have kind := lists.tableKind listed
        rw [← self, same, ns, namespaceId, graphKind_namespace] at kind
        cases kind
      have free := faithful.policy_apart lists otherListed otherOutside otherNs otherSelf
      rw [← same, self] at free
      exact absurd ((mem_objectIds _).mpr (.inr (.inl ⟨table, listed, rfl⟩))) free
  · have free := faithful.policy_apart lists listed outside notNs self
    have otherNs : graphPolicyId other ≠ namespaceId warehouse other.ident.ns.parts := by
      intro ns
      rw [same, ns] at free
      exact free ((mem_objectIds _).mpr
        (.inl ⟨_, mem_graphNamespaces_table otherListed, rfl⟩))
    have otherSelf : graphPolicyId other ≠ other.stableId := by
      intro self
      rw [same, self] at free
      exact free ((mem_objectIds _).mpr (.inr (.inl ⟨other, otherListed, rfl⟩)))
    have one := faithful.policy_first lists listed outside notNs self
    have two := faithful.policy_first lists otherListed otherOutside otherNs otherSelf
    have target := congrArg (fun node => node.properties.get "target") (node_unique one two same)
    have ids : table.stableId = other.stableId := by
      simpa [policyNode, Json.get_object] using target
    exact apart ids

theorem ready (faithful : FaithfulGraph warehouse tables views tenant)
    (lists : CatalogLists warehouse tables views) :
    GraphReady warehouse tables views tenant where
  paths := by
    intro parts used other otherUsed path
    apply faithful.lossless.namespacesApart parts used other otherUsed
    rw [namespaceId, path, ← namespaceId]
  policies := by
    intro table listed
    by_cases spine : graphPolicyId table ∈ spineIds warehouse tenant
    · exact .inl spine
    · by_cases ns : graphPolicyId table = namespaceId warehouse table.ident.ns.parts
      · exact .inr (.inl ns)
      · by_cases self : graphPolicyId table = table.stableId
        · exact .inr (.inr (.inl self))
        · exact .inr (.inr (.inr (faithful.policy_apart lists listed spine ns self)))
  shared := by
    intro table listed other otherListed same
    by_cases spine : graphPolicyId table ∈ spineIds warehouse tenant
    · exact .inr (.inl spine)
    · by_cases ns : graphPolicyId table = namespaceId warehouse table.ident.ns.parts
      · exact .inr (.inr ns)
      · exact .inl (faithful.policy_shared lists listed otherListed same spine ns)

end FaithfulGraph

end Lists

theorem catalogGraph_faithful (warehouse : WarehouseName)
    (tables : List QueryGraphTableProjection) (views : List QueryGraphViewProjection)
    (tenant : QueryGraphTenantProjection) (lists : CatalogLists warehouse tables views) :
    FaithfulGraph warehouse tables views tenant ↔ GraphReady warehouse tables views tenant := by
  constructor
  · exact fun faithful => faithful.ready lists
  · intro ready
    exact ⟨catalogGraph_lossless lists ready,
      fun _ _ sameTables sameViews => catalogGraph_perm lists ready sameTables sameViews⟩

def graphTable (parts : List String) (name : String) (odrl : Json) : QueryGraphTableProjection :=
  let ident : TableIdent := ⟨⟨"main"⟩, ⟨parts⟩, ⟨name⟩⟩
  ⟨ident, ident.stableId, "s3://lake/" ++ name, none, 1, some 2, .null, .null, .null, odrl, []⟩

def graphView (parts : List String) (name : String) : QueryGraphViewProjection :=
  ⟨viewStableIdParts ⟨"main"⟩ ⟨parts⟩ ⟨name⟩, "main", parts, name, 1, "select 1", "sail", none,
    .arr [], .obj [], .null⟩

theorem graphLists {tables : List QueryGraphTableProjection}
    {views : List QueryGraphViewProjection}
    (ownTables : ∀ table ∈ tables, table.ident.warehouse = ⟨"main"⟩ ∧
      Namespace.new table.ident.ns.parts = .ok table.ident.ns ∧
      TableName.new table.ident.name.value = .ok table.ident.name ∧
      table.stableId = table.ident.stableId)
    (ownViews : ∀ view ∈ views, view.warehouse = "main" ∧
      Namespace.new view.ns = .ok ⟨view.ns⟩ ∧
      view.stableId = viewStableIdParts ⟨"main"⟩ ⟨view.ns⟩ ⟨view.name⟩)
    (distinctTables : (tables.map QueryGraphTableProjection.ident).Nodup)
    (distinctViews : (views.map fun view => (view.ns, view.name)).Nodup) :
    CatalogLists ⟨"main"⟩ tables views where
  warehouseMade := ⟨"main", rfl⟩
  ownTables := by
    intro table listed
    obtain ⟨own, ns, name, stableId⟩ := ownTables table listed
    have warehouse : table.ident.warehouse.Made := by
      rw [own]
      exact ⟨"main", rfl⟩
    exact ⟨own, ⟨warehouse, ⟨_, ns⟩, ⟨_, name⟩⟩, stableId⟩
  ownViews := by
    intro view listed
    obtain ⟨own, ns, stableId⟩ := ownViews view listed
    exact ⟨own, ⟨_, ns⟩, stableId⟩
  distinctTables := distinctTables
  distinctViews := distinctViews

theorem catalogGraph_faithful_sales :
    FaithfulGraph ⟨"main"⟩
      [graphTable ["sales"] "orders" (.obj [("@id", .str "orders-policy")]),
        graphTable ["sales", "eu"] "items" (.obj [("@id", .str "items-policy")])]
      [graphView ["sales"] "recent"] sampleTenant := by
  refine (catalogGraph_faithful ⟨"main"⟩ _ _ sampleTenant
    (graphLists (by decide +kernel) (by decide +kernel) (by decide +kernel)
      (by decide +kernel))).mpr ⟨?_, ?_, ?_⟩
  · decide +kernel
  · decide +kernel
  · decide +kernel

/-- A namespace with a dot is merged with a nested one, and a policy that two tables share depends
on which of them comes first. -/
theorem catalogGraph_unfaithful :
    (∃ tables, CatalogLists ⟨"main"⟩ tables [] ∧ ¬FaithfulGraph ⟨"main"⟩ tables [] sampleTenant ∧
      tables.map (fun table => table.ident.ns.parts) = [["a.b"], ["a", "b"]]) ∧
    ∃ tables, CatalogLists ⟨"main"⟩ tables [] ∧ ¬FaithfulGraph ⟨"main"⟩ tables [] sampleTenant ∧
      tables.map graphPolicyId = ["shared-policy", "shared-policy"] := by
  constructor
  · refine ⟨[graphTable ["a.b"] "orders" (.obj [("@id", .str "orders-policy")]),
      graphTable ["a", "b"] "items" (.obj [("@id", .str "items-policy")])],
      graphLists (by decide +kernel) (by decide +kernel) (by decide +kernel) (by decide +kernel),
      ?_, rfl⟩
    intro faithful
    have merged := faithful.lossless.namespacesApart ["a.b"] (by decide +kernel) ["a", "b"]
      (by decide +kernel) rfl
    exact absurd merged (by decide)
  · refine ⟨[graphTable ["sales"] "orders" (.obj [("@id", .str "shared-policy")]),
      graphTable ["sales"] "items" (.obj [("@id", .str "shared-policy")])],
      graphLists (by decide +kernel) (by decide +kernel) (by decide +kernel) (by decide +kernel),
      ?_, rfl⟩
    intro faithful
    have turned := congrArg (fun graph => graph.nodes.map QueryGraphNode.properties)
      (faithful.orderIndependent _ _ (List.Perm.swap _ _ []) (List.Perm.refl _))
    exact absurd turned (by decide +kernel)

end LakeCat
