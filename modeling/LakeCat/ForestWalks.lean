import Mathlib

/-!
Walks of a forest that shows the children of a place only when it is asked for
them. The roots are asked for first, then the children of each node that was
shown, in any order.
-/

namespace ForestWalk

universe u

variable {Node : Type u}

/-- No node is shown twice, and none under two places. The top is `none`. -/
structure Forest (children : Option Node → List Node) : Prop where
  distinct : ∀ place, (children place).Nodup
  owned : ∀ {place other node}, node ∈ children place → node ∈ children other → place = other

/-- A node that the roots lead to. -/
inductive Rooted (children : Option Node → List Node) : Node → Prop
  | root {node : Node} (shown : node ∈ children none) : Rooted children node
  | child {parent node : Node} (rooted : Rooted children parent)
      (shown : node ∈ children (some parent)) : Rooted children node

/-- What is known of a walk: the places it has asked for, those that are left to ask for and
the nodes it has seen. -/
structure Covers (children : Option Node → List Node) (asked todo : List (Option Node))
    (seen : List Node) : Prop where
  shown : seen.Perm (asked.flatMap children)
  places : (asked ++ todo).Perm (none :: seen.map some)
  once : (asked ++ todo).Nodup
  rooted : ∀ node ∈ seen, Rooted children node

variable {children : Option Node → List Node}

theorem Covers.start (children : Option Node → List Node) : Covers children [] [none] [] where
  shown := .nil
  places := .refl _
  once := List.nodup_singleton none
  rooted := by simp

section Walk

variable {asked todo : List (Option Node)} {seen : List Node}

theorem Covers.mem_seen (covers : Covers children asked todo seen) {node : Node} :
    node ∈ seen ↔ ∃ place ∈ asked, node ∈ children place := by
  rw [covers.shown.mem_iff, List.mem_flatMap]

theorem Covers.mem_places (covers : Covers children asked todo seen) {node : Node} :
    some node ∈ asked ++ todo ↔ node ∈ seen := by
  rw [covers.places.mem_iff]
  simp

theorem Covers.seen_nodup (covers : Covers children asked todo seen) : seen.Nodup := by
  have places := covers.places.nodup_iff.mp covers.once
  exact List.Nodup.of_map some (List.nodup_cons.mp places).2

/-- A place that is left can be asked for. -/
theorem Covers.place_rooted (covers : Covers children asked todo seen) {node : Node}
    (left : some node ∈ todo) : Rooted children node :=
  covers.rooted node (covers.mem_places.mp (List.mem_append_right _ left))

theorem perm_eraseIdx {Item : Type u} {items : List Item} {index : Nat} {item : Item}
    (found : items[index]? = some item) : items.Perm (item :: items.eraseIdx index) := by
  obtain ⟨bound, same⟩ := List.getElem?_eq_some_iff.mp found
  rw [← same]
  exact (List.getElem_cons_eraseIdx_perm bound).symm

/-- A place is asked for. -/
theorem Covers.next (forest : Forest children) (covers : Covers children asked todo seen)
    {index : Nat} {place : Option Node} (found : todo[index]? = some place) :
    Covers children (place :: asked)
      (todo.eraseIdx index ++ (children place).map some) (seen ++ children place) := by
  have taken : todo.Perm (place :: todo.eraseIdx index) := perm_eraseIdx found
  have left : place ∈ todo := List.mem_of_getElem? found
  have moved : (place :: asked ++ (todo.eraseIdx index ++ (children place).map some)).Perm
      (asked ++ todo ++ (children place).map some) := by
    have front : (place :: asked ++ todo.eraseIdx index).Perm (asked ++ todo) :=
      List.perm_middle.symm.trans (taken.symm.append_left asked)
    simpa only [List.append_assoc] using front.append_right ((children place).map some)
  have unasked : place ∉ asked := by
    intro before
    exact (List.nodup_append.mp covers.once).2.2 place before place left rfl
  have fresh : ∀ node ∈ children place, some node ∉ asked ++ todo := by
    intro node shown inside
    obtain ⟨other, before, again⟩ := covers.mem_seen.mp (covers.mem_places.mp inside)
    rw [← forest.owned shown again] at before
    exact unasked before
  constructor
  · rw [List.flatMap_cons]
    exact (covers.shown.append_right _).trans List.perm_append_comm
  · rw [List.map_append, ← List.cons_append]
    exact moved.trans (covers.places.append_right _)
  · rw [moved.nodup_iff, List.nodup_append]
    refine ⟨covers.once, (forest.distinct place).map (Option.some_injective Node), ?_⟩
    rintro other inside again shown rfl
    obtain ⟨node, mem, rfl⟩ := List.mem_map.mp shown
    exact fresh node mem inside
  · intro node member
    rcases List.mem_append.mp member with before | shown
    · exact covers.rooted node before
    · cases place with
      | none => exact .root shown
      | some parent => exact .child (covers.place_rooted left) shown

/-- A walk with nothing left to ask for has seen the nodes of the forest, each once. -/
theorem Covers.finished (covers : Covers children asked [] seen) {node : Node} :
    node ∈ seen ↔ Rooted children node := by
  refine ⟨covers.rooted node, fun rooted => ?_⟩
  have places := covers.places
  rw [List.append_nil] at places
  induction rooted with
  | root shown =>
      have top : none ∈ asked := places.mem_iff.mpr List.mem_cons_self
      exact covers.mem_seen.mpr ⟨none, top, shown⟩
  | @child parent node rooted shown ih =>
      have place : some parent ∈ asked :=
        places.mem_iff.mpr (List.mem_cons_of_mem _ (List.mem_map_of_mem ih))
      exact covers.mem_seen.mpr ⟨some parent, place, shown⟩

/-- A walk asks for no more places than there are. -/
theorem Covers.length_le (covers : Covers children asked todo seen) {nodes : List Node}
    (known : ∀ node, Rooted children node → node ∈ nodes) :
    asked.length + todo.length ≤ nodes.length + 1 := by
  have inside : asked ++ todo ⊆ none :: nodes.map some := by
    intro place member
    rcases List.mem_cons.mp (covers.places.mem_iff.mp member) with rfl | seen
    · exact List.mem_cons_self
    · obtain ⟨node, mem, rfl⟩ := List.mem_map.mp seen
      exact List.mem_cons_of_mem _ (List.mem_map_of_mem (known node (covers.rooted node mem)))
  simpa using (covers.once.subperm inside).length_le

end Walk

end ForestWalk
