import LakeCat.OrderedMap

/-!
Maps that keep the first entry inserted under a key. What such a map holds is
the first entry of the list it was filled from; the order of the list matters
only where two of its entries disagree.
-/

namespace OrderedMap

section Maps

variable {Key Value : Type} [Ord Key] [Std.TransOrd Key] [Std.LawfulEqOrd Key]

omit [Std.LawfulEqOrd Key] in
theorem values_eq (map : Std.ExtTreeMap Key Value) : map.values = map.toList.map Prod.snd := by
  have folded : map.values = map.foldr (fun _ value values => value :: values) [] := by
    rcases map with ⟨⟨quotient⟩⟩
    induction quotient using Quotient.ind
    rfl
  rw [folded, Std.ExtTreeMap.foldr_eq_foldr_toList]
  induction map.toList with
  | nil => rfl
  | cons entry rest ih => rw [List.foldr_cons, ih, List.map_cons]

theorem mem_values (map : Std.ExtTreeMap Key Value) (value : Value) :
    value ∈ map.values ↔ ∃ key : Key, map[key]? = some value := by
  rw [values_eq, List.mem_map]
  constructor
  · rintro ⟨⟨key, stored⟩, member, rfl⟩
    exact ⟨key, (mem_toList map key stored).mp member⟩
  · rintro ⟨key, stored⟩
    exact ⟨(key, value), (mem_toList map key value).mpr stored, rfl⟩

/-- Values that carry their keys are told apart by them. -/
theorem nodup_map_values {map : Std.ExtTreeMap Key Value} {keyOf : Value → Key}
    (keyed : ∀ key value, map[key]? = some value → keyOf value = key) :
    (map.values.map keyOf).Nodup := by
  have keys : map.values.map keyOf = map.toList.map Prod.fst := by
    rw [values_eq, List.map_map]
    apply List.map_congr_left
    rintro ⟨key, value⟩ member
    exact keyed key value ((mem_toList map key value).mp member)
  rw [keys, List.Nodup, List.pairwise_map]
  exact Std.ExtTreeMap.distinct_keys_toList.imp fun unequal same =>
    unequal (Std.LawfulEqCmp.compare_eq_iff_eq.mpr same)

theorem getElem?_insertIfNew [DecidableEq Key] (map : Std.ExtTreeMap Key Value)
    (key query : Key) (value : Value) :
    (map.insertIfNew key value)[query]? =
      map[query]?.or (if key = query then some value else none) := by
  rw [Std.ExtTreeMap.getElem?_insertIfNew]
  by_cases same : key = query
  · subst same
    rw [if_pos rfl]
    cases stored : map[key]? with
    | none =>
        have absent : key ∉ map := by
          rw [← Std.ExtTreeMap.isSome_getElem?_iff_mem, stored]
          exact Bool.false_ne_true
        rw [if_pos ⟨Std.ReflCmp.compare_self, absent⟩, Option.none_or]
    | some old =>
        have present : key ∈ map := by
          rw [← Std.ExtTreeMap.isSome_getElem?_iff_mem, stored]
          rfl
        rw [if_neg fun both => both.2 present, Option.some_or]
  · have unequal : compare key query ≠ .eq := fun equal =>
      same (Std.LawfulEqCmp.eq_of_compare equal)
    rw [if_neg fun both => unequal both.1, if_neg same, Option.or_none]

end Maps

/-! Searching groups of entries in turn. -/

section Search

variable {Group Value : Type}

/-- All groups that answer give one value. -/
theorem findSome?_only {find : Group → Option Value} {groups : List Group} {value : Value}
    (found : ∃ group ∈ groups, find group = some value)
    (only : ∀ group ∈ groups, ∀ other, find group = some other → other = value) :
    groups.findSome? find = some value := by
  cases answer : groups.findSome? find with
  | none =>
      obtain ⟨group, member, answers⟩ := found
      rw [List.findSome?_eq_none_iff.mp answer group member] at answers
      cases answers
  | some other =>
      obtain ⟨group, member, answers⟩ := List.exists_of_findSome?_eq_some answer
      rw [only group member other answers]

theorem findSome?_perm {find : Group → Option Value} {groups others : List Group}
    (same : groups.Perm others)
    (agree : ∀ group ∈ groups, ∀ other ∈ groups, ∀ value second,
      find group = some value → find other = some second → value = second) :
    groups.findSome? find = others.findSome? find := by
  cases answer : groups.findSome? find with
  | none =>
      have silent := List.findSome?_eq_none_iff.mp answer
      exact (List.findSome?_eq_none_iff.mpr fun group member =>
        silent group (same.mem_iff.mpr member)).symm
  | some value =>
      obtain ⟨group, member, answers⟩ := List.exists_of_findSome?_eq_some answer
      refine (findSome?_only ⟨group, same.mem_iff.mp member, answers⟩ ?_).symm
      intro other also second replies
      exact agree other (same.mem_iff.mpr also) group member second value replies answers

end Search

end OrderedMap
