import Mathlib

/-! Writing a list of entries into an ordered map, and removing a list of keys. -/

namespace OrderedMap

variable {Key Value : Type} [Ord Key] [Std.TransOrd Key] [Std.LawfulEqOrd Key]

theorem getElem?_insert [DecidableEq Key] (map : Std.ExtTreeMap Key Value) (key query : Key)
    (value : Value) :
    (map.insert key value)[query]? = if key = query then some value else map[query]? := by
  simp only [Std.ExtTreeMap.getElem?_insert, Std.LawfulEqCmp.compare_eq_iff_eq]

theorem getElem?_erase [DecidableEq Key] (map : Std.ExtTreeMap Key Value) (key query : Key) :
    (map.erase key)[query]? = if key = query then none else map[query]? := by
  simp only [Std.ExtTreeMap.getElem?_erase, Std.LawfulEqCmp.compare_eq_iff_eq]

theorem getElem?_filter (map : Std.ExtTreeMap Key Value) (keep : Key → Value → Bool) (query : Key)
    (value : Value) :
    (map.filter keep)[query]? = some value ↔ map[query]? = some value ∧ keep query value = true := by
  rw [Std.ExtTreeMap.getElem?_filter', Option.filter_eq_some_iff]

omit [Std.LawfulEqOrd Key] in
theorem contains_eq_false (map : Std.ExtTreeMap Key Value) (key : Key) :
    map.contains key = false ↔ map[key]? = none := by
  rw [Std.ExtTreeMap.contains_eq_isSome_getElem?, Option.isSome_eq_false_iff,
    Option.isNone_iff_eq_none]

omit [Std.LawfulEqOrd Key] in
theorem contains_eq_true (map : Std.ExtTreeMap Key Value) (key : Key) :
    map.contains key = true ↔ ∃ value, map[key]? = some value := by
  rw [Std.ExtTreeMap.contains_eq_isSome_getElem?, Option.isSome_iff_exists]

theorem getElem?_foldl_erase [DecidableEq Key] (keys : List Key) (map : Std.ExtTreeMap Key Value)
    (query : Key) :
    (keys.foldl (fun map key => map.erase key) map)[query]? =
      if query ∈ keys then none else map[query]? := by
  induction keys generalizing map with
  | nil => simp
  | cons key rest ih =>
      rw [List.foldl_cons, ih, Std.ExtTreeMap.getElem?_erase]
      by_cases same : key = query
      · simp [same]
      · simp [same, Ne.symm same]

/-- Entries that agree with a function of their key leave its value at each key written. -/
theorem getElem?_foldl_insert [DecidableEq Key] (entries : List (Key × Value))
    (value : Key → Option Value) (agree : ∀ entry ∈ entries, value entry.1 = some entry.2)
    (map : Std.ExtTreeMap Key Value) (query : Key) :
    (entries.foldl (fun map entry => map.insert entry.1 entry.2) map)[query]? =
      if query ∈ entries.map Prod.fst then value query else map[query]? := by
  induction entries generalizing map with
  | nil => simp
  | cons entry rest ih =>
      rw [List.foldl_cons, ih (fun other member => agree other (by simp [member])),
        Std.ExtTreeMap.getElem?_insert, List.map_cons]
      by_cases written : query ∈ rest.map Prod.fst
      · rw [if_pos written, if_pos (List.mem_cons_of_mem _ written)]
      · rw [if_neg written]
        by_cases same : entry.1 = query
        · subst same
          simp [agree entry (by simp)]
        · have unequal : compare entry.1 query ≠ .eq := fun equal =>
            same (Std.LawfulEqCmp.eq_of_compare equal)
          simp only [unequal, if_false, List.mem_cons, Ne.symm same, written, or_self]

/-- Keys of two columns are in the order of the first column, then of the second. -/
instance instOrdPair {First Second : Type} [Ord First] [Ord Second] : Ord (First × Second) :=
  lexOrd

/-- Inserts a value, or removes the one that is there. -/
def put (map : Std.ExtTreeMap Key Value) (key : Key) : Option Value → Std.ExtTreeMap Key Value
  | some value => map.insert key value
  | none => map.erase key

theorem getElem?_put [DecidableEq Key] (map : Std.ExtTreeMap Key Value) (key query : Key)
    (value : Option Value) :
    (put map key value)[query]? = if key = query then value else map[query]? := by
  cases value with
  | none => exact getElem?_erase map key query
  | some value => exact getElem?_insert map key query value

theorem getElem?_filter_keep (map : Std.ExtTreeMap Key Value) {keep : Key → Value → Bool}
    {query : Key} (kept : ∀ value, keep query value = true) :
    (map.filter keep)[query]? = map[query]? := by
  rw [Std.ExtTreeMap.getElem?_filter']
  cases map[query]? with
  | none => rfl
  | some value => simp [Option.filter, kept]

/-- What is kept by its key alone is read as before. -/
theorem getElem?_filter_key (map : Std.ExtTreeMap Key Value) {keep : Key → Bool} {query : Key}
    (kept : keep query = true) : (map.filter fun key _ => keep key)[query]? = map[query]? :=
  getElem?_filter_keep map fun _ => kept

theorem filter_insert [DecidableEq Key] (map : Std.ExtTreeMap Key Value)
    {keep : Key → Value → Bool} {key : Key} {value : Value} (kept : keep key value = true) :
    (map.insert key value).filter keep = (map.filter keep).insert key value := by
  refine Std.ExtTreeMap.ext_getElem? fun query => ?_
  rw [Std.ExtTreeMap.getElem?_filter', getElem?_insert, getElem?_insert]
  by_cases same : key = query
  · subst same
    simp [Option.filter, kept]
  · rw [if_neg same, if_neg same, Std.ExtTreeMap.getElem?_filter']

theorem filter_key_insert [DecidableEq Key] (map : Std.ExtTreeMap Key Value) {keep : Key → Bool}
    {key : Key} (kept : keep key = true) (value : Value) :
    (map.insert key value).filter (fun key _ => keep key) =
      (map.filter fun key _ => keep key).insert key value :=
  filter_insert map kept

/-- An entry that is not kept before or after leaves what is kept. -/
theorem filter_insert_drop [DecidableEq Key] (map : Std.ExtTreeMap Key Value)
    {keep : Key → Value → Bool} {key : Key} {value : Value} (dropped : keep key value = false)
    (before : ∀ old, map[key]? = some old → keep key old = false) :
    (map.insert key value).filter keep = map.filter keep := by
  refine Std.ExtTreeMap.ext_getElem? fun query => ?_
  rw [Std.ExtTreeMap.getElem?_filter', getElem?_insert, Std.ExtTreeMap.getElem?_filter']
  by_cases same : key = query
  · subst same
    rw [if_pos rfl]
    cases stored : map[key]? with
    | none => simp [Option.filter, dropped]
    | some old => simp [Option.filter, dropped, before old stored]
  · rw [if_neg same]

theorem filter_erase [DecidableEq Key] (map : Std.ExtTreeMap Key Value)
    (keep : Key → Value → Bool) (key : Key) :
    (map.erase key).filter keep = (map.filter keep).erase key := by
  refine Std.ExtTreeMap.ext_getElem? fun query => ?_
  rw [Std.ExtTreeMap.getElem?_filter', getElem?_erase, getElem?_erase]
  by_cases same : key = query
  · simp [same]
  · rw [if_neg same, if_neg same, Std.ExtTreeMap.getElem?_filter']

theorem filter_erase_drop [DecidableEq Key] (map : Std.ExtTreeMap Key Value)
    {keep : Key → Value → Bool} {key : Key} (dropped : ∀ value, keep key value = false) :
    (map.erase key).filter keep = map.filter keep := by
  refine Std.ExtTreeMap.ext_getElem? fun query => ?_
  rw [Std.ExtTreeMap.getElem?_filter', getElem?_erase, Std.ExtTreeMap.getElem?_filter']
  by_cases same : key = query
  · subst same
    rw [if_pos rfl]
    cases map[key]? with
    | none => rfl
    | some value => simp [Option.filter, dropped]
  · rw [if_neg same]

/-- Dropping entries that are not kept leaves what is kept. -/
theorem filter_filter_drop (map : Std.ExtTreeMap Key Value) {first keep : Key → Value → Bool}
    (passed : ∀ key value, map[key]? = some value → keep key value = true →
      first key value = true) : (map.filter first).filter keep = map.filter keep := by
  refine Std.ExtTreeMap.ext_getElem? fun query => ?_
  rw [Std.ExtTreeMap.getElem?_filter', Std.ExtTreeMap.getElem?_filter',
    Std.ExtTreeMap.getElem?_filter']
  cases stored : map[query]? with
  | none => rfl
  | some value =>
      cases kept : keep query value with
      | false => cases dropped : first query value <;> simp [Option.filter, kept, dropped]
      | true => simp [Option.filter, kept, passed query value stored kept]

/-- Rewriting entries that are kept neither before nor after leaves what is kept. -/
theorem filter_map_drop (map : Std.ExtTreeMap Key Value) {change : Key → Value → Value}
    {keep : Key → Value → Bool}
    (left : ∀ key value, change key value = value ∨
      (keep key value = false ∧ keep key (change key value) = false)) :
    (map.map change).filter keep = map.filter keep := by
  refine Std.ExtTreeMap.ext_getElem? fun query => ?_
  rw [Std.ExtTreeMap.getElem?_filter', Std.ExtTreeMap.getElem?_filter',
    Std.ExtTreeMap.getElem?_map]
  cases map[query]? with
  | none => rfl
  | some value =>
      rcases left query value with same | ⟨before, after⟩
      · simp [same]
      · simp [Option.filter, before, after]

theorem filter_foldl_erase [DecidableEq Key] (keys : List Key) (map : Std.ExtTreeMap Key Value)
    (keep : Key → Value → Bool) :
    (keys.foldl (fun map key => map.erase key) map).filter keep =
      keys.foldl (fun map key => map.erase key) (map.filter keep) := by
  induction keys generalizing map with
  | nil => rfl
  | cons key rest ih => rw [List.foldl_cons, ih, filter_erase, List.foldl_cons]

theorem filter_foldl_insert [DecidableEq Key] (entries : List (Key × Value))
    (map : Std.ExtTreeMap Key Value) {keep : Key → Value → Bool}
    (kept : ∀ entry ∈ entries, keep entry.1 entry.2 = true) :
    (entries.foldl (fun map entry => map.insert entry.1 entry.2) map).filter keep =
      entries.foldl (fun map entry => map.insert entry.1 entry.2) (map.filter keep) := by
  induction entries generalizing map with
  | nil => rfl
  | cons entry rest ih =>
      rw [List.foldl_cons, ih _ fun other member => kept other (by simp [member]),
        filter_insert map (kept entry (by simp)), List.foldl_cons]

theorem mem_toList (map : Std.ExtTreeMap Key Value) (key : Key) (value : Value) :
    (key, value) ∈ map.toList ↔ map[key]? = some value :=
  Std.ExtTreeMap.mem_toList_iff_getElem?_eq_some

/-- The value of a key is that of its last entry. -/
theorem getElem?_foldl_last (entries : List (Key × Value)) {query : Key} {value : Value}
    (found : (entries.foldl (fun map entry => map.insert entry.1 entry.2)
      (∅ : Std.ExtTreeMap Key Value))[query]? = some value) :
    ∃ before after, entries = before ++ (query, value) :: after ∧
      ∀ entry ∈ after, entry.1 ≠ query := by
  induction entries using List.reverseRecOn with
  | nil => simp at found
  | append_singleton rest entry ih =>
      rw [List.foldl_append, List.foldl_cons, List.foldl_nil,
        Std.ExtTreeMap.getElem?_insert] at found
      by_cases same : compare entry.1 query = .eq
      · rw [if_pos same] at found
        have key : entry.1 = query := Std.LawfulEqCmp.eq_of_compare same
        have last : entry = (query, value) := Prod.ext key (Option.some.inj found)
        exact ⟨rest, [], by rw [last], by simp⟩
      · rw [if_neg same] at found
        obtain ⟨before, after, split, later⟩ := ih found
        refine ⟨before, after ++ [entry], by rw [split]; simp, fun other member => ?_⟩
        rw [List.mem_append, List.mem_singleton] at member
        rcases member with member | rfl
        · exact later other member
        · rintro rfl
          exact same Std.ReflCmp.compare_self

end OrderedMap
