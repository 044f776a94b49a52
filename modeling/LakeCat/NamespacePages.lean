import LakeCat.ServiceRequests

/-!
Pages of the namespaces below a parent. A page token is a position in the sorted list, so
what a page holds follows from the list at the time of its own request.
-/

namespace LakeCat

open Fallible

def usizeMax : Nat := 2 ^ 64 - 1

def pageTokenPrefix : String := "lakecat-v1:"

def defaultPageSize : Nat := 1000

def maxPageSize : Nat := 10000

structure ListNamespacesQuery where
  parent : Option String
  pageToken : Option String
  pageSize : Option Nat

structure NamespacePage where
  namespaces : List Namespace
  nextPageToken : Option String

def isImmediateChild (ns : Namespace) (parent : Option Namespace) : Bool :=
  match parent with
  | some parent =>
      ns.parts.length = parent.parts.length + 1 && parent.parts.isPrefixOf ns.parts
  | none => ns.parts.length = 1

structure PageRequest where
  offset : Nat
  size : Nat
  positive : 0 < size

def encodePageToken (offset : Nat) : String :=
  pageTokenPrefix ++ toString offset

/-- `usize` has 64 bits. -/
def decodePageToken (token : String) : LakeCatResult Nat :=
  okOr ((stripHead token pageTokenPrefix).bind parseU64)
    (.invalidArgument "namespace page token is invalid")

def pageOffset (token : Option String) : LakeCatResult Nat :=
  match token with
  | none => .ok 0
  | some token => if token = "" then .ok 0 else decodePageToken token

def PageRequest.fromQuery (query : ListNamespacesQuery) : LakeCatResult (Option PageRequest) :=
  if query.pageToken = none ∧ query.pageSize = none then .ok none
  else if positive : 0 < min (query.pageSize.getD defaultPageSize) maxPageSize then do
    let offset ← pageOffset query.pageToken
    return some ⟨offset, _, positive⟩
  else .error (.invalidArgument "namespace page size must be at least one")

def Namespace.le (left right : Namespace) : Bool :=
  (compare left right).isLE

/-- The namespaces under a parent, or at the top, in their order. -/
def namespacesUnder (namespaces : List Namespace) (parent : Option Namespace) : List Namespace :=
  (namespaces.filter fun ns => isImmediateChild ns parent).mergeSort Namespace.le

def namespacePage (namespaces : List Namespace) (parent : Option Namespace)
    (query : ListNamespacesQuery) : LakeCatResult NamespacePage := do
  let namespaces := namespacesUnder namespaces parent
  match ← PageRequest.fromQuery query with
  | none => return ⟨namespaces, none⟩
  | some request => do
      rejectIf (namespaces.length < request.offset)
        (.invalidArgument "namespace page token points beyond the available results")
      let stop := min (min (request.offset + request.size) usizeMax) namespaces.length
      return {
        namespaces := (namespaces.take stop).drop request.offset
        nextPageToken := if stop < namespaces.length then some (encodePageToken stop) else none
      }

/-! A client that asks for page after page. The namespaces may be others at each request. -/

def pageQuery (size : Nat) (token : Option String) : ListNamespacesQuery :=
  ⟨none, token, some size⟩

/-- The responses from this request on, until one has no token. -/
def pageResponses (stored : Nat → List Namespace) (parent : Option Namespace) (size : Nat) :
    Nat → Nat → Option String → List (LakeCatResult NamespacePage)
  | 0, _, _ => []
  | fuel + 1, turn, token =>
      let response := namespacePage (stored turn) parent (pageQuery size token)
      response :: match response with
        | .ok ⟨_, some next⟩ => pageResponses stored parent size fuel (turn + 1) (some next)
        | _ => []

def pageNamespaces : LakeCatResult NamespacePage → List Namespace
  | .ok page => page.namespaces
  | .error _ => []

def deliveredNamespaces (responses : List (LakeCatResult NamespacePage)) : List Namespace :=
  responses.flatMap pageNamespaces

/-- The last response is a page without a token. -/
def Completed (responses : List (LakeCatResult NamespacePage)) : Prop :=
  ∃ page, responses.getLast? = some (.ok page) ∧ page.nextPageToken = none

/-- An empty token is no token. -/
def IsFirst (token : Option String) : Prop :=
  token = none ∨ token = some ""

/-- A set of namespaces, which a `Vec` holds. -/
structure NamespaceSet (namespaces : List Namespace) : Prop where
  distinct : namespaces.Nodup
  fits : namespaces.length ≤ usizeMax

/-! Tokens come back as the positions they were made from. -/

theorem parseU64_toString {value : Nat} (fits : value < 2 ^ 64) :
    parseU64 (toString value) = some value := by
  have unsigned : (toString value).toList.head? ≠ some '+' := by
    intro plus
    have digit := digits_of_mem (List.mem_of_head? plus)
    cases digit
  have whole : digitsValue (toString value).toList = some value := by
    rw [digitsValue, if_neg]
    · have total : Nat.ofDigitChars 10 (Nat.toDigits 10 value) 0 = value :=
        Nat.ofDigitChars_ten_toDigits
      rw [Nat.ofDigitChars_eq_foldl] at total
      simpa using total
    · rintro (empty | mixed)
      · simp at empty
      · apply mixed
        rw [List.all_eq_true]
        intro ch member
        exact digits_of_mem member
  rw [parseU64, if_neg unsigned, whole, Option.filter_some, if_pos (by simpa using fits)]

theorem decodePageToken_encode {offset : Nat} (fits : offset ≤ usizeMax) :
    decodePageToken (encodePageToken offset) = .ok offset := by
  have bound : offset < 2 ^ 64 := by
    rw [usizeMax] at fits
    omega
  rw [decodePageToken, encodePageToken, stripHead_append, Option.bind_some,
    parseU64_toString bound, okOr_some]

/-! What one page holds. -/

theorem namespacesUnder_perm (namespaces : List Namespace) (parent : Option Namespace) :
    (namespacesUnder namespaces parent).Perm
      (namespaces.filter fun ns => isImmediateChild ns parent) :=
  List.mergeSort_perm _ _

theorem mem_namespacesUnder {namespaces : List Namespace} {parent : Option Namespace}
    {ns : Namespace} :
    ns ∈ namespacesUnder namespaces parent ↔
      ns ∈ namespaces ∧ isImmediateChild ns parent = true := by
  rw [(namespacesUnder_perm namespaces parent).mem_iff, List.mem_filter]

theorem namespacesUnder_nodup {namespaces : List Namespace} (distinct : namespaces.Nodup)
    (parent : Option Namespace) : (namespacesUnder namespaces parent).Nodup :=
  (namespacesUnder_perm namespaces parent).nodup_iff.mpr (distinct.filter _)

theorem namespacesUnder_sorted {namespaces : List Namespace} (distinct : namespaces.Nodup)
    (parent : Option Namespace) :
    (namespacesUnder namespaces parent).Pairwise fun left right => compare left right = .lt := by
  have sorted : (namespacesUnder namespaces parent).Pairwise fun left right =>
      Namespace.le left right = true := by
    apply List.pairwise_mergeSort
    · intro first second third
      exact Std.TransOrd.isLE_trans
    · intro left right
      rw [Namespace.le, Namespace.le, Std.OrientedOrd.eq_swap (a := right)]
      cases compare left right <;> rfl
  refine (sorted.and (namespacesUnder_nodup distinct parent)).imp ?_
  rintro left right ⟨within, different⟩
  cases order : compare left right with
  | lt => rfl
  | eq => exact absurd (Std.LawfulEqOrd.eq_of_compare order) different
  | gt =>
      rw [Namespace.le, order] at within
      cases within

theorem NamespaceSet.under_length {namespaces : List Namespace} (stored : NamespaceSet namespaces)
    (parent : Option Namespace) : (namespacesUnder namespaces parent).length ≤ usizeMax := by
  rw [(namespacesUnder_perm namespaces parent).length_eq]
  exact (List.length_filter_le _ _).trans stored.fits

theorem pageRequest_of {size offset : Nat} {token : Option String} (positive : 0 < size)
    (read : pageOffset token = .ok offset) :
    ∃ request, PageRequest.fromQuery (pageQuery size token) = .ok (some request) ∧
      request.offset = offset ∧ request.size = min size maxPageSize := by
  have capped : 0 < min size maxPageSize := by
    rw [maxPageSize]
    omega
  refine ⟨⟨offset, _, capped⟩, ?_, rfl, rfl⟩
  rw [PageRequest.fromQuery, if_neg (by simp [pageQuery])]
  simp only [pageQuery, Option.getD_some, read, capped, dite_true, ok_bind]
  rfl

/-- The part of a list that starts at a position, with a token where more is left. -/
def pageAt (listed : List Namespace) (position size : Nat) : LakeCatResult NamespacePage :=
  if listed.length < position then
    .error (.invalidArgument "namespace page token points beyond the available results")
  else .ok {
    namespaces := (listed.drop position).take size
    nextPageToken :=
      if position + size < listed.length then some (encodePageToken (position + size))
      else none }

theorem namespacePage_at {namespaces : List Namespace} (stored : NamespaceSet namespaces)
    (parent : Option Namespace) {size offset : Nat} {token : Option String}
    (positive : 0 < size) (read : pageOffset token = .ok offset) :
    namespacePage namespaces parent (pageQuery size token) =
      pageAt (namespacesUnder namespaces parent) offset (min size maxPageSize) := by
  obtain ⟨request, made, sameOffset, sameSize⟩ := pageRequest_of positive read
  have fits := stored.under_length parent
  rw [namespacePage, made, ok_bind, pageAt]
  simp only [sameOffset, sameSize]
  generalize namespacesUnder namespaces parent = listed at fits ⊢
  generalize min size maxPageSize = step
  by_cases beyond : listed.length < offset
  · rw [if_pos beyond, rejectIf_pos _ beyond]
    rfl
  · rw [if_neg beyond, rejectIf_neg _ beyond, ok_bind, pure_eq]
    by_cases more : offset + step < listed.length
    · have stop : min (min (offset + step) usizeMax) listed.length = offset + step := by omega
      rw [stop, if_pos more, List.drop_take, Nat.add_sub_cancel_left]
    · have stop : min (min (offset + step) usizeMax) listed.length = listed.length := by omega
      rw [stop, if_neg more, if_neg (lt_irrefl _), List.take_length, List.take_of_length_le]
      rw [List.length_drop]
      omega

theorem pageOffset_first {token : Option String} (first : IsFirst token) :
    pageOffset token = .ok 0 := by
  rcases first with rfl | rfl <;> rfl

theorem pageOffset_encode {offset : Nat} (fits : offset ≤ usizeMax) :
    pageOffset (some (encodePageToken offset)) = .ok offset := by
  have present : encodePageToken offset ≠ "" := by
    simp [encodePageToken, pageTokenPrefix, ← String.toList_inj]
  rw [pageOffset, if_neg present, decodePageToken_encode fits]

theorem deliveredNamespaces_cons (response : LakeCatResult NamespacePage)
    (later : List (LakeCatResult NamespacePage)) :
    deliveredNamespaces (response :: later) =
      pageNamespaces response ++ deliveredNamespaces later :=
  List.flatMap_cons

/-- A namespace is on a page when its place falls into the part of the list that the page is. -/
theorem mem_slice {listed : List Namespace} (distinct : listed.Nodup) {ns : Namespace}
    {place : Nat} (held : listed[place]? = some ns) (position step : Nat) :
    ns ∈ (listed.drop position).take step ↔ position ≤ place ∧ place < position + step := by
  rw [List.mem_iff_getElem?]
  simp only [List.getElem?_take, List.getElem?_drop]
  constructor
  · rintro ⟨index, found⟩
    split at found
    next within =>
      have same : position + index = place := by
        have bound := (List.getElem?_eq_some_iff.mp found).1
        exact (List.getElem?_inj bound distinct).mp (found.trans held.symm)
      omega
    next => cases found
  · rintro ⟨low, high⟩
    refine ⟨place - position, ?_⟩
    rw [if_pos (by omega), Nat.add_sub_cancel' low, held]

theorem pageAt_count {listed : List Namespace} (distinct : listed.Nodup) {ns : Namespace}
    {place : Nat} (held : listed[place]? = some ns) (position step : Nat) :
    (pageNamespaces (pageAt listed position step)).count ns =
      if position ≤ place ∧ place < position + step then 1 else 0 := by
  have bound := (List.getElem?_eq_some_iff.mp held).1
  rw [pageAt]
  by_cases beyond : listed.length < position
  · rw [if_pos beyond, if_neg (by omega)]
    rfl
  · rw [if_neg beyond]
    by_cases inside : position ≤ place ∧ place < position + step
    · rw [if_pos inside]
      have member := (mem_slice distinct held position step).mpr inside
      have once : ((listed.drop position).take step).Nodup :=
        (distinct.sublist (List.drop_sublist _ _)).sublist (List.take_sublist _ _)
      exact List.count_eq_one_of_mem once member
    · rw [if_neg inside]
      apply List.count_eq_zero.mpr
      intro member
      exact inside ((mem_slice distinct held position step).mp member)

section Walk

variable {stored : Nat → List Namespace} {parent : Option Namespace} {size : Nat}

/-- The response at a position, and the request that its token leads to. -/
theorem pageResponses_succ (sets : ∀ turn, NamespaceSet (stored turn)) (positive : 0 < size)
    {fuel turn position : Nat} {token : Option String} (read : pageOffset token = .ok position) :
    pageResponses stored parent size (fuel + 1) turn token =
      pageAt (namespacesUnder (stored turn) parent) position (min size maxPageSize) ::
        if position + min size maxPageSize < (namespacesUnder (stored turn) parent).length then
          pageResponses stored parent size fuel (turn + 1)
            (some (encodePageToken (position + min size maxPageSize)))
        else [] := by
  have capped : 0 < min size maxPageSize := by
    rw [maxPageSize]
    omega
  rw [pageResponses, namespacePage_at (sets turn) parent positive read]
  congr 1
  rw [pageAt]
  by_cases beyond : (namespacesUnder (stored turn) parent).length < position
  · rw [if_pos beyond, if_neg (by omega)]
  · rw [if_neg beyond]
    by_cases more : position + min size maxPageSize < (namespacesUnder (stored turn) parent).length
    · rw [if_pos more, if_pos more]
    · rw [if_neg more, if_neg more]

/-- Each response is the page at the position that the sizes of the pages before it add up to. -/
theorem pageResponses_law (sets : ∀ turn, NamespaceSet (stored turn)) (positive : 0 < size)
    {fuel turn position : Nat} {token : Option String} (read : pageOffset token = .ok position)
    {index : Nat} {response : LakeCatResult NamespacePage}
    (answered : (pageResponses stored parent size fuel turn token)[index]? = some response) :
    response = pageAt (namespacesUnder (stored (turn + index)) parent)
      (position + index * min size maxPageSize) (min size maxPageSize) := by
  induction fuel generalizing turn position token index with
  | zero => cases answered
  | succ fuel ih =>
      rw [pageResponses_succ sets positive read] at answered
      cases index with
      | zero =>
          rw [Nat.zero_mul]
          exact (Option.some.inj answered).symm
      | succ index =>
          rw [List.getElem?_cons_succ] at answered
          split at answered
          next more =>
            have within := (sets turn).under_length parent
            have later := ih (pageOffset_encode (by omega)) answered
            rw [later, Nat.add_assoc turn, Nat.add_comm 1, Nat.succ_mul, Nat.add_assoc position,
              Nat.add_comm (min size maxPageSize)]
          next => cases answered

/-- While nothing changes, the pages are the list. -/
theorem pageResponses_unchanged {namespaces : List Namespace} (set : NamespaceSet namespaces)
    (positive : 0 < size) {fuel turn position : Nat} {token : Option String}
    (read : pageOffset token = .ok position)
    (within : position ≤ (namespacesUnder namespaces parent).length)
    (enough : (namespacesUnder namespaces parent).length < position + fuel) :
    deliveredNamespaces (pageResponses (fun _ => namespaces) parent size fuel turn token) =
        (namespacesUnder namespaces parent).drop position ∧
      Completed (pageResponses (fun _ => namespaces) parent size fuel turn token) := by
  have capped : 0 < min size maxPageSize := by
    rw [maxPageSize]
    omega
  induction fuel generalizing turn position token with
  | zero => omega
  | succ fuel ih =>
      rw [pageResponses_succ (fun _ => set) positive read, pageAt, if_neg (by omega)]
      by_cases more : position + min size maxPageSize < (namespacesUnder namespaces parent).length
      · have room := set.under_length parent
        have later := @ih (turn + 1) (position + min size maxPageSize) _
          (pageOffset_encode (by omega)) more.le (by omega)
        have joined : (namespacesUnder namespaces parent).drop position =
            ((namespacesUnder namespaces parent).drop position).take (min size maxPageSize) ++
              (namespacesUnder namespaces parent).drop (position + min size maxPageSize) := by
          rw [← List.drop_drop, List.take_append_drop]
        obtain ⟨same, page, last, ended⟩ := later
        rw [if_pos more, if_pos more]
        refine ⟨?_, page, ?_, ended⟩
        · rw [deliveredNamespaces_cons, same]
          exact joined.symm
        · rw [List.getLast?_cons, last]
          rfl
      · rw [if_neg more, if_neg more]
        refine ⟨?_, _, rfl, rfl⟩
        rw [deliveredNamespaces, List.flatMap_singleton, pageNamespaces, List.take_of_length_le]
        rw [List.length_drop]
        omega

/-- A namespace that stays in its place is delivered once. -/
theorem pageResponses_count (sets : ∀ turn, NamespaceSet (stored turn)) (positive : 0 < size)
    {ns : Namespace} {place : Nat}
    (stays : ∀ turn, (namespacesUnder (stored turn) parent)[place]? = some ns)
    {fuel turn position : Nat} {token : Option String} (read : pageOffset token = .ok position) :
    (position ≤ place → place < position + fuel →
      (deliveredNamespaces (pageResponses stored parent size fuel turn token)).count ns = 1) ∧
    (place < position →
      (deliveredNamespaces (pageResponses stored parent size fuel turn token)).count ns = 0) := by
  have capped : 0 < min size maxPageSize := by
    rw [maxPageSize]
    omega
  induction fuel generalizing turn position token with
  | zero => exact ⟨fun _ _ => by omega, fun _ => rfl⟩
  | succ fuel ih =>
      have held := stays turn
      have bound := (List.getElem?_eq_some_iff.mp held).1
      have room := (sets turn).under_length parent
      have own := pageAt_count (namespacesUnder_nodup (sets turn).distinct parent) held position
        (min size maxPageSize)
      rw [pageResponses_succ sets positive read, deliveredNamespaces_cons, List.count_append, own]
      by_cases more :
          position + min size maxPageSize < (namespacesUnder (stored turn) parent).length
      · have later := @ih (turn + 1) (position + min size maxPageSize) _
          (pageOffset_encode (by omega))
        rw [if_pos more]
        constructor
        · intro low high
          by_cases inside : place < position + min size maxPageSize
          · rw [if_pos ⟨low, inside⟩, later.2 inside]
          · rw [if_neg (by omega), later.1 (by omega) (by omega)]
        · intro passed
          rw [if_neg (by omega), later.2 (by omega)]
      · rw [if_neg more]
        constructor
        · intro low _
          rw [if_pos (by omega)]
          rfl
        · intro passed
          rw [if_neg (by omega)]
          rfl

/-- The namespaces before one are those that are less. -/
theorem namespacesUnder_split {namespaces : List Namespace} (distinct : namespaces.Nodup)
    {ns : Namespace} (member : ns ∈ namespacesUnder namespaces parent) :
    ∃ lower upper, namespacesUnder namespaces parent = lower ++ ns :: upper ∧ lower.Nodup ∧
      ∀ other, other ∈ lower ↔ (other ∈ namespaces ∧ isImmediateChild other parent = true) ∧
        compare other ns = .lt := by
  obtain ⟨lower, upper, split⟩ := List.append_of_mem member
  have sorted := namespacesUnder_sorted distinct parent
  have apart := namespacesUnder_nodup distinct parent
  rw [split] at sorted apart
  obtain ⟨_, above, below⟩ := List.pairwise_append.mp sorted
  refine ⟨lower, upper, split, (List.nodup_append.mp apart).1, fun other => ?_⟩
  rw [← mem_namespacesUnder, split]
  constructor
  · intro own
    exact ⟨List.mem_append_left _ own, below other own ns List.mem_cons_self⟩
  · rintro ⟨own, less⟩
    rcases List.mem_append.mp own with early | late
    · exact early
    · rcases List.mem_cons.mp late with rfl | late
      · rw [Std.ReflOrd.compare_self] at less
        cases less
      · have greater := (List.pairwise_cons.mp above).1 other late
        rw [Std.OrientedOrd.eq_swap, greater] at less
        cases less

/-- What a client gets that follows the tokens from a first request. -/
structure PagesDeliver (stored : Nat → List Namespace) (parent : Option Namespace) (size : Nat)
    (first : Option String) : Prop where
  unchanged : (∀ turn, stored turn = stored 0) → ∃ enough, ∀ fuel, enough ≤ fuel →
    Completed (pageResponses stored parent size fuel 0 first) ∧
      (deliveredNamespaces (pageResponses stored parent size fuel 0 first)).Pairwise
        (fun left right => compare left right = .lt) ∧
      ∀ ns, ns ∈ deliveredNamespaces (pageResponses stored parent size fuel 0 first) ↔
        ns ∈ stored 0 ∧ isImmediateChild ns parent = true
  resumed : ∀ fuel index response,
    (pageResponses stored parent size fuel 0 first)[index]? = some response →
      response = pageAt (namespacesUnder (stored index) parent)
        (index * min size maxPageSize) (min size maxPageSize)
  settled : ∀ ns, isImmediateChild ns parent = true → (∀ turn, ns ∈ stored turn) →
    (∀ turn other, isImmediateChild other parent = true → compare other ns = .lt →
      (other ∈ stored turn ↔ other ∈ stored 0)) →
    ∃ enough, ∀ fuel, enough ≤ fuel →
      (deliveredNamespaces (pageResponses stored parent size fuel 0 first)).count ns = 1

/-- Following the tokens delivers each namespace under the parent once and in order while none is
added or dropped; otherwise each page is the part of the list of its time at its position, and
what stays in its place is delivered once. -/
theorem namespacePages_deliver (stored : Nat → List Namespace) (parent : Option Namespace)
    (size : Nat) (first : Option String) (sets : ∀ turn, NamespaceSet (stored turn))
    (positive : 0 < size) (starts : IsFirst first) : PagesDeliver stored parent size first := by
  have read := pageOffset_first starts
  refine ⟨?_, ?_, ?_⟩
  · intro same
    have constant : stored = fun _ => stored 0 := funext same
    rw [constant]
    refine ⟨(namespacesUnder (stored 0) parent).length + 1, fun fuel enough => ?_⟩
    have whole := @pageResponses_unchanged parent size _ (sets 0) positive fuel 0 0 _ read
      (Nat.zero_le _) (by omega)
    rw [whole.1]
    refine ⟨whole.2, namespacesUnder_sorted (sets 0).distinct parent, fun ns => ?_⟩
    exact mem_namespacesUnder
  · intro fuel index response answered
    have law := pageResponses_law sets positive read answered
    rw [Nat.zero_add, Nat.zero_add] at law
    exact law
  · intro ns child present stays
    have listed (turn : Nat) : ns ∈ namespacesUnder (stored turn) parent :=
      mem_namespacesUnder.mpr ⟨present turn, child⟩
    obtain ⟨lower, upper, split, apart, less⟩ :=
      namespacesUnder_split (sets 0).distinct (listed 0)
    have place (turn : Nat) :
        (namespacesUnder (stored turn) parent)[lower.length]? = some ns := by
      obtain ⟨now, rest, splitNow, apartNow, lessNow⟩ :=
        namespacesUnder_split (sets turn).distinct (listed turn)
      have members (other : Namespace) : other ∈ now ↔ other ∈ lower := by
        rw [less, lessNow]
        constructor
        · rintro ⟨⟨own, under⟩, below⟩
          exact ⟨⟨(stays turn other under below).mp own, under⟩, below⟩
        · rintro ⟨⟨own, under⟩, below⟩
          exact ⟨⟨(stays turn other under below).mpr own, under⟩, below⟩
      have size := ((List.perm_ext_iff_of_nodup apartNow apart).mpr members).length_eq
      rw [splitNow, ← size]
      simp
    refine ⟨lower.length + 1, fun fuel enough => ?_⟩
    exact (pageResponses_count sets positive place read).1 (Nat.zero_le _) (by omega)

end Walk

section Samples

def topNamespace (name : String) : Namespace := ⟨[name]⟩

theorem namespacePages_deliver_sample :
    PagesDeliver (fun _ => [topNamespace "sales", topNamespace "web"]) none 1 (some "") :=
  namespacePages_deliver _ _ _ _ (fun _ => ⟨by decide, by decide⟩) (by decide) (.inr rfl)

/-- The first namespace is delivered and dropped, and the next page passes over the second. -/
theorem droppedNamespace_skipsNext :
    ¬∀ (stored : Nat → List Namespace) (parent : Option Namespace) (size : Nat),
      (∀ turn, NamespaceSet (stored turn)) → 0 < size →
      ∀ ns, isImmediateChild ns parent = true → (∀ turn, ns ∈ stored turn) →
        ∃ enough, ∀ fuel, enough ≤ fuel →
          (deliveredNamespaces (pageResponses stored parent size fuel 0 none)).count ns = 1 := by
  intro always
  let rest := [topNamespace "b", topNamespace "c"]
  let stored (turn : Nat) : List Namespace :=
    if turn = 0 then topNamespace "a" :: rest else rest
  have sets (turn : Nat) : NamespaceSet (stored turn) := by
    have whole : NamespaceSet (topNamespace "a" :: rest) := ⟨by decide, by decide⟩
    have later : NamespaceSet rest := ⟨by decide, by decide⟩
    cases turn with
    | zero => exact whole
    | succ turn => exact later
  have present (turn : Nat) : topNamespace "b" ∈ stored turn := by
    cases turn <;> simp [stored, rest]
  have before : namespacesUnder (stored 0) none = topNamespace "a" :: rest := by
    rw [namespacesUnder, show (stored 0).filter _ = topNamespace "a" :: rest by decide,
      List.mergeSort_of_pairwise (by decide)]
  have after : namespacesUnder (stored 1) none = rest := by
    rw [namespacesUnder, show (stored 1).filter _ = rest by decide,
      List.mergeSort_of_pairwise (by decide)]
  obtain ⟨enough, once⟩ := always stored none 1 sets (by decide) _ (by decide) present
  have counted := once (enough + 2) (by omega)
  rw [pageResponses_succ sets (by decide) (pageOffset_first (.inl rfl)), before,
    if_pos (by decide), pageResponses_succ sets (by decide) (pageOffset_encode (by decide)), after,
    if_neg (by decide)] at counted
  revert counted
  decide +kernel

end Samples

end LakeCat
