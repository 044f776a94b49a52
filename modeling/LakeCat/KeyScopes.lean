import LakeCat.ViewListing

/-!
The keys of the store and the predicates that pick the rows of a scope by their
keys. The lengths in the key of a namespace keep any components apart, also such
that look like lengths; a name has neither a colon nor a unit separator, and an
id comes last and may have any text.
-/

namespace LakeCat

/-- `memory_view_receipt_key_matches_namespace`. -/
def memoryViewReceiptKeyMatchesNamespace (key : String) (warehouse : WarehouseName)
    (ns : Namespace) : Bool :=
  match splitText key '\x1f' with
  | [rowWarehouse, rowNamespace, _] =>
      rowWarehouse = warehouse.value && rowNamespace = ns.storageKey
  | _ => false

/-- Texts of one length that start alike are alike. -/
theorem append_inj_of_byteSize {first second : String} {firstRest secondRest : List Char}
    (sizes : first.utf8ByteSize = second.utf8ByteSize)
    (same : first.toList ++ firstRest = second.toList ++ secondRest) :
    first = second ∧ firstRest = secondRest := by
  have ended {short long : String} {extra : List Char}
      (sizes : short.utf8ByteSize = long.utf8ByteSize)
      (longer : long.toList = short.toList ++ extra) : extra = [] := by
    have whole : long = short ++ String.ofList extra := by
      rw [← String.toList_inj, String.toList_append, String.toList_ofList, longer]
    have size := congrArg String.utf8ByteSize whole
    rw [String.utf8ByteSize_append] at size
    have empty : String.ofList extra = "" := String.utf8ByteSize_eq_zero_iff.mp (by omega)
    rw [← String.toList_ofList (l := extra), empty]
    rfl
  rcases List.append_eq_append_iff.mp same with ⟨extra, longer, rest⟩ | ⟨extra, longer, rest⟩
  · obtain rfl := ended sizes longer
    rw [List.append_nil, String.toList_inj] at longer
    exact ⟨longer.symm, rest⟩
  · obtain rfl := ended sizes.symm longer
    rw [List.append_nil, String.toList_inj] at longer
    exact ⟨longer, rest.symm⟩

theorem toString_injective {one other : Nat} (same : toString one = toString other) :
    one = other := by
  have digits : Nat.toDigits 10 one = Nat.toDigits 10 other := by
    simpa using congrArg String.toList same
  have read := congrArg (Nat.ofDigitChars 10 · 0) digits
  simpa using read

/-- The lengths and the colons after them keep any components apart. -/
theorem storageChars_inj {parts others : List String}
    (same : storageChars parts = storageChars others) : parts = others := by
  induction parts generalizing others with
  | nil =>
      cases others with
      | nil => rfl
      | cons other rest => simp [storageChars] at same
  | cons part rest ih =>
      cases others with
      | nil => simp [storageChars] at same
      | cons other otherRest =>
          have free (n : Nat) : ':' ∉ (toString n).toList :=
            fun member => absurd (digits_of_mem member) (by decide)
          have inner := (List.cons.inj same).2
          obtain ⟨lengths, after⟩ := append_separator_inj (free _) (free _) inner
          have sizes : part.utf8ByteSize = other.utf8ByteSize :=
            toString_injective (String.toList_inj.mp lengths)
          obtain ⟨own, tails⟩ := append_inj_of_byteSize sizes after
          rw [own, ih tails]

theorem storageKey_inj {ns other : Namespace} (same : ns.storageKey = other.storageKey) :
    ns = other := by
  have chars := congrArg String.toList same
  rw [storageKey_toList, storageKey_toList, List.append_cancel_left_eq] at chars
  obtain ⟨parts⟩ := ns
  obtain ⟨otherParts⟩ := other
  exact congrArg Namespace.mk (storageChars_inj chars)

theorem warehouseScopedKey_injective {warehouse other : WarehouseName} (made : warehouse.Made)
    (otherMade : other.Made) {id otherId : String}
    (same : warehouseScopedKey warehouse id = warehouseScopedKey other otherId) :
    warehouse = other ∧ id = otherId := by
  have chars := congrArg String.toList same
  have colon : ":".toList = [':'] := rfl
  simp only [warehouseScopedKey, String.toList_append, colon, List.append_assoc,
    List.cons_append, List.nil_append] at chars
  obtain ⟨first, second⟩ := append_separator_inj made.text.colon otherMade.text.colon chars
  cases warehouse
  cases other
  exact ⟨congrArg WarehouseName.mk (String.toList_inj.mp first), String.toList_inj.mp second⟩

section Scopes

variable {warehouse : WarehouseName} {ns : Namespace} {name : TableName} (made : warehouse.Made)
  (nsMade : ns.Made) (nameMade : name.Made)

include made nsMade nameMade

theorem viewKey_inNamespace (otherWarehouse : WarehouseName) (otherNs : Namespace) :
    memoryViewReceiptKeyMatchesNamespace (viewKeyParts warehouse ns name) otherWarehouse otherNs =
      true ↔ warehouse = otherWarehouse ∧ ns = otherNs := by
  rw [memoryViewReceiptKeyMatchesNamespace, splitText_viewKeyParts made nsMade nameMade]
  simp only [Bool.and_eq_true, decide_eq_true_eq]
  constructor
  · rintro ⟨first, second⟩
    cases warehouse
    cases otherWarehouse
    exact ⟨congrArg WarehouseName.mk first, storageKey_inj second⟩
  · rintro ⟨rfl, rfl⟩
    exact ⟨rfl, rfl⟩

theorem viewKey_inWarehouse (otherWarehouse : WarehouseName) :
    viewKeyMatchesWarehouse (viewKeyParts warehouse ns name) otherWarehouse = true ↔
      warehouse = otherWarehouse := by
  rw [viewKeyMatchesWarehouse, splitText_viewKeyParts made nsMade nameMade]
  simp only [decide_eq_true_eq]
  constructor
  · intro same
    cases warehouse
    cases otherWarehouse
    exact congrArg WarehouseName.mk same
  · rintro rfl
    rfl

end Scopes

/-- Equal keys belong to equal identifiers, and each predicate picks the rows of its scope. -/
theorem storageKeys_exact (warehouse other : WarehouseName) (made : warehouse.Made)
    (otherMade : other.Made) :
    (∀ ns otherNs : Namespace, ns.storageKey = otherNs.storageKey ↔ ns = otherNs) ∧
    (∀ ident otherIdent : TableIdent, ident.Made → otherIdent.Made →
      (tableKey ident = tableKey otherIdent ↔ ident = otherIdent)) ∧
    (∀ (ns otherNs : Namespace) (name otherName : TableName), ns.Made → otherNs.Made →
      name.Made → otherName.Made →
      (viewKeyParts warehouse ns name = viewKeyParts other otherNs otherName ↔
          warehouse = other ∧ ns = otherNs ∧ name = otherName) ∧
        (memoryViewReceiptKeyMatchesNamespace (viewKeyParts warehouse ns name) other otherNs =
          true ↔ warehouse = other ∧ ns = otherNs) ∧
        (viewKeyMatchesWarehouse (viewKeyParts warehouse ns name) other = true ↔
          warehouse = other)) ∧
    ∀ key ∈ [storageProfileKey, policyBindingKey, modelPublicationKey], ∀ id otherId : String,
      key warehouse id = key other otherId ↔ warehouse = other ∧ id = otherId := by
  refine ⟨?_, ?_, ?_, ?_⟩
  · intro ns otherNs
    exact ⟨storageKey_inj, fun same => by rw [same]⟩
  · intro ident otherIdent identMade otherIdentMade
    exact ⟨tableKey_injective identMade otherIdentMade, fun same => by rw [same]⟩
  · intro ns otherNs name otherName nsMade otherNsMade nameMade otherNameMade
    refine ⟨⟨viewKeyParts_injective made otherMade nsMade otherNsMade, ?_⟩,
      viewKey_inNamespace made nsMade nameMade other otherNs,
      viewKey_inWarehouse made nsMade nameMade other⟩
    rintro ⟨rfl, rfl, rfl⟩
    rfl
  · intro key member id otherId
    have same : key = warehouseScopedKey := by
      simp only [List.mem_cons, List.not_mem_nil, or_false] at member
      rcases member with rfl | rfl | rfl <;> rfl
    rw [same]
    refine ⟨warehouseScopedKey_injective made otherMade, ?_⟩
    rintro ⟨rfl, rfl⟩
    rfl

theorem storageKeys_exact_main :
    memoryViewReceiptKeyMatchesNamespace
      (viewKeyParts ⟨"main"⟩ ⟨["a", "1.b"]⟩ ⟨"recent"⟩) ⟨"main"⟩ ⟨["a.1", "b"]⟩ = false := by
  have made : WarehouseName.Made ⟨"main"⟩ := ⟨"main", rfl⟩
  have nsMade : Namespace.Made ⟨["a", "1.b"]⟩ := ⟨["a", "1.b"], rfl⟩
  have otherMade : Namespace.Made ⟨["a.1", "b"]⟩ := ⟨["a.1", "b"], rfl⟩
  have nameMade : TableName.Made ⟨"recent"⟩ := ⟨"recent", rfl⟩
  have exactly := (storageKeys_exact ⟨"main"⟩ ⟨"main"⟩ made made).2.2.1 _ _ _ _ nsMade otherMade
    nameMade nameMade
  rw [← Bool.not_eq_true, exactly.2.1]
  decide

end LakeCat
