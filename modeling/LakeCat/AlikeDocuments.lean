import LakeCat.Core
import Mathlib.Data.List.Forall2

/-!
Documents that agree but for some of their texts, and how the ways of building
a document keep two of them alike.
-/

namespace LakeCat

/-- Documents of one shape, where texts in the same place are the same or related. -/
inductive Json.Alike (leaf : String → String → Prop) : Json → Json → Prop where
  | same (value : Json) : Alike leaf value value
  | str {one other : String} (related : leaf one other) : Alike leaf (.str one) (.str other)
  | arr {items others : List Json} (related : List.Forall₂ (Alike leaf) items others) :
      Alike leaf (.arr items) (.arr others)
  | obj {fields others : List (String × Json)}
      (keys : fields.map Prod.fst = others.map Prod.fst)
      (values : List.Forall₂ (Alike leaf) (fields.map Prod.snd) (others.map Prod.snd)) :
      Alike leaf (.obj fields) (.obj others)

/-- The same field of two documents. -/
structure FieldAlike (leaf : String → String → Prop) (field other : String × Json) : Prop where
  key : field.1 = other.1
  value : Json.Alike leaf field.2 other.2

namespace Json.Alike

variable {leaf : String → String → Prop}

theorem fieldAlike {key : String} {value other : Json} (alike : Json.Alike leaf value other) :
    FieldAlike leaf (key, value) (key, other) :=
  ⟨rfl, alike⟩

theorem forall₂_fields {fields others : List (String × Json)} :
    List.Forall₂ (FieldAlike leaf) fields others ↔
      fields.map Prod.fst = others.map Prod.fst ∧
        List.Forall₂ (Json.Alike leaf) (fields.map Prod.snd) (others.map Prod.snd) := by
  constructor
  · intro alike
    induction alike with
    | nil => exact ⟨rfl, .nil⟩
    | cons first _ ih =>
        refine ⟨?_, .cons first.value ih.2⟩
        rw [List.map_cons, List.map_cons, first.key, ih.1]
  · rintro ⟨keys, values⟩
    induction fields generalizing others with
    | nil =>
        cases others with
        | nil => exact .nil
        | cons => cases values
    | cons field fields ih =>
        cases others with
        | nil => cases values
        | cons other others =>
            rw [List.map_cons, List.map_cons, List.cons.injEq] at keys
            cases values with
            | cons first rest => exact .cons ⟨keys.1, first⟩ (ih keys.2 rest)

theorem fields {fields others : List (String × Json)}
    (alike : List.Forall₂ (FieldAlike leaf) fields others) :
    Json.Alike leaf (.obj fields) (.obj others) :=
  .obj (forall₂_fields.mp alike).1 (forall₂_fields.mp alike).2

theorem forall₂_same (items : List Json) : List.Forall₂ (Json.Alike leaf) items items :=
  List.forall₂_same.mpr fun item _ => .same item

theorem fields_same (fields : List (String × Json)) :
    List.Forall₂ (FieldAlike leaf) fields fields :=
  List.forall₂_same.mpr fun _ _ => ⟨rfl, .same _⟩

theorem insertField {fields others : List (String × Json)} (key : String) {value other : Json}
    (alike : List.Forall₂ (FieldAlike leaf) fields others) (written : Json.Alike leaf value other) :
    List.Forall₂ (FieldAlike leaf) (Json.insertField key value fields)
      (Json.insertField key other others) := by
  induction alike with
  | nil => exact .cons written.fieldAlike .nil
  | @cons field twin rest others first alike ih =>
      obtain ⟨name, stored⟩ := field
      obtain ⟨twinName, twinStored⟩ := twin
      obtain rfl : name = twinName := first.key
      rw [Json.insertField, Json.insertField]
      split
      · exact .cons written.fieldAlike alike
      · split
        · exact .cons written.fieldAlike (.cons first alike)
        · exact .cons first ih

/-- Two documents filled with alike fields in the same order. -/
theorem object {fields others : List (String × Json)}
    (alike : List.Forall₂ (FieldAlike leaf) fields others) :
    Json.Alike leaf (.object fields) (.object others) := by
  have filled {start twin : List (String × Json)}
      (begun : List.Forall₂ (FieldAlike leaf) start twin) :
      List.Forall₂ (FieldAlike leaf)
        (fields.foldl (fun map field => Json.insertField field.1 field.2 map) start)
        (others.foldl (fun map field => Json.insertField field.1 field.2 map) twin) := by
    induction alike generalizing start twin with
    | nil => exact begun
    | cons first _ ih =>
        rw [List.foldl_cons, List.foldl_cons, first.key]
        exact ih (insertField _ begun first.value)
  exact .fields (filled .nil)

theorem set {value other entry twin : Json} (key : String) (alike : Json.Alike leaf value other)
    (written : Json.Alike leaf entry twin) :
    Json.Alike leaf (value.set key entry) (other.set key twin) := by
  cases alike with
  | same =>
      cases value with
      | obj own => exact .fields (insertField key (fields_same own) written)
      | null => exact .fields (.cons written.fieldAlike .nil)
      | bool | int | float | str | arr => exact .same _
  | str related => exact .str related
  | arr related => exact .arr related
  | obj keys values => exact .fields (insertField key (forall₂_fields.mpr ⟨keys, values⟩) written)

theorem mono {wider : String → String → Prop} {value other : Json}
    (within : ∀ one twin, leaf one twin → wider one twin) (alike : Json.Alike leaf value other) :
    Json.Alike wider value other := by
  induction alike using Json.Alike.rec
    (motive_2 := fun items others _ => List.Forall₂ (Json.Alike wider) items others) with
  | same value => exact .same value
  | str related => exact .str (within _ _ related)
  | arr _ ih => exact .arr ih
  | obj keys _ ih => exact .obj keys ih
  | nil => exact .nil
  | cons _ _ first rest => exact .cons first rest

theorem ofOption {α : Type} {encode : α → Json} {value other : Option α}
    (alike : Option.Rel (fun one twin => Json.Alike leaf (encode one) (encode twin)) value other) :
    Json.Alike leaf (Json.ofOption encode value) (Json.ofOption encode other) := by
  cases alike with
  | some related => exact related
  | none => exact .same _

theorem presentField {α : Type} {encode : α → Json} {value other : Option α} (key : String)
    (alike : Option.Rel (fun one twin => Json.Alike leaf (encode one) (encode twin)) value other) :
    List.Forall₂ (FieldAlike leaf) (Json.presentField key encode value)
      (Json.presentField key encode other) := by
  cases alike with
  | some related => exact .cons related.fieldAlike .nil
  | none => exact .nil

end Json.Alike

end LakeCat
