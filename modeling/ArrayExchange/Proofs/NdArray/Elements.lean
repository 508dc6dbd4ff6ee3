import ArrayExchange.Proofs.Element.Representation
import ArrayExchange.Proofs.Json.Exact
import ArrayExchange.Proofs.NdArray.Conversion

/-!
# What a new array holds

An array is built from items: the elements of a numeric type or the JSON values that its source has.
Each element of the new array is one of these items, converted by way of a 64-bit number, and nothing
else.  An item that has the type already is kept as it is; the conversion would change no more than which
of the NaNs it is.

* `Item`, `Source.items` — what a source has.
* `Item.convert`, `Item.exact` — an item as an element of a numeric type, and the number it stands for.
* `NdArray.fromSource_items`, `NdArray.fromValues_items` — a new numeric array holds its items.
-/

namespace ArrayExchange

/-! ### Items -/

/-- What an element of a new array is made of. -/
inductive Item where
  /-- An element of a numeric type. -/
  | element (type : ElementType) (x : type.Value)
  | json (value : Json)

namespace Item

/-- An item as an element of a numeric type. -/
def convert (t : ElementType) : Item → t.Value
  | element s x => t.ofBinary (s.toBinary x)
  | json v => t.ofJson v

/-- The number that an item stands for, before any rounding. -/
def exact : Item → ExactNumber
  | element s x => s.exact x
  | json v => v.exact

end Item

/-- The items of a source.  Raw bytes are elements of the type asked for. -/
def Source.items (t : ElementType) (store : Store) : Source → List Item
  | buffer block => (t.decode (store.bytes block)).map (.element t)
  | values items => items.map .json
  | elements s xs => xs.map (.element s)
  | array a =>
    match a.contents with
    | .numeric s block => (s.decode (store.bytes block)).map (.element s)
    | .object items => items.map .json

/-- The elements `ys` are the items, converted to type `t`. -/
def Item.Become (t : ElementType) (items : List Item) (ys : List t.Value) : Prop :=
  List.Forall₂ (fun item y => t.Alike (item.convert t) y) items ys

namespace Item

variable {s t : ElementType}

/-- Elements that have the type already are kept. -/
theorem become_kept (xs : List t.Value) : Become t (xs.map (.element t)) xs := by
  rw [Become, List.forall₂_map_left_iff, List.forall₂_same]
  intro x _
  exact (t.alike_ofBinary_toBinary x).symm

theorem become_map {α : Type} (xs : List α) (item : α → Item) (y : α → t.Value)
    (h : ∀ x, (item x).convert t = y x) : Become t (xs.map item) (xs.map y) := by
  rw [Become, List.forall₂_map_left_iff, List.forall₂_map_right_iff, List.forall₂_same]
  intro x _
  rw [h x]
  exact .refl _

/-- Typed elements, kept or converted. -/
theorem become_encodeAs (t s : ElementType) (xs : List s.Value) :
    Become t (xs.map (.element s)) (t.decode (t.encodeAs s xs)) := by
  by_cases hs : s = t
  · subst hs
    rw [ElementType.encodeAs, if_pos rfl, s.decode_encode]
    exact become_kept xs
  · rw [ElementType.encodeAs, if_neg hs, t.decode_encode]
    exact become_map xs _ _ fun _ => rfl

theorem become_encodeValues (t : ElementType) (values : List Json) :
    Become t (values.map .json) (t.decode (t.encodeValues values)) := by
  rw [ElementType.encodeValues, t.decode_encode]
  exact become_map values _ _ fun _ => rfl

/-- The numbers of the elements that a list of items becomes. -/
theorem Become.exacts {items : List Item} {ys : List t.Value} (h : Become t items ys) :
    ys.map t.exact = items.map fun item => t.exact (item.convert t) :=
  map_eq_of_forall₂ h fun _ _ halike => (ElementType.exact_of_alike halike).symm

end Item

/-! ### New arrays -/

/-- **What a source yields** are its items, converted. -/
theorem Source.backing_items {t : ElementType} {source : Source} {copy : Bool} {store : Store}
    {backing : Backing} (h : source.backing (.numeric t) copy store = .ok backing) :
    ∃ bytes, backing.bytes? store = some bytes ∧
      Item.Become t (source.items t store) (t.decode bytes) := by
  cases source with
  | buffer block =>
      simp only [Source.backing, numericBacking] at h
      split at h
      · cases h
        exact ⟨_, blockBacking_bytes? t copy store block, Item.become_kept _⟩
      · cases h
  | values items =>
      cases h
      exact ⟨_, rfl, Item.become_encodeValues t items⟩
  | elements s xs =>
      cases h
      exact ⟨_, rfl, Item.become_encodeAs t s xs⟩
  | array a =>
      obtain ⟨shape, contents⟩ := a
      cases contents with
      | object items =>
          cases h
          exact ⟨_, rfl, Item.become_encodeValues t items⟩
      | numeric s block =>
          simp only [Source.backing, numericBacking] at h
          by_cases hs : s = t
          · subst hs
            rw [if_pos rfl] at h
            cases h
            exact ⟨_, blockBacking_bytes? s copy store block, Item.become_kept _⟩
          · rw [if_neg hs] at h
            cases h
            exact ⟨_, rfl, Item.become_encodeAs t s _⟩

/-- Everything but raw bytes yields elements of every type. -/
theorem Source.exists_backing {source : Source} (h : ∀ block, source ≠ .buffer block) (dtype : DType)
    (copy : Bool) (store : Store) : ∃ backing, source.backing dtype copy store = .ok backing := by
  cases source with
  | buffer block => exact absurd rfl (h block)
  | values | elements => cases dtype <;> exact ⟨_, rfl⟩
  | array a =>
      obtain ⟨shape, contents⟩ := a
      cases dtype with
      | object => exact ⟨_, rfl⟩
      | numeric t =>
          cases contents with
          | object items => exact ⟨_, rfl⟩
          | numeric s block =>
              by_cases hs : s = t
              · exact ⟨_, if_pos hs⟩
              · exact ⟨_, if_neg hs⟩

namespace NdArray

variable {t : ElementType} {store : Store} {a : NdArray} {bytes : Bytes}

/-- A lenient construction succeeds unless it is from raw bytes. -/
theorem fromSource_lenient_ok {source : Source} (h : ∀ block, source ≠ .buffer block) (dtype : DType)
    (options : BuildOptions) (store : Store) :
    ∃ made, (fromSource dtype source { options with validateShape := false } store).result =
      .ok made := by
  obtain ⟨backing, hb⟩ := Source.exists_backing h dtype options.copy store
  exact ⟨_, congrArg Logged.result (fromSource_lenient hb)⟩

theorem toList_of_bytes? (ht : a.dtype = .numeric t) (hbytes : a.bytes? store = some bytes) :
    a.toList t store = .ok (t.decode bytes) := by
  obtain ⟨shape, contents⟩ := a
  cases contents with
  | object values => cases ht
  | numeric s block =>
      cases ht
      cases hbytes
      exact toList_eq_ok_iff.mpr ⟨block, rfl, rfl⟩

/-- **A new numeric array holds the items of its source**, converted to its type. -/
theorem fromSource_items {source : Source} {options : BuildOptions} {made : NdArray × Store}
    (h : (fromSource (.numeric t) source options store).result = .ok made) :
    ∃ ys, made.1.toList t made.2 = .ok ys ∧ Item.Become t (source.items t store) ys := by
  have hdtype := (fromSource_ok h).1
  obtain ⟨backing, shape, hb, rfl⟩ := fromSource_eq h
  obtain ⟨bytes, hbytes, hitems⟩ := Source.backing_items hb
  refine ⟨t.decode bytes, toList_of_bytes? hdtype ?_, hitems⟩
  exact (backing.toArray_bytes? shape store).trans hbytes

/-- A new array of numeric type holds the JSON values that it was made of, converted to its type. -/
theorem fromValues_items (t : ElementType) (values : List Json) (shape : Option Shape) (store : Store) :
    let made := (fromValues (.numeric t) values shape store).result
    ∃ ys, made.1.toList t made.2 = .ok ys ∧ Item.Become t (values.map .json) ys := by
  intro made
  refine ⟨_, toList_of_bytes? rfl ?_, Item.become_encodeValues t values⟩
  exact Backing.toArray_bytes? (.fresh t _) _ store

end NdArray

end ArrayExchange
