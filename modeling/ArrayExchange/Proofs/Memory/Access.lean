import ArrayExchange.Proofs.Bytes.Pieces
import ArrayExchange.Proofs.Memory.Placement

/-!
# Access to whole arrays

Elements are read from, and written to, pieces of the memory of an array.  For an array whose memory
holds complete elements all of these pieces are complete and lie within the memory: reading leaves
no byte out, and a write that is let through is carried out.

* `NdArray.toList_eq_ok_iff` — which elements are read.
* `NdArray.set_ok` — what a successful write has found and done.
* `NdArray.Whole.set_fits` — the bytes of an element lie within the memory.
* `NdArray.length_toValues`, `NdArray.length_scalars` — every element is listed.
-/

namespace ArrayExchange

namespace NdArray

variable {store store' : Store} {a : NdArray} {t : ElementType} {block : BlockId} {xs : List t.Value}

/-! ### Typed access -/

theorem block?_of_numeric (h : a.contents = .numeric t block) : a.block? = some block := by
  unfold block?
  rw [h]

/-- An array of type `t` has memory. -/
theorem exists_block (h : a.dtype = .numeric t) : ∃ block, a.contents = .numeric t block := by
  obtain ⟨shape, contents⟩ := a
  cases contents with
  | numeric type block =>
      cases h
      exact ⟨block, rfl⟩
  | object values => cases h

theorem count_of_numeric (h : a.contents = .numeric t block) (store : Store) :
    a.count store = (store.bytes block).length / t.width := by
  unfold count
  rw [h]

/-- Typed access finds the memory of an array of just this type. -/
theorem typedBlock_eq_ok_iff : a.typedBlock t = .ok block ↔ a.contents = .numeric t block := by
  unfold typedBlock
  cases a.contents with
  | object values => simp
  | numeric type b =>
      by_cases h : type = t
      · subst h
        simp
      · simp [h]

/-- Typed access fails for arrays of another type, and for no other reason. -/
theorem typedBlock_error {error : ArrayError} (h : a.typedBlock t = .error error) :
    error = .wrongElementType a.dtype t ∧ a.dtype ≠ .numeric t := by
  unfold typedBlock at h
  cases e : a.contents with
  | object values =>
      simp only [e] at h
      cases h
      exact ⟨rfl, by simp [dtype, e]⟩
  | numeric type b =>
      simp only [e] at h
      by_cases ht : type = t
      · rw [if_pos ht] at h
        cases h
      · rw [if_neg ht] at h
        cases h
        exact ⟨rfl, by simp [dtype, e, ht]⟩

/-- The elements of an array of just this type are read from its memory. -/
theorem toList_eq_ok_iff : a.toList t store = .ok xs ↔
    ∃ block, a.contents = .numeric t block ∧ t.decode (store.bytes block) = xs := by
  unfold toList
  constructor
  · intro h
    cases hblock : a.typedBlock t with
    | error error =>
        rw [hblock] at h
        cases h
    | ok block =>
        rw [hblock] at h
        exact ⟨block, typedBlock_eq_ok_iff.mp hblock, Except.ok.inj h⟩
  · rintro ⟨block, hcontents, rfl⟩
    rw [typedBlock_eq_ok_iff.mpr hcontents]
    rfl

theorem length_of_toList (h : a.toList t store = .ok xs) : xs.length = a.count store := by
  obtain ⟨block, hcontents, rfl⟩ := toList_eq_ok_iff.mp h
  rw [t.length_decode, count_of_numeric hcontents]

/-- An array of type `t` has its elements. -/
theorem exists_toList (h : a.dtype = .numeric t) (store : Store) :
    ∃ xs, a.toList t store = .ok xs := by
  obtain ⟨block, hblock⟩ := exists_block h
  exact ⟨_, toList_eq_ok_iff.mpr ⟨block, hblock, rfl⟩⟩

theorem dtype_of_toList (h : a.toList t store = .ok xs) : a.dtype = .numeric t := by
  obtain ⟨block, hcontents, -⟩ := toList_eq_ok_iff.mp h
  unfold dtype
  rw [hcontents]

theorem ne_object_of_toList (h : a.toList t store = .ok xs) : a.dtype ≠ .object := by
  rw [dtype_of_toList h]
  nofun

/-- The elements of an array are where they were after other arrays were made. -/
theorem toList_extends (hw : a.Whole store) (h : store.Extends store') (hxs : a.toList t store = .ok xs) :
    a.toList t store' = .ok xs := by
  obtain ⟨block, hcontents, rfl⟩ := toList_eq_ok_iff.mp hxs
  refine toList_eq_ok_iff.mpr ⟨block, hcontents, ?_⟩
  rw [h.bytes block (hw t block hcontents).1]

theorem set_ok {index : Nat} {x : t.Value} (h : a.set t store index x = .ok store') :
    ∃ block, a.contents = .numeric t block ∧ index < a.count store ∧
      store' = store.write block (index * t.width) (t.write x) := by
  unfold set at h
  cases e : a.typedBlock t with
  | error error => rw [e] at h; cases h
  | ok block =>
      rw [e] at h
      simp only [bind, Except.bind] at h
      split at h
      · next hlt =>
          cases h
          exact ⟨block, typedBlock_eq_ok_iff.mp e, hlt, rfl⟩
      · cases h

/-! ### Pieces of whole memory -/

/-- **The bytes of every element lie within the memory.** -/
theorem Whole.set_fits (h : a.Whole store) (e : a.contents = .numeric t block) {index : Nat}
    (hlt : index < a.count store) :
    index * t.width + t.width ≤ (store.bytes block).length := by
  rw [(h t block e).2, ← Nat.succ_mul]
  exact Nat.mul_le_mul_right _ hlt

/-- A write that is let through replaces the bytes of one element. -/
theorem Whole.write_eq (h : a.Whole store) (e : a.contents = .numeric t block) {index : Nat}
    (hlt : index < a.count store) (x : t.Value) :
    store.write block (index * t.width) (t.write x) =
      store.replace block ((store.bytes block).take (index * t.width) ++ t.write x ++
        (store.bytes block).drop (index * t.width + t.width)) := by
  have hlen : (t.write x).length = t.width := t.length_write x
  unfold Store.write
  rw [Store.patch_of_le (by rw [hlen]; exact h.set_fits e hlt), hlen]

/-! ### Lists of all elements -/

theorem length_toValues (store : Store) (a : NdArray) :
    (a.toValues store).length = a.count store := by
  unfold toValues count
  cases a.contents with
  | object values => rfl
  | numeric type block => simp only [List.length_map, ElementType.length_decode]

theorem length_scalars (store : Store) (a : NdArray) :
    (a.scalars store).length = a.count store := by
  unfold scalars count
  cases a.contents with
  | object values => simp only [List.length_map]
  | numeric type block => simp only [List.length_map, ElementType.length_decode]

theorem scalars_of_toList (h : a.toList t store = .ok xs) : a.scalars store = xs.map t.toScalar := by
  obtain ⟨block, hcontents, rfl⟩ := toList_eq_ok_iff.mp h
  unfold scalars
  rw [hcontents]

theorem toValues_of_toList (h : a.toList t store = .ok xs) : a.toValues store = xs.map t.toJson := by
  obtain ⟨block, hcontents, rfl⟩ := toList_eq_ok_iff.mp h
  unfold toValues
  rw [hcontents]

end NdArray

end ArrayExchange
