import ArrayExchange.Proofs.NdArray.Elements
import ArrayExchange.Proofs.NdArray.Transitivity

/-!
# Arrays that are converted

An array that is built from another one keeps its shape and has an element for each of its elements.  What
is left of the numbers can be told by comparing the two arrays.

An array of JSON values equals the numeric array that it was made of, exactly and up to every tolerance.
Converted back it holds the same elements, only that a NaN may have become another one.

A numeric array equals the numeric array that it was made of just when its type represents all the numbers
of that one.  Converted back it then holds the same numbers.  So nothing is lost by a conversion that
equality does not see, and by way of 64-bit floats nothing is lost at all.

* `NdArray.recast` — an array that is built from another one.
* `NdArray.recast_elements` — the elements of a converted array.
* `NdArray.numbers_recast_iff` — when its numbers are those of the array that it was made of.
* `NdArray.equals_object_copy` — arrays of JSON values equal what they were made of.
* `NdArray.object_copy_faithful` — an array made into JSON values, and back.
* `NdArray.recast_lossless_iff` — an array made into one of another numeric type, and back.
-/

namespace ArrayExchange

/-! ### Elements and their JSON values -/

/-- A number means the same behind its JSON value. -/
theorem Json.meaning_ofBinary (x : Binary64) : (Json.ofBinary x).meaning = .inl x.exact := by
  unfold Json.ofBinary
  split
  · rfl
  · next hfin =>
      simp only [Json.meaning]
      rw [nonFinite?_nonFiniteText hfin]
      exact congrArg Sum.inl x.exact_quiet

/-- **An element agrees with its JSON value.** -/
theorem ElementType.toJson_agrees (s : ElementType) (x : s.Value) :
    (Scalar.json (s.toJson x)).agrees sameNumber (s.toScalar x) = true := by
  cases s with
  | bool => exact (Scalar.json_agrees_bool_iff _ _).mpr rfl
  | integer k => exact (Scalar.json_agrees_number_iff _ _).mpr rfl
  | float f => exact (Scalar.json_agrees_number_iff _ _).mpr (Json.meaning_ofBinary _)

namespace NdArray

variable {s t : ElementType} {dtype : DType} {a b : NdArray} {xs : List s.Value}
  {options : BuildOptions} {store store' : Store} {made back : NdArray × Store}

/-! ### Numbers of an array -/

theorem numbers_of_toList (h : a.toList s store = .ok xs) : a.numbers store = xs.map s.exact := by
  obtain ⟨block, hcontents, rfl⟩ := toList_eq_ok_iff.mp h
  unfold numbers
  rw [hcontents]

/-- A numeric array equals one that was there before, when it has the same shape and the same numbers. -/
theorem equals_iff_numbers_extends (hw : a.Whole store) (hxs : a.toList s store = .ok xs)
    (h : store.Extends store') (hb : b.dtype ≠ .object) :
    b.equals .structural store' a = true ↔
      b.shape = a.shape ∧ b.numbers store' = a.numbers store := by
  have hkept := toList_extends hw h hxs
  rw [equals_iff_numbers hb (ne_object_of_toList hxs), numbers_of_toList hkept, numbers_of_toList hxs]

/-! ### Conversion -/

/-- An array that is built from another one, of any type.  It gets the shape of that one, whatever shape is
in the options. -/
def recast (dtype : DType) (a : NdArray) (options : BuildOptions) (store : Store) :
    Except ArrayError (NdArray × Store) :=
  (fromSource dtype (.array a) { options with shape := none } store).result

/-- A conversion without a check of the shape succeeds. -/
theorem recast_lenient (dtype : DType) (a : NdArray) (options : BuildOptions) (store : Store) :
    ∃ made, a.recast dtype { options with validateShape := false } store = .ok made := by
  have hsource : ∀ block, Source.array a ≠ .buffer block := nofun
  exact fromSource_lenient_ok hsource dtype { options with shape := none } store

/-- A converted array has the type asked for and the shape that the other array has, and it leaves what is
in memory as it is. -/
theorem recast_ok (h : a.recast dtype options store = .ok made) :
    made.1.dtype = dtype ∧ made.1.shape = a.shape ∧ store.Extends made.2 ∧
      (a.Whole store → made.1.Whole made.2) := by
  obtain ⟨hdtype, hplaced, hwhole⟩ := fromSource_ok h
  obtain ⟨backing, -, hmade⟩ := fromSource_settled h
  refine ⟨hdtype, ?_, hplaced.extends, hwhole⟩
  rw [hmade]
  rfl

/-- A conversion to JSON values takes no memory. -/
theorem recast_object (h : a.recast .object options store = .ok made) :
    made = (⟨a.shape, .object (a.toValues store)⟩, store) := by
  obtain ⟨backing, hbacking, rfl⟩ := fromSource_settled h
  cases hbacking
  rfl

/-- A converted array of numeric type holds the elements, converted one by one. -/
theorem recast_elements (hxs : a.toList s store = .ok xs)
    (h : a.recast (.numeric t) options store = .ok made) :
    ∃ ys, made.1.toList t made.2 = .ok ys ∧ Item.Become t (xs.map (.element s)) ys := by
  obtain ⟨block, hcontents, rfl⟩ := toList_eq_ok_iff.mp hxs
  obtain ⟨ys, hys, hitems⟩ := fromSource_items h
  simp only [Source.items, hcontents] at hitems
  exact ⟨ys, hys, hitems⟩

/-! ### To JSON values and back -/

/-- **An array of JSON values equals** the numeric array that they were made of. -/
theorem equals_object_copy (hxs : a.toList s store = .ok xs) :
    (NdArray.mk a.shape (.object (a.toValues store))).equals .structural store a = true := by
  rw [equals_structural_iff, sameContents_iff_forall₂, scalars_of_toList hxs, toValues_of_toList hxs]
  refine ⟨rfl, ?_⟩
  show List.Forall₂ _ ((xs.map s.toJson).map Scalar.json) (xs.map s.toScalar)
  rw [List.forall₂_map_left_iff, List.forall₂_map_left_iff, List.forall₂_map_right_iff,
    List.forall₂_same]
  exact fun x _ => s.toJson_agrees x

/-- Elements that were JSON values in between are the same, up to their NaNs. -/
theorem alike_of_become_toJson {ys : List s.Value}
    (h : Item.Become s ((xs.map s.toJson).map .json) ys) : List.Forall₂ s.Alike xs ys := by
  rw [Item.Become, List.forall₂_map_left_iff, List.forall₂_map_left_iff] at h
  apply h.imp
  intro x y hy
  have hdirect : s.Alike x (s.ofBinary (s.toBinary x)) := s.alike_ofBinary_toBinary x
  have hjson : s.Alike (s.ofJson (s.toJson x)) (s.ofBinary (s.toBinary x)) := s.alike_ofJson_toJson s x
  exact (hdirect.trans hjson.symm).trans hy

/-- **An array is found again behind its JSON values.**  A numeric array whose memory is there can be
made into an array of JSON values, which has its shape and as many elements.  The two are equal, in
either order, exactly and up to every tolerance.  The JSON values can be made into elements of the first
type again.  This gives an array that equals the first one and has the same elements, one NaN being as
good as another. -/
theorem object_copy_faithful (s : ElementType) (a : NdArray) (xs : List s.Value) (store : Store)
    (hxs : a.toList s store = .ok xs) (hw : a.Whole store) :
    (∀ options : BuildOptions, ∃ made,
      a.recast .object { options with validateShape := false } store = .ok made) ∧
    ∀ options made, a.recast .object options store = .ok made →
      made.1.dtype = .object ∧ made.1.shape = a.shape ∧ made.1.count made.2 = a.count made.2 ∧
      (made.1.equals .structural made.2 a = true ∧ a.equals .structural made.2 made.1 = true) ∧
      (∀ t : Tolerance, made.1.equals (.approximate t) made.2 a = true ∧
        a.equals (.approximate t) made.2 made.1 = true) ∧
      (∀ options' : BuildOptions, ∃ back,
        made.1.recast (.numeric s) { options' with validateShape := false } made.2 = .ok back) ∧
      ∀ options' back, made.1.recast (.numeric s) options' made.2 = .ok back →
        back.1.dtype = .numeric s ∧ back.1.equals .structural back.2 a = true ∧
        a.toList s back.2 = .ok xs ∧
        ∃ ys, back.1.toList s back.2 = .ok ys ∧ List.Forall₂ s.Alike xs ys := by
  refine ⟨fun options => a.recast_lenient _ options store, ?_⟩
  intro options made h
  obtain rfl := recast_object h
  have hequal := equals_object_copy hxs
  have hmirrored := (equals_structural_comm store _ _).trans hequal
  refine ⟨rfl, rfl, a.length_toValues store, ⟨hequal, hmirrored⟩, ?_, ?_, ?_⟩
  · intro t
    exact ⟨equals_approximate_of_structural t hequal, equals_approximate_of_structural t hmirrored⟩
  · exact fun options' => recast_lenient _ _ options' store
  · intro options' back hback
    obtain ⟨hdtype, hshape, hextends, -⟩ := recast_ok hback
    obtain ⟨ys, hys, hitems⟩ := fromSource_items hback
    have halike : List.Forall₂ s.Alike xs ys := by
      apply alike_of_become_toJson
      rw [← toValues_of_toList hxs]
      exact hitems
    refine ⟨hdtype, ?_, toList_extends hw hextends hxs, ys, hys, halike⟩
    rw [equals_iff_numbers_extends hw hxs hextends (ne_object_of_toList hys), numbers_of_toList hys,
      numbers_of_toList hxs]
    exact ⟨hshape, ElementType.exacts_of_alike halike⟩

/-- A NaN with a sign and a payload, the negative zero and an infinity, and a truth value that is stored in
an uncommon way, become JSON values and are found again. -/
theorem object_copy_faithful_specials :
    let double := ElementType.float .double
    let specials : List double.Value :=
      [Binary.ofBits .double 0xfff8000000000001, Binary.zero true, Binary.infinity false]
    let store : Store := ⟨[[1, 0, 0, 0, 0, 0, 0xf8, 0xff, 0, 0, 0, 0, 0, 0, 0, 0x80,
      0, 0, 0, 0, 0, 0, 0xf0, 0x7f], [0, 2]]⟩
    let floats := NdArray.mk [3] (.numeric double ⟨0⟩)
    let flags := NdArray.mk [2] (.numeric .bool ⟨1⟩)
    (∃ made back, floats.recast .object {} store = .ok made ∧
      made.1.equals .structural made.2 floats = true ∧
      made.1.recast (.numeric double) {} made.2 = .ok back ∧
      ∃ ys, back.1.toList double back.2 = .ok ys ∧ List.Forall₂ double.Alike specials ys) ∧
    ∃ made, flags.recast .object {} store = .ok made ∧
      made.1.equals .structural made.2 flags = true ∧
      made.1.toValues made.2 = [.bool false, .bool true] := by
  intro double specials store floats flags
  have hfloats : floats.toList double store = .ok specials := by cbv
  have hflags : flags.toList .bool store = .ok [false, true] := by cbv
  have hwhole : floats.Whole store := whole_of_dvd (Nat.zero_lt_succ 1) (by decide)
  have hwhole' : flags.Whole store := whole_of_dvd (Nat.lt_add_one 1) (by decide)
  obtain ⟨hmake, hmade⟩ := object_copy_faithful double floats specials store hfloats hwhole
  obtain ⟨hmake', hmade'⟩ := object_copy_faithful .bool flags _ store hflags hwhole'
  obtain ⟨made, h⟩ := hmake {}
  obtain ⟨made', h'⟩ := hmake' {}
  obtain ⟨-, -, -, hequal, -, hreturn, hback⟩ := hmade {} made h
  obtain ⟨-, -, -, hequal', -⟩ := hmade' {} made' h'
  obtain ⟨back, hreturned⟩ := hreturn {}
  obtain ⟨-, -, -, hsame⟩ := hback {} back hreturned
  refine ⟨⟨made, back, h, hequal.1, hreturned, hsame⟩, made', h', hequal'.1, ?_⟩
  obtain rfl := recast_object h'
  exact toValues_of_toList hflags

/-! ### To another numeric type and back -/

/-- **The numbers of a converted array** are those of the other one just when its type represents them. -/
theorem numbers_recast_iff (hxs : a.toList s store = .ok xs)
    (h : a.recast (.numeric t) options store = .ok made) :
    made.1.numbers made.2 = a.numbers store ↔ ∀ x ∈ xs, t.Represents (s.exact x) := by
  obtain ⟨ys, hys, hitems⟩ := recast_elements hxs h
  rw [numbers_of_toList hys, numbers_of_toList hxs, hitems.exacts, List.map_map, List.map_inj_left]
  exact forall₂_congr fun x _ => ElementType.exact_ofBinary_iff t x

/-- Where a conversion keeps the numbers, the way back finds them again. -/
theorem numbers_recast_back (hxs : a.toList s store = .ok xs)
    (h : a.recast (.numeric t) options store = .ok made)
    (hkept : made.1.numbers made.2 = a.numbers store) {options' : BuildOptions}
    (hback : made.1.recast (.numeric s) options' made.2 = .ok back) :
    back.1.numbers back.2 = a.numbers store := by
  obtain ⟨ys, hys, -⟩ := recast_elements hxs h
  rw [← hkept, numbers_recast_iff hys hback]
  intro y hy
  -- a number of the converted array is one of the array that it was made of
  have hnumber : t.exact y ∈ xs.map s.exact := by
    rw [← numbers_of_toList hxs, ← hkept, numbers_of_toList hys]
    exact List.mem_map_of_mem hy
  obtain ⟨x, -, hx⟩ := List.mem_map.mp hnumber
  exact ⟨x, hx⟩

/-- **A conversion between numeric types loses a number only if there is no element for it.**  A numeric
array whose memory is there can be converted to every numeric type.  It then equals the converted one
just when the other type represents the numbers of all its elements, as 64-bit floats always do.  If so,
the way back leads to an array that equals the first one. -/
theorem recast_lossless_iff (s t : ElementType) (a : NdArray) (xs : List s.Value) (store : Store)
    (hxs : a.toList s store = .ok xs) (hw : a.Whole store) :
    (∀ options : BuildOptions, ∃ made,
      a.recast (.numeric t) { options with validateShape := false } store = .ok made) ∧
    ∀ options made, a.recast (.numeric t) options store = .ok made →
      (made.1.equals .structural made.2 a = true ↔ ∀ x ∈ xs, t.Represents (s.exact x)) ∧
      (t = .float .double → made.1.equals .structural made.2 a = true) ∧
      (∀ options' : BuildOptions, ∃ back,
        made.1.recast (.numeric s) { options' with validateShape := false } made.2 = .ok back) ∧
      ∀ options' back, made.1.recast (.numeric s) options' made.2 = .ok back →
        made.1.equals .structural made.2 a = true → back.1.equals .structural back.2 a = true := by
  refine ⟨fun options => a.recast_lenient _ options store, ?_⟩
  intro options made h
  obtain ⟨-, hshape, hextends, -⟩ := recast_ok h
  obtain ⟨ys, hys, -⟩ := recast_elements hxs h
  have hequal : made.1.equals .structural made.2 a = true ↔ made.1.numbers made.2 = a.numbers store := by
    rw [equals_iff_numbers_extends hw hxs hextends (ne_object_of_toList hys)]
    exact and_iff_right hshape
  have hlossless := hequal.trans (numbers_recast_iff hxs h)
  refine ⟨hlossless, ?_, fun options' => recast_lenient _ _ options' made.2, ?_⟩
  · rintro rfl
    exact hlossless.mpr fun x _ => s.double_represents x
  · intro options' back hback hmade
    obtain ⟨-, hshape', hextends', -⟩ := recast_ok hback
    obtain ⟨zs, hzs, -⟩ := recast_elements hys hback
    rw [equals_iff_numbers_extends hw hxs (hextends.trans hextends') (ne_object_of_toList hzs)]
    exact ⟨hshape'.trans hshape, numbers_recast_back hxs h (hequal.mp hmade) hback⟩

/-- The integer `2 ^ 24` is a 32-bit float, so it is converted without loss.  The next integer is converted
with loss, so it is none. -/
theorem recast_lossless_iff_single :
    let int32 := ElementType.integer .int32
    let single := ElementType.float .single
    let short : List (IntegerType.Value .int32) := [⟨0x1000000, by decide⟩]
    let long : List (IntegerType.Value .int32) := [⟨0x1000001, by decide⟩]
    let store : Store := ⟨[[0, 0, 0, 1], [1, 0, 0, 1]]⟩
    let shorts := NdArray.mk [1] (.numeric int32 ⟨0⟩)
    let longs := NdArray.mk [1] (.numeric int32 ⟨1⟩)
    (∀ x ∈ short, single.Represents (int32.exact x)) ∧
    (∃ made back, shorts.recast (.numeric single) {} store = .ok made ∧
      made.1.equals .structural made.2 shorts = true ∧
      made.1.recast (.numeric int32) {} made.2 = .ok back ∧
      back.1.equals .structural back.2 shorts = true) ∧
    (∃ made, longs.recast (.numeric single) {} store = .ok made ∧
      made.1.equals .structural made.2 longs = false) ∧
    ¬ ∀ x ∈ long, single.Represents (int32.exact x) := by
  intro int32 single short long store shorts longs
  have hshort : shorts.toList int32 store = .ok short := by cbv
  have hlong : longs.toList int32 store = .ok long := by cbv
  have hwhole : shorts.Whole store := whole_of_dvd (Nat.zero_lt_succ 1) (by decide)
  have hwhole' : longs.Whole store := whole_of_dvd (Nat.lt_add_one 1) (by decide)
  obtain ⟨hmake, hmade⟩ := recast_lossless_iff int32 single shorts short store hshort hwhole
  obtain ⟨hmake', hmade'⟩ := recast_lossless_iff int32 single longs long store hlong hwhole'
  obtain ⟨made, h⟩ := hmake {}
  obtain ⟨made', h'⟩ := hmake' {}
  obtain ⟨hequal, -, hreturn, hback⟩ := hmade {} made h
  obtain ⟨hequal', -⟩ := hmade' {} made' h'
  obtain ⟨back, hreturned⟩ := hreturn {}
  have hrepresented : ∀ x ∈ short, single.Represents (int32.exact x) := by
    intro x hx
    obtain rfl := List.mem_singleton.mp hx
    have hexact : (Binary.ofBits .single 0x4b800000).exact = .finite (0x1000000 : Int) := by
      decide +kernel
    exact ⟨Binary.ofBits .single 0x4b800000, hexact⟩
  have hkept := hequal.mpr hrepresented
  have hlost : made'.1.equals .structural made'.2 longs = false := by
    cases h'
    decide +kernel
  refine ⟨hrepresented, ⟨made, back, h, hkept, hreturned, hback {} back hreturned hkept⟩,
    ⟨made', h', hlost⟩, ?_⟩
  intro hall
  exact absurd (hequal'.mpr hall) (ne_true_of_eq_false hlost)

end NdArray

end ArrayExchange
