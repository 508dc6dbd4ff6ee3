import ArrayExchange.Proofs.Element.Exact

/-!
# How far equality of arrays is transitive

There are three sorts of elements: truth values, other numbers, and JSON values.  Elements of any two
sorts can be equal.  But a truth value is beside a number the number `0` or `1`, and beside JSON the
JSON value `false` or `true`; and no JSON value is equal to both a truth value and a number.

So elements of two sorts are compared by what they stand for, and equality is transitive among them.
Whenever all three sorts come together it is not.

* `ElementKind`, `DType.kind`, `Scalar.kind` — the sorts.
* `Scalar.agrees_iff_number` — elements that are no JSON values stand for numbers.
* `Scalar.agrees_iff_meaning` — elements without a truth value beside a number stand for a number or
  for a JSON value.
* `Scalar.agrees_trans_iff` — chains of three elements.
* `NdArray.equals_iff_numbers` — numeric arrays are compared by the numbers that they hold.
* `NdArray.equals_transitive_exactly` — chains of three arrays.
-/

namespace ArrayExchange

/-! ### Sorts of elements -/

/-- The sorts of elements that equality tells apart. -/
inductive ElementKind where
  | truth
  | number
  | json
  deriving DecidableEq

/-- The sort of the elements of a type. -/
def DType.kind : DType → ElementKind
  | numeric .bool => .truth
  | numeric _ => .number
  | object => .json

namespace Scalar

/-- The sort of an element. -/
def kind : Scalar → ElementKind
  | bool _ => .truth
  | number _ => .number
  | json _ => .json

end Scalar

/-- The elements of an array are of the sort of its type. -/
theorem NdArray.kind_of_mem_scalars {store : Store} {a : NdArray} {s : Scalar}
    (h : s ∈ a.scalars store) : s.kind = a.dtype.kind := by
  unfold scalars at h
  unfold dtype
  cases hc : a.contents with
  | object values =>
      rw [hc] at h
      obtain ⟨v, -, rfl⟩ := List.mem_map.mp h
      rfl
  | numeric t block =>
      rw [hc] at h
      obtain ⟨x, -, rfl⟩ := List.mem_map.mp h
      cases t <;> rfl

/-- Three sorts that are, in some order, all the sorts there are. -/
def ElementKind.Mixed (k l m : ElementKind) : Prop := [k, l, m].Perm [.truth, .number, .json]

instance (k l m : ElementKind) : Decidable (ElementKind.Mixed k l m) :=
  inferInstanceAs (Decidable ([k, l, m].Perm [.truth, .number, .json]))

/-! ### Elements that are no JSON values -/

namespace Scalar

/-- The number that an element stands for; a JSON value stands for none. -/
def number? : Scalar → Option ExactNumber
  | bool b => some (.finite b.toNat)
  | number x => some x.exact
  | json _ => none

/-- **Elements that are no JSON values** agree when they stand for the same number. -/
theorem agrees_iff_number {s t : Scalar} (hs : s.kind ≠ .json) (ht : t.kind ≠ .json) :
    s.agrees sameNumber t = true ↔ s.number? = t.number? := by
  cases s with
  | json v => exact absurd rfl hs
  | bool a =>
      cases t with
      | json w => exact absurd rfl ht
      | bool b => cases a <;> cases b <;> simp [agrees, number?]
      | number y =>
          rw [agrees, sameNumber_iff_exact, Binary.exact_ofBool, number?, number?, Option.some.injEq]
  | number x =>
      cases t with
      | json w => exact absurd rfl ht
      | bool b =>
          rw [agrees, sameNumber_iff_exact, Binary.exact_ofBool, number?, number?, Option.some.injEq,
            eq_comm]
      | number y => rw [agrees, sameNumber_iff_exact, number?, number?, Option.some.injEq]

end Scalar

theorem ElementType.number?_toScalar (t : ElementType) (x : t.Value) :
    (t.toScalar x).number? = some (t.exact x) := by
  cases t with
  | bool => rfl
  | integer k => exact congrArg some (exact_toBinary (.integer k) x)
  | float f => exact congrArg some (exact_toBinary (.float f) x)

/-! ### Strings in place of numbers -/

theorem nonFinite?_eq_some {s : String} {x : Binary64} (h : nonFinite? s = some x) :
    (s = "NaN" ∧ x = Binary.nan) ∨ (s = "Infinity" ∧ x = Binary.infinity false) ∨
      (s = "-Infinity" ∧ x = Binary.infinity true) := by
  unfold nonFinite? at h
  split at h <;> simp_all

/-- Different strings stand for different numbers. -/
theorem nonFinite?_injective {s t : String} {x y : Binary64} (hs : nonFinite? s = some x)
    (ht : nonFinite? t = some y) (h : x.exact = y.exact) : s = t := by
  rcases nonFinite?_eq_some hs with ⟨rfl, rfl⟩ | ⟨rfl, rfl⟩ | ⟨rfl, rfl⟩ <;>
    rcases nonFinite?_eq_some ht with ⟨rfl, rfl⟩ | ⟨rfl, rfl⟩ | ⟨rfl, rfl⟩ <;>
    first
    | rfl
    | exact absurd h (by decide)

/-- No string stands for the number of a numeral. -/
theorem nonFinite?_ne_numeral {s : String} {x : Binary64} (h : nonFinite? s = some x)
    (n : Json.Number) : n.toBinary.exact ≠ x.exact := by
  rw [Binary.exact_of_isFinite n.isFinite_toBinary]
  rcases nonFinite?_eq_some h with ⟨-, rfl⟩ | ⟨-, rfl⟩ | ⟨-, rfl⟩
  · rw [Binary.exact_of_isNaN (by decide)]
    nofun
  · rw [Binary.exact_of_isInfinite (by decide)]
    nofun
  · rw [Binary.exact_of_isInfinite (by decide)]
    nofun

/-! ### Elements without a truth value beside a number -/

namespace Json

/-- What a JSON value stands for: a number, if it is a numeral or a string in place of one, and else
itself, without the signs of zeros. -/
def meaning : Json → ExactNumber ⊕ Json
  | number n => .inl n.toBinary.exact
  | string s =>
    match nonFinite? s with
    | some x => .inl x.exact
    | none => .inr (string s)
  | value => .inr value.unsigned

/-- A string stands for the same as a value only if it is this value. -/
theorem meaning_string_eq_iff (s : String) (w : Json) :
    (string s).meaning = w.meaning ↔ (string s).same w = true := by
  cases w with
  | number n =>
      cases hs : nonFinite? s with
      | none => simp [meaning, same, hs]
      | some x => simp [meaning, same, hs, (nonFinite?_ne_numeral hs n).symm]
  | string t =>
      rw [same, beq_iff_eq]
      constructor
      · intro h
        cases hs : nonFinite? s with
        | none =>
            cases ht : nonFinite? t with
            | none => simpa [meaning, hs, ht] using h
            | some y => simp [meaning, hs, ht] at h
        | some x =>
            cases ht : nonFinite? t with
            | none => simp [meaning, hs, ht] at h
            | some y => exact nonFinite?_injective hs ht (by simpa [meaning, hs, ht] using h)
      · rintro rfl
        rfl
  | _ => cases hs : nonFinite? s <;> simp [meaning, same, unsigned, hs]

end Json

namespace Scalar

/-- What an element stands for where no truth value is beside a number. -/
def meaning : Scalar → ExactNumber ⊕ Json
  | bool b => .inr (.bool b)
  | number x => .inl x.exact
  | json v => v.meaning

theorem json_agrees_number_iff (v : Json) (y : Binary64) :
    (json v).agrees sameNumber (number y) = true ↔ v.meaning = .inl y.exact := by
  cases v with
  | number n => simp [agrees, agreesWithJson, Json.meaning, sameNumber_iff_exact]
  | string s =>
      cases hs : nonFinite? s with
      | none => simp [agrees, agreesWithJson, Json.meaning, hs]
      | some x => simp [agrees, agreesWithJson, Json.meaning, hs, sameNumber_iff_exact]
  | _ => simp [agrees, agreesWithJson, Json.meaning]

theorem json_agrees_bool_iff (v : Json) (b : Bool) :
    (json v).agrees sameNumber (bool b) = true ↔ v.meaning = .inr (.bool b) := by
  cases v with
  | bool a => simp [agrees, agreesWithJson, Json.meaning, Json.unsigned]
  | string s => cases hs : nonFinite? s <;> simp [agrees, agreesWithJson, Json.meaning, hs]
  | _ => simp [agrees, agreesWithJson, Json.meaning, Json.unsigned]

theorem json_agrees_iff (v w : Json) :
    (json v).agrees sameNumber (json w) = true ↔ v.meaning = w.meaning := by
  have hstring : ∀ s w, (json (.string s)).agrees sameNumber (json w) = true ↔
      (Json.string s).meaning = w.meaning := by
    intro s w
    rw [Json.meaning_string_eq_iff]
    rfl
  have hstring' : ∀ v t, (json v).agrees sameNumber (json (.string t)) = true ↔
      v.meaning = (Json.string t).meaning := by
    intro v t
    rw [agrees_comm sameNumber_comm, hstring, eq_comm]
  cases v with
  | string s => exact hstring s w
  | number m =>
      cases w with
      | string t => exact hstring' _ t
      | number n => simp [agrees, Json.meaning, sameNumber_iff_exact]
      | _ => simp [agrees, Json.same, Json.meaning]
  | _ =>
      cases w with
      | string t => exact hstring' _ t
      | number n => simp [agrees, Json.same, Json.meaning]
      | _ => simp [agrees, Json.same_iff, Json.meaning]

/-- **Elements without a truth value beside a number** agree when they stand for the same. -/
theorem agrees_iff_meaning {s t : Scalar}
    (h : (s.kind ≠ .truth ∧ t.kind ≠ .truth) ∨ (s.kind ≠ .number ∧ t.kind ≠ .number)) :
    s.agrees sameNumber t = true ↔ s.meaning = t.meaning := by
  cases s with
  | bool a =>
      cases t with
      | bool b => simp [agrees, meaning]
      | number y => simp [kind] at h
      | json w =>
          rw [agrees_comm sameNumber_comm, json_agrees_bool_iff]
          exact eq_comm
  | number x =>
      cases t with
      | bool b => simp [kind] at h
      | number y => simp [agrees, meaning, sameNumber_iff_exact]
      | json w =>
          rw [agrees_comm sameNumber_comm, json_agrees_number_iff]
          exact eq_comm
  | json v =>
      cases t with
      | bool b => exact json_agrees_bool_iff v b
      | number y => exact json_agrees_number_iff v y
      | json w => exact json_agrees_iff v w

/-! ### Chains of elements -/

/-- No JSON value agrees both with a truth value and with another number. -/
theorem json_not_between {j b n : Scalar} (hj : j.kind = .json) (hb : b.kind = .truth)
    (hn : n.kind = .number) (hjb : j.agrees sameNumber b = true) :
    j.agrees sameNumber n = false := by
  rw [agrees_iff_meaning (.inr (by simp [hj, hb]))] at hjb
  rw [Bool.eq_false_iff, ne_eq, agrees_iff_meaning (.inl (by simp [hj, hn])), hjb]
  cases b with
  | bool b =>
      cases n with
      | number x => nofun
      | _ => cases hn
  | _ => cases hb

end Scalar

theorem ElementKind.missing_of_not_mixed {k l m : ElementKind} (h : ¬ Mixed k l m) :
    (k ≠ .json ∧ l ≠ .json ∧ m ≠ .json) ∨ (k ≠ .truth ∧ l ≠ .truth ∧ m ≠ .truth) ∨
      (k ≠ .number ∧ l ≠ .number ∧ m ≠ .number) := by
  revert h
  cases k <;> cases l <;> cases m <;> decide

namespace Scalar

variable {x y z : Scalar}

theorem exists_of_mixed (h : ElementKind.Mixed x.kind y.kind z.kind) (k : ElementKind) :
    ∃ s ∈ [x, y, z], s.kind = k := by
  have hmem : k ∈ [x, y, z].map kind := h.mem_iff.mpr (by cases k <;> decide)
  exact List.mem_map.mp hmem

/-- **Agreement is transitive unless all three sorts come together**, and then it never is. -/
theorem agrees_trans_iff (hxy : x.agrees sameNumber y = true) (hyz : y.agrees sameNumber z = true) :
    x.agrees sameNumber z = true ↔ ¬ ElementKind.Mixed x.kind y.kind z.kind := by
  constructor
  · intro hxz hmixed
    -- any two of the three agree, so the JSON value among them is between the other two
    have hall : ∀ s ∈ [x, y, z], ∀ t ∈ [x, y, z], s.agrees sameNumber t = true := by
      have hyx := (agrees_comm sameNumber_comm y x).trans hxy
      have hzy := (agrees_comm sameNumber_comm z y).trans hyz
      have hzx := (agrees_comm sameNumber_comm z x).trans hxz
      simp [hxy, hyz, hxz, hyx, hzy, hzx, agrees_refl sameNumber_refl]
    obtain ⟨j, hj, hjkind⟩ := exists_of_mixed hmixed .json
    obtain ⟨b, hb, hbkind⟩ := exists_of_mixed hmixed .truth
    obtain ⟨n, hn, hnkind⟩ := exists_of_mixed hmixed .number
    have hne := json_not_between hjkind hbkind hnkind (hall j hj b hb)
    rw [hall j hj n hn] at hne
    cases hne
  · intro hmixed
    rcases ElementKind.missing_of_not_mixed hmixed with ⟨hx, hy, hz⟩ | ⟨hx, hy, hz⟩ | ⟨hx, hy, hz⟩
    · rw [agrees_iff_number hx hy] at hxy
      rw [agrees_iff_number hy hz] at hyz
      rw [agrees_iff_number hx hz, hxy, hyz]
    · rw [agrees_iff_meaning (.inl ⟨hx, hy⟩)] at hxy
      rw [agrees_iff_meaning (.inl ⟨hy, hz⟩)] at hyz
      rw [agrees_iff_meaning (.inl ⟨hx, hz⟩), hxy, hyz]
    · rw [agrees_iff_meaning (.inr ⟨hx, hy⟩)] at hxy
      rw [agrees_iff_meaning (.inr ⟨hy, hz⟩)] at hyz
      rw [agrees_iff_meaning (.inr ⟨hx, hz⟩), hxy, hyz]

end Scalar

/-! ### Arrays -/

namespace NdArray

variable {store : Store} {a b c : NdArray}

/-- Arrays with as many elements have elements at the same positions. -/
theorem exists_scalar (h : a.count store = b.count store) {i : Nat} {x : Scalar}
    (hx : (a.scalars store)[i]? = some x) : ∃ y, (b.scalars store)[i]? = some y := by
  have hi := (List.getElem?_eq_some_iff.mp hx).1
  rw [length_scalars, h, ← length_scalars] at hi
  exact ⟨_, List.getElem?_eq_getElem hi⟩

theorem kind_of_getElem? {i : Nat} {x : Scalar} (hx : (a.scalars store)[i]? = some x) :
    x.kind = a.dtype.kind :=
  kind_of_mem_scalars (List.mem_of_getElem? hx)

/-- **Equality of contents is transitive, unless all three sorts come together** in arrays that have
elements. -/
theorem sameContents_trans_iff (hab : sameContents sameNumber store a b = true)
    (hbc : sameContents sameNumber store b c = true) :
    sameContents sameNumber store a c = true ↔
      ¬ (0 < a.count store ∧ ElementKind.Mixed a.dtype.kind b.dtype.kind c.dtype.kind) := by
  obtain ⟨hcount, hab⟩ := sameContents_iff.mp hab
  obtain ⟨hcount', hbc⟩ := sameContents_iff.mp hbc
  -- what holds of the elements at one position
  have chain : ∀ (i : Nat) (x z : Scalar), (a.scalars store)[i]? = some x →
      (c.scalars store)[i]? = some z → (x.agrees sameNumber z = true ↔
        ¬ ElementKind.Mixed a.dtype.kind b.dtype.kind c.dtype.kind) := by
    intro i x z hx hz
    obtain ⟨y, hy⟩ := exists_scalar hcount hx
    rw [Scalar.agrees_trans_iff (hab i x y hx hy) (hbc i y z hy hz), kind_of_getElem? hx,
      kind_of_getElem? hy, kind_of_getElem? hz]
  rw [sameContents_iff]
  constructor
  · rintro ⟨-, hac⟩ ⟨hpos, hmixed⟩
    have hx := List.getElem?_eq_getElem (l := a.scalars store) (i := 0) (by rwa [length_scalars])
    obtain ⟨z, hz⟩ := exists_scalar (hcount.trans hcount') hx
    exact (chain 0 _ z hx hz).mp (hac 0 _ z hx hz) hmixed
  · intro h
    refine ⟨hcount.trans hcount', ?_⟩
    intro i x z hx hz
    have hpos : 0 < a.count store := by
      have hi := (List.getElem?_eq_some_iff.mp hx).1
      rw [length_scalars] at hi
      exact Nat.zero_lt_of_lt hi
    exact (chain i x z hx hz).mpr fun hmixed => h ⟨hpos, hmixed⟩

/-! ### Numeric arrays -/

/-- The numbers that the elements of a numeric array stand for. -/
def numbers (store : Store) (a : NdArray) : List ExactNumber :=
  match a.contents with
  | .numeric type block => (type.decode (store.bytes block)).map type.exact
  | .object _ => []

theorem getElem?_numbers (h : a.dtype ≠ .object) (i : Nat) :
    (a.numbers store)[i]? = (a.scalars store)[i]?.bind Scalar.number? := by
  unfold numbers scalars
  unfold dtype at h
  cases hc : a.contents with
  | object values => exact absurd (by rw [hc]) h
  | numeric t block =>
      simp only [List.getElem?_map]
      cases (t.decode (store.bytes block))[i]? with
      | none => rfl
      | some x => exact (t.number?_toScalar x).symm

theorem length_numbers (h : a.dtype ≠ .object) : (a.numbers store).length = a.count store := by
  unfold numbers count
  unfold NdArray.dtype at h
  cases hcontents : a.contents with
  | object values => exact absurd (by rw [hcontents]) h
  | numeric type block => simp only [List.length_map, ElementType.length_decode]

theorem kind_ne_json (h : a.dtype ≠ .object) : a.dtype.kind ≠ .json := by
  cases hd : a.dtype with
  | object => exact absurd hd h
  | numeric t => cases t <;> nofun

/-- **Contents of numeric arrays are equal** when the elements are pairwise the same exact numbers. -/
theorem sameContents_iff_numbers (ha : a.dtype ≠ .object) (hb : b.dtype ≠ .object) :
    sameContents sameNumber store a b = true ↔ a.count store = b.count store ∧
      ∀ i : Nat, (a.numbers store)[i]? = (b.numbers store)[i]? := by
  have agree : ∀ (i : Nat) (x y : Scalar), (a.scalars store)[i]? = some x →
      (b.scalars store)[i]? = some y → (x.agrees sameNumber y = true ↔
        (a.numbers store)[i]? = (b.numbers store)[i]?) := by
    intro i x y hx hy
    rw [getElem?_numbers ha, getElem?_numbers hb, hx, hy]
    apply Scalar.agrees_iff_number
    · rw [kind_of_getElem? hx]
      exact kind_ne_json ha
    · rw [kind_of_getElem? hy]
      exact kind_ne_json hb
  rw [sameContents_iff]
  apply and_congr_right
  intro hcount
  constructor
  · intro h i
    cases hx : (a.scalars store)[i]? with
    | some x =>
        obtain ⟨y, hy⟩ := exists_scalar hcount hx
        exact (agree i x y hx hy).mp (h i x y hx hy)
    | none =>
        have hy : (b.scalars store)[i]? = none := by
          rw [List.getElem?_eq_none_iff, length_scalars] at hx ⊢
          rwa [← hcount]
        rw [getElem?_numbers ha, getElem?_numbers hb, hx, hy]
  · intro h i x y hx hy
    exact (agree i x y hx hy).mpr (h i)

/-- **Numeric arrays are equal** when they have one shape and hold the same numbers. -/
theorem equals_iff_numbers (ha : a.dtype ≠ .object) (hb : b.dtype ≠ .object) :
    a.equals .structural store b = true ↔
      a.shape = b.shape ∧ a.numbers store = b.numbers store := by
  have hlength : a.numbers store = b.numbers store → a.count store = b.count store := by
    intro h
    rw [← length_numbers ha, h, length_numbers hb]
  rw [equals_structural_iff, sameContents_iff_numbers ha hb, ← List.ext_getElem?_iff]
  exact and_congr_right fun _ => and_iff_right_of_imp hlength

/-- **How far equality of arrays is transitive**, and what it is for numeric arrays.  It is transitive
unless all three sorts of elements come together in arrays that have elements, and then it never is.
Numeric arrays are equal when they have one shape and hold pairwise the same exact numbers. -/
theorem equals_transitive_exactly (store : Store) :
    (∀ a b c : NdArray, a.equals .structural store b = true → b.equals .structural store c = true →
      (a.equals .structural store c = true ↔
        ¬ ((0 < a.count store ∧ 0 < b.count store ∧ 0 < c.count store) ∧
          ElementKind.Mixed a.dtype.kind b.dtype.kind c.dtype.kind))) ∧
      ∀ a b : NdArray, a.dtype ≠ .object → b.dtype ≠ .object →
        (a.equals .structural store b = true ↔ a.shape = b.shape ∧ a.count store = b.count store ∧
          ∀ i : Nat, (a.numbers store)[i]? = (b.numbers store)[i]?) := by
  constructor
  · intro a b c hab hbc
    obtain ⟨hshape, hab⟩ := equals_structural_iff.mp hab
    obtain ⟨hshape', hbc⟩ := equals_structural_iff.mp hbc
    have hcount := (sameContents_iff.mp hab).1
    have hcount' := (sameContents_iff.mp hbc).1
    rw [equals_structural_iff, sameContents_trans_iff hab hbc, and_iff_right (hshape.trans hshape'),
      ← hcount', ← hcount, and_self, and_self]
  · intro a b ha hb
    rw [equals_structural_iff, sameContents_iff_numbers ha hb]

/-- The number `1` equals `true`, and it equals the numeral `1` of JSON, which is not equal to `true`.
Among numbers and truth values alone the chain does not break. -/
theorem equals_transitive_exactly_one :
    let store : Store := ⟨[[1], [0, 0, 0x80, 0x3f]]⟩
    let truth := NdArray.mk [1] (.numeric .bool ⟨0⟩)
    let integer := NdArray.mk [1] (.numeric (.integer .uint8) ⟨0⟩)
    let float := NdArray.mk [1] (.numeric (.float .single) ⟨1⟩)
    let numeral := NdArray.mk [1] (.object [.number (.int ⟨1, by decide⟩)])
    truth.equals .structural store integer = true ∧
      integer.equals .structural store numeral = true ∧
      truth.equals .structural store numeral = false ∧
      float.equals .structural store truth = true ∧
      float.equals .structural store integer = true ∧
      (float.numbers store)[0]? = (integer.numbers store)[0]? := by
  intro store truth integer float numeral
  obtain ⟨chain, exact⟩ := equals_transitive_exactly store
  have hti : truth.equals .structural store integer = true := by decide +kernel
  have hin : integer.equals .structural store numeral = true := by decide +kernel
  have hft : float.equals .structural store truth = true := by decide +kernel
  have hfi := (chain float truth integer hft hti).mpr (by decide)
  refine ⟨hti, hin, ?_, hft, hfi, ((exact float integer nofun nofun).mp hfi).2.2 0⟩
  rw [Bool.eq_false_iff, ne_eq, chain truth integer numeral hti hin, not_not]
  decide

end NdArray

end ArrayExchange
