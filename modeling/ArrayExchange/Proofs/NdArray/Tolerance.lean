import ArrayExchange.Proofs.Binary.Conversion
import ArrayExchange.Proofs.NdArray.Equality

/-!
# What a tolerance lets pass

A tolerance only makes a difference between numbers that are finite.  Whatever it is, negative, infinite or
a NaN, arrays that are equal up to it differ at most in such numbers: elements of numeric types, truth
values beside a number, and numerals of JSON.  An infinity or a NaN has to be met by itself, be it an
element or a string that stands for it; two truth values have to be the same, and so have all other JSON
values.

Two comparisons of elements can only differ where the elements are compared as numbers at all.  This is
read off the table once, and the rest is about numbers.

* `Tolerance.relativeEqual`, `Tolerance.nearNumber_eq` — near numbers by the usual rule, with arithmetic on
  all data.
* `Json.datum?`, `Scalar.Compared`, `Scalar.agrees_settled` — the elements that are compared as numbers.
* `Scalar.BothFinite`, `Scalar.bothFinite_of_near` — the elements between which a tolerance matters.
* `NdArray.tolerance_only_finite` — arrays that are equal up to a tolerance.
-/

namespace ArrayExchange

/-! ### Near numbers -/

namespace Binary

variable {f : Format} {x y : Binary f}

/-- The distance of two data of all classes.  There is none from a NaN, nor between infinities of one
sign. -/
def separation (x y : Binary f) : Binary f :=
  if x.isNaN || y.isNaN then nan
  else if x.isInfinite || y.isInfinite then
    if x.isInfinite && y.isInfinite && x.negative == y.negative then nan else infinity false
  else x.distance y

theorem numLe_nan (y : Binary f) : (nan : Binary f).numLe y = false := by
  have hnan : (nan : Binary f).isNaN = true := decide_eq_true f.infinity_lt_quietNaN
  simp [numLe, hnan]

theorem numEq_of_isNaN (h : x.isNaN = true ∨ y.isNaN = true) : x.numEq y = false := by
  rcases h with hx | hy
  · simp [numEq, hx]
  · simp [numEq, hy]

theorem separation_of_isNaN (h : x.isNaN = true ∨ y.isNaN = true) : x.separation y = nan := by
  rcases h with hx | hy
  · simp [separation, hx]
  · simp [separation, hy]

theorem separation_of_isFinite (hx : x.isFinite = true) (hy : y.isFinite = true) :
    x.separation y = x.distance y := by
  simp [separation, isNaN_of_isFinite hx, isNaN_of_isFinite hy, isInfinite_of_isFinite hx,
    isInfinite_of_isFinite hy]

theorem not_isFinite_of_isNaN (h : x.isNaN = true) : x.isFinite = false := by
  have hcode : f.infinity < x.code := of_decide_eq_true h
  exact decide_eq_false (by omega)

theorem not_isFinite_of_isInfinite (h : x.isInfinite = true) : x.isFinite = false := by
  have hcode : x.code = f.infinity := of_decide_eq_true h
  exact decide_eq_false (by omega)

/-- What is neither a NaN nor an infinity is finite. -/
theorem isFinite_iff : x.isFinite = true ↔ x.isNaN = false ∧ x.isInfinite = false := by
  constructor
  · intro h
    exact ⟨isNaN_of_isFinite h, isInfinite_of_isFinite h⟩
  · rintro ⟨hnan, hinf⟩
    rcases isInfinite_or_isFinite hnan with h | h
    · exact absurd h (ne_true_of_eq_false hinf)
    · exact h

end Binary

namespace Tolerance

variable {t : Tolerance} {x y : Binary64}

/-- The usual rule for numbers that are equal up to a tolerance: equal ones are, else infinities are not,
and all others are if their distance is within the absolute tolerance, or within the relative one of the
larger magnitude. -/
def relativeEqual (t : Tolerance) (x y : Binary64) : Bool :=
  x.numEq y ||
    !(x.isInfinite || y.isInfinite) &&
      ((x.separation y).numLe t.absolute ||
        (x.separation y).numLe ((Binary.larger x.abs y.abs).product t.relative))

/-- No tolerance brings a NaN near to a number. -/
theorem relativeEqual_of_isNaN (h : x.isNaN = true ∨ y.isNaN = true) : t.relativeEqual x y = false := by
  rw [relativeEqual, Binary.numEq_of_isNaN h, Binary.separation_of_isNaN h, Binary.numLe_nan,
    Binary.numLe_nan, Bool.or_self, Bool.and_false, Bool.or_self]

/-- **Near numbers are those of the usual rule**, and two NaNs. -/
theorem nearNumber_eq (t : Tolerance) (x y : Binary64) :
    t.nearNumber x y = (x.isNaN && y.isNaN || t.relativeEqual x y) := by
  by_cases hnan : x.isNaN = true ∨ y.isNaN = true
  · have hfinite : (x.isFinite && y.isFinite) = false := by
      rw [Bool.and_eq_false_iff]
      exact hnan.imp Binary.not_isFinite_of_isNaN Binary.not_isFinite_of_isNaN
    rw [nearNumber, sameNumber, hfinite, relativeEqual_of_isNaN hnan, Binary.numEq_of_isNaN hnan]
    simp
  · obtain ⟨hx, hy⟩ := not_or.mp hnan
    have hx := Bool.eq_false_of_not_eq_true hx
    have hy := Bool.eq_false_of_not_eq_true hy
    rw [nearNumber, sameNumber, relativeEqual, hx, Bool.false_and, Bool.or_false, Bool.false_or]
    by_cases hinf : x.isInfinite = true ∨ y.isInfinite = true
    · have hfinite : (x.isFinite && y.isFinite) = false := by
        rw [Bool.and_eq_false_iff]
        exact hinf.imp Binary.not_isFinite_of_isInfinite Binary.not_isFinite_of_isInfinite
      have hinfinite : (x.isInfinite || y.isInfinite) = true := (Bool.or_eq_true _ _).mpr hinf
      rw [hfinite, hinfinite, Bool.false_and, Bool.not_true, Bool.false_and]
    · obtain ⟨hx', hy'⟩ := not_or.mp hinf
      have hx' := Bool.eq_false_of_not_eq_true hx'
      have hy' := Bool.eq_false_of_not_eq_true hy'
      have hxfin := Binary.isFinite_iff.mpr ⟨hx, hx'⟩
      have hyfin := Binary.isFinite_iff.mpr ⟨hy, hy'⟩
      rw [hxfin, hyfin, hx', hy', Binary.separation_of_isFinite hxfin hyfin]
      rfl

/-- **A tolerance only lets finite numbers pass** that are not the same. -/
theorem isFinite_of_near (h : t.nearNumber x y = true) (hne : sameNumber x y = false) :
    x.isFinite = true ∧ y.isFinite = true := by
  rw [sameNumber, Bool.or_eq_false_iff] at hne
  rw [nearNumber_eq, hne.2, Bool.false_or] at h
  have hnan : ¬ (x.isNaN = true ∨ y.isNaN = true) := by
    intro hnan
    rw [relativeEqual_of_isNaN hnan] at h
    cases h
  rw [relativeEqual, hne.1, Bool.false_or, Bool.and_eq_true, Bool.not_eq_true',
    Bool.or_eq_false_iff] at h
  obtain ⟨⟨hx, hy⟩, -⟩ := h
  obtain ⟨hx', hy'⟩ := not_or.mp hnan
  exact ⟨Binary.isFinite_iff.mpr ⟨Bool.eq_false_of_not_eq_true hx', hx⟩,
    Binary.isFinite_iff.mpr ⟨Bool.eq_false_of_not_eq_true hy', hy⟩⟩

end Tolerance

/-! ### Elements that are compared as numbers -/

/-- The number by which a JSON value is compared with a numeric element: a numeral, or a string that stands
for a number. -/
def Json.datum? : Json → Option Binary64
  | number n => some n.toBinary
  | string s => nonFinite? s
  | _ => none

/-- No string stands for a finite number. -/
theorem not_isFinite_of_nonFinite? {s : String} {x : Binary64} (h : nonFinite? s = some x) :
    x.isFinite = false := by
  unfold nonFinite? at h
  split at h
  · cases h; decide
  · cases h; decide
  · cases h; decide
  · cases h

theorem Json.exists_numeral_of_datum? {v : Json} {x : Binary64} (h : v.datum? = some x)
    (hx : x.isFinite = true) : ∃ n, v = number n := by
  cases v with
  | number n => exact ⟨n, rfl⟩
  | string s =>
      rw [not_isFinite_of_nonFinite? h] at hx
      cases hx
  | _ => cases h

namespace Scalar

variable {numbers : Binary64 → Binary64 → Bool}

/-- A JSON value agrees with a numeric element if its number does. -/
theorem agreesWithJson_number (v : Json) (y : Binary64) :
    agreesWithJson numbers v (.number y) = v.datum?.any fun x => numbers x y := by
  cases v with
  | string s =>
      rw [agreesWithJson, Json.datum?]
      cases nonFinite? s <;> rfl
  | _ => rfl

theorem json_agrees_number (v : Json) (y : Binary64) :
    (json v).agrees numbers (.number y) = v.datum?.any fun x => numbers x y := by
  rw [← agreesWithJson_number]
  cases v <;> rfl

theorem number_agrees_json (x : Binary64) (w : Json) :
    (number x).agrees numbers (.json w) = w.datum?.any fun y => numbers y x := by
  rw [← agreesWithJson_number]
  cases w <;> rfl

/-- Two elements are compared by two numbers. -/
inductive Compared : Scalar → Scalar → Binary64 → Binary64 → Prop
  | numbers (x y : Binary64) : Compared (.number x) (.number y) x y
  | boolNumber (b : Bool) (y : Binary64) : Compared (.bool b) (.number y) (.ofInt b.toNat) y
  | numberBool (x : Binary64) (b : Bool) : Compared (.number x) (.bool b) (.ofInt b.toNat) x
  | numerals (m n : Json.Number) :
      Compared (.json (.number m)) (.json (.number n)) m.toBinary n.toBinary
  | jsonNumber {v : Json} {x : Binary64} (h : v.datum? = some x) (y : Binary64) :
      Compared (.json v) (.number y) x y
  | numberJson (x : Binary64) {w : Json} {y : Binary64} (h : w.datum? = some y) :
      Compared (.number x) (.json w) y x

/-- **Either two elements are compared by numbers, or it does not matter how numbers are compared.** -/
theorem agrees_settled (s t : Scalar) :
    (∃ x y, Compared s t x y ∧ ∀ numbers, s.agrees numbers t = numbers x y) ∨
      ∀ numbers numbers', s.agrees numbers t = s.agrees numbers' t := by
  cases s with
  | bool a =>
      cases t with
      | bool b => exact .inr fun _ _ => rfl
      | number y => exact .inl ⟨_, _, .boolNumber a y, fun _ => rfl⟩
      | json w => cases w <;> exact .inr fun _ _ => rfl
  | number x =>
      cases t with
      | bool b => exact .inl ⟨_, _, .numberBool x b, fun _ => rfl⟩
      | number y => exact .inl ⟨_, _, .numbers x y, fun _ => rfl⟩
      | json w =>
          simp only [number_agrees_json]
          cases h : w.datum? with
          | some y => exact .inl ⟨y, x, .numberJson x h, fun _ => rfl⟩
          | none => exact .inr fun _ _ => rfl
  | json v =>
      cases t with
      | bool b => cases v <;> exact .inr fun _ _ => rfl
      | number y =>
          simp only [json_agrees_number]
          cases h : v.datum? with
          | some x => exact .inl ⟨x, y, .jsonNumber h y, fun _ => rfl⟩
          | none => exact .inr fun _ _ => rfl
      | json w =>
          -- two numerals are compared as numbers, all else as JSON values
          cases v with
          | number m =>
              cases w with
              | number n => exact .inl ⟨_, _, .numerals m n, fun _ => rfl⟩
              | _ => exact .inr fun _ _ => rfl
          | _ => cases w <;> exact .inr fun _ _ => rfl

/-! ### Elements that are finite numbers -/

/-- Two elements are finite numbers that may be compared: numeric elements, a truth value beside a numeric
element, or numerals of JSON. -/
inductive BothFinite : Scalar → Scalar → Prop
  | numbers {x y : Binary64} (hx : x.isFinite = true) (hy : y.isFinite = true) :
      BothFinite (.number x) (.number y)
  | boolNumber (b : Bool) {y : Binary64} (hy : y.isFinite = true) : BothFinite (.bool b) (.number y)
  | numberBool {x : Binary64} (hx : x.isFinite = true) (b : Bool) : BothFinite (.number x) (.bool b)
  | numerals (m n : Json.Number) : BothFinite (.json (.number m)) (.json (.number n))
  | numeralNumber (n : Json.Number) {y : Binary64} (hy : y.isFinite = true) :
      BothFinite (.json (.number n)) (.number y)
  | numberNumeral {x : Binary64} (hx : x.isFinite = true) (n : Json.Number) :
      BothFinite (.number x) (.json (.number n))

/-- Elements that are compared by finite numbers are finite numbers. -/
theorem Compared.bothFinite {s t : Scalar} {x y : Binary64} (h : Compared s t x y)
    (hx : x.isFinite = true) (hy : y.isFinite = true) : s.BothFinite t := by
  cases h with
  | numbers => exact .numbers hx hy
  | boolNumber b => exact .boolNumber b hy
  | numberBool _ b => exact .numberBool hy b
  | numerals m n => exact .numerals m n
  | jsonNumber hv =>
      obtain ⟨n, rfl⟩ := Json.exists_numeral_of_datum? hv hx
      exact .numeralNumber n hy
  | numberJson _ hw =>
      obtain ⟨n, rfl⟩ := Json.exists_numeral_of_datum? hw hx
      exact .numberNumeral hy n

/-- **A tolerance matters between finite numbers only.** -/
theorem bothFinite_of_near {t : Tolerance} {x y : Scalar} (hnear : x.agrees t.nearNumber y = true)
    (hne : x.agrees sameNumber y = false) : x.BothFinite y := by
  rcases agrees_settled x y with ⟨p, q, hcompared, hagrees⟩ | hsettled
  · rw [hagrees] at hnear hne
    obtain ⟨hp, hq⟩ := Tolerance.isFinite_of_near hnear hne
    exact hcompared.bothFinite hp hq
  · rw [hsettled _ sameNumber, hne] at hnear
    cases hnear

end Scalar

/-! ### Arrays -/

namespace NdArray

variable {store : Store} {a b : NdArray}

/-- Arrays of one shape and one number of elements that are not equal differ at some position. -/
theorem exists_difference (hshape : a.shape = b.shape) (hcount : a.count store = b.count store)
    (h : a.equals .structural store b = false) :
    ∃ (i : Nat) (x y : Scalar), (a.scalars store)[i]? = some x ∧ (b.scalars store)[i]? = some y ∧
      x.agrees sameNumber y = false := by
  by_contra hnone
  have hcontents : sameContents sameNumber store a b = true := by
    refine sameContents_iff.mpr ⟨hcount, ?_⟩
    intro i x y hx hy
    by_contra hxy
    exact hnone ⟨i, x, y, hx, hy, Bool.eq_false_of_not_eq_true hxy⟩
  rw [equals_structural_iff.mpr ⟨hshape, hcontents⟩] at h
  cases h

/-- **A tolerance only touches finite numbers.**  Equal arrays are equal up to every tolerance.  Arrays
that are equal up to a tolerance but not equal have the same shape and as many elements, they differ
somewhere, and wherever they differ both elements are finite numbers. -/
theorem tolerance_only_finite (t : Tolerance) (store : Store) (a b : NdArray) :
    (a.equals .structural store b = true → a.equals (.approximate t) store b = true) ∧
    (a.equals (.approximate t) store b = true → a.equals .structural store b = false →
      a.shape = b.shape ∧ a.count store = b.count store ∧
      (∃ (i : Nat) (x y : Scalar), (a.scalars store)[i]? = some x ∧ (b.scalars store)[i]? = some y ∧
        x.agrees sameNumber y = false) ∧
      ∀ (i : Nat) (x y : Scalar), (a.scalars store)[i]? = some x → (b.scalars store)[i]? = some y →
        x.agrees sameNumber y = false → x.BothFinite y) := by
  refine ⟨equals_approximate_of_structural t, ?_⟩
  intro hnear hne
  obtain ⟨hshape, hcontents⟩ := equals_approximate_iff.mp hnear
  obtain ⟨hcount, hagrees⟩ := sameContents_iff.mp hcontents
  refine ⟨hshape, hcount, exists_difference hshape hcount hne, ?_⟩
  intro i x y hx hy hdiffer
  exact Scalar.bothFinite_of_near (hagrees i x y hx hy) hdiffer

/-- With an infinite tolerance the number `1` passes for the numeral `9`.  The infinity behind it is met by
its string, which no tolerance is needed for. -/
theorem tolerance_only_finite_unbounded :
    let unbounded : Tolerance := ⟨Binary.nan, Binary.infinity false⟩
    let store : Store := ⟨[[0, 0, 0x80, 0x3f, 0, 0, 0x80, 0x7f]]⟩
    let floats := NdArray.mk [2] (.numeric (.float .single) ⟨0⟩)
    let values (v : Json) := NdArray.mk [2] (.object [v, .string "Infinity"])
    let one : Json := .number (.int ⟨1, by decide⟩)
    let nine : Json := .number (.int ⟨9, by decide⟩)
    floats.equals (.approximate unbounded) store (values one) = true ∧
      floats.equals .structural store (values nine) = false ∧
      (∀ (i : Nat) (x y : Scalar), (floats.scalars store)[i]? = some x →
        ((values nine).scalars store)[i]? = some y → x.agrees sameNumber y = false → x.BothFinite y) := by
  intro unbounded store floats values one nine
  have hequal : floats.equals .structural store (values one) = true := by decide +kernel
  have hnear : floats.equals (.approximate unbounded) store (values nine) = true := by decide +kernel
  have hdifferent : floats.equals .structural store (values nine) = false := by decide +kernel
  obtain ⟨hpasses, -⟩ := tolerance_only_finite unbounded store floats (values one)
  obtain ⟨-, hfinite⟩ := tolerance_only_finite unbounded store floats (values nine)
  obtain ⟨-, -, -, hpairs⟩ := hfinite hnear hdifferent
  exact ⟨hpasses hequal, hdifferent, hpairs⟩

end NdArray

end ArrayExchange
