import ArrayExchange.Proofs.Json.Exact
import ArrayExchange.Proofs.NdArray.Transitivity

/-!
# The numbers that equal arrays hold

Numbers are compared by the data nearest to them.  A numeric element is such a datum itself, and so is
every numeral of JSON but an integer that is too long for a significand.  Where no such integer comes in,
equal arrays hold the same numbers at the same positions, and arrays of JSON values are equal just when
their values are, numerals being compared by the numbers that they spell.

Two long integers that share their nearest datum are taken for one number, as long as they are elements
themselves.  Within a list or an object they are told apart.

* `Scalar.held?`, `Scalar.compared?` — the number that an element holds, and the one it is compared by.
* `Json.EqualBy` — equality of values that are elements, given what numerals are compared by.
* `NdArray.equals_held_numbers` — what equality says about the numbers of two arrays.
* `NdArray.long_integers_equal` — two integers that are taken for one.
-/

namespace ArrayExchange

/-! ### Elements -/

namespace Scalar

/-- The number that an element holds, if it is a number. -/
def held? : Scalar → Option ExactNumber
  | bool b => some (.finite b.toNat)
  | number x => some x.exact
  | json (.number n) => some n.exact
  | json _ => none

/-- The number that an element is compared by, if it is a number. -/
def compared? : Scalar → Option ExactNumber
  | bool b => some (.finite b.toNat)
  | number x => some x.exact
  | json (.number n) => some n.toBinary.exact
  | json _ => none

/-- An element is no numeral that is too long for a significand. -/
def Short : Scalar → Prop
  | json (.number n) => n.Short
  | _ => True

instance : DecidablePred Short
  | json (.number n) => inferInstanceAs (Decidable n.Short)
  | bool _ | number _ | json .null | json (.bool _) | json (.string _) | json (.array _)
  | json (.object _) => isTrue trivial

/-- A short element is compared by the number that it holds. -/
theorem compared?_of_short {x : Scalar} (h : x.Short) : x.compared? = x.held? := by
  cases x with
  | bool b => rfl
  | number x => rfl
  | json v =>
      cases v with
      | number n => exact congrArg some (Json.Number.exact_toBinary h)
      | _ => rfl

theorem compared?_isSome (x : Scalar) : x.compared?.isSome = x.held?.isSome := by
  cases x with
  | bool b => rfl
  | number x => rfl
  | json v => cases v <;> rfl

/-- A JSON value that is compared by a number is a numeral. -/
theorem exists_numeral {x : Scalar} (hkind : x.kind = .json) (h : x.compared?.isSome = true) :
    ∃ n, x = json (.number n) := by
  cases x with
  | bool b => cases hkind
  | number y => cases hkind
  | json v =>
      cases v with
      | number n => exact ⟨n, rfl⟩
      | _ => cases h

/-- Elements that are no JSON values are compared by the numbers that they stand for. -/
theorem compared?_of_not_json {x : Scalar} (h : x.kind ≠ .json) : x.compared? = x.number? := by
  cases x with
  | bool b => rfl
  | number y => rfl
  | json v => exact absurd rfl h

/-- A numeral that agrees with a number is compared by this number. -/
theorem compared?_of_numeral_agrees {n : Json.Number} {y : Scalar}
    (h : (json (.number n)).agrees sameNumber y = true) (hy : y.compared?.isSome = true) :
    (json (.number n)).compared? = y.compared? := by
  cases y with
  | bool b => cases h
  | number y => exact congrArg some (sameNumber_iff_exact.mp h)
  | json w =>
      cases w with
      | number m => exact congrArg some (sameNumber_iff_exact.mp h)
      | _ => cases hy

/-- **Elements that agree are compared by the same number**, if both are numbers. -/
theorem compared?_eq_of_agrees {x y : Scalar} (h : x.agrees sameNumber y = true)
    (hx : x.compared?.isSome = true) (hy : y.compared?.isSome = true) :
    x.compared? = y.compared? := by
  by_cases hxkind : x.kind = .json
  · obtain ⟨n, rfl⟩ := exists_numeral hxkind hx
    exact compared?_of_numeral_agrees h hy
  · by_cases hykind : y.kind = .json
    · obtain ⟨n, rfl⟩ := exists_numeral hykind hy
      rw [agrees_comm sameNumber_comm] at h
      exact (compared?_of_numeral_agrees h hx).symm
    · rw [compared?_of_not_json hxkind, compared?_of_not_json hykind]
      exact (agrees_iff_number hxkind hykind).mp h

/-- **Short elements that agree hold the same number.** -/
theorem held?_eq_of_agrees {x y : Scalar} (h : x.agrees sameNumber y = true) (hx : x.held?.isSome = true)
    (hy : y.held?.isSome = true) (hxs : x.Short) (hys : y.Short) : x.held? = y.held? := by
  rw [← compared?_of_short hxs, ← compared?_of_short hys]
  apply compared?_eq_of_agrees h
  · rwa [compared?_isSome]
  · rwa [compared?_isSome]

end Scalar

/-! ### JSON values that are elements -/

namespace Json

/-- Equality of values that are elements: numerals by a number that belongs to them, and all else as JSON
values. -/
def EqualBy (number : Number → ExactNumber) : Json → Json → Prop
  | .number m, .number n => number m = number n
  | v, w => v.same w = true

theorem agrees_iff_equalBy (v w : Json) : (Scalar.json v).agrees sameNumber (.json w) = true ↔
    v.EqualBy (fun n => n.toBinary.exact) w := by
  cases v with
  | number m =>
      cases w with
      | number n => exact sameNumber_iff_exact
      | _ => exact Iff.rfl
  | _ => cases w <;> exact Iff.rfl

/-- Between short values it does not matter that numerals are rounded. -/
theorem equalBy_of_short {v w : Json} (hv : (Scalar.json v).Short) (hw : (Scalar.json w).Short) :
    v.EqualBy (fun n => n.toBinary.exact) w ↔ v.EqualBy Number.exact w := by
  cases v with
  | number m =>
      cases w with
      | number n =>
          show m.toBinary.exact = n.toBinary.exact ↔ m.exact = n.exact
          rw [Number.exact_toBinary hv, Number.exact_toBinary hw]
      | _ => exact Iff.rfl
  | _ => cases w <;> exact Iff.rfl

end Json

/-! ### Arrays -/

namespace NdArray

variable {store : Store} {a b : NdArray} {vs ws : List Json}

theorem scalars_of_object (h : a.contents = .object vs) : a.scalars store = vs.map .json := by
  rw [scalars, h]

/-- **Arrays of JSON values are equal** when their shapes are and their values are, pair by pair. -/
theorem equals_object_iff (ha : a.contents = .object vs) (hb : b.contents = .object ws) :
    a.equals .structural store b = true ↔
      a.shape = b.shape ∧ List.Forall₂ (Json.EqualBy fun n => n.toBinary.exact) vs ws := by
  rw [equals_structural_iff, sameContents_iff_forall₂, scalars_of_object ha, scalars_of_object hb,
    List.forall₂_map_left_iff, List.forall₂_map_right_iff]
  simp only [Json.agrees_iff_equalBy]

theorem forall₂_equalBy_of_short (hvs : ∀ v ∈ vs, (Scalar.json v).Short)
    (hws : ∀ w ∈ ws, (Scalar.json w).Short) :
    List.Forall₂ (Json.EqualBy fun n => n.toBinary.exact) vs ws ↔
      List.Forall₂ (Json.EqualBy Json.Number.exact) vs ws := by
  rw [List.forall₂_iff_zip, List.forall₂_iff_zip]
  apply and_congr_right
  intro _
  have step : ∀ {v w}, (v, w) ∈ vs.zip ws →
      (v.EqualBy (fun n => n.toBinary.exact) w ↔ v.EqualBy Json.Number.exact w) := by
    intro v w hvw
    obtain ⟨hv, hw⟩ := List.of_mem_zip hvw
    exact Json.equalBy_of_short (hvs v hv) (hws w hw)
  constructor
  · intro h v w hvw
    exact (step hvw).mp (h hvw)
  · intro h v w hvw
    exact (step hvw).mpr (h hvw)

/-- **What equality says about numbers.**  Where equal arrays both hold a number, the two have the same
nearest datum, and they are one number unless a JSON integer of a magnitude above `2 ^ 53` is among them.
Arrays of JSON values are equal when their shapes are and their values are, pair by pair, numerals being
compared by their nearest data; without such long integers, by the numbers that they spell. -/
theorem equals_held_numbers (store : Store) (a b : NdArray) :
    (a.equals .structural store b = true → ∀ (i : Nat) (x y : Scalar) (p q : ExactNumber),
      (a.scalars store)[i]? = some x → (b.scalars store)[i]? = some y →
      x.held? = some p → y.held? = some q →
        x.compared? = y.compared? ∧ (x.Short → y.Short → p = q)) ∧
    ∀ vs ws, a.contents = .object vs → b.contents = .object ws →
      (a.equals .structural store b = true ↔
        a.shape = b.shape ∧ List.Forall₂ (Json.EqualBy fun n => n.toBinary.exact) vs ws) ∧
      ((∀ v ∈ vs, (Scalar.json v).Short) → (∀ w ∈ ws, (Scalar.json w).Short) →
        (a.equals .structural store b = true ↔
          a.shape = b.shape ∧ List.Forall₂ (Json.EqualBy Json.Number.exact) vs ws)) := by
  constructor
  · intro hab i x y p q hx hy hp hq
    obtain ⟨-, hcontents⟩ := equals_structural_iff.mp hab
    have hagrees := (sameContents_iff.mp hcontents).2 i x y hx hy
    have hxs : x.held?.isSome = true := by rw [hp]; rfl
    have hys : y.held?.isSome = true := by rw [hq]; rfl
    constructor
    · apply Scalar.compared?_eq_of_agrees hagrees
      · rwa [Scalar.compared?_isSome]
      · rwa [Scalar.compared?_isSome]
    · intro hxshort hyshort
      have hheld := Scalar.held?_eq_of_agrees hagrees hxs hys hxshort hyshort
      rw [hp, hq] at hheld
      exact Option.some.inj hheld
  · intro vs ws ha hb
    refine ⟨equals_object_iff ha hb, ?_⟩
    intro hvs hws
    rw [equals_object_iff ha hb, forall₂_equalBy_of_short hvs hws]

/-- The datum `2 ^ 53` equals the numeral that spells it, so the two are one number.  As JSON values this
numeral and the next but one are different. -/
theorem equals_held_numbers_longest :
    let store : Store := ⟨[[0, 0, 0, 0, 0, 0, 0x40, 0x43]]⟩
    let longest : Json := .number (.int ⟨0x20000000000000, by decide⟩)
    let other : Json := .number (.int ⟨0x1ffffffffffffe, by decide⟩)
    let floats := NdArray.mk [1] (.numeric (.float .double) ⟨0⟩)
    let values (v : Json) := NdArray.mk [1] (.object [v])
    floats.equals .structural store (values longest) = true ∧
      (Binary.ofBits .double 0x4340000000000000).exact = .finite (0x20000000000000 : Int) ∧
      (values longest).equals .structural store (values other) = false := by
  intro store longest other floats values
  have hequal : floats.equals .structural store (values longest) = true := by decide +kernel
  have hdecode : (ElementType.float .double).decode [0, 0, 0, 0, 0, 0, 0x40, 0x43] =
      [Binary.ofBits .double 0x4340000000000000] := rfl
  have hscalars : floats.scalars store = [.number (Binary.ofBits .double 0x4340000000000000)] :=
    congrArg (List.map (ElementType.float .double).toScalar) hdecode
  have hread := congrArg (fun scalars => scalars[0]?) hscalars
  obtain ⟨-, hsame⟩ := (equals_held_numbers store floats (values longest)).1 hequal 0 _ _ _ _ hread
    rfl rfl rfl
  have hlongest : (Scalar.json longest).Short := by decide
  have hother : (Scalar.json other).Short := by decide
  have hobjects := ((equals_held_numbers store (values longest) (values other)).2 _ _ rfl rfl).2
    (by simpa using hlongest) (by simpa using hother)
  refine ⟨hequal, hsame trivial hlongest, ?_⟩
  rw [Bool.eq_false_iff, ne_eq, hobjects]
  rintro ⟨-, hvalues⟩
  cases hvalues with
  | cons hnumbers _ =>
      have hinteger := Int.cast_injective (ExactNumber.finite.inj hnumbers)
      exact absurd hinteger (by decide)

/-- **Two integers are taken for one** as elements, although they are different numbers.  Within a list they
are told apart. -/
theorem long_integers_equal :
    let even : Json := .number (.int ⟨0x20000000000000, by decide⟩)
    let odd : Json := .number (.int ⟨0x20000000000001, by decide⟩)
    let values (v : Json) := NdArray.mk [1] (.object [v])
    (values even).equals .structural .empty (values odd) = true ∧
      (Scalar.json even).held? = some (.finite (0x20000000000000 : Int)) ∧
      (Scalar.json odd).held? = some (.finite (0x20000000000001 : Int)) ∧
      (ExactNumber.finite (0x20000000000000 : Int) ≠ .finite (0x20000000000001 : Int)) ∧
      (values (.array [even])).equals .structural .empty (values (.array [odd])) = false := by
  intro even odd values
  refine ⟨by decide +kernel, rfl, rfl, ?_, by decide +kernel⟩
  intro h
  have hinteger := Int.cast_injective (ExactNumber.finite.inj h)
  exact absurd hinteger (by decide)

end NdArray

end ArrayExchange
