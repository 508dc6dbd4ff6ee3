import ArrayExchange.NdArray.Comparison
import ArrayExchange.Proofs.Json.Equality
import ArrayExchange.Proofs.Memory.Access
import Mathlib.Data.List.Forall2

/-!
# Equality of arrays is reflexive and symmetric

The comparison of elements is a table over truth values, numbers and JSON values.  Its rows come in
pairs that mirror each other, so it is as symmetric as the comparison of numbers is; and each sort of
element is compared with itself in a reflexive way.  Both pass from elements to arrays position by
position.

* `sameNumber_iff` — the same number: two NaNs, or two numbers at one place in the order.
* `Tolerance.nearNumber_refl`, `Tolerance.nearNumber_comm` — for every tolerance, NaNs and infinities
  included.
* `Scalar.agrees_refl`, `Scalar.agrees_comm`, `Scalar.agrees_mono` — the table.
* `NdArray.sameContents_iff`, `NdArray.sameContents_iff_forall₂` — equality of contents, position by
  position.
* `NdArray.equals_approximate_of_structural` — what is equal is equal up to every tolerance.
* `NdArray.equals_reflexive_symmetric` — equality of arrays.
-/

namespace ArrayExchange

/-! ### The same number -/

theorem sameNumber_iff {x y : Binary64} : sameNumber x y = true ↔
    (x.isNaN = true ∧ y.isNaN = true) ∨
      (x.isNaN = false ∧ y.isNaN = false ∧ x.rank = y.rank) := by
  rw [sameNumber, Bool.or_eq_true, Bool.and_eq_true, Binary.numEq_iff, or_comm]

theorem sameNumber_refl (x : Binary64) : sameNumber x x = true := by
  rw [sameNumber_iff]
  cases h : x.isNaN with
  | true => exact .inl ⟨rfl, rfl⟩
  | false => exact .inr ⟨rfl, rfl, rfl⟩

theorem sameNumber_comm (x y : Binary64) : sameNumber x y = sameNumber y x := by
  rw [Bool.eq_iff_iff, sameNumber_iff, sameNumber_iff]
  constructor
  · rintro (⟨hx, hy⟩ | ⟨hx, hy, h⟩)
    · exact .inl ⟨hy, hx⟩
    · exact .inr ⟨hy, hx, h.symm⟩
  · rintro (⟨hx, hy⟩ | ⟨hx, hy, h⟩)
    · exact .inl ⟨hy, hx⟩
    · exact .inr ⟨hy, hx, h.symm⟩

/-! ### Near numbers -/

namespace Tolerance

/-- Every tolerance lets the same number pass. -/
theorem nearNumber_of_sameNumber (t : Tolerance) {x y : Binary64} (h : sameNumber x y = true) :
    t.nearNumber x y = true := by
  rw [nearNumber, h, Bool.true_or]

theorem nearNumber_refl (t : Tolerance) (x : Binary64) : t.nearNumber x x = true := by
  rw [nearNumber, sameNumber_refl, Bool.true_or]

theorem nearNumber_comm (t : Tolerance) (x y : Binary64) : t.nearNumber x y = t.nearNumber y x := by
  unfold nearNumber
  rw [sameNumber_comm x y, Bool.and_comm x.isFinite]
  cases hx : x.isFinite with
  | false => simp
  | true =>
      cases hy : y.isFinite with
      | false => simp
      | true =>
          have hlarger := Binary.larger_comm (Binary.isNaN_of_isFinite hx) (Binary.isNaN_of_isFinite hy)
          unfold close
          rw [Binary.distance_comm, hlarger]

end Tolerance

/-! ### Elements -/

namespace Scalar

variable {numbers : Binary64 → Binary64 → Bool}

theorem agrees_refl (h : ∀ x, numbers x x = true) (s : Scalar) : s.agrees numbers s = true := by
  cases s with
  | bool b => simp [agrees]
  | number x => exact h x
  | json v =>
      cases v with
      | number n => exact h n.toBinary
      | _ => exact Json.same_refl _

theorem agrees_comm (h : ∀ x y, numbers x y = numbers y x) (s t : Scalar) :
    s.agrees numbers t = t.agrees numbers s := by
  cases s with
  | bool a =>
      cases t with
      | bool b => exact Bool.beq_comm
      | number y => rfl
      | json w => cases w <;> rfl
  | number x =>
      cases t with
      | bool b => rfl
      | number y => exact h x y
      | json w => cases w <;> rfl
  | json v =>
      cases t with
      | bool b => cases v <;> rfl
      | number y => cases v <;> rfl
      | json w =>
          -- two numerals are compared as numbers, all else as JSON values
          cases v with
          | number m =>
              cases w with
              | number n => exact h m.toBinary n.toBinary
              | _ => exact Json.same_comm _ _
          | _ => cases w <;> exact Json.same_comm _ _

theorem agreesWithJson_mono {more : Binary64 → Binary64 → Bool}
    (h : ∀ x y, numbers x y = true → more x y = true) {v : Json} {t : Scalar}
    (hvt : agreesWithJson numbers v t = true) : agreesWithJson more v t = true := by
  unfold agreesWithJson at hvt ⊢
  split at hvt
  · exact h _ _ hvt
  · split at hvt
    · exact h _ _ hvt
    · exact hvt
  · exact hvt
  · exact hvt

/-- Elements that agree still do when more numbers are let pass. -/
theorem agrees_mono {more : Binary64 → Binary64 → Bool}
    (h : ∀ x y, numbers x y = true → more x y = true) {s t : Scalar}
    (hst : s.agrees numbers t = true) : s.agrees more t = true := by
  unfold agrees at hst ⊢
  split at hst
  · exact h _ _ hst
  · exact hst
  · exact h _ _ hst
  · exact h _ _ hst
  · exact h _ _ hst
  · exact hst
  · exact agreesWithJson_mono h hst
  · exact agreesWithJson_mono h hst

end Scalar

/-! ### Arrays -/

namespace NdArray

variable {numbers : Binary64 → Binary64 → Bool} {store : Store} {a b : NdArray}

/-- **Contents are equal** when there are as many elements, and those at each position agree. -/
theorem sameContents_iff : sameContents numbers store a b = true ↔
    a.count store = b.count store ∧ ∀ (i : Nat) (x y : Scalar), (a.scalars store)[i]? = some x →
      (b.scalars store)[i]? = some y → x.agrees numbers y = true := by
  rw [sameContents, Bool.and_eq_true, beq_iff_eq, List.all_eq_true]
  apply and_congr_right
  intro _
  constructor
  · intro h i x y hx hy
    exact h (x, y) (List.mem_of_getElem? (List.getElem?_zip_eq_some.mpr ⟨hx, hy⟩))
  · rintro h ⟨x, y⟩ hxy
    obtain ⟨i, hi⟩ := List.mem_iff_getElem?.mp hxy
    obtain ⟨hx, hy⟩ := List.getElem?_zip_eq_some.mp hi
    exact h i x y hx hy

/-- The same, said of the lists of elements as a whole. -/
theorem sameContents_iff_forall₂ : sameContents numbers store a b = true ↔
    List.Forall₂ (fun x y => x.agrees numbers y = true) (a.scalars store) (b.scalars store) := by
  rw [sameContents, Bool.and_eq_true, beq_iff_eq, List.all_eq_true, List.forall₂_iff_zip,
    length_scalars, length_scalars]
  apply and_congr_right
  intro _
  constructor
  · intro h x y hxy
    exact h (x, y) hxy
  · rintro h ⟨x, y⟩ hxy
    exact h hxy

theorem sameContents_refl (h : ∀ x, numbers x x = true) (store : Store) (a : NdArray) :
    sameContents numbers store a a = true := by
  rw [sameContents_iff]
  refine ⟨rfl, ?_⟩
  intro i x y hx hy
  rw [hx] at hy
  cases hy
  exact x.agrees_refl h

theorem sameContents_comm (h : ∀ x y, numbers x y = numbers y x) (store : Store) (a b : NdArray) :
    sameContents numbers store a b = sameContents numbers store b a := by
  have mirrored : ∀ a b, sameContents numbers store a b = true →
      sameContents numbers store b a = true := by
    intro a b hab
    rw [sameContents_iff] at hab ⊢
    refine ⟨hab.1.symm, ?_⟩
    intro i x y hx hy
    rw [Scalar.agrees_comm h]
    exact hab.2 i y x hy hx
  exact Bool.eq_iff_iff.mpr ⟨mirrored a b, mirrored b a⟩

theorem equals_structural_iff : a.equals .structural store b = true ↔
    a.shape = b.shape ∧ sameContents sameNumber store a b = true := by
  rw [equals, Bool.and_eq_true]
  exact and_congr beq_iff_eq Iff.rfl

theorem equals_approximate_iff {t : Tolerance} : a.equals (.approximate t) store b = true ↔
    a.shape = b.shape ∧ sameContents t.nearNumber store a b = true := by
  rw [equals, Bool.and_eq_true]
  exact and_congr beq_iff_eq Iff.rfl

theorem equals_structural_comm (store : Store) (a b : NdArray) :
    a.equals .structural store b = b.equals .structural store a := by
  rw [Bool.eq_iff_iff, equals_structural_iff, equals_structural_iff, sameContents_comm sameNumber_comm,
    eq_comm (a := a.shape)]

/-- Arrays that are equal are equal up to every tolerance. -/
theorem equals_approximate_of_structural (t : Tolerance) (h : a.equals .structural store b = true) :
    a.equals (.approximate t) store b = true := by
  obtain ⟨hshape, hcontents⟩ := equals_structural_iff.mp h
  refine equals_approximate_iff.mpr ⟨hshape, ?_⟩
  rw [sameContents_iff_forall₂] at hcontents ⊢
  exact hcontents.imp fun _ _ => Scalar.agrees_mono fun _ _ => t.nearNumber_of_sameNumber

/-- **Equality of arrays is reflexive and symmetric**, exactly and up to any tolerance. -/
theorem equals_reflexive_symmetric (store : Store) (a b : NdArray) :
    (a.equals .structural store a = true ∧
        (a.equals .structural store b = true ↔ b.equals .structural store a = true)) ∧
      ∀ t : Tolerance, a.equals (.approximate t) store a = true ∧
        (a.equals (.approximate t) store b = true ↔ b.equals (.approximate t) store a = true) := by
  refine ⟨⟨?_, ?_⟩, fun t => ⟨?_, ?_⟩⟩
  · exact equals_structural_iff.mpr ⟨rfl, sameContents_refl sameNumber_refl store a⟩
  · rw [equals_structural_iff, equals_structural_iff, sameContents_comm sameNumber_comm,
      eq_comm (a := a.shape)]
  · exact equals_approximate_iff.mpr ⟨rfl, sameContents_refl t.nearNumber_refl store a⟩
  · rw [equals_approximate_iff, equals_approximate_iff, sameContents_comm t.nearNumber_comm,
      eq_comm (a := a.shape)]

end NdArray

end ArrayExchange
