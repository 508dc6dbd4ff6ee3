import ArrayExchange.NdArray.Construction
import Mathlib.Algebra.BigOperators.Group.List.Basic

/-!
# Products of extents

The product of a shape is formed from left to right, and it is given up as soon as it reaches the
limit.  A zero among the extents makes the product zero from there on, so nothing behind the first zero
can overflow; what stands in front of it can, although the product of all extents is zero.

* `Shape.leading` — the extents in front of the first zero.
* `Shape.count?_eq` — the product that is formed, or none, in closed form.
* `Shape.verdict_eq`, `Shape.verdict_of_pos` — the verdict on a shape, and on one without zeros.
* `Shape.judged` — the warning of a lenient construction and the error of a strict one say the same.
-/

namespace ArrayExchange

namespace Shape

variable {shape : Shape} {count : Nat}

/-! ### The product -/

/-- The extents in front of the first zero. -/
def leading (shape : Shape) : Shape := shape.takeWhile (· ≠ 0)

theorem leading_cons {extent : Nat} (h : extent ≠ 0) (rest : Shape) :
    leading (extent :: rest) = extent :: leading rest :=
  List.takeWhile_cons_of_pos (decide_eq_true h)

theorem leading_of_pos (h : 0 ∉ shape) : shape.leading = shape := by
  induction shape with
  | nil => rfl
  | cons extent rest ih =>
      have hne : extent ≠ 0 := fun e => h (e ▸ List.mem_cons_self)
      rw [leading_cons hne, ih fun hmem => h (List.mem_cons_of_mem extent hmem)]

theorem prod_leading_pos (shape : Shape) : 0 < shape.leading.prod := by
  induction shape with
  | nil => exact Nat.one_pos
  | cons extent rest ih =>
      by_cases hzero : extent = 0
      · subst hzero
        exact Nat.one_pos
      · rw [leading_cons hzero, List.prod_cons]
        exact Nat.mul_pos (Nat.pos_of_ne_zero hzero) ih

/-- From a zero on, the product stays zero. -/
theorem countFrom_zero (shape : Shape) : countFrom 0 shape = some 0 := by
  induction shape with
  | nil => rfl
  | cons extent rest ih =>
      rw [countFrom, Nat.zero_mul, if_pos (by decide), ih]

/-- The product is given up just when the extents in front of the first zero reach the limit. -/
theorem countFrom_eq {acc : Nat} (hpos : 0 < acc) (hlt : acc < countLimit) (shape : Shape) :
    countFrom acc shape =
      if acc * shape.leading.prod < countLimit then some (acc * shape.prod) else none := by
  induction shape generalizing acc with
  | nil =>
      have hone : acc * List.prod (leading []) = acc := Nat.mul_one acc
      rw [hone, if_pos hlt, List.prod_nil, Nat.mul_one]
      rfl
  | cons extent rest ih =>
      by_cases hzero : extent = 0
      · subst hzero
        have hone : acc * List.prod (leading (0 :: rest)) = acc := Nat.mul_one acc
        rw [hone, if_pos hlt, countFrom, Nat.mul_zero, if_pos (by decide), countFrom_zero,
          List.prod_cons, Nat.zero_mul, Nat.mul_zero]
      · rw [leading_cons hzero, List.prod_cons, List.prod_cons, ← Nat.mul_assoc, ← Nat.mul_assoc,
          countFrom]
        by_cases hstep : acc * extent < countLimit
        · rw [if_pos hstep, ih (Nat.mul_pos hpos (Nat.pos_of_ne_zero hzero)) hstep]
        · -- what comes behind is not zero, so the product does not get below the limit again
          have hrest : acc * extent ≤ acc * extent * (leading rest).prod :=
            Nat.le_mul_of_pos_right _ (prod_leading_pos rest)
          rw [if_neg hstep, if_neg (by omega)]

/-- **The product of a shape**, or none if it is given up. -/
theorem count?_eq (shape : Shape) :
    shape.count? = if shape.leading.prod < countLimit then some shape.prod else none := by
  rw [count?, countFrom_eq (by decide) (by decide), Nat.one_mul, Nat.one_mul]

/-! ### The verdict -/

/-- **The verdict on a shape** is about its product, unless the extents in front of the first zero
reach the limit. -/
theorem verdict_eq (shape : Shape) (count : Nat) :
    shape.verdict count =
      if countLimit ≤ shape.leading.prod then .overflow
      else if shape.prod = count then .covers
      else .mismatch shape.prod := by
  rw [verdict, count?_eq]
  by_cases h : countLimit ≤ shape.leading.prod
  · rw [if_neg (Nat.not_lt.mpr h), if_pos h]
  · rw [if_pos (Nat.lt_of_not_le h), if_neg h]

/-- Without a zero among the extents, the verdict is about the product alone. -/
theorem verdict_of_pos (h : 0 ∉ shape) (count : Nat) :
    shape.verdict count =
      if countLimit ≤ shape.prod then .overflow
      else if shape.prod = count then .covers
      else .mismatch shape.prod := by
  rw [verdict_eq, leading_of_pos h]

/-- One axis covers its extent. -/
theorem verdict_singleton (h : count < countLimit) : verdict [count] count = .covers := by
  have hprod : List.prod [count] = count := Nat.mul_one count
  have hleading : List.prod (leading [count]) < countLimit := by
    by_cases hzero : count = 0
    · subst hzero
      decide
    · rwa [leading_cons hzero, leading, List.takeWhile_nil, hprod]
  rw [verdict_eq, if_neg (Nat.not_le.mpr hleading), hprod, if_pos rfl]

/-! ### Warnings and errors -/

/-- What a lenient construction reports about a shape, and why a strict one refuses it. -/
inductive Judged (shape : Shape) (count : Nat) : List Event → Option ArrayError → Prop
  | covers : Judged shape count [] none
  | mismatch (expected : Nat) :
      Judged shape count [.shapeMismatch shape expected count] (some (.shapeMismatch expected count))
  | overflow : Judged shape count [.shapeOverflow shape count] (some .shapeOverflow)

/-- **Warnings and errors describe one condition.** -/
theorem judged (shape : Shape) (count : Nat) :
    shape.Judged count (shape.warnings count) (shape.fault? count) := by
  unfold warnings fault?
  cases shape.verdict count with
  | covers => exact .covers
  | mismatch expected => exact .mismatch expected
  | overflow => exact .overflow

end Shape

end ArrayExchange
