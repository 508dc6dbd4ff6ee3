import ArrayExchange.Binary.Rounding

/-!
# Comparing numbers

Equality of numbers does not see the sign of a zero, and a NaN equals nothing.  A number without the
sign of its zero is determined by its place in the order.  The distance of two numbers and the larger
of two magnitudes do not depend on which number comes first.

* `Binary.eq_of_code_eq` — equality of data.
* `Binary.numEq_iff`, `Binary.rank_eq_iff`, `Binary.numEq_iff_unsignedZero` — equality of numbers.
* `Binary.distance_comm`, `Binary.larger_comm` — distance and magnitude.
-/

namespace ArrayExchange

namespace Binary

variable {f : Format} {x y : Binary f}

/-- A datum is its sign and its code. -/
theorem eq_of_code_eq (hsign : x.negative = y.negative) (hcode : x.code = y.code) : x = y := by
  obtain ⟨s, c, hc⟩ := x
  obtain ⟨t, d, hd⟩ := y
  obtain rfl : s = t := hsign
  obtain rfl : c = d := hcode
  rfl

theorem numEq_iff : x.numEq y = true ↔ x.isNaN = false ∧ y.isNaN = false ∧ x.rank = y.rank := by
  simp [numEq, and_assoc]

/-- A number with the sign of a zero removed. -/
def unsignedZero (x : Binary f) : Binary f := if x.code = 0 then zero false else x

/-- Numbers have the same place in the order if they differ in the sign of a zero at most. -/
theorem rank_eq_iff : x.rank = y.rank ↔ x.unsignedZero = y.unsignedZero := by
  obtain ⟨s, c, hc⟩ := x
  obtain ⟨t, d, hd⟩ := y
  unfold rank unsignedZero zero
  -- among the zeros the rank has lost the sign, and among all other data it tells the sign
  cases s <;> cases t <;> grind

theorem isNaN_of_isFinite (h : x.isFinite = true) : x.isNaN = false := by
  have hlt : x.code < f.infinity := of_decide_eq_true h
  exact decide_eq_false (Nat.not_lt.mpr (Nat.le_of_lt hlt))

theorem numEq_iff_unsignedZero (hx : x.isNaN = false) (hy : y.isNaN = false) :
    x.numEq y = true ↔ x.unsignedZero = y.unsignedZero := by
  rw [numEq_iff, rank_eq_iff]
  simp [hx, hy]

theorem isFinite_unsignedZero (h : x.isFinite = true) : x.unsignedZero.isFinite = true := by
  unfold unsignedZero
  split
  · exact decide_eq_true (by cases f <;> decide)
  · exact h

/-! ### Distance and magnitude -/

theorem distance_comm (x y : Binary f) : x.distance y = y.distance x := by
  unfold distance
  rw [← Int.natAbs_neg, Int.neg_sub]

theorem numLe_abs (hx : x.isNaN = false) (hy : y.isNaN = false) :
    x.abs.numLe y.abs = decide (x.code ≤ y.code) := by
  have hx' : x.abs.isNaN = false := hx
  have hy' : y.abs.isNaN = false := hy
  have hrank : x.abs.rank ≤ y.abs.rank ↔ x.code ≤ y.code := Int.ofNat_le
  simp [numLe, hx', hy', hrank]

/-- Of two magnitudes it does not matter which one comes first. -/
theorem larger_comm (hx : x.isNaN = false) (hy : y.isNaN = false) :
    larger x.abs y.abs = larger y.abs x.abs := by
  have hequal : x.code = y.code → x.abs = y.abs := fun h => eq_of_code_eq rfl h
  unfold larger
  rw [numLe_abs hx hy, numLe_abs hy hx]
  rcases Nat.lt_trichotomy x.code y.code with h | h | h
  · simp [Nat.le_of_lt h, Nat.not_le.mpr h]
  · simp [h, hequal h]
  · simp [Nat.le_of_lt h, Nat.not_le.mpr h]

end Binary

end ArrayExchange
