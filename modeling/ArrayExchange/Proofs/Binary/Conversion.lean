import ArrayExchange.Proofs.Binary.Exact

/-!
# Conversion that changes nothing

A datum is determined by its number and its sign, the NaNs apart.  Conversion keeps the sign, and it
finds the datum of the other format that stands for the same number if there is one.  So a 32-bit datum
that was widened is found again, and an integer that was rounded to itself is cut off to itself.

* `Binary.isFinite_of_exact`, `Binary.isInfinite_of_exact` — the class of a datum by its number.
* `Binary.convert_eq` — conversion to a datum of the same number.
* `Binary.narrow_widen` — a datum that was widened.
* `Binary.truncateWithin_of_exact` — an integer in range.
-/

namespace ArrayExchange

namespace Binary

variable {f g : Format} {x : Binary f} {y : Binary g}

/-! ### Classes -/

theorem isFinite_of_exact {q : ℚ} (h : x.exact = .finite q) : x.isFinite = true := by
  cases hnan : x.isNaN with
  | true =>
      rw [exact_of_isNaN hnan] at h
      cases h
  | false =>
      rcases isInfinite_or_isFinite hnan with hinf | hfin
      · rw [exact_of_isInfinite hinf] at h
        cases h
      · exact hfin

theorem isInfinite_of_exact {negative : Bool} (h : x.exact = .infinite negative) :
    x.isInfinite = true := by
  cases hnan : x.isNaN with
  | true =>
      rw [exact_of_isNaN hnan] at h
      cases h
  | false =>
      rcases isInfinite_or_isFinite hnan with hinf | hfin
      · exact hinf
      · rw [exact_of_isFinite hfin] at h
        cases h

theorem isInfinite_of_isFinite (h : x.isFinite = true) : x.isInfinite = false := by
  have hcode : x.code < f.infinity := of_decide_eq_true h
  exact decide_eq_false (by omega)

theorem eq_infinity (h : x.isInfinite = true) : x = infinity x.negative :=
  eq_of_code_eq rfl (of_decide_eq_true h)

/-! ### From one format to the other -/

theorem convert_of_isNaN (h : x.isNaN = true) (g : Format) : x.convert g = nan := if_pos h

theorem convert_of_isFinite (h : x.isFinite = true) (g : Format) :
    x.convert g = ofRatio x.negative (f.units x.code) f.unitsInOne := by
  rw [convert, isNaN_of_isFinite h, isInfinite_of_isFinite h]
  rfl

/-- Conversion makes no NaN of a number, however large. -/
theorem isNaN_convert (x : Binary f) (g : Format) : (x.convert g).isNaN = x.isNaN := by
  cases h : x.isNaN with
  | true =>
      rw [convert_of_isNaN h]
      exact decide_eq_true g.infinity_lt_quietNaN
  | false =>
      rw [convert, h]
      cases x.isInfinite with
      | true => exact decide_eq_false (Nat.lt_irrefl g.infinity)
      | false => exact decide_eq_false (Nat.not_lt.mpr (g.nearestCode_le _ _))

/-- Conversion keeps the sign. -/
theorem negative_convert (h : x.isNaN = false) (g : Format) : (x.convert g).negative = x.negative := by
  rw [convert, h]
  cases x.isInfinite <;> rfl

theorem natAbs_signedUnits (x : Binary f) : x.signedUnits.natAbs = f.units x.code := by
  unfold signedUnits
  split
  · rw [Int.natAbs_neg, Int.natAbs_natCast]
  · rw [Int.natAbs_natCast]

/-- Data of one number have the same magnitude, each counted in the units of the other one's format. -/
theorem units_eq_of_exact (hx : x.isFinite = true) (hy : y.isFinite = true) (h : y.exact = x.exact) :
    g.units y.code * f.unitsInOne = f.units x.code * g.unitsInOne := by
  have hf : (f.unitsInOne : ℚ) ≠ 0 := Nat.cast_ne_zero.mpr f.unitsInOne_pos.ne'
  have hg : (g.unitsInOne : ℚ) ≠ 0 := Nat.cast_ne_zero.mpr g.unitsInOne_pos.ne'
  rw [exact_of_isFinite hx, exact_of_isFinite hy, ExactNumber.finite.injEq,
    div_eq_div_iff hg hf] at h
  have hsigned : y.signedUnits * f.unitsInOne = x.signedUnits * g.unitsInOne := by exact_mod_cast h
  have habs := congrArg Int.natAbs hsigned
  rwa [Int.natAbs_mul, Int.natAbs_mul, Int.natAbs_natCast, Int.natAbs_natCast, natAbs_signedUnits,
    natAbs_signedUnits] at habs

/-- **Conversion finds the datum of the same number**, if the other format has one. -/
theorem convert_eq (hx : x.isNaN = false) (h : y.exact = x.exact) (hsign : y.negative = x.negative) :
    y.convert f = x := by
  rcases isInfinite_or_isFinite hx with hinf | hfin
  · rw [exact_of_isInfinite hinf] at h
    have hyinf := isInfinite_of_exact h
    rw [convert, isNaN_of_isInfinite hyinf, hyinf, hsign]
    exact (eq_infinity hinf).symm
  · have hyfin : y.isFinite = true := by
      rw [exact_of_isFinite hfin] at h
      exact isFinite_of_exact h
    have hcode : x.code < f.infinity := of_decide_eq_true hfin
    have hfound : f.nearestCode (g.units y.code * f.unitsInOne) g.unitsInOne = x.code := by
      rw [units_eq_of_exact hfin hyfin h, Format.nearestCode_units hcode g.unitsInOne_pos]
    rw [convert_of_isFinite hyfin]
    exact eq_of_code_eq hsign hfound

/-! ### To the larger format and back -/

theorem negative_widen (h : x.isNaN = false) : x.widen.negative = x.negative := by
  cases f with
  | single => exact negative_convert h .double
  | double => rfl

theorem isNaN_widen (x : Binary f) : x.widen.isNaN = x.isNaN := by
  cases f with
  | single => exact isNaN_convert x .double
  | double => rfl

theorem isNaN_narrow (f : Format) (x : Binary64) : (narrow f x).isNaN = x.isNaN := by
  cases f with
  | single => exact isNaN_convert x .single
  | double => rfl

/-- **A datum that was widened is found again.** -/
theorem narrow_widen (h : x.isNaN = false) : narrow f x.widen = x := by
  cases f with
  | single => exact convert_eq h (exact_widen x) (negative_widen h)
  | double => rfl

/-! ### Integers -/

/-- **An integer in range** is cut off to itself. -/
theorem truncateWithin_of_exact {lo hi n : Int} (h : x.exact = .finite n) (hlo : lo ≤ n)
    (hhi : n ≤ hi) : x.truncateWithin lo hi = n := by
  have hfin := isFinite_of_exact h
  have hone : (f.unitsInOne : ℚ) ≠ 0 := Nat.cast_ne_zero.mpr f.unitsInOne_pos.ne'
  rw [exact_of_isFinite hfin, ExactNumber.finite.injEq, div_eq_iff hone] at h
  have hunits : x.signedUnits = n * f.unitsInOne := by exact_mod_cast h
  have htruncate : x.truncate = n := by
    rw [truncate, hunits]
    exact Int.mul_tdiv_cancel n (Int.natCast_ne_zero.mpr f.unitsInOne_pos.ne')
  rw [truncateWithin, isNaN_of_isFinite hfin, isInfinite_of_isFinite hfin, htruncate]
  simp only [Bool.false_eq_true, if_false]
  omega

end Binary

end ArrayExchange
