import ArrayExchange.Proofs.Binary.Conversion
import ArrayExchange.Proofs.Binary.Halfway
import Mathlib.Data.Rat.Floor

/-!
# Numbers cut off and brought into a range

A number becomes an integer of a range in two steps: it is cut off toward zero, and what lies outside the
range is replaced by the end that is nearer.  On data this is done by whole division of units; here it is
said of the exact number, with which it agrees.

An integer is rounded to a datum first.  Rounding does not cross the value of any code, so an integer that
is too long for a significand stays beyond every short range, on the side where it was.

* `ExactNumber.cutOff`, `ExactNumber.truncateWithin` — the two steps on exact numbers.
* `Binary.truncateWithin_eq_exact` — a datum is treated as its exact number.
* `Binary.truncateWithin_ofInt` — an integer is treated as itself, although it is rounded first.
-/

namespace ArrayExchange

/-! ### Exact numbers -/

namespace ExactNumber

/-- A rational number without its fraction. -/
def cutOff (q : ℚ) : Int := if 0 ≤ q then ⌊q⌋ else ⌈q⌉

/-- The integer of a range that a number is stored as: the number cut off, or the end of the range beyond
which it lies.  No number at all is stored as `0`. -/
def truncateWithin (lo hi : Int) : ExactNumber → Int
  | nan => 0
  | infinite negative => if negative then lo else hi
  | finite q => max lo (min hi (cutOff q))

theorem cutOff_intCast (n : Int) : cutOff n = n := by
  unfold cutOff
  rw [Int.floor_intCast, Int.ceil_intCast, ite_self]

/-- A fraction is cut off by whole division. -/
theorem cutOff_div (n : Int) {d : Nat} (hd : 0 < d) : cutOff (n / d) = n.tdiv d := by
  have hd' : (0 : ℚ) < d := Nat.cast_pos.mpr hd
  have hsign : (0 : ℚ) ≤ n / d ↔ 0 ≤ n := by
    rw [le_div_iff₀ hd', zero_mul, Int.cast_nonneg_iff]
  unfold cutOff
  rcases Int.lt_or_le n 0 with hneg | hnonneg
  · have hpos : 0 ≤ -n := by omega
    rw [if_neg (by rw [hsign]; omega), Rat.ceil_intCast_div_natCast, ← Int.tdiv_eq_ediv_of_nonneg hpos,
      Int.neg_tdiv, Int.neg_neg]
  · rw [if_pos (hsign.mpr hnonneg), Rat.floor_intCast_div_natCast, Int.tdiv_eq_ediv_of_nonneg hnonneg]

end ExactNumber

/-! ### Data -/

namespace Binary

variable {f : Format} {lo hi : Int}

/-- **A datum is cut off as its exact number is.** -/
theorem truncateWithin_eq_exact (x : Binary f) :
    x.truncateWithin lo hi = x.exact.truncateWithin lo hi := by
  cases hnan : x.isNaN with
  | true =>
      rw [exact_of_isNaN hnan, truncateWithin, if_pos hnan]
      rfl
  | false =>
      rcases isInfinite_or_isFinite hnan with hinf | hfin
      · rw [exact_of_isInfinite hinf, truncateWithin, hnan, hinf]
        rfl
      · have hcut := ExactNumber.cutOff_div x.signedUnits f.unitsInOne_pos
        rw [exact_of_isFinite hfin, truncateWithin, hnan, isInfinite_of_isFinite hfin]
        show max lo (min hi x.truncate) = max lo (min hi (ExactNumber.cutOff _))
        rw [hcut]
        rfl

/-- An integer that is too long for a significand is not rounded to a shorter one. -/
theorem units_ofInt_of_long {n : Int} (h : 2 * f.hiddenBit ≤ n.natAbs)
    (hs : f.unitExponent + 3 ≤ f.infinity / f.hiddenBit) :
    2 * f.hiddenBit * f.unitsInOne ≤ f.units (ofInt n : Binary f).code := by
  obtain ⟨code, hcode, hunits⟩ := f.exists_code (m := f.hiddenBit) (s := f.unitExponent + 1)
    (by have := f.hiddenBit_pos; omega) hs
  have hvalue : f.units code = 2 * f.hiddenBit * f.unitsInOne := by
    rw [hunits, pow_succ, Format.unitsInOne]
    show _ = 2 * f.hiddenBit * 2 ^ f.unitExponent
    ring
  have hreach : f.units code * 1 ≤ n.natAbs * f.unitsInOne := by
    rw [hvalue, Nat.mul_one]
    exact Nat.mul_le_mul_right _ h
  rw [← hvalue]
  exact Format.units_mono (Format.le_nearestCode Nat.one_pos hcode.le hreach)

/-- **An integer is brought into a short range as itself**, whatever it is rounded to on the way. -/
theorem truncateWithin_ofInt {n : Int} (hfin : (ofInt n : Binary f).isFinite = true)
    (hs : f.unitExponent + 3 ≤ f.infinity / f.hiddenBit) (hlo : -(2 * f.hiddenBit : Nat) ≤ lo)
    (hhi : hi ≤ (2 * f.hiddenBit : Nat)) :
    (ofInt n : Binary f).truncateWithin lo hi = max lo (min hi n) := by
  rcases Nat.lt_or_ge n.natAbs (2 * f.hiddenBit) with hshort | hlong
  · rw [truncateWithin_eq_exact, exact_ofInt hshort]
    show max lo (min hi (ExactNumber.cutOff n)) = _
    rw [ExactNumber.cutOff_intCast]
  · -- beyond the range before rounding, and beyond it on the same side afterwards
    have hone : 0 < f.unitsInOne := f.unitsInOne_pos
    have hunits := units_ofInt_of_long hlong hs
    have hcut : 2 * f.hiddenBit ≤ f.units (ofInt n : Binary f).code / f.unitsInOne :=
      (Nat.le_div_iff_mul_le hone).mpr hunits
    have htruncate : (ofInt n : Binary f).truncate =
        if n < 0 then -((f.units (ofInt n : Binary f).code / f.unitsInOne : Nat) : Int)
        else (f.units (ofInt n : Binary f).code / f.unitsInOne : Nat) := by
      show (if decide (n < 0) = true then _ else _ : Int).tdiv f.unitsInOne = _
      by_cases hneg : n < 0
      · rw [if_pos (decide_eq_true hneg), if_pos hneg, Int.neg_tdiv]
        rfl
      · rw [if_neg (by simpa using hneg), if_neg hneg]
        rfl
    rw [truncateWithin, isNaN_of_isFinite hfin, isInfinite_of_isFinite hfin, htruncate]
    generalize f.units (ofInt n : Binary f).code / f.unitsInOne = whole at hcut
    simp only [Bool.false_eq_true, if_false]
    split <;> omega

end Binary

end ArrayExchange
