import ArrayExchange.Element.Conversion
import ArrayExchange.Proofs.Binary.Comparison
import ArrayExchange.Proofs.Binary.Nearest
import Mathlib.Algebra.Order.Field.Rat
import Mathlib.Tactic.FieldSimp
import Mathlib.Tactic.NormNum

/-!
# The exact number of a datum

A floating-point datum stands for a rational number, for one of two infinities, or for no number at all.
Two data that are no NaNs have one place in the order just when they stand for one number.  A number
whose significand is short enough is the number of a datum, and rounding finds the datum: integers of a
few dozen bits, and every datum of the smaller format, are rounded to data that stand for themselves.

* `ExactNumber`, `Binary.exact` — the number of a datum.
* `Format.exists_code` — short significands are those of codes.
* `Format.nearestCode_units`, `Format.units_injective` — a value is rounded to its code.
* `Binary.rank_eq_iff_exact` — the order tells numbers apart.
* `Binary.exact_ofRatio`, `Binary.exact_ofInt`, `Binary.exact_widen` — rounding that changes nothing.
* `Format.nearestCode_lt_infinity`, `Binary.isFinite_ofInt` — rounding that stays finite.
-/

namespace ArrayExchange

/-- What a datum stands for.  The sign of a zero does not count, and all NaNs are one. -/
inductive ExactNumber where
  | nan
  | infinite (negative : Bool)
  | finite (value : ℚ)
  deriving DecidableEq

namespace Format

variable {f : Format}

/-! ### Codes of given values -/

theorem infinity_eq (f : Format) : f.infinity = f.infinity / f.hiddenBit * f.hiddenBit := by
  cases f <;> decide

theorem units_of_lt {code : Nat} (h : code < 2 * f.hiddenBit) : f.units code = code := by
  have hsign := f.hiddenBit_pos
  have hscale : f.scale code = 0 := by
    have hdiv : code / f.hiddenBit < 2 := Nat.div_lt_of_lt_mul (by rwa [Nat.mul_comm])
    unfold scale
    omega
  have hcode := f.code_eq code
  rw [hscale, Nat.zero_mul, Nat.zero_add] at hcode
  show f.significand code * Nat.pow 2 (f.scale code) = code
  rw [hscale, hcode]
  exact Nat.mul_one code

theorem units_of_steps {m s : Nat} (hlow : f.hiddenBit ≤ m) (hhigh : m < 2 * f.hiddenBit) :
    f.units (s * f.hiddenBit + m) = m * 2 ^ s := by
  have hsign := f.hiddenBit_pos
  obtain ⟨r, rfl⟩ : ∃ r, m = f.hiddenBit + r := ⟨m - f.hiddenBit, by omega⟩
  have hr : r < f.hiddenBit := by omega
  have hcode : s * f.hiddenBit + (f.hiddenBit + r) = f.hiddenBit * (s + 1) + r := by ring
  have hdiv : (f.hiddenBit * (s + 1) + r) / f.hiddenBit = s + 1 := by
    rw [Nat.mul_add_div hsign, Nat.div_eq_of_lt hr, Nat.add_zero]
  have hmod : (f.hiddenBit * (s + 1) + r) % f.hiddenBit = r := by
    rw [Nat.mul_add_mod, Nat.mod_eq_of_lt hr]
  have hge : ¬ f.hiddenBit * (s + 1) + r < f.hiddenBit := by
    have := Nat.le_mul_of_pos_right f.hiddenBit (Nat.succ_pos s)
    omega
  rw [hcode]
  show f.significand _ * 2 ^ f.scale _ = _
  rw [significand, if_neg hge, hmod, scale, hdiv, Nat.add_sub_cancel]

/-- **A short significand is that of a code**, if the scale is not out of range. -/
theorem exists_code (f : Format) {m s : Nat} (hm : m < 2 * f.hiddenBit)
    (hs : s + 2 ≤ f.infinity / f.hiddenBit) : ∃ code, code < f.infinity ∧ f.units code = m * 2 ^ s := by
  have hlimit : (s + 2) * f.hiddenBit ≤ f.infinity := by
    rw [f.infinity_eq]
    exact Nat.mul_le_mul_right _ hs
  induction s generalizing m with
  | zero =>
      refine ⟨m, by omega, ?_⟩
      rw [units_of_lt hm, pow_zero, Nat.mul_one]
  | succ s ih =>
      by_cases hlow : f.hiddenBit ≤ m
      · refine ⟨(s + 1) * f.hiddenBit + m, ?_, units_of_steps hlow hm⟩
        have hsplit : (s + 1 + 2) * f.hiddenBit = (s + 1) * f.hiddenBit + 2 * f.hiddenBit := by ring
        omega
      · -- a leading zero of the significand makes up for one step of the scale
        have hstep : (s + 2) * f.hiddenBit ≤ (s + 1 + 2) * f.hiddenBit :=
          Nat.mul_le_mul_right _ (by omega)
        obtain ⟨code, hcode, hunits⟩ := ih (m := 2 * m) (by omega) (by omega) (hstep.trans hlimit)
        refine ⟨code, hcode, ?_⟩
        rw [hunits, pow_succ]
        ring

/-! ### Fractions in reach -/

theorem roundHalfEven_le (num den : Nat) : roundHalfEven num den ≤ num / den + 1 := by
  unfold roundHalfEven
  split <;> omega

/-- **Fractions below a power of two in range** are not rounded to the infinity. -/
theorem nearestCode_lt_infinity (f : Format) {num den s : Nat} (hden : 0 < den)
    (h : num < 2 * f.hiddenBit * (den * 2 ^ s)) (hs : s + 3 ≤ f.infinity / f.hiddenBit) :
    f.nearestCode num den < f.infinity := by
  have hquot : ∀ k, num / den < 2 ^ (f.fractionBits + 1 + k) ↔
      num < 2 * f.hiddenBit * (den * 2 ^ k) := by
    intro k
    rw [Nat.div_lt_iff_lt_mul hden, ← f.significands_mul_pow, Nat.mul_assoc, Nat.mul_comm (2 ^ k)]
  -- the shift is no larger than the power, and the shifted fraction is a significand
  generalize hshift : (num / den).log2 - f.fractionBits = shift
  have hlog : (num / den).log2 < f.fractionBits + 1 + s := by
    rcases Nat.eq_zero_or_pos (num / den) with hzero | hpos
    · rw [hzero, Nat.log2_zero]
      omega
    · exact (Nat.log2_lt hpos.ne').mpr ((hquot s).mpr h)
  have hsignificand : num / (den * 2 ^ shift) < 2 * f.hiddenBit := by
    rw [Nat.div_lt_iff_lt_mul (Nat.mul_pos hden (Nat.two_pow_pos shift)), ← hquot]
    exact Nat.lt_log2_self.trans_le (Nat.pow_le_pow_right (by decide) (by omega))
  have hround := roundHalfEven_le num (den * 2 ^ shift)
  have hsteps : (shift + 3) * f.hiddenBit ≤ f.infinity := by
    rw [f.infinity_eq]
    exact Nat.mul_le_mul_right _ (by omega)
  have hH := f.hiddenBit_pos
  unfold nearestCode
  rw [hshift]
  apply Nat.lt_of_le_of_lt (Nat.min_le_left _ _)
  show shift * f.hiddenBit + roundHalfEven num (den * 2 ^ shift) < f.infinity
  rw [Nat.add_mul] at hsteps
  omega

/-! ### Values are rounded to their codes -/

theorem units_pos {code : Nat} (h : 0 < code) : 0 < f.units code :=
  Nat.mul_pos (f.significand_pos h) (Nat.pow_pos (by decide))

theorem units_zero (f : Format) : f.units 0 = 0 := by cases f <;> rfl

/-- **A value is rounded to its code.** -/
theorem nearestCode_units {code den : Nat} (h : code < f.infinity) (hden : 0 < den) :
    f.nearestCode (f.units code * den) den = code := by
  rcases Nat.eq_zero_or_pos code with rfl | hpos
  · rw [f.units_zero, Nat.zero_mul]
    exact f.nearestCode_of_tiny (by omega)
  · have hvalue : 0 < f.units code * den := Nat.mul_pos (units_pos hpos) hden
    refine f.nearestCode_of_near h hden ?_ ?_
    · rw [Nat.add_mul, Nat.one_mul]
      omega
    · omega

theorem units_injective {code code' : Nat} (h : code < f.infinity) (h' : code' < f.infinity)
    (e : f.units code = f.units code') : code = code' := by
  rw [← nearestCode_units h Nat.one_pos, e, nearestCode_units h' Nat.one_pos]

theorem unitsInOne_pos (f : Format) : 0 < f.unitsInOne := Nat.pow_pos (by decide)

theorem unitsInOne_of_unitExponent {g : Format} {k : Nat}
    (h : g.unitExponent = k + f.unitExponent) : g.unitsInOne = 2 ^ k * f.unitsInOne := by
  rw [unitsInOne, h]
  exact Nat.pow_add 2 k f.unitExponent

/-- A value of one format in the units of another one. -/
theorem units_mul_unitsInOne {g : Format} {k : Nat} (h : g.unitExponent = k + f.unitExponent)
    (code : Nat) : f.units code * g.unitsInOne =
      f.significand code * 2 ^ (f.scale code + k) * f.unitsInOne := by
  rw [unitsInOne_of_unitExponent h, pow_add, ← Nat.mul_assoc, ← Nat.mul_assoc]
  rfl

end Format

namespace Binary

variable {f : Format} {x y : Binary f}

/-- The number that a datum stands for. -/
def exact (x : Binary f) : ExactNumber :=
  if x.isNaN then .nan
  else if x.isInfinite then .infinite x.negative
  else .finite ((x.signedUnits : ℚ) / f.unitsInOne)

/-! ### Classes -/

theorem exact_of_isNaN (h : x.isNaN = true) : x.exact = .nan := by
  rw [exact, if_pos h]

theorem isNaN_of_isInfinite (h : x.isInfinite = true) : x.isNaN = false := by
  have hcode : x.code = f.infinity := of_decide_eq_true h
  exact decide_eq_false (by omega)

theorem exact_of_isInfinite (h : x.isInfinite = true) : x.exact = .infinite x.negative := by
  rw [exact, isNaN_of_isInfinite h, if_pos h]
  rfl

theorem exact_of_isFinite (h : x.isFinite = true) :
    x.exact = .finite ((x.signedUnits : ℚ) / f.unitsInOne) := by
  have hcode : x.code < f.infinity := of_decide_eq_true h
  have hinf : x.isInfinite = false := decide_eq_false (by omega)
  rw [exact, isNaN_of_isFinite h, hinf]
  rfl

/-- A datum that is no NaN is infinite or finite. -/
theorem isInfinite_or_isFinite (h : x.isNaN = false) : x.isInfinite = true ∨ x.isFinite = true := by
  have hcode : ¬ f.infinity < x.code := of_decide_eq_false h
  rcases Nat.lt_or_ge x.code f.infinity with hlt | hge
  · exact .inr (decide_eq_true hlt)
  · exact .inl (decide_eq_true (by omega))

theorem exact_ne_nan (h : x.isNaN = false) : x.exact ≠ .nan := by
  rcases isInfinite_or_isFinite h with hinf | hfin
  · rw [exact_of_isInfinite hinf]
    nofun
  · rw [exact_of_isFinite hfin]
    nofun

/-! ### The order tells numbers apart -/

theorem rank_eq_iff_signedUnits (hx : x.isFinite = true) (hy : y.isFinite = true) :
    x.rank = y.rank ↔ x.signedUnits = y.signedUnits := by
  have hxcode : x.code < f.infinity := of_decide_eq_true hx
  have hycode : y.code < f.infinity := of_decide_eq_true hy
  have hunits : f.units x.code = f.units y.code ↔ x.code = y.code :=
    ⟨Format.units_injective hxcode hycode, fun e => by rw [e]⟩
  have hzero : ∀ code, f.units code = 0 ↔ code = 0 := by
    intro code
    rcases Nat.eq_zero_or_pos code with rfl | hpos
    · simp [f.units_zero]
    · have := Format.units_pos (f := f) hpos
      omega
  have hxzero := hzero x.code
  have hyzero := hzero y.code
  unfold rank signedUnits
  cases x.negative <;> cases y.negative <;> simp only [Bool.false_eq_true, if_true, if_false] <;> omega

/-- **The order tells numbers apart**, and nothing else. -/
theorem rank_eq_iff_exact (hx : x.isNaN = false) (hy : y.isNaN = false) :
    x.rank = y.rank ↔ x.exact = y.exact := by
  have hone : (f.unitsInOne : ℚ) ≠ 0 := Nat.cast_ne_zero.mpr f.unitsInOne_pos.ne'
  have hpos : 0 < f.infinity := by cases f <;> decide
  rcases isInfinite_or_isFinite hx with hxi | hxf
  · have hxcode : x.code = f.infinity := of_decide_eq_true hxi
    rcases isInfinite_or_isFinite hy with hyi | hyf
    · have hycode : y.code = f.infinity := of_decide_eq_true hyi
      rw [exact_of_isInfinite hxi, exact_of_isInfinite hyi, ExactNumber.infinite.injEq]
      unfold rank
      cases x.negative <;> cases y.negative <;> simp <;> omega
    · have hycode : y.code < f.infinity := of_decide_eq_true hyf
      rw [exact_of_isInfinite hxi, exact_of_isFinite hyf]
      unfold rank
      cases x.negative <;> cases y.negative <;> simp <;> omega
  · have hxcode : x.code < f.infinity := of_decide_eq_true hxf
    rcases isInfinite_or_isFinite hy with hyi | hyf
    · have hycode : y.code = f.infinity := of_decide_eq_true hyi
      rw [exact_of_isFinite hxf, exact_of_isInfinite hyi]
      unfold rank
      cases x.negative <;> cases y.negative <;> simp <;> omega
    · rw [rank_eq_iff_signedUnits hxf hyf, exact_of_isFinite hxf, exact_of_isFinite hyf,
        ExactNumber.finite.injEq, div_left_inj' hone, Int.cast_inj]

/-! ### Rounding that changes nothing -/

/-- **A fraction with a short significand** is the number of the datum it is rounded to. -/
theorem exact_ofRatio {negative : Bool} {num den m s : Nat} (hden : 0 < den)
    (hnum : num * f.unitsInOne = m * 2 ^ s * den) (hm : m < 2 * f.hiddenBit)
    (hs : s + 2 ≤ f.infinity / f.hiddenBit) :
    (ofRatio negative num den : Binary f).exact =
      .finite (if negative then -(num / den : ℚ) else num / den) := by
  obtain ⟨code, hcode, hunits⟩ := f.exists_code hm hs
  have hfound : (ofRatio negative num den : Binary f).code = code := by
    show f.nearestCode (num * f.unitsInOne) den = code
    rw [hnum, ← hunits, Format.nearestCode_units hcode hden]
  have hfinite : (ofRatio negative num den : Binary f).isFinite = true :=
    decide_eq_true (by rwa [hfound])
  have hden' : (den : ℚ) ≠ 0 := Nat.cast_ne_zero.mpr hden.ne'
  have hone : (f.unitsInOne : ℚ) ≠ 0 := Nat.cast_ne_zero.mpr f.unitsInOne_pos.ne'
  have hvalue : (f.units code : ℚ) / f.unitsInOne = num / den := by
    rw [div_eq_div_iff hone hden', hunits]
    exact_mod_cast hnum.symm
  rw [exact_of_isFinite hfinite, signedUnits, hfound, ← hvalue]
  show ExactNumber.finite (((if negative then _ else _ : Int) : ℚ) / _) = _
  cases negative with
  | false => simp
  | true => simp [neg_div]

/-- An integer is its magnitude, with a sign if it is negative. -/
theorem cast_of_sign (n : Int) :
    (if decide (n < 0) = true then -(n.natAbs : ℚ) else n.natAbs) = n := by
  rcases Int.lt_or_le n 0 with hneg | hnonneg
  · rw [if_pos (decide_eq_true hneg), ← Int.cast_natCast, Int.ofNat_natAbs_of_nonpos hneg.le,
      Int.cast_neg, neg_neg]
  · rw [if_neg (by simpa using hnonneg), ← Int.cast_natCast, Int.natAbs_of_nonneg hnonneg]

/-- **Integers with a short significand** are numbers of data. -/
theorem exact_ofInt_of_significand {n : Int} {m s : Nat} (hn : n.natAbs = m * 2 ^ s)
    (hm : m < 2 * f.hiddenBit) (hs : f.unitExponent + s + 2 ≤ f.infinity / f.hiddenBit) :
    (ofInt n : Binary f).exact = .finite n := by
  have hnum : n.natAbs * f.unitsInOne = m * 2 ^ (f.unitExponent + s) * 1 := by
    rw [hn, Format.unitsInOne, Nat.mul_one, Nat.add_comm, pow_add, ← Nat.mul_assoc]
    rfl
  have hexact : (ofRatio (decide (n < 0)) n.natAbs 1 : Binary f).exact = _ :=
    exact_ofRatio Nat.one_pos hnum hm hs
  rw [ofInt, hexact, Nat.cast_one, div_one, cast_of_sign]

/-- **Integers that are not too long** are numbers of data. -/
theorem exact_ofInt {n : Int} (h : n.natAbs < 2 * f.hiddenBit) :
    (ofInt n : Binary f).exact = .finite n := by
  have hs : f.unitExponent + 0 + 2 ≤ f.infinity / f.hiddenBit := by cases f <;> decide
  exact exact_ofInt_of_significand (s := 0) (Nat.mul_one _).symm h hs

/-- The larger format has the scales and the significands of the smaller one. -/
theorem exact_convert {x : Binary32} (h : x.isFinite = true) :
    (x.convert .double).exact = x.exact := by
  have hcode : x.code < Format.single.infinity := of_decide_eq_true h
  have hinf : x.isInfinite = false := decide_eq_false (by omega)
  have hnum := Format.units_mul_unitsInOne (f := .single) (g := .double) (k := 925) rfl x.code
  have hm : Format.single.significand x.code < 2 * Format.double.hiddenBit :=
    (Format.single.significand_lt x.code).trans (by decide)
  have hs : Format.single.scale x.code + 925 + 2 ≤
      Format.double.infinity / Format.double.hiddenBit := by
    simp only [Format.scale, Format.infinity, Format.hiddenBit] at hcode ⊢
    omega
  rw [convert, isNaN_of_isFinite h, hinf]
  refine (exact_ofRatio Format.single.unitsInOne_pos hnum hm hs).trans ?_
  rw [exact_of_isFinite h, signedUnits]
  cases x.negative with
  | false => simp
  | true => simp [neg_div]

/-- Integers in range of the powers of two are not rounded to an infinity. -/
theorem isFinite_ofInt {f : Format} {n : Int} {s : Nat}
    (h : n.natAbs < 2 * f.hiddenBit * 2 ^ s)
    (hs : f.unitExponent + s + 3 ≤ f.infinity / f.hiddenBit) : (ofInt n : Binary f).isFinite = true := by
  apply decide_eq_true
  apply f.nearestCode_lt_infinity Nat.one_pos (s := f.unitExponent + s) _ hs
  rw [Nat.one_mul, pow_add, Nat.mul_comm (2 ^ f.unitExponent), ← Nat.mul_assoc]
  exact Nat.mul_lt_mul_of_pos_right h f.unitsInOne_pos

/-- **Every 32-bit datum is a 64-bit datum.** -/
theorem exact_widen (x : Binary f) : x.widen.exact = x.exact := by
  cases f with
  | double => rfl
  | single =>
      show (x.convert .double).exact = x.exact
      cases hnan : x.isNaN with
      | true =>
          rw [exact_of_isNaN hnan, convert, if_pos hnan]
          rfl
      | false =>
          rcases isInfinite_or_isFinite hnan with hinf | hfin
          · rw [exact_of_isInfinite hinf, convert, hnan, if_pos hinf]
            rfl
          · exact exact_convert hfin

end Binary

end ArrayExchange
