import ArrayExchange.Proofs.Binary.Exact
import Mathlib.Order.Monotone.Basic

/-!
# Rounding is decided half-way

The values of the codes make up a ladder, whose rungs are as far apart as the scale of the lower one says.
A fraction is rounded to a code or a lower one just if it has not passed the middle between the value of
the code and the next rung.  On the middle itself the code has to be even.

So rounding keeps the order, and it does not cross a value: a fraction up to the value of a code is not
rounded to a higher code, and one from that value on not to a lower code.

* `Format.units_succ`, `Format.units_strictMono` — the next rung, and codes grow with values.
* `Format.roundHalfEven_le_iff` — rounding to a whole number, decided at a middle.
* `Format.nearestCode_le_iff` — rounding to a code, decided at a middle.
* `Format.le_nearestCode` — rounding does not cross a value.
-/

namespace ArrayExchange

namespace Format

variable {f : Format} {code num den : Nat}

/-! ### The rungs -/

/-- The next value is one step of the scale higher. -/
theorem units_succ (f : Format) (code : Nat) :
    f.units (code + 1) = (f.significand code + 1) * 2 ^ f.scale code := by
  have hsplit := f.code_eq code
  have hsignificand := f.significand_lt code
  have hH := f.hiddenBit_pos
  rcases Nat.lt_or_ge (f.significand code + 1) f.hiddenBit with hshort | hleading
  · -- without a hidden bit the scale is the lowest
    have hscale : f.scale code = 0 := by
      by_contra hne
      have := f.hiddenBit_le_significand code hne
      omega
    rw [hscale, Nat.zero_mul] at hsplit
    rw [hscale, pow_zero, Nat.mul_one, units_of_lt (by omega)]
    omega
  · rcases Nat.lt_or_ge (f.significand code + 1) (2 * f.hiddenBit) with hlt | hge
    · rw [← units_of_steps hleading hlt, ← Nat.add_assoc, hsplit]
    · -- the carry leaves the significand, and one step of the scale makes up for it
      have hcarry : code + 1 = (f.scale code + 1) * f.hiddenBit + f.hiddenBit := by
        rw [Nat.add_mul]
        omega
      have htop : f.significand code + 1 = 2 * f.hiddenBit := by omega
      rw [htop]
      calc f.units (code + 1)
          = f.units ((f.scale code + 1) * f.hiddenBit + f.hiddenBit) := congrArg f.units hcarry
        _ = f.hiddenBit * 2 ^ (f.scale code + 1) := units_of_steps (Nat.le_refl _) (by omega)
        _ = 2 * f.hiddenBit * 2 ^ f.scale code := by rw [pow_succ]; ring

/-- **Codes grow with values.** -/
theorem units_strictMono (f : Format) : StrictMono f.units := by
  apply strictMono_nat_of_lt_succ
  intro code
  rw [units_succ]
  exact Nat.mul_lt_mul_of_pos_right (Nat.lt_succ_self _) (Nat.two_pow_pos _)

theorem units_mono {code' : Nat} (h : code ≤ code') : f.units code ≤ f.units code' :=
  f.units_strictMono.monotone h

/-- Twice the middle between a value and the next one, counted in units. -/
def twiceMiddle (f : Format) (code : Nat) : Nat := f.units code + f.units (code + 1)

theorem twiceMiddle_eq (f : Format) (code : Nat) :
    f.twiceMiddle code = (2 * f.significand code + 1) * 2 ^ f.scale code := by
  rw [twiceMiddle, units_succ]
  show f.significand code * 2 ^ f.scale code + _ = _
  ring

/-! ### Middles -/

theorem le_roundHalfEven (num den : Nat) : num / den ≤ roundHalfEven num den := by
  unfold roundHalfEven
  split <;> omega

/-- **Rounding to a whole number is decided half-way** to the next one. -/
theorem roundHalfEven_le_iff {m : Nat} (hden : 0 < den) :
    roundHalfEven num den ≤ m ↔
      2 * num < (2 * m + 1) * den ∨ (2 * num = (2 * m + 1) * den ∧ m % 2 = 0) := by
  have hsplit := Nat.div_add_mod num den
  have hmod := Nat.mod_lt num hden
  have hmiddle : (2 * m + 1) * den = 2 * (den * m) + den := by ring
  rcases Nat.lt_trichotomy m (num / den) with hlt | heq | hgt
  · have hlow := le_roundHalfEven num den
    have hstep : den * (m + 1) ≤ den * (num / den) := Nat.mul_le_mul_left den hlt
    rw [Nat.mul_add] at hstep
    omega
  · rw [← heq] at hsplit
    unfold roundHalfEven
    rw [← heq]
    split <;> omega
  · have hhigh := roundHalfEven_le num den
    have hstep : den * (num / den + 1) ≤ den * m := Nat.mul_le_mul_left den hgt
    rw [Nat.mul_add] at hstep
    omega

/-- A fraction that is shifted has a leading bit at its scale, and all its bits fit in a significand. -/
theorem shift_bounds (hden : 0 < den) {shift : Nat}
    (h : (num / den).log2 - f.fractionBits = shift) :
    num < 2 * f.hiddenBit * (den * 2 ^ shift) ∧
      (shift ≠ 0 → f.hiddenBit * (den * 2 ^ shift) ≤ num) := by
  constructor
  · have hupper : num / den < 2 ^ (f.fractionBits + 1 + shift) :=
      Nat.lt_log2_self.trans_le (Nat.pow_le_pow_right (by decide) (by omega))
    rw [Nat.div_lt_iff_lt_mul hden, ← f.significands_mul_pow] at hupper
    linarith
  · intro hshift
    have hne : num / den ≠ 0 := by
      intro e
      rw [e, Nat.log2_zero] at h
      omega
    have hlower : 2 ^ (f.fractionBits + shift) ≤ num / den :=
      (Nat.pow_le_pow_right (by decide) (by omega)).trans (Nat.log2_self_le hne)
    rw [Nat.le_div_iff_mul_le hden, pow_add, ← f.hiddenBit_eq] at hlower
    linarith

/-- The hidden bit is even, so a code has the parity of its significand. -/
theorem code_mod_two (f : Format) (code : Nat) : code % 2 = f.significand code % 2 := by
  have hsplit := f.code_eq code
  have heven : f.scale code * f.hiddenBit % 2 = 0 := by
    have hH : f.hiddenBit % 2 = 0 := by cases f <;> decide
    rw [Nat.mul_mod, hH, Nat.mul_zero, Nat.zero_mod]
  omega

theorem two_mul_shift_le (den : Nat) {low high : Nat} (h : low < high) :
    2 * (den * 2 ^ low) ≤ den * 2 ^ high := by
  calc 2 * (den * 2 ^ low) = den * 2 ^ (low + 1) := by rw [pow_succ]; ring
    _ ≤ den * 2 ^ high := Nat.mul_le_mul_left _ (Nat.pow_le_pow_right (by decide) h)

theorem twiceMiddle_mul (f : Format) (code den : Nat) :
    f.twiceMiddle code * den = (2 * f.significand code + 1) * (den * 2 ^ f.scale code) := by
  rw [twiceMiddle_eq]
  ring

/-- A fraction of a lower scale is below the middle, and it is not rounded past the code. -/
theorem below_middle {shift : Nat} (hupper : num < 2 * f.hiddenBit * (den * 2 ^ shift))
    (h : shift < f.scale code) :
    2 * num < f.twiceMiddle code * den ∧
      shift * f.hiddenBit + roundHalfEven num (den * 2 ^ shift) ≤ code := by
  have hleading := f.hiddenBit_le_significand code (Nat.ne_zero_of_lt h)
  constructor
  · rw [twiceMiddle_mul]
    calc 2 * num < 2 * f.hiddenBit * (2 * (den * 2 ^ shift)) := by linarith
      _ ≤ 2 * f.hiddenBit * (den * 2 ^ f.scale code) :=
          Nat.mul_le_mul_left _ (two_mul_shift_le den h)
      _ ≤ (2 * f.significand code + 1) * (den * 2 ^ f.scale code) :=
          Nat.mul_le_mul_right _ (by omega)
  · have hsplit := f.code_eq code
    have hround : roundHalfEven num (den * 2 ^ shift) ≤ 2 * f.hiddenBit :=
      (roundHalfEven_le _ _).trans (Nat.div_lt_of_lt_mul (by rwa [Nat.mul_comm]))
    have hsteps : (shift + 1) * f.hiddenBit ≤ f.scale code * f.hiddenBit := Nat.mul_le_mul_right _ h
    rw [Nat.add_mul] at hsteps
    omega

/-- A fraction of a higher scale is above the middle, and it is rounded past the code. -/
theorem above_middle {shift : Nat} (hden : 0 < den) (hlower : f.hiddenBit * (den * 2 ^ shift) ≤ num)
    (h : f.scale code < shift) :
    f.twiceMiddle code * den < 2 * num ∧
      code < shift * f.hiddenBit + roundHalfEven num (den * 2 ^ shift) := by
  have hsignificand := f.significand_lt code
  constructor
  · rw [twiceMiddle_mul]
    have hpos : 0 < den * 2 ^ f.scale code := Nat.mul_pos hden (Nat.two_pow_pos _)
    calc (2 * f.significand code + 1) * (den * 2 ^ f.scale code)
        < 2 * (2 * f.hiddenBit) * (den * 2 ^ f.scale code) :=
          Nat.mul_lt_mul_of_pos_right (by omega) hpos
      _ = 2 * f.hiddenBit * (2 * (den * 2 ^ f.scale code)) := by ring
      _ ≤ 2 * f.hiddenBit * (den * 2 ^ shift) := Nat.mul_le_mul_left _ (two_mul_shift_le den h)
      _ ≤ 2 * num := by linarith
  · have hsplit := f.code_eq code
    have hT : 0 < den * 2 ^ shift := Nat.mul_pos hden (Nat.two_pow_pos shift)
    have hround : f.hiddenBit ≤ roundHalfEven num (den * 2 ^ shift) :=
      ((Nat.le_div_iff_mul_le hT).mpr hlower).trans (le_roundHalfEven _ _)
    have hsteps : (f.scale code + 1) * f.hiddenBit ≤ shift * f.hiddenBit := Nat.mul_le_mul_right _ h
    rw [Nat.add_mul] at hsteps
    omega

/-- **Rounding to a code is decided half-way** to the next value, and there by the parity of the code. -/
theorem nearestCode_le_iff (hden : 0 < den) (hinf : code < f.infinity) :
    f.nearestCode num den ≤ code ↔
      2 * num < f.twiceMiddle code * den ∨
        (2 * num = f.twiceMiddle code * den ∧ code % 2 = 0) := by
  generalize hshift : (num / den).log2 - f.fractionBits = shift
  obtain ⟨hupper, hlower⟩ := shift_bounds hden hshift
  have hcode : f.nearestCode num den ≤ code ↔
      shift * f.hiddenBit + roundHalfEven num (den * 2 ^ shift) ≤ code := by
    show min (((num / den).log2 - f.fractionBits) * f.hiddenBit + roundHalfEven num (den *
      2 ^ ((num / den).log2 - f.fractionBits))) f.infinity ≤ code ↔ _
    rw [hshift, min_le_iff]
    omega
  rw [hcode]
  rcases Nat.lt_trichotomy shift (f.scale code) with hlt | heq | hgt
  · obtain ⟨hbelow, hround⟩ := below_middle hupper hlt
    exact iff_of_true hround (.inl hbelow)
  · -- at the scale of the code it is the significand that is rounded
    have hsplit := f.code_eq code
    have hT : 0 < den * 2 ^ shift := Nat.mul_pos hden (Nat.two_pow_pos shift)
    rw [twiceMiddle_mul, f.code_mod_two, ← heq, ← roundHalfEven_le_iff hT]
    rw [← heq] at hsplit
    omega
  · obtain ⟨habove, hround⟩ := above_middle hden (hlower (Nat.ne_zero_of_lt hgt)) hgt
    exact iff_of_false (by omega) (by omega)

/-! ### Values are not crossed -/

/-- **Rounding does not cross a value**: a fraction from the value of a code on is not rounded to a lower
code. -/
theorem le_nearestCode (hden : 0 < den) (hinf : code ≤ f.infinity)
    (h : f.units code * den ≤ num) : code ≤ f.nearestCode num den := by
  cases code with
  | zero => exact Nat.zero_le _
  | succ below =>
      have hnext : f.units below * den < f.units (below + 1) * den :=
        Nat.mul_lt_mul_of_pos_right (f.units_strictMono (Nat.lt_succ_self below)) hden
      by_contra hlow
      have hreach := (nearestCode_le_iff hden hinf).mp (Nat.le_of_not_lt hlow)
      rw [twiceMiddle, Nat.add_mul] at hreach
      omega

end Format

end ArrayExchange
