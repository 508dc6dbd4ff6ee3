import ArrayExchange.Binary.Rounding
import Mathlib.Tactic.Linarith
import Mathlib.Tactic.Positivity
import Mathlib.Tactic.Ring

/-!
# Fractions near a value

A fraction of units that lies near enough to the value of a code is rounded to that code.  How near
is near enough depends on the step to the next value; a part in `4 * hiddenBit` of the value always
is.  So a decimal that agrees with a value in sufficiently many digits names it.

* `Format.code_eq`, `Format.significand_lt` — a code is made up of its scale and its significand.
* `Format.roundHalfEven_of_near` — a fraction less than a half away from a whole number.
* `Format.nearestCode_congr` — the code depends on the fraction alone, not on its terms.
* `Format.nearestCode_of_huge`, `Format.nearestCode_of_tiny` — fractions out of reach.
* `Format.nearestCode_of_near` — the main result.
-/

namespace ArrayExchange

namespace Format

/-! ### Scale and significand -/

theorem hiddenBit_eq (f : Format) : f.hiddenBit = 2 ^ f.fractionBits := by cases f <;> decide

theorem significands_mul_pow (f : Format) (k : Nat) :
    2 * f.hiddenBit * 2 ^ k = 2 ^ (f.fractionBits + 1 + k) := by
  rw [f.hiddenBit_eq, pow_add, pow_succ]
  ring

/-- A code is as many exponent steps as its scale says, and its significand. -/
theorem code_eq (f : Format) (code : Nat) :
    f.scale code * f.hiddenBit + f.significand code = code := by
  have hH := f.hiddenBit_pos
  unfold scale significand
  by_cases h : code < f.hiddenBit
  · rw [if_pos h, Nat.div_eq_of_lt h]
    omega
  · rw [if_neg h]
    have hdiv : 1 ≤ code / f.hiddenBit := (Nat.one_le_div_iff hH).mpr (Nat.le_of_not_lt h)
    have hsplit := Nat.div_add_mod code f.hiddenBit
    rw [← Nat.add_assoc, ← Nat.succ_mul, Nat.succ_eq_add_one, Nat.sub_add_cancel hdiv, Nat.mul_comm]
    exact hsplit

theorem significand_lt (f : Format) (code : Nat) : f.significand code < 2 * f.hiddenBit := by
  have hmod := Nat.mod_lt code f.hiddenBit_pos
  unfold significand
  split <;> omega

/-- A significand without its hidden bit has the lowest scale. -/
theorem hiddenBit_le_significand (f : Format) (code : Nat) (h : f.scale code ≠ 0) :
    f.hiddenBit ≤ f.significand code := by
  unfold significand
  split
  · next hlt =>
      rw [scale, Nat.div_eq_of_lt hlt] at h
      exact absurd rfl h
  · exact Nat.le_add_right _ _

theorem significand_pos (f : Format) {code : Nat} (h : 0 < code) : 0 < f.significand code := by
  have hH := f.hiddenBit_pos
  unfold significand
  split <;> omega

/-! ### Whole numbers -/

/-- A fraction that is less than a half away from a whole number is rounded to it. -/
theorem roundHalfEven_of_near {m num den : Nat} (above : 2 * num < (2 * m + 1) * den)
    (below : 2 * m * den < 2 * num + den) : roundHalfEven num den = m := by
  have hden : 0 < den := Nat.pos_of_ne_zero fun e => by
    rw [e] at above
    simp at above
  have hsplit := Nat.div_add_mod num den
  have hmod := Nat.mod_lt num hden
  unfold roundHalfEven
  rcases Nat.lt_or_ge num (m * den) with hlt | hge
  · -- just below: the quotient is one less, and the rest is more than a half
    obtain ⟨k, rfl⟩ : ∃ k, m = k + 1 := Nat.exists_eq_add_one.mpr (by
      by_contra h
      rw [Nat.eq_zero_of_not_pos h, Nat.zero_mul] at hlt
      exact Nat.not_lt_zero _ hlt)
    have hquot : num / den = k := Nat.div_eq_of_lt_le (by linarith) hlt
    have hrest : den < 2 * (num % den) := by
      rw [hquot] at hsplit
      linarith
    rw [if_pos (.inl hrest), hquot]
  · -- just above: the quotient is the whole number, and the rest is less than a half
    have hquot : num / den = m := Nat.div_eq_of_lt_le hge (by linarith)
    have hrest : 2 * (num % den) < den := by
      rw [hquot] at hsplit
      linarith
    rw [if_neg (by omega), hquot]

/-- Rounding depends on the fraction alone. -/
theorem roundHalfEven_mul {k : Nat} (hk : 0 < k) (num den : Nat) :
    roundHalfEven (k * num) (k * den) = roundHalfEven num den := by
  unfold roundHalfEven
  rw [Nat.mul_div_mul_left _ _ hk, Nat.mul_mod_mul_left]
  have hlt : k * den < 2 * (k * (num % den)) ↔ den < 2 * (num % den) := by
    rw [Nat.mul_left_comm, Nat.mul_lt_mul_left hk]
  have heq : 2 * (k * (num % den)) = k * den ↔ 2 * (num % den) = den := by
    rw [Nat.mul_left_comm, Nat.mul_right_inj hk.ne']
  simp only [hlt, heq]

/-! ### Codes -/

/-- The code depends on the fraction alone. -/
theorem nearestCode_mul (f : Format) {k : Nat} (hk : 0 < k) (num den : Nat) :
    f.nearestCode (k * num) (k * den) = f.nearestCode num den := by
  unfold nearestCode
  rw [Nat.mul_div_mul_left _ _ hk]
  simp only [Nat.mul_assoc, roundHalfEven_mul hk]

/-- Equal fractions have the same code. -/
theorem nearestCode_congr (f : Format) {num den num' den' : Nat} (hden : 0 < den) (hden' : 0 < den')
    (h : num * den' = num' * den) : f.nearestCode num den = f.nearestCode num' den' := by
  rw [← f.nearestCode_mul hden' num den, ← f.nearestCode_mul hden num' den', Nat.mul_comm den' num,
    h, Nat.mul_comm num' den, Nat.mul_comm den' den]

/-- A fraction far above all values is rounded to the infinity. -/
theorem nearestCode_of_huge (f : Format) {num den : Nat} (hden : 0 < den)
    (h : 2 ^ (f.fractionBits + f.infinity / f.hiddenBit) * den ≤ num) :
    f.nearestCode num den = f.infinity := by
  have hquot : 2 ^ (f.fractionBits + f.infinity / f.hiddenBit) ≤ num / den :=
    (Nat.le_div_iff_mul_le hden).mpr h
  have hne : num / den ≠ 0 := (Nat.lt_of_lt_of_le (by positivity) hquot).ne'
  have hlog : f.fractionBits + f.infinity / f.hiddenBit ≤ (num / den).log2 :=
    (Nat.le_log2 hne).mpr hquot
  have hsteps : f.infinity / f.hiddenBit ≤ (num / den).log2 - f.fractionBits := by omega
  have hinf : f.infinity = f.infinity / f.hiddenBit * f.hiddenBit := by cases f <;> decide
  apply Nat.min_eq_right
  calc f.infinity = f.infinity / f.hiddenBit * f.hiddenBit := hinf
    _ ≤ ((num / den).log2 - f.fractionBits) * f.hiddenBit := Nat.mul_le_mul_right _ hsteps
    _ ≤ _ := Nat.le_add_right _ _

/-- A fraction of less than half a unit is rounded to zero. -/
theorem nearestCode_of_tiny (f : Format) {num den : Nat} (h : 2 * num < den) :
    f.nearestCode num den = 0 := by
  have hquot : num / den = 0 := Nat.div_eq_of_lt (by omega)
  unfold nearestCode
  rw [hquot, Nat.log2_zero, Nat.zero_sub]
  show min (0 * f.hiddenBit + roundHalfEven num (den * 1)) f.infinity = 0
  rw [roundHalfEven_of_near (m := 0) (by omega) (by omega), Nat.zero_mul]
  exact Nat.min_eq_left (Nat.zero_le _)

/-- A code is found by its scale and by rounding at that scale. -/
theorem nearestCode_of_shift (f : Format) {num den shift m : Nat}
    (hshift : (num / den).log2 - f.fractionBits = shift)
    (above : 2 * num < (2 * m + 1) * (den * 2 ^ shift))
    (below : 2 * m * (den * 2 ^ shift) < 2 * num + den * 2 ^ shift)
    (hfin : shift * f.hiddenBit + m ≤ f.infinity) :
    f.nearestCode num den = shift * f.hiddenBit + m := by
  unfold nearestCode
  rw [hshift]
  show min (_ + roundHalfEven num (den * 2 ^ shift)) _ = _
  rw [roundHalfEven_of_near above below]
  exact Nat.min_eq_left hfin

/-- How far a fraction has to be shifted follows from its magnitude. -/
theorem shift_eq (f : Format) {num den shift : Nat} (hden : 0 < den)
    (upper : num < 2 * f.hiddenBit * (den * 2 ^ shift))
    (lower : shift = 0 ∨ f.hiddenBit * (den * 2 ^ shift) ≤ num) :
    (num / den).log2 - f.fractionBits = shift := by
  have hlt : num / den < 2 ^ (f.fractionBits + 1 + shift) := by
    rw [Nat.div_lt_iff_lt_mul hden, ← f.significands_mul_pow]
    calc num < 2 * f.hiddenBit * (den * 2 ^ shift) := upper
      _ = 2 * f.hiddenBit * 2 ^ shift * den := by ring
  by_cases hzero : num / den = 0
  · have hnot : ¬ f.hiddenBit * (den * 2 ^ shift) ≤ num := by
      intro hle
      have hsmall : num < den := (Nat.div_eq_zero_iff_lt hden).mp hzero
      have hone : 1 ≤ f.hiddenBit * 2 ^ shift := Nat.mul_pos f.hiddenBit_pos (by positivity)
      have hmul := Nat.mul_le_mul_right den hone
      linarith
    rw [hzero, Nat.log2_zero, Nat.zero_sub]
    exact (lower.resolve_right hnot).symm
  · have hupper : (num / den).log2 < f.fractionBits + 1 + shift := (Nat.log2_lt hzero).mpr hlt
    rcases lower with rfl | hle
    · omega
    · have hpow' : 2 ^ (f.fractionBits + shift) = f.hiddenBit * 2 ^ shift := by
        rw [f.hiddenBit_eq, pow_add]
      have hlower : f.fractionBits + shift ≤ (num / den).log2 := by
        rw [Nat.le_log2 hzero, Nat.le_div_iff_mul_le hden, hpow']
        calc f.hiddenBit * 2 ^ shift * den = f.hiddenBit * (den * 2 ^ shift) := by ring
          _ ≤ num := hle
      omega

/-- **A fraction near the value of a code is rounded to that code.** -/
theorem nearestCode_of_near (f : Format) {code num den : Nat} (hfin : code < f.infinity)
    (hden : 0 < den)
    (above : 4 * f.hiddenBit * num < (4 * f.hiddenBit + 1) * (f.units code * den))
    (below : 4 * f.hiddenBit * (f.units code * den) < 4 * f.hiddenBit * num + f.units code * den) :
    f.nearestCode num den = code := by
  have hH := f.hiddenBit_pos
  have hcode := f.code_eq code
  have hm := f.significand_lt code
  have hscale := f.hiddenBit_le_significand code
  have hunits : f.units code * den = f.significand code * (den * 2 ^ f.scale code) := by
    show f.significand code * 2 ^ f.scale code * den = _
    ring
  rw [hunits] at above below
  generalize f.significand code = m at *
  generalize f.scale code = s at *
  generalize hT : den * 2 ^ s = T at *
  have hT0 : 0 < T := by
    rw [← hT]
    positivity
  -- at the scale of the code, the fraction is less than a half away from the significand
  have hmT : m * T < 2 * f.hiddenBit * T := Nat.mul_lt_mul_of_pos_right hm hT0
  have above' : 2 * num < (2 * m + 1) * T := by
    refine Nat.lt_of_mul_lt_mul_left (a := 2 * f.hiddenBit) ?_
    linarith
  have below' : 2 * m * T < 2 * num + T := by
    refine Nat.lt_of_mul_lt_mul_left (a := 2 * f.hiddenBit) ?_
    linarith
  have hupper : num < 2 * f.hiddenBit * T := by
    have hstep := Nat.mul_le_mul_right T (Nat.succ_le_of_lt hm)
    linarith
  by_cases hlow : s = 0 ∨ f.hiddenBit * T ≤ num
  · rw [← hT] at above' below' hupper hlow
    have hfound := f.nearestCode_of_shift (f.shift_eq hden hupper hlow) above' below'
      (by rw [hcode]; exact hfin.le)
    rw [hfound, hcode]
  · -- just below a power of two the steps are half as long; the carry makes up for it
    obtain ⟨hs, hlt⟩ := not_or.mp hlow
    have hlt : num < f.hiddenBit * T := Nat.lt_of_not_le hlt
    have hmH : m = f.hiddenBit := by
      by_contra hne
      have hgt : f.hiddenBit + 1 ≤ m := Nat.lt_of_le_of_ne (hscale hs) (Ne.symm hne)
      have hstep := Nat.mul_le_mul_right T hgt
      linarith
    obtain ⟨r, rfl⟩ : ∃ r, s = r + 1 := Nat.exists_eq_add_one.mpr (Nat.pos_of_ne_zero hs)
    have hT' : T = 2 * (den * 2 ^ r) := by rw [← hT]; ring
    generalize hR : den * 2 ^ r = R at *
    have hcode' : r * f.hiddenBit + 2 * f.hiddenBit = code := by
      rw [← hcode, hmH]
      ring
    subst hmH hT'
    have habove : 2 * num < (2 * (2 * f.hiddenBit) + 1) * R := by linarith
    have hbelow : 2 * (2 * f.hiddenBit) * R < 2 * num + R := by
      refine Nat.lt_of_mul_lt_mul_left (a := 2 * f.hiddenBit) ?_
      linarith
    have hupper' : num < 2 * f.hiddenBit * R := by linarith
    have hlower' : f.hiddenBit * R ≤ num := by
      have hstep := Nat.mul_le_mul_right R f.hiddenBit_pos
      linarith
    rw [← hR] at habove hbelow hupper' hlower'
    have hfound := f.nearestCode_of_shift (f.shift_eq hden hupper' (.inr hlower')) habove hbelow
      (by rw [hcode']; exact hfin.le)
    rw [hfound, hcode']

end Format

end ArrayExchange
