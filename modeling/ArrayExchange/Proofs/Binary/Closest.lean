import ArrayExchange.Proofs.Binary.Conversion
import ArrayExchange.Proofs.Binary.Halfway
import Mathlib.Algebra.Order.Ring.Abs

/-!
# The nearest datum

What it means for a datum to be nearest to a number is said here without rounding: no finite datum is
closer, and where another one is as close, this one has an even code.  There are no two such data, and
rounding finds it, as long as it stays finite.

* `Binary.value` — the number of a finite datum, `Binary.Nearest` — the nearest datum.
* `Format.nearestCode_le_iff_middle` — rounding is decided by the number half-way between two values.
* `Binary.nearest_ofRatio`, `Binary.nearest_ofInt`, `Binary.nearest_convert` — rounding finds the nearest
  datum.
* `Binary.Nearest.rank_eq` — no two numbers are both nearest.
-/

namespace ArrayExchange

/-! ### Distances -/

section

variable {a b d : ℚ}

/-- Of two numbers the smaller one is closer up to the middle. -/
theorem smaller_closer_iff (h : b < d) : |b - a| ≤ |d - a| ↔ a ≤ (b + d) / 2 := by
  have hsquares : (d - a) ^ 2 - (b - a) ^ 2 = (d - b) * (b + d - 2 * a) := by ring
  rw [← sq_le_sq, ← sub_nonneg, hsquares, mul_nonneg_iff_of_pos_left (sub_pos.mpr h)]
  constructor <;> intro hle <;> linarith

/-- Of two numbers the larger one is closer from the middle on. -/
theorem larger_closer_iff (h : b < d) : |d - a| ≤ |b - a| ↔ (b + d) / 2 ≤ a := by
  have hsquares : (b - a) ^ 2 - (d - a) ^ 2 = (d - b) * (2 * a - (b + d)) := by ring
  rw [← sq_le_sq, ← sub_nonneg, hsquares, mul_nonneg_iff_of_pos_left (sub_pos.mpr h)]
  constructor <;> intro hle <;> linarith

/-- A magnitude with a sign. -/
def signed (negative : Bool) (a : ℚ) : ℚ := if negative then -a else a

theorem abs_signed (negative : Bool) (h : 0 ≤ a) : |signed negative a| = a := by
  cases negative with
  | false => exact abs_of_nonneg h
  | true => exact (abs_neg a).trans (abs_of_nonneg h)

theorem abs_signed_sub (negative : Bool) (a b : ℚ) :
    |signed negative a - signed negative b| = |a - b| := by
  cases negative with
  | false => rfl
  | true =>
      show |-a - -b| = _
      rw [neg_sub_neg, abs_sub_comm]

theorem signed_of_ne {s t : Bool} (h : s ≠ t) (a : ℚ) : signed s a = -signed t a := by
  cases s <;> cases t <;> simp_all [signed]

/-- A number that is as close to the opposite of another one is zero, or the other one is. -/
theorem eq_zero_of_opposite (h : |-b - a| = |b - a|) : b = 0 ∨ a = 0 := by
  rw [← sq_eq_sq_iff_abs_eq_abs] at h
  have hproduct : b * a = 0 := by linarith
  exact mul_eq_zero.mp hproduct

end

/-! ### Magnitudes -/

namespace Format

variable {f : Format} {code num den : Nat}

/-- The number that a code without a sign stands for. -/
def magnitude (f : Format) (code : Nat) : ℚ := f.units code / f.unitsInOne

/-- The number half-way between two neighbours. -/
def middle (f : Format) (code : Nat) : ℚ := (f.magnitude code + f.magnitude (code + 1)) / 2

theorem cast_unitsInOne_pos (f : Format) : (0 : ℚ) < f.unitsInOne :=
  Nat.cast_pos.mpr f.unitsInOne_pos

theorem magnitude_strictMono (f : Format) : StrictMono f.magnitude := by
  intro code code' h
  exact div_lt_div_of_pos_right (Nat.cast_lt.mpr (f.units_strictMono h)) f.cast_unitsInOne_pos

theorem magnitude_zero (f : Format) : f.magnitude 0 = 0 := by
  rw [magnitude, f.units_zero, Nat.cast_zero, zero_div]

theorem magnitude_nonneg (f : Format) (code : Nat) : 0 ≤ f.magnitude code := by
  rw [← f.magnitude_zero]
  exact f.magnitude_strictMono.monotone (Nat.zero_le code)

theorem magnitude_pos (f : Format) {code : Nat} (h : 0 < code) : 0 < f.magnitude code := by
  rw [← f.magnitude_zero]
  exact f.magnitude_strictMono h

theorem middle_eq (f : Format) (code : Nat) :
    f.middle code = f.twiceMiddle code / (2 * f.unitsInOne) := by
  have hone := f.cast_unitsInOne_pos.ne'
  rw [middle, magnitude, magnitude, twiceMiddle, Nat.cast_add]
  field_simp

/-- **Rounding is decided half-way** between two values, and there by the parity of the lower code. -/
theorem nearestCode_le_iff_middle (hden : 0 < den) (hinf : code < f.infinity) :
    f.nearestCode (num * f.unitsInOne) den ≤ code ↔
      (num / den : ℚ) < f.middle code ∨ ((num / den : ℚ) = f.middle code ∧ code % 2 = 0) := by
  have hden' : (0 : ℚ) < den := Nat.cast_pos.mpr hden
  have hone := f.cast_unitsInOne_pos
  have hlt : (num / den : ℚ) < f.middle code ↔
      2 * (num * f.unitsInOne) < f.twiceMiddle code * den := by
    rw [middle_eq, div_lt_div_iff₀ hden' (by positivity), mul_left_comm]
    exact_mod_cast Iff.rfl
  have heq : (num / den : ℚ) = f.middle code ↔
      2 * (num * f.unitsInOne) = f.twiceMiddle code * den := by
    rw [middle_eq, div_eq_div_iff hden'.ne' (by positivity), mul_left_comm]
    exact_mod_cast Iff.rfl
  rw [nearestCode_le_iff hden hinf, hlt, heq]

/-- A number up to the value of a code is not rounded to a higher code. -/
theorem nearestCode_le_of_le (hden : 0 < den) (hinf : code < f.infinity)
    (h : (num / den : ℚ) ≤ f.magnitude code) : f.nearestCode (num * f.unitsInOne) den ≤ code := by
  have hnext := f.magnitude_strictMono (Nat.lt_succ_self code)
  apply (nearestCode_le_iff_middle hden hinf).mpr
  left
  unfold middle
  linarith

/-- A number from the value of a code on is not rounded to a lower code. -/
theorem le_nearestCode_of_le (hden : 0 < den) (hinf : code ≤ f.infinity)
    (h : f.magnitude code ≤ (num / den : ℚ)) : code ≤ f.nearestCode (num * f.unitsInOne) den := by
  apply le_nearestCode hden hinf
  rw [magnitude, div_le_div_iff₀ f.cast_unitsInOne_pos (Nat.cast_pos.mpr hden)] at h
  exact_mod_cast h

/-- No higher code is closer than the one that a number is rounded to. -/
theorem closest_above {above : Nat} (hden : 0 < den) (hinf : code < f.infinity)
    (h : f.nearestCode (num * f.unitsInOne) den = code) (habove : code < above) :
    |f.magnitude code - num / den| ≤ |f.magnitude above - num / den| ∧
      (|f.magnitude above - num / den| = |f.magnitude code - num / den| → code % 2 = 0) := by
  have hlt := f.magnitude_strictMono habove
  have hmiddle : f.middle code ≤ (f.magnitude code + f.magnitude above) / 2 := by
    have hnext := f.magnitude_strictMono.monotone (Nat.succ_le_of_lt habove)
    unfold middle
    linarith
  rw [smaller_closer_iff hlt]
  rcases (nearestCode_le_iff_middle hden hinf).mp h.le with hbelow | ⟨heq, heven⟩
  · refine ⟨(hbelow.trans_le hmiddle).le, fun htie => ?_⟩
    have hpast := (larger_closer_iff hlt).mp htie.le
    exact absurd hbelow (hmiddle.trans hpast).not_gt
  · exact ⟨heq.le.trans hmiddle, fun _ => heven⟩

/-- No lower code is closer than the one that a number is rounded to. -/
theorem closest_below {below : Nat} (hden : 0 < den) (hinf : code < f.infinity)
    (h : f.nearestCode (num * f.unitsInOne) den = code) (hbelow : below < code) :
    |f.magnitude code - num / den| ≤ |f.magnitude below - num / den| ∧
      (|f.magnitude below - num / den| = |f.magnitude code - num / den| → code % 2 = 0) := by
  have hlt := f.magnitude_strictMono hbelow
  obtain ⟨last, rfl⟩ : ∃ last, code = last + 1 := Nat.exists_eq_add_one.mpr (by omega)
  have hmiddle : (f.magnitude below + f.magnitude (last + 1)) / 2 ≤ f.middle last := by
    have hlast := f.magnitude_strictMono.monotone (Nat.le_of_lt_succ hbelow)
    unfold middle
    linarith
  have hnot : ¬ f.nearestCode (num * f.unitsInOne) den ≤ last := by omega
  rw [nearestCode_le_iff_middle hden (by omega), not_or, not_lt, not_and] at hnot
  obtain ⟨hpast, hodd⟩ := hnot
  rw [larger_closer_iff hlt]
  refine ⟨hmiddle.trans hpast, fun htie => ?_⟩
  have hupto := (smaller_closer_iff hlt).mp htie.le
  have := hodd ((hupto.trans hmiddle).antisymm hpast)
  omega

/-- **Rounding finds the nearest code**, and the even one of two that are equally near. -/
theorem closest (hden : 0 < den) (hinf : code < f.infinity)
    (h : f.nearestCode (num * f.unitsInOne) den = code) (other : Nat) :
    |f.magnitude code - num / den| ≤ |f.magnitude other - num / den| ∧
      (other ≠ code → |f.magnitude other - num / den| = |f.magnitude code - num / den| →
        code % 2 = 0) := by
  rcases Nat.lt_trichotomy other code with hlt | rfl | hgt
  · obtain ⟨hle, htie⟩ := closest_below hden hinf h hlt
    exact ⟨hle, fun _ => htie⟩
  · exact ⟨le_refl _, fun hne => absurd rfl hne⟩
  · obtain ⟨hle, htie⟩ := closest_above hden hinf h hgt
    exact ⟨hle, fun _ => htie⟩

end Format

/-! ### Values -/

namespace Binary

variable {f g : Format} {x y : Binary f} {p q : ℚ}

/-- The number of a finite datum. -/
def value (x : Binary f) : ℚ := x.signedUnits / f.unitsInOne

theorem value_eq (x : Binary f) : x.value = signed x.negative (f.magnitude x.code) := by
  unfold value signedUnits signed Format.magnitude
  split
  · rw [Int.cast_neg, Int.cast_natCast, neg_div]
  · rw [Int.cast_natCast]

theorem abs_value (x : Binary f) : |x.value| = f.magnitude x.code := by
  rw [value_eq, abs_signed _ (f.magnitude_nonneg x.code)]

/-- Values grow with the place in the order. -/
theorem value_lt_of_rank_lt (h : x.rank < y.rank) : x.value < y.value := by
  have hx := f.magnitude_nonneg x.code
  have hy := f.magnitude_nonneg y.code
  rw [value_eq, value_eq]
  unfold rank at h
  unfold signed
  cases hxs : x.negative <;> cases hys : y.negative <;>
    simp only [hxs, hys, Bool.false_eq_true, if_true, if_false] at h ⊢
  · exact f.magnitude_strictMono (by omega)
  · omega
  · -- the two may not both be zero
    rcases Nat.eq_zero_or_pos y.code with hzero | hpos
    · have hxpos : 0 < x.code := by omega
      have := f.magnitude_pos hxpos
      linarith
    · have := f.magnitude_pos hpos
      linarith
  · exact neg_lt_neg (f.magnitude_strictMono (by omega))

/-- A finite datum with a given place in the order. -/
theorem exists_rank {r : Int} (h : r.natAbs < f.infinity) :
    ∃ z : Binary f, z.isFinite = true ∧ z.rank = r := by
  refine ⟨⟨decide (r < 0), r.natAbs, h.trans f.infinity_lt⟩, decide_eq_true h, ?_⟩
  show (if decide (r < 0) = true then -(r.natAbs : Int) else r.natAbs) = r
  split
  · next hneg =>
      have := of_decide_eq_true hneg
      omega
  · next hnonneg =>
      have := of_decide_eq_false (Bool.not_eq_true _ ▸ hnonneg)
      omega

/-! ### The nearest datum -/

/-- A datum is nearest to a number: no finite datum is closer, and it has an even code where a datum with
another value is as close. -/
structure Nearest (x : Binary f) (q : ℚ) : Prop where
  isFinite : x.isFinite = true
  closest : ∀ y : Binary f, y.isFinite = true → |x.value - q| ≤ |y.value - q|
  even : ∀ y : Binary f, y.isFinite = true → y.value ≠ x.value → |y.value - q| = |x.value - q| →
    x.code % 2 = 0

/-- Of two data with even codes that are equally near to a number, neither is nearest: the data between
them are closer. -/
theorem Nearest.not_rank_lt (hx : x.Nearest q) (hy : y.Nearest q) : ¬ x.rank < y.rank := by
  intro hrank
  have hlt := value_lt_of_rank_lt hrank
  have hxy := hx.closest y hy.isFinite
  have hyx := hy.closest x hx.isFinite
  have hupto := (smaller_closer_iff hlt).mp hxy
  have hfrom := (larger_closer_iff hlt).mp hyx
  have hxeven := hx.even y hy.isFinite hlt.ne' (hyx.antisymm hxy)
  have hyeven := hy.even x hx.isFinite hlt.ne (hxy.antisymm hyx)
  have hxcode : x.code < f.infinity := of_decide_eq_true hx.isFinite
  have hycode : y.code < f.infinity := of_decide_eq_true hy.isFinite
  have hgap : x.rank + 1 < y.rank ∧ (x.rank + 1).natAbs < f.infinity := by
    unfold rank at hrank ⊢
    cases hxs : x.negative <;> cases hys : y.negative <;>
      simp only [hxs, hys, Bool.false_eq_true, if_true, if_false] at hrank ⊢ <;> omega
  obtain ⟨z, hz, hzrank⟩ := exists_rank hgap.2
  have hxz : x.value < z.value := value_lt_of_rank_lt (by omega)
  have hzy : z.value < y.value := value_lt_of_rank_lt (by omega)
  have hcloser := (smaller_closer_iff hxz).mp (hx.closest z hz)
  linarith

/-- **There is one nearest place in the order.** -/
theorem Nearest.rank_eq (hx : x.Nearest q) (hy : y.Nearest q) : x.rank = y.rank := by
  have := hx.not_rank_lt hy
  have := hy.not_rank_lt hx
  omega

/-- Of one sign there is one nearest datum. -/
theorem Nearest.eq (hx : x.Nearest q) (hy : y.Nearest q) (h : x.negative = y.negative) : x = y := by
  have hrank := hx.rank_eq hy
  apply eq_of_code_eq h
  unfold rank at hrank
  rw [h] at hrank
  cases hy : y.negative <;> simp only [hy, Bool.false_eq_true, if_true, if_false] at hrank <;> omega

/-! ### Rounding finds it -/

/-- Data of one code and different values are equally near to zero alone. -/
theorem eq_zero_of_tie (hcode : y.code = x.code) (hne : y.value ≠ x.value)
    (htie : |y.value - q| = |x.value - q|) : q = 0 := by
  have hopposite : y.value = -x.value := by
    rw [value_eq, value_eq, hcode]
    apply signed_of_ne
    intro hsign
    rw [value_eq, value_eq, hcode, hsign] at hne
    exact hne rfl
  rw [hopposite] at htie hne
  rcases eq_zero_of_opposite htie with hvalue | hzero
  · rw [hvalue, neg_zero] at hne
    exact absurd rfl hne
  · exact hzero

/-- **A fraction is rounded to the nearest datum**, as long as that is finite. -/
theorem nearest_ofRatio {negative : Bool} {num den : Nat} (hden : 0 < den)
    (hfin : (ofRatio negative num den : Binary f).isFinite = true) :
    (ofRatio negative num den : Binary f).Nearest (signed negative (num / den)) := by
  generalize hx : (ofRatio negative num den : Binary f) = x at hfin
  have hsign : x.negative = negative := by rw [← hx]; rfl
  have hround : f.nearestCode (num * f.unitsInOne) den = x.code := by rw [← hx]; rfl
  have hratio : (0 : ℚ) ≤ num / den := by positivity
  have hclosest := f.closest hden (of_decide_eq_true hfin) hround
  -- for the datum itself the signs do not count, and for others they only make it farther
  have hself : |x.value - signed negative (num / den)| = |f.magnitude x.code - num / den| := by
    rw [value_eq, hsign, abs_signed_sub]
  have hother : ∀ y : Binary f,
      |f.magnitude y.code - num / den| ≤ |y.value - signed negative (num / den)| := by
    intro y
    have habs := abs_abs_sub_abs_le y.value (signed negative (num / den))
    rwa [abs_value, abs_signed _ hratio] at habs
  refine ⟨hfin, fun y _ => ?_, fun y _ hne htie => ?_⟩
  · rw [hself]
    exact (hclosest y.code).1.trans (hother y)
  · by_cases hcode : y.code = x.code
    · have hzero : (num / den : ℚ) = 0 := by
        rw [← abs_signed negative hratio, eq_zero_of_tie hcode hne htie, abs_zero]
      have hle := (hclosest 0).1
      rw [hzero, f.magnitude_zero, sub_zero, sub_zero, abs_zero, abs_nonpos_iff] at hle
      rcases Nat.eq_zero_or_pos x.code with hcode | hpos
      · rw [hcode]
      · exact absurd hle (f.magnitude_pos hpos).ne'
    · have hle := (hother y).trans_eq (htie.trans hself)
      exact (hclosest y.code).2 hcode (hle.antisymm (hclosest y.code).1)

/-- **An integer is rounded to the nearest datum**, as long as that is finite. -/
theorem nearest_ofInt {n : Int} (hfin : (ofInt n : Binary f).isFinite = true) :
    (ofInt n : Binary f).Nearest n := by
  have hnearest : (ofRatio (decide (n < 0)) n.natAbs 1 : Binary f).Nearest _ :=
    nearest_ofRatio Nat.one_pos hfin
  have hn : signed (decide (n < 0)) (n.natAbs / (1 : Nat)) = n := by
    rw [Nat.cast_one, div_one]
    exact cast_of_sign n
  rwa [hn] at hnearest

/-- **A datum is converted to the nearest datum** of the other format, as long as that is finite. -/
theorem nearest_convert (h : x.isFinite = true) (hfin : (x.convert g).isFinite = true) :
    (x.convert g).Nearest x.value := by
  rw [convert_of_isFinite h] at hfin ⊢
  rw [value_eq]
  exact nearest_ofRatio f.unitsInOne_pos hfin

end Binary

end ArrayExchange
