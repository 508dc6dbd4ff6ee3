import ArrayExchange.Proofs.Binary.Closest

/-!
# Integers that are rounded twice

An integer that is too long for a 64-bit significand is rounded on its way to a 32-bit datum, and then it
is rounded again.  The first rounding may take it to the very middle between two 32-bit neighbours.  There
the second rounding decides by parity, and no longer by the side on which the integer was.  It is led
astray if it was on the side of the odd neighbour.

This is the only way to miss the nearest 32-bit datum.  The middles are themselves 64-bit numbers, so the
first rounding never takes an integer across one of them.

* `LedAstray` — the integers whose two roundings do not amount to one.
* `Format.exists_middle` — the middles between 32-bit numbers are 64-bit numbers.
* `Binary.convert_ofInt_eq_iff`, `Binary.nearest_convert_ofInt_iff` — only those are stored differently.
* `not_ledAstray` — none of them is a 64-bit number.
* `Binary.roundedTwice` — what becomes of integers of up to 64 bits.
-/

namespace ArrayExchange

/-- An integer is led astray: the nearest 64-bit number is half-way between two 32-bit neighbours, and the
integer is on the side of the one with the odd code. -/
def LedAstray (n : Int) : Prop :=
  ∃ code < Format.single.infinity,
    |(Binary.ofInt n : Binary64).value| = Format.single.middle code ∧
      if code % 2 = 0 then |(Binary.ofInt n : Binary64).value| < |(n : ℚ)|
      else |(n : ℚ)| < |(Binary.ofInt n : Binary64).value|

/-- **A 64-bit number is not led astray.** -/
theorem not_ledAstray {n : Int} (h : (Binary.ofInt n : Binary64).value = n) : ¬ LedAstray n := by
  rintro ⟨code, -, -, hside⟩
  rw [h] at hside
  split at hside <;> exact lt_irrefl _ hside

/-! ### The middles -/

namespace Format

/-- A number of another format is in the middle if it has one more bit in its significand. -/
theorem magnitude_eq_middle {f g : Format} {code middle k : Nat}
    (h : g.unitExponent = k + 1 + f.unitExponent)
    (hunits : g.units middle = (2 * f.significand code + 1) * 2 ^ (f.scale code + k)) :
    g.magnitude middle = f.middle code := by
  have hone := f.cast_unitsInOne_pos
  rw [magnitude, middle_eq, twiceMiddle_eq, hunits, unitsInOne_of_unitExponent h]
  push_cast
  rw [div_eq_div_iff (by positivity) (by positivity)]
  ring

/-- **The middles between 32-bit numbers are 64-bit numbers.** -/
theorem exists_middle {code : Nat} (h : code < single.infinity) :
    ∃ middle < double.infinity, double.magnitude middle = single.middle code := by
  have hm : 2 * single.significand code + 1 < 2 * double.hiddenBit := by
    have hsignificand := single.significand_lt code
    have hbits : 2 * single.hiddenBit ≤ double.hiddenBit := by decide
    omega
  have hs : single.scale code + 924 + 2 ≤ double.infinity / double.hiddenBit := by
    simp only [scale, infinity, hiddenBit] at h ⊢
    omega
  obtain ⟨middle, hmiddle, hunits⟩ := double.exists_code hm hs
  exact ⟨middle, hmiddle, magnitude_eq_middle rfl hunits⟩

end Format

namespace Binary

variable {f : Format} {n : Int} {code : Nat}

/-! ### One rounding and two roundings -/

theorem abs_intCast (n : Int) : |(n : ℚ)| = n.natAbs / (1 : Nat) := by
  rw [Nat.cast_one, div_one, Nat.cast_natAbs, Int.cast_abs]

/-- Where an integer is rounded to. -/
theorem code_ofInt_le_iff (hcode : code < f.infinity) :
    (ofInt n : Binary f).code ≤ code ↔
      |(n : ℚ)| < f.middle code ∨ (|(n : ℚ)| = f.middle code ∧ code % 2 = 0) := by
  rw [abs_intCast]
  exact Format.nearestCode_le_iff_middle Nat.one_pos hcode

/-- Where a datum is converted to. -/
theorem code_convert_le_iff {g : Format} {x : Binary f} (h : x.isFinite = true)
    (hcode : code < g.infinity) :
    (x.convert g).code ≤ code ↔
      |x.value| < g.middle code ∨ (|x.value| = g.middle code ∧ code % 2 = 0) := by
  rw [convert_of_isFinite h, abs_value]
  exact Format.nearestCode_le_iff_middle f.unitsInOne_pos hcode

/-- The first rounding does not take an integer across a number of its format. -/
theorem abs_value_ofInt_le (hcode : code < f.infinity) (h : |(n : ℚ)| ≤ f.magnitude code) :
    |(ofInt n : Binary f).value| ≤ f.magnitude code := by
  rw [abs_intCast] at h
  rw [abs_value]
  exact f.magnitude_strictMono.monotone (Format.nearestCode_le_of_le Nat.one_pos hcode h)

theorem le_abs_value_ofInt (hcode : code < f.infinity) (h : f.magnitude code ≤ |(n : ℚ)|) :
    f.magnitude code ≤ |(ofInt n : Binary f).value| := by
  rw [abs_intCast] at h
  rw [abs_value]
  exact f.magnitude_strictMono.monotone (Format.le_nearestCode_of_le Nat.one_pos hcode.le h)

/-- Two roundings decide about a code as one does, unless the first one ends in the middle and the integer
was on the other side than the second one goes. -/
theorem code_convert_ofInt_le_iff (hfin : (ofInt n : Binary64).isFinite = true)
    (hcode : code < Format.single.infinity) (h : ¬ LedAstray n) :
    ((ofInt n : Binary64).convert .single).code ≤ code ↔ (ofInt n : Binary32).code ≤ code := by
  rw [code_convert_le_iff hfin hcode, code_ofInt_le_iff hcode]
  obtain ⟨m, hm, hmiddle⟩ := Format.exists_middle hcode
  have hside : |(ofInt n : Binary64).value| = Format.single.middle code →
      ¬ if code % 2 = 0 then |(ofInt n : Binary64).value| < |(n : ℚ)|
        else |(n : ℚ)| < |(ofInt n : Binary64).value| :=
    fun hmid hside => h ⟨code, hcode, hmid, hside⟩
  rcases lt_trichotomy |(n : ℚ)| (Format.single.middle code) with hbelow | hmid | habove
  · have hle := abs_value_ofInt_le hm (hbelow.le.trans_eq hmiddle.symm)
    rw [hmiddle] at hle
    refine iff_of_true ?_ (.inl hbelow)
    rcases hle.lt_or_eq with hlt | heq
    · exact .inl hlt
    · refine .inr ⟨heq, ?_⟩
      by_contra hodd
      have hnot := hside heq
      rw [if_neg hodd, heq] at hnot
      exact hnot hbelow
  · have hle := abs_value_ofInt_le hm (hmid.le.trans_eq hmiddle.symm)
    have hge := le_abs_value_ofInt hm (hmiddle.trans_le hmid.ge)
    rw [hle.antisymm hge, hmiddle, hmid]
  · have hge := le_abs_value_ofInt hm (hmiddle.trans_le habove.le)
    rw [hmiddle] at hge
    have hone : ¬ (|(n : ℚ)| < Format.single.middle code ∨
        (|(n : ℚ)| = Format.single.middle code ∧ code % 2 = 0)) :=
      not_or.mpr ⟨habove.not_gt, fun heq => habove.ne' heq.1⟩
    refine iff_of_false (not_or.mpr ⟨hge.not_gt, ?_⟩) hone
    rintro ⟨heq, heven⟩
    have hnot := hside heq
    rw [if_pos heven, heq] at hnot
    exact hnot habove

/-- Where the two roundings of an integer that is led astray end, one rounding does not. -/
theorem code_ne_of_ledAstray (hfin : (ofInt n : Binary64).isFinite = true) (h : LedAstray n) :
    ((ofInt n : Binary64).convert .single).code ≠ (ofInt n : Binary32).code := by
  obtain ⟨code, hcode, hmid, hside⟩ := h
  intro heq
  have hboth : ((ofInt n : Binary64).convert .single).code ≤ code ↔
      (ofInt n : Binary32).code ≤ code := by rw [heq]
  rw [code_convert_le_iff hfin hcode, code_ofInt_le_iff hcode, hmid] at hboth
  rw [hmid] at hside
  by_cases heven : code % 2 = 0
  · rw [if_pos heven] at hside
    rcases hboth.mp (.inr ⟨rfl, heven⟩) with hlt | ⟨hn, -⟩
    · exact hside.not_gt hlt
    · exact hside.ne' hn
  · rw [if_neg heven] at hside
    rcases hboth.mpr (.inl hside) with hlt | ⟨-, heven'⟩
    · exact lt_irrefl _ hlt
    · exact heven heven'

theorem negative_ofInt (n : Int) : (ofInt n : Binary f).negative = decide (n < 0) := rfl

theorem negative_convert_ofInt (hfin : (ofInt n : Binary64).isFinite = true) :
    ((ofInt n : Binary64).convert .single).negative = (ofInt n : Binary32).negative := by
  rw [negative_convert (isNaN_of_isFinite hfin), negative_ofInt, negative_ofInt]

/-- **Two roundings amount to one**, unless the integer is led astray. -/
theorem convert_ofInt_eq_iff (hfin : (ofInt n : Binary64).isFinite = true) :
    (ofInt n : Binary64).convert .single = (ofInt n : Binary32) ↔ ¬ LedAstray n := by
  constructor
  · intro heq h
    exact code_ne_of_ledAstray hfin h (congrArg code heq)
  · intro h
    apply eq_of_code_eq (negative_convert_ofInt hfin)
    have hone : (ofInt n : Binary32).code ≤ Format.single.infinity := Format.nearestCode_le _ _ _
    have htwo : ((ofInt n : Binary64).convert .single).code ≤ Format.single.infinity := by
      rw [convert_of_isFinite hfin]
      exact Format.nearestCode_le _ _ _
    -- the lower one of two different codes would tell the roundings apart
    rcases Nat.lt_trichotomy ((ofInt n : Binary64).convert .single).code (ofInt n : Binary32).code
      with hlt | heq | hgt
    · have := (code_convert_ofInt_le_iff hfin (hlt.trans_le hone) h).mp (Nat.le_refl _)
      omega
    · exact heq
    · have := (code_convert_ofInt_le_iff hfin (hgt.trans_le htwo) h).mpr (Nat.le_refl _)
      omega

/-- **The nearest datum is missed** just by the integers that are led astray. -/
theorem nearest_convert_ofInt_iff (hfin : (ofInt n : Binary64).isFinite = true)
    (hone : (ofInt n : Binary32).isFinite = true) :
    ((ofInt n : Binary64).convert .single).Nearest n ↔ ¬ LedAstray n := by
  rw [← convert_ofInt_eq_iff hfin]
  constructor
  · intro h
    exact h.eq (nearest_ofInt hone) (negative_convert_ofInt hfin)
  · intro h
    rw [h]
    exact nearest_ofInt hone

/-! ### Long integers -/

theorem exists_power {k : Nat} (h : f.unitExponent + k + 2 ≤ f.infinity / f.hiddenBit) :
    ∃ code < f.infinity, f.magnitude code = 2 ^ k := by
  have hm : 1 < 2 * f.hiddenBit := by
    have := f.hiddenBit_pos
    omega
  obtain ⟨code, hcode, hunits⟩ := f.exists_code hm h
  refine ⟨code, hcode, ?_⟩
  have hpow : f.units code = 2 ^ k * f.unitsInOne := by
    rw [hunits, Nat.one_mul, Nat.add_comm, pow_add]
    rfl
  rw [Format.magnitude, hpow, Nat.cast_mul, mul_div_cancel_right₀ _ f.cast_unitsInOne_pos.ne']
  exact Nat.cast_pow 2 k

/-- The two roundings of an integer of up to 64 bits stay finite. -/
theorem isFinite_convert_ofInt (hfin : (ofInt n : Binary64).isFinite = true) (h : n.natAbs ≤ 2 ^ 64) :
    ((ofInt n : Binary64).convert .single).isFinite = true := by
  obtain ⟨wide, hwide, hwidePow⟩ := exists_power (f := .double) (k := 64) (by decide)
  obtain ⟨narrow, hnarrow, hnarrowPow⟩ := exists_power (f := .single) (k := 64) (by decide)
  have hn : |(n : ℚ)| ≤ 2 ^ 64 := by
    rw [abs_intCast, Nat.cast_one, div_one]
    exact_mod_cast h
  have hw := abs_value_ofInt_le hwide (hn.trans_eq hwidePow.symm)
  rw [hwidePow, ← hnarrowPow, abs_value] at hw
  apply decide_eq_true
  rw [convert_of_isFinite hfin]
  exact (Format.nearestCode_le_of_le Format.double.unitsInOne_pos hnarrow hw).trans_lt hnarrow

/-- What two roundings make of an integer. -/
structure RoundedTwice (n : Int) (x : Binary32) : Prop where
  /-- The first rounding finds the 64-bit datum nearest to the integer. -/
  first : (ofInt n : Binary64).Nearest n
  /-- The second one finds the 32-bit datum nearest to that. -/
  second : x.Nearest (ofInt n : Binary64).value
  /-- A single rounding would find the nearest 32-bit datum. -/
  single : (ofInt n : Binary32).Nearest n
  /-- The two find the same datum just if the integer is not led astray. -/
  eq_iff : x = ofInt n ↔ ¬ LedAstray n
  /-- Otherwise they do not find a nearest datum at all. -/
  nearest_iff : x.Nearest n ↔ ¬ LedAstray n

/-- **Integers of up to 64 bits**, rounded twice. -/
theorem roundedTwice (h : n.natAbs ≤ 2 ^ 64) :
    RoundedTwice n ((ofInt n : Binary64).convert .single) := by
  have hwide : (ofInt n : Binary64).isFinite = true :=
    isFinite_ofInt (s := 12) (h.trans_lt (by decide)) (by decide)
  have hnarrow : (ofInt n : Binary32).isFinite = true :=
    isFinite_ofInt (s := 41) (h.trans_lt (by decide)) (by decide)
  have htwice := isFinite_convert_ofInt hwide h
  exact ⟨nearest_ofInt hwide, nearest_convert hwide htwice, nearest_ofInt hnarrow,
    convert_ofInt_eq_iff hwide, nearest_convert_ofInt_iff hwide hnarrow⟩

end Binary

end ArrayExchange
