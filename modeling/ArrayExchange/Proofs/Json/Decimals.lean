import ArrayExchange.Proofs.Json.Numerals

/-!
# Spelling decimals

A decimal is spelled in one of three ways: with zeros between the point and its first digit, with the
point among its digits or behind zeros added to them, or with an exponent.  Each way gives a numeral
that stands for the decimal.

* `Json.Number.exists_digits` — digits without zeros at the end, and how many zeros were there.
* `Json.Number.decimalChars_eq` — the numeral of a decimal.
* `Json.readNumber_chars` — every number is read back, the shortest decimal of a datum included.
-/

namespace ArrayExchange

namespace Json

namespace Number

/-! ### Zeros at the end -/

/-- The digits of a positive number without the zeros at its end. -/
theorem exists_digits {n : Nat} (hn : n ≠ 0) :
    ∃ ds zeros, ((Nat.toDigits 10 n).reverse.dropWhile (· = '0')).reverse = ds ∧
      Nat.toDigits 10 n = ds ++ List.replicate zeros '0' ∧ Digits ds ∧ ds.head? ≠ some '0' ∧
      n = Nat.ofDigitChars 10 ds 0 * 10 ^ zeros := by
  generalize hall : Nat.toDigits 10 n = all
  have hvalue : Nat.ofDigitChars 10 all 0 = n := by rw [← hall, Nat.ofDigitChars_ten_toDigits]
  have hdigits : Digits all := by rw [← hall]; exact digits_toDigits n
  obtain ⟨zeros, hzeros⟩ : ∃ zeros, all.reverse.takeWhile (· = '0') = List.replicate zeros '0' :=
    ⟨_, List.eq_replicate_of_mem fun c hc =>
      of_decide_eq_true (List.all_eq_true.mp List.all_takeWhile c hc)⟩
  have hsplit : all = (all.reverse.dropWhile (· = '0')).reverse ++ List.replicate zeros '0' := by
    have happend := List.takeWhile_append_dropWhile (p := (· = '0')) (l := all.reverse)
    rw [hzeros] at happend
    have hreverse := congrArg List.reverse happend
    rw [List.reverse_append, List.reverse_replicate, List.reverse_reverse] at hreverse
    exact hreverse.symm
  generalize (all.reverse.dropWhile (· = '0')).reverse = ds at hsplit
  have hn' : n = Nat.ofDigitChars 10 ds 0 * 10 ^ zeros := by
    rw [← hvalue, hsplit, Nat.ofDigitChars_append, Nat.ofDigitChars_replicate_zero, Nat.mul_comm]
  have hne : ds ≠ [] := by
    rintro rfl
    rw [Nat.ofDigitChars_nil, Nat.zero_mul] at hn'
    exact hn hn'
  refine ⟨ds, zeros, rfl, hsplit, ⟨hne, fun c hc => ?_⟩, ?_, hn'⟩
  · refine hdigits.isDigit c ?_
    rw [hsplit]
    exact List.mem_append_left _ hc
  · have hhead := head?_toDigits hn
    rwa [hall, hsplit, List.head?_append_of_ne_nil _ hne] at hhead

/-! ### The three ways -/

/-- How many digits are written, at most. -/
def maxDigits : Nat := 18

variable {ds : List Char} {exponent : Int}

theorem ofDigitChars_lt_word (h : ∀ c ∈ ds, c.isDigit = true) (hlen : ds.length ≤ maxDigits) :
    Nat.ofDigitChars 10 ds 0 < Decimal.word := by
  have hlt := ofDigitChars_lt h 0
  have hpow : 10 ^ ds.length ≤ 10 ^ maxDigits := Nat.pow_le_pow_right (by decide) hlen
  have hword : 10 ^ maxDigits ≤ Decimal.word := by decide
  omega

/-- A numeral of the given digits, with the point where the exponent wants it, stands for them. -/
theorem stands_of_digits {n : Numeral} (hd : Digits ds) (hlen : ds.length ≤ maxDigits)
    (hlow : -9999 ≤ exponent) (hhigh : exponent ≤ 9999) (hkind : n.isInteger = false)
    (hfits : n.exponentFits = true) (hvalue : n.digits = Nat.ofDigitChars 10 ds 0)
    (hscale : n.scale = exponent + 1 - ds.length) :
    n.Stands ⟨Nat.ofDigitChars 10 ds 0, exponent + 1 - ds.length⟩ where
  isInteger := hkind
  digits := by
    rw [hvalue]
    exact ofDigitChars_lt_word hd.isDigit hlen
  scale := by
    rw [hscale]
    unfold maxDigits at hlen
    omega
  exponent := hfits
  value sign := by rw [hvalue, hscale]

/-- Zeros between the point and the first digit. -/
theorem positional_small (negative : Bool) (hd : Digits ds) (hlen : ds.length ≤ maxDigits)
    (hneg : exponent < 0) (hlow : positionalRange.1 ≤ exponent) :
    ∃ n : Numeral, n.negative = negative ∧ n.Spelled ∧ positional ds exponent = n.chars ∧
      n.Stands ⟨Nat.ofDigitChars 10 ds 0, exponent + 1 - ds.length⟩ := by
  have hlow' : -5 ≤ exponent := hlow
  let zeros := List.replicate (-exponent - 1).toNat '0'
  let n : Numeral := ⟨negative, ['0'], some (zeros ++ ds), none⟩
  have hzeros : zeros.length = (-exponent - 1).toNat := List.length_replicate
  have hspelled : n.Spelled := by
    constructor
    · exact ⟨by simp [n], by simp [n]⟩
    · intro _
      rfl
    · intro es e
      cases e
      constructor
      · intro h
        exact hd.ne_nil (List.append_eq_nil_iff.mp h).2
      · intro c hc
        rcases List.mem_append.mp hc with hc | hc
        · exact isDigit_of_mem_replicate hc
        · exact hd.isDigit c hc
    · intro _ es e
      cases e
  have hchars : positional ds exponent = n.chars := by
    rw [positional, if_pos hneg]
    show _ = ['0'] ++ ('.' :: (zeros ++ ds) ++ [])
    rw [List.append_nil]
    rfl
  have hvalue : n.digits = Nat.ofDigitChars 10 ds 0 := by
    show Nat.ofDigitChars 10 ('0' :: (zeros ++ ds)) 0 = _
    rw [Nat.ofDigitChars_cons, Nat.ofDigitChars_append, Nat.ofDigitChars_replicate_zero]
    rfl
  have hscale : n.scale = exponent + 1 - ds.length := by
    show (0 : Int) - ((zeros ++ ds).length : Nat) = _
    rw [List.length_append, hzeros]
    omega
  exact ⟨n, rfl, hspelled, hchars,
    stands_of_digits hd hlen (by omega) (by omega) rfl rfl hvalue hscale⟩

/-- The point behind all digits, and behind the zeros that are added to them. -/
theorem positional_whole (negative : Bool) (hd : Digits ds) (hhead : ds.head? ≠ some '0')
    (hpos : 0 ≤ exponent) (hhigh : exponent ≤ positionalRange.2)
    (hshort : ds.length ≤ exponent.toNat + 1) :
    ∃ n : Numeral, n.negative = negative ∧ n.Spelled ∧ positional ds exponent = n.chars ∧
      n.Stands ⟨Nat.ofDigitChars 10 ds 0, exponent + 1 - ds.length⟩ := by
  have hhigh' : exponent ≤ 15 := hhigh
  let more := exponent.toNat + 1 - ds.length
  let n : Numeral := ⟨negative, ds ++ List.replicate more '0', some ['0'], none⟩
  have hspelled : n.Spelled := by
    constructor
    · exact hd.append fun c hc => isDigit_of_mem_replicate hc
    · intro h
      rw [List.head?_append_of_ne_nil _ hd.ne_nil] at h
      exact absurd h hhead
    · intro es e
      cases e
      exact ⟨by simp, by simp⟩
    · intro _ es e
      cases e
  have hchars : positional ds exponent = n.chars := by
    simp only [positional, if_neg (Int.not_lt.mpr hpos), List.take_of_length_le hshort,
      List.drop_eq_nil_of_le hshort, if_true]
    rw [List.append_assoc, Numeral.chars, List.append_assoc]
    rfl
  have hall : n.whole ++ n.fraction.getD [] = ds ++ List.replicate (more + 1) '0' := by
    show ds ++ List.replicate more '0' ++ ['0'] = _
    rw [List.append_assoc, List.replicate_succ']
  have hvalue : n.digits = Nat.ofDigitChars 10 ds 0 * 10 ^ (more + 1) := by
    rw [Numeral.digits, hall, Nat.ofDigitChars_append, Nat.ofDigitChars_replicate_zero, Nat.mul_comm]
  have hscale : n.scale = -1 := rfl
  -- the digits go on with zeros, so the decimal is not the one that the numeral spells
  have hstands : n.Stands ⟨Nat.ofDigitChars 10 ds 0, exponent + 1 - ds.length⟩ := by
    constructor
    · rfl
    · rw [Numeral.digits, hall]
      apply ofDigitChars_lt_word
      · intro c hc
        rcases List.mem_append.mp hc with hc | hc
        · exact hd.isDigit c hc
        · exact isDigit_of_mem_replicate hc
      · rw [List.length_append, List.length_replicate]
        unfold maxDigits
        omega
    · rw [hscale]
      decide
    · rfl
    · intro sign
      have hexp : (-1 : Int) + ((more + 1 : Nat) : Int) = exponent + 1 - ds.length := by omega
      rw [hvalue, hscale, Binary.ofDecimal_mul_pow, hexp]
  exact ⟨n, rfl, hspelled, hchars, hstands⟩

/-- The point among the digits. -/
theorem positional_split (negative : Bool) (hd : Digits ds) (hhead : ds.head? ≠ some '0')
    (hlen : ds.length ≤ maxDigits) (hpos : 0 ≤ exponent) (hlong : exponent.toNat + 1 < ds.length) :
    ∃ n : Numeral, n.negative = negative ∧ n.Spelled ∧ positional ds exponent = n.chars ∧
      n.Stands ⟨Nat.ofDigitChars 10 ds 0, exponent + 1 - ds.length⟩ := by
  have hmax : ds.length ≤ 18 := hlen
  have htake : ds.take (exponent.toNat + 1) ≠ [] := by
    intro h
    have hzero := congrArg List.length h
    rw [List.length_take, List.length_nil] at hzero
    omega
  have hdrop : ds.drop (exponent.toNat + 1) ≠ [] := by
    intro h
    have hzero := congrArg List.length h
    rw [List.length_drop, List.length_nil] at hzero
    omega
  let n : Numeral :=
    ⟨negative, ds.take (exponent.toNat + 1), some (ds.drop (exponent.toNat + 1)), none⟩
  have hspelled : n.Spelled := by
    constructor
    · exact ⟨htake, fun c hc => hd.isDigit c (List.mem_of_mem_take hc)⟩
    · intro h
      have hsame : (ds.take (exponent.toNat + 1)).head? = ds.head? := by
        rw [List.head?_take, if_neg (Nat.succ_ne_zero _)]
      exact absurd (hsame.symm.trans h) hhead
    · intro es e
      cases e
      exact ⟨hdrop, fun c hc => hd.isDigit c (List.mem_of_mem_drop hc)⟩
    · intro _ es e
      cases e
  have hchars : positional ds exponent = n.chars := by
    have hzero : exponent.toNat + 1 - ds.length = 0 := by omega
    simp only [positional, if_neg (Int.not_lt.mpr hpos), if_neg hdrop, hzero, List.replicate_zero,
      List.append_nil]
    rw [Numeral.chars]
    show _ = ds.take _ ++ ('.' :: ds.drop _ ++ [])
    rw [List.append_nil]
  have hvalue : n.digits = Nat.ofDigitChars 10 ds 0 := by
    show Nat.ofDigitChars 10 (ds.take _ ++ ds.drop _) 0 = _
    rw [List.take_append_drop]
  have hscale : n.scale = exponent + 1 - ds.length := by
    show (0 : Int) - ((ds.drop (exponent.toNat + 1)).length : Nat) = _
    rw [List.length_drop]
    omega
  exact ⟨n, rfl, hspelled, hchars,
    stands_of_digits hd hlen (by omega) (by omega) rfl rfl hvalue hscale⟩

/-- The digits of an exponent within the reach of any datum fit in a register. -/
theorem exponentFits_toDigits {n : Nat} (h : n ≤ 9999) :
    Nat.ofDigitChars 10 (Nat.toDigits 10 n).dropLast 0 ≤ Numeral.exponentLimit := by
  have hlen : (Nat.toDigits 10 n).length ≤ 4 :=
    (Nat.length_toDigits_le_iff (by decide) (by decide)).mpr (by omega)
  have hlt := @ofDigitChars_lt (Nat.toDigits 10 n).dropLast
    (fun c hc => (digits_toDigits n).isDigit c (List.mem_of_mem_dropLast hc)) 0
  have hpow : 10 ^ (Nat.toDigits 10 n).dropLast.length ≤ 10 ^ 4 := by
    apply Nat.pow_le_pow_right (by decide)
    rw [List.length_dropLast]
    omega
  have hlimit : 10 ^ 4 ≤ Numeral.exponentLimit := by decide
  omega

/-- An exponent. -/
theorem scientific_eq (exponent : Int) (negative : Bool) (hd : Digits ds) (hlen : ds.length ≤ maxDigits)
    (hlow : -9999 ≤ exponent) (hhigh : exponent ≤ 9999) :
    ∃ n : Numeral, n.negative = negative ∧ n.Spelled ∧ scientific ds exponent = n.chars ∧
      n.Stands ⟨Nat.ofDigitChars 10 ds 0, exponent + 1 - ds.length⟩ := by
  obtain ⟨c, cs, rfl⟩ := List.exists_cons_of_ne_nil hd.ne_nil
  let fraction : Option (List Char) := if cs = [] then none else some cs
  let n : Numeral :=
    ⟨negative, [c], fraction, some (exponent < 0, Nat.toDigits 10 exponent.natAbs)⟩
  have hspelled : n.Spelled := by
    constructor
    · refine ⟨List.cons_ne_nil _ _, ?_⟩
      intro e he
      cases List.mem_singleton.mp he
      exact hd.isDigit c List.mem_cons_self
    · intro _
      rfl
    · intro es e
      have he : (if cs = [] then none else some cs) = some es := e
      split at he
      · cases he
      · next hne =>
          cases he
          exact ⟨hne, fun d hmem => hd.isDigit d (List.mem_cons_of_mem _ hmem)⟩
    · intro sign es e
      cases e
      exact digits_toDigits _
  have hchars : scientific (c :: cs) exponent = n.chars := by
    show [c] ++ (if cs = [] then [] else '.' :: cs) ++ 'e' :: _ = [c] ++ (_ ++ 'e' :: _)
    rw [List.append_assoc]
    congr 2
    · show _ = Numeral.fractionChars (if cs = [] then none else some cs)
      split <;> rfl
    · simp only [decide_eq_true_eq]
  have hfraction : fraction.getD [] = cs := by
    show (if cs = [] then none else some cs).getD [] = cs
    split
    · next h => exact h.symm
    · rfl
  have hvalue : n.digits = Nat.ofDigitChars 10 (c :: cs) 0 := by
    show Nat.ofDigitChars 10 ([c] ++ fraction.getD []) 0 = _
    rw [hfraction]
    rfl
  have hpower : n.power = exponent := by
    by_cases h : exponent < 0
    · simp only [Numeral.power, n, h, decide_true, Nat.ofDigitChars_ten_toDigits]
      omega
    · simp only [Numeral.power, n, h, decide_false, Nat.ofDigitChars_ten_toDigits]
      omega
  have hscale : n.scale = exponent + 1 - ((c :: cs).length : Nat) := by
    show n.power - ((fraction.getD []).length : Nat) = _
    rw [hpower, hfraction, List.length_cons]
    omega
  have hfits : n.exponentFits = true := by
    apply decide_eq_true
    exact exponentFits_toDigits (by omega)
  exact ⟨n, rfl, hspelled, hchars,
    stands_of_digits hd hlen hlow hhigh (Bool.and_false _) hfits hvalue hscale⟩

/-! ### Every number -/

/-- The numeral of zero. -/
def zeroNumeral (negative : Bool) : Numeral := ⟨negative, ['0'], some ['0'], none⟩

theorem zeroNumeral_spelled (negative : Bool) : (zeroNumeral negative).Spelled where
  whole := ⟨by simp [zeroNumeral], by simp [zeroNumeral]⟩
  leading _ := rfl
  fraction ds h := by
    cases h
    exact ⟨by simp, by simp⟩
  exponent _ ds h := by cases h

theorem zeroNumeral_stands (negative : Bool) {d : Decimal} (h : d.digits = 0) :
    (zeroNumeral negative).Stands d where
  isInteger := rfl
  digits := (by decide : 0 < Decimal.word)
  scale := (by decide : -0x80000000 ≤ (-1 : Int) ∧ (-1 : Int) < 0x80000000)
  exponent := rfl
  value sign := by
    have hdigits : (zeroNumeral negative).digits = 0 := rfl
    rw [hdigits, h, Binary.ofDecimal, Binary.ofDecimal, if_pos rfl, if_pos rfl]

/-- **A decimal is spelled by a numeral that stands for it.** -/
theorem decimalChars_eq (negative : Bool) (d : Decimal) (hdigits : d.digits < 10 ^ maxDigits)
    (hlow : -9000 ≤ d.exponent) (hhigh : d.exponent ≤ 9000) :
    ∃ n : Numeral, n.negative = negative ∧ n.Spelled ∧ decimalChars d = n.chars ∧ n.Stands d := by
  unfold decimalChars
  by_cases hzero : d.digits = 0
  · rw [if_pos hzero]
    exact ⟨zeroNumeral negative, rfl, zeroNumeral_spelled negative, rfl,
      zeroNumeral_stands negative hzero⟩
  · rw [if_neg hzero]
    obtain ⟨ds, zeros, hds, hall, hd, hhead, hvalue⟩ := exists_digits hzero
    dsimp only
    rw [hds, hall, List.length_append, List.length_replicate]
    have hcount : (Nat.toDigits 10 d.digits).length ≤ maxDigits :=
      (Nat.length_toDigits_le_iff (by decide) (by decide)).mpr hdigits
    rw [hall, List.length_append, List.length_replicate] at hcount
    have hcount' : ds.length + zeros ≤ 18 := hcount
    have hlen : ds.length ≤ maxDigits := Nat.le_trans (Nat.le_add_right _ _) hcount
    have hds0 : 0 < ds.length := List.length_pos_iff.mpr hd.ne_nil
    generalize hexponent : d.exponent + ((ds.length + zeros : Nat) : Int) - 1 = exponent
    have hmove (sign : Bool) :
        (Binary.ofDecimal sign (Nat.ofDigitChars 10 ds 0) (exponent + 1 - ds.length) : Binary64) =
          Binary.ofDecimal sign d.digits d.exponent := by
      have hexp : exponent + 1 - ds.length = d.exponent + zeros := by omega
      rw [hexp, ← Binary.ofDecimal_mul_pow, ← hvalue]
    split
    · next hrange =>
        have found : ∃ n : Numeral, n.negative = negative ∧ n.Spelled ∧
            positional ds exponent = n.chars ∧
            n.Stands ⟨Nat.ofDigitChars 10 ds 0, exponent + 1 - ds.length⟩ := by
          by_cases hneg : exponent < 0
          · exact positional_small negative hd hlen hneg hrange.1
          · by_cases hshort : ds.length ≤ exponent.toNat + 1
            · exact positional_whole negative hd hhead (by omega) hrange.2 hshort
            · exact positional_split negative hd hhead hlen (by omega) (by omega)
        obtain ⟨n, hsign, hspelled, hchars, hstands⟩ := found
        exact ⟨n, hsign, hspelled, hchars, hstands.trans hmove⟩
    · obtain ⟨n, hsign, hspelled, hchars, hstands⟩ :=
        scientific_eq exponent negative hd hlen (by omega) (by omega)
      exact ⟨n, hsign, hspelled, hchars, hstands.trans hmove⟩

/-- **A number is spelled by a numeral that is worth it**, on every way of counting. -/
theorem chars_eq (n : Number) :
    ∃ m : Numeral, m.Spelled ∧ n.chars = (if m.negative then '-' :: m.chars else m.chars) ∧
      m.inFull? = some n ∧ ∀ long, m.inRegisters? long = some n := by
  cases n with
  | int n =>
      obtain ⟨hfull, hregisters⟩ := intNumeral_value n
      exact ⟨_, intNumeral_spelled n.val, intChars_eq n.val, hfull, hregisters⟩
  | float x =>
      have hfin : x.val.code < Format.double.infinity := of_decide_eq_true x.property
      obtain ⟨-, hdigits, hlow, hhigh⟩ := Decimal.shortest_spec hfin
      have hlimit : (10 : Nat) ^ 17 < 10 ^ maxDigits := by decide
      have hhigh' : (Decimal.shortest x.val).exponent ≤ 2200 := hhigh
      obtain ⟨m, hsign, hspelled, hchars, hstands⟩ := decimalChars_eq x.val.negative
        (Decimal.shortest x.val) (Nat.lt_of_le_of_lt hdigits hlimit) (by omega) (by omega)
      have hvalue : ofBinary? (Binary.ofDecimal m.negative (Decimal.shortest x.val).digits
          (Decimal.shortest x.val).exponent) = some (.float x) := by
        rw [hsign, Decimal.ofDecimal_shortest hfin, ofBinary?, dif_pos x.property]
      refine ⟨m, hspelled, ?_, hstands.inFull?.trans hvalue,
        fun long => (hstands.inRegisters? long).trans hvalue⟩
      show floatChars x.val = _
      rw [floatChars, hchars, hsign]

/-- A number starts with a digit or a minus sign. -/
theorem chars_start (n : Number) : ∃ c cs, n.chars = c :: cs ∧ (c = '-' ∨ c.isDigit = true) := by
  obtain ⟨m, hspelled, hchars, -⟩ := n.chars_eq
  rw [hchars]
  split
  · exact ⟨_, _, rfl, .inl rfl⟩
  · obtain ⟨c, cs, hwhole⟩ := List.exists_cons_of_ne_nil hspelled.whole.ne_nil
    refine ⟨c, _, by rw [Numeral.chars, hwhole]; rfl, .inr (hspelled.whole.isDigit c ?_)⟩
    rw [hwhole]
    exact List.mem_cons_self

end Number

/-- **Every number is read back.** -/
theorem readNumber_chars (n : Number) (arithmetic : Arithmetic) {rest : List Char}
    (hr : Follows rest) : readNumber arithmetic (n.chars ++ rest) = some (n, rest) := by
  obtain ⟨m, hspelled, hchars, hfull, hregisters⟩ := n.chars_eq
  rw [hchars, readNumber_signed hspelled]
  exact readMagnitude_chars hspelled hfull hregisters arithmetic hr

end Json

end ArrayExchange
