import ArrayExchange.Json.Reader
import ArrayExchange.Proofs.Decimal.Shortest

/-!
# Numbers there and back

Every number is spelled as a numeral, and reading takes exactly this numeral off the front of a text,
provided that the text goes on with a mark or ends.  The value is the same on both ways of counting:
the digits of a spelled number fit in a register, so nothing is lost there.

* `Json.Follows` — what comes behind a value in a compact text.
* `Json.Numeral.chars`, `Json.Numeral.Spelled` — a numeral as text, and when it reads as itself.
* `Json.readMagnitude_chars` — a numeral whose value is the same on both ways is read back.
* `Json.Number.intNumeral_value` — the numeral of an integer is such a numeral.
* `Json.Numeral.Stands` — a numeral that is worth a given decimal, also when counted in registers.
-/

namespace ArrayExchange

namespace Json

/-! ### Runs of digits -/

/-- A run of digits, at least one. -/
structure Digits (ds : List Char) : Prop where
  ne_nil : ds ≠ []
  isDigit : ∀ c ∈ ds, c.isDigit = true

theorem digits_toDigits (n : Nat) : Digits (Nat.toDigits 10 n) where
  ne_nil := Nat.toDigits_ne_nil
  isDigit _ hc := Nat.isDigit_of_mem_toDigits (by decide) (by decide) hc

theorem Digits.append {ds es : List Char} (hd : Digits ds) (he : ∀ c ∈ es, c.isDigit = true) :
    Digits (ds ++ es) where
  ne_nil h := hd.ne_nil (List.append_eq_nil_iff.mp h).1
  isDigit c hc := by
    rcases List.mem_append.mp hc with hc | hc
    · exact hd.isDigit c hc
    · exact he c hc

theorem isDigit_of_mem_replicate {n : Nat} {c : Char} (h : c ∈ List.replicate n '0') :
    c.isDigit = true := by
  rw [List.eq_of_mem_replicate h]
  decide

/-- So many digits spell a number below that power of ten. -/
theorem ofDigitChars_lt {ds : List Char} (h : ∀ c ∈ ds, c.isDigit = true) (init : Nat) :
    Nat.ofDigitChars 10 ds init < 10 ^ ds.length * (init + 1) := by
  induction ds generalizing init with
  | nil => simp
  | cons c ds ih =>
      have hc : c.toNat - '0'.toNat ≤ 9 := by
        have hdigit := h c List.mem_cons_self
        simp only [Char.isDigit, Bool.and_eq_true, decide_eq_true_eq] at hdigit
        have hle : c.toNat ≤ 57 := hdigit.2
        have hzero : '0'.toNat = 48 := rfl
        omega
      rw [Nat.ofDigitChars_cons, List.length_cons, pow_succ]
      calc Nat.ofDigitChars 10 ds (10 * init + (c.toNat - '0'.toNat))
          < 10 ^ ds.length * (10 * init + (c.toNat - '0'.toNat) + 1) :=
            ih (fun d hd => h d (List.mem_cons_of_mem _ hd)) _
        _ ≤ 10 ^ ds.length * (10 * (init + 1)) := Nat.mul_le_mul_left _ (by omega)
        _ = 10 ^ ds.length * 10 * (init + 1) := by ring

/-- A positive number is not spelled with a zero in front. -/
theorem head?_toDigits {n : Nat} (h : n ≠ 0) : (Nat.toDigits 10 n).head? ≠ some '0' := by
  induction n using Nat.strongRecOn with
  | _ n ih =>
      by_cases hlt : n < 10
      · rw [Nat.toDigits_of_lt_base hlt]
        intro e
        exact h (Nat.digitChar_eq_zero.mp (Option.some.inj e))
      · rw [Nat.toDigits_of_base_le (by decide) (Nat.le_of_not_lt hlt), List.head?_append_of_ne_nil _
          Nat.toDigits_ne_nil]
        exact ih (n / 10) (by omega) (by omega)

/-! ### What follows -/

/-- What comes behind a value in a compact text: a mark that does not open anything, or nothing. -/
def Follows (rest : List Char) : Prop :=
  ∀ c cs, rest = c :: cs → c = ',' ∨ c = ']' ∨ c = '\x7d'

theorem follows_nil : Follows [] := by
  intro c cs h
  cases h

theorem follows_cons {c : Char} (h : c = ',' ∨ c = ']' ∨ c = '\x7d') (cs : List Char) :
    Follows (c :: cs) := by
  intro d ds e
  cases e
  exact h

theorem Follows.skipRun {rest : List Char} (h : Follows rest) : skipRun rest = rest := by
  cases rest with
  | nil => rfl
  | cons c cs =>
      rcases h c cs rfl with rfl | rfl | rfl <;> simp [Json.skipRun, isBlank, isMark]

/-- A word or a number may end here. -/
theorem Follows.endToken {α : Type} {rest : List Char} (h : Follows rest) (item : α) :
    endToken item rest = some (item, rest) := by
  have hends : endsToken rest = true := by
    cases rest with
    | nil => rfl
    | cons c cs =>
        rcases h c cs rfl with rfl | rfl | rfl <;> rfl
  rw [Json.endToken, if_pos hends, h.skipRun]

/-- A text that does not go on with a digit. -/
def NoDigit (rest : List Char) : Prop := ∀ c cs, rest = c :: cs → c.isDigit = false

theorem noDigit_cons {c : Char} (h : c.isDigit = false) (cs : List Char) : NoDigit (c :: cs) := by
  intro d ds e
  cases e
  exact h

theorem Follows.noDigit {rest : List Char} (h : Follows rest) : NoDigit rest := by
  intro c cs e
  rcases h c cs e with rfl | rfl | rfl <;> rfl

theorem readDigits_append {ds rest : List Char} (hd : Digits ds) (hr : NoDigit rest) :
    readDigits (ds ++ rest) = some (ds, rest) := by
  have hrest : rest.takeWhile Char.isDigit = [] ∧ rest.dropWhile Char.isDigit = rest := by
    cases rest with
    | nil => exact ⟨rfl, rfl⟩
    | cons c cs =>
        have hc : ¬ c.isDigit = true := by
          rw [hr c cs rfl]
          exact Bool.false_ne_true
        exact ⟨List.takeWhile_cons_of_neg hc, List.dropWhile_cons_of_neg hc⟩
  unfold readDigits
  rw [List.takeWhile_append_of_pos hd.isDigit, List.dropWhile_append_of_pos hd.isDigit, hrest.1,
    hrest.2, List.append_nil]
  cases ds with
  | nil => exact absurd rfl hd.ne_nil
  | cons c cs => rfl

/-! ### Numerals as text -/

namespace Numeral

/-- The point and the digits behind it. -/
def fractionChars : Option (List Char) → List Char
  | some ds => '.' :: ds
  | none => []

/-- The exponent with its letter and its sign. -/
def exponentChars : Option (Bool × List Char) → List Char
  | some (negative, ds) => 'e' :: (if negative then '-' else '+') :: ds
  | none => []

/-- A numeral as text, without its sign. -/
def chars (n : Numeral) : List Char :=
  n.whole ++ (fractionChars n.fraction ++ exponentChars n.exponent)

/-- A numeral with digits wherever they belong, and without a zero in front of them. -/
structure Spelled (n : Numeral) : Prop where
  whole : Digits n.whole
  leading : n.whole.head? = some '0' → n.whole.length = 1
  fraction : ∀ ds, n.fraction = some ds → Digits ds
  exponent : ∀ negative ds, n.exponent = some (negative, ds) → Digits ds

theorem readExponent_chars {exponent : Option (Bool × List Char)}
    (h : ∀ negative ds, exponent = some (negative, ds) → Digits ds) {rest : List Char}
    (hr : Follows rest) : readExponent (exponentChars exponent ++ rest) = some (exponent, rest) := by
  cases exponent with
  | none =>
      cases rest with
      | nil => rfl
      | cons c cs => rcases hr c cs rfl with rfl | rfl | rfl <;> rfl
  | some e =>
      obtain ⟨negative, ds⟩ := e
      have hread := readDigits_append (h negative ds rfl) hr.noDigit
      cases negative with
      | true =>
          show (readSignedDigits ('-' :: (ds ++ rest))).map _ = _
          rw [readSignedDigits, hread]
          rfl
      | false =>
          show (readSignedDigits ('+' :: (ds ++ rest))).map _ = _
          rw [readSignedDigits, hread]
          rfl

theorem noDigit_exponentChars (exponent : Option (Bool × List Char)) {rest : List Char}
    (hr : Follows rest) : NoDigit (exponentChars exponent ++ rest) := by
  cases exponent with
  | none => exact hr.noDigit
  | some e => exact noDigit_cons rfl _

theorem readFraction_chars {fraction : Option (List Char)}
    (h : ∀ ds, fraction = some ds → Digits ds) (exponent : Option (Bool × List Char))
    {rest : List Char} (hr : Follows rest) :
    readFraction (fractionChars fraction ++ (exponentChars exponent ++ rest)) =
      some (fraction, exponentChars exponent ++ rest) := by
  cases fraction with
  | none =>
      cases exponent with
      | none =>
          cases rest with
          | nil => rfl
          | cons c cs => rcases hr c cs rfl with rfl | rfl | rfl <;> rfl
      | some e => rfl
  | some ds =>
      show (readDigits (ds ++ (exponentChars exponent ++ rest))).map _ = _
      rw [readDigits_append (h ds rfl) (noDigit_exponentChars exponent hr)]
      rfl

/-- **A numeral reads as itself.** -/
theorem readUnsigned_chars {n : Numeral} (h : n.Spelled) {rest : List Char} (hr : Follows rest) :
    readUnsigned n.negative (n.chars ++ rest) = some (n, rest) := by
  have hnext : NoDigit (fractionChars n.fraction ++ (exponentChars n.exponent ++ rest)) := by
    cases n.fraction with
    | none => exact noDigit_exponentChars n.exponent hr
    | some ds => exact noDigit_cons rfl _
  have hleading : ¬ (n.whole.head? = some '0' ∧ n.whole.length ≠ 1) := fun e => e.2 (h.leading e.1)
  unfold readUnsigned readWhole chars
  rw [List.append_assoc, List.append_assoc, readDigits_append h.whole hnext]
  simp only [bind, Option.bind, if_neg hleading, readFraction_chars h.fraction n.exponent hr,
    readExponent_chars h.exponent hr]

end Numeral

/-- A number whose value is the same on every way of counting is read. -/
theorem readMagnitude_chars {n : Numeral} (h : n.Spelled) {value : Number}
    (hfull : n.inFull? = some value) (hregisters : ∀ long, n.inRegisters? long = some value)
    (arithmetic : Arithmetic) {rest : List Char} (hr : Follows rest) :
    readMagnitude arithmetic n.negative (n.chars ++ rest) = some (value, rest) := by
  unfold readMagnitude
  rw [Numeral.readUnsigned_chars h hr]
  cases arithmetic with
  | exact =>
      simp only [bind, Option.bind, hfull]
      exact hr.endToken value
  | registers size =>
      simp only [bind, Option.bind, hregisters]
      split
      · rw [hr.skipRun]
      · exact hr.endToken value

/-- A numeral behind its sign is read by its magnitude. -/
theorem readNumber_signed {n : Numeral} (h : n.Spelled) (arithmetic : Arithmetic)
    (rest : List Char) :
    readNumber arithmetic ((if n.negative then '-' :: n.chars else n.chars) ++ rest) =
      readMagnitude arithmetic n.negative (n.chars ++ rest) := by
  cases hsign : n.negative with
  | true => rfl
  | false =>
      cases hwhole : n.whole with
      | nil => exact absurd hwhole h.whole.ne_nil
      | cons c cs =>
          have hdigit : c.isDigit = true := h.whole.isDigit c (by rw [hwhole]; exact List.mem_cons_self)
          have hne : c ≠ '-' := by
            rintro rfl
            exact Bool.false_ne_true hdigit
          rw [if_neg Bool.false_ne_true, Numeral.chars, hwhole]
          show readNumber arithmetic (c :: _) = readMagnitude arithmetic false (c :: _)
          unfold readNumber
          split
          · next e => exact absurd (List.cons.inj e).1 hne
          · rfl

/-! ### Integers -/

/-- The numeral of an integer. -/
def Number.intNumeral (n : Int) : Numeral := ⟨n < 0, Nat.toDigits 10 n.natAbs, none, none⟩

theorem Number.intNumeral_spelled (n : Int) : (intNumeral n).Spelled where
  whole := digits_toDigits _
  leading h := by
    by_cases hn : n.natAbs = 0
    · show (Nat.toDigits 10 n.natAbs).length = 1
      rw [hn]
      rfl
    · exact absurd h (head?_toDigits hn)
  fraction ds h := by cases h
  exponent negative ds h := by cases h

theorem Number.intNumeral_negative (n : Int) : (intNumeral n).negative = true ↔ n < 0 :=
  decide_eq_true_iff

theorem Number.intNumeral_integer (n : Int) : (intNumeral n).integer = n := by
  have hdigits : (intNumeral n).digits = n.natAbs := by
    show Nat.ofDigitChars 10 (Nat.toDigits 10 n.natAbs ++ []) 0 = n.natAbs
    rw [List.append_nil, Nat.ofDigitChars_ten_toDigits]
  unfold Numeral.integer
  rw [hdigits]
  by_cases hn : n < 0
  · rw [if_pos ((intNumeral_negative n).mpr hn)]
    omega
  · rw [if_neg (mt (intNumeral_negative n).mp hn)]
    omega

theorem Number.intChars_eq (n : Int) :
    intChars n =
      if (intNumeral n).negative then '-' :: (intNumeral n).chars else (intNumeral n).chars := by
  have hchars : (intNumeral n).chars = Nat.toDigits 10 n.natAbs := List.append_nil _
  rw [intChars, hchars]
  by_cases hn : n < 0
  · rw [if_pos hn, if_pos ((intNumeral_negative n).mpr hn)]
  · rw [if_neg hn, if_neg (mt (intNumeral_negative n).mp hn)]

/-- The numeral of an integer is worth it, on every way of counting. -/
theorem Number.intNumeral_value (n : WideInt) :
    (intNumeral n.val).inFull? = some (.int n) ∧
      ∀ long, (intNumeral n.val).inRegisters? long = some (.int n) := by
  have hvalue : ofInt? (intNumeral n.val).integer = some (.int n) := by
    rw [intNumeral_integer, ofInt?, dif_pos n.property]
  refine ⟨?_, fun long => hvalue⟩
  show (ofInt? (intNumeral n.val).integer).or _ = _
  rw [hvalue, Option.some_or]

/-! ### Decimals -/

namespace Numeral

/-- A numeral with a fraction or an exponent that is worth a given decimal, and whose parts fit in
registers. -/
structure Stands (n : Numeral) (d : Decimal) : Prop where
  isInteger : n.isInteger = false
  digits : n.digits < Decimal.word
  scale : -0x80000000 ≤ n.scale ∧ n.scale < 0x80000000
  exponent : n.exponentFits = true
  value : ∀ negative, (Binary.ofDecimal negative n.digits n.scale : Binary64) =
    Binary.ofDecimal negative d.digits d.exponent

variable {n : Numeral} {d : Decimal}

theorem Stands.nearest? (h : n.Stands d) :
    n.nearest? = Number.ofBinary? (Binary.ofDecimal n.negative d.digits d.exponent) := by
  rw [Numeral.nearest?, h.value]

theorem Stands.inFull? (h : n.Stands d) :
    n.inFull? = Number.ofBinary? (Binary.ofDecimal n.negative d.digits d.exponent) := by
  rw [Numeral.inFull?, if_neg (by rw [h.isInteger]; exact Bool.false_ne_true), h.nearest?]

/-- **Registers lose nothing** of such a numeral. -/
theorem Stands.inRegisters? (h : n.Stands d) (long : Bool) :
    n.inRegisters? long =
      Number.ofBinary? (Binary.ofDecimal n.negative d.digits d.exponent) := by
  have hdigits : n.narrowDigits = n.digits := Nat.mod_eq_of_lt h.digits
  have hscale : n.narrowScale = n.scale :=
    Int.bmod_eq_of_le (by have := h.scale; omega) (by have := h.scale; omega)
  unfold Numeral.inRegisters?
  rw [if_neg (by rw [h.isInteger]; exact Bool.false_ne_true), if_neg (by rw [h.exponent]; decide),
    hdigits, hscale, h.nearest?, h.value]
  split <;> rfl

/-- Numbers of the same value have the same numerals. -/
theorem Stands.trans {e : Decimal} (h : n.Stands d)
    (hvalue : ∀ negative, (Binary.ofDecimal negative d.digits d.exponent : Binary64) =
      Binary.ofDecimal negative e.digits e.exponent) : n.Stands e :=
  { h with value := fun negative => (h.value negative).trans (hvalue negative) }

end Numeral

end Json

end ArrayExchange
