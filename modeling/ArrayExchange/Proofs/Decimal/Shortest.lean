import ArrayExchange.Decimal.Shortest
import ArrayExchange.Proofs.Binary.Comparison
import ArrayExchange.Proofs.Binary.Nearest

/-!
# The shortest decimal names its datum

The search for the shortest decimal looks at coarser grids first.  On the grid of 17 digits the
neighbour nearest to the exact value is so near to it that it is rounded back.  So the search ends
there at the latest, and what it finds has no more than 17 digits, or is `10 ^ 17`.

* `Binary.ofDecimal_code` — a decimal is rounded as the fraction that it is; the shortcuts for very
  large and very small exponents make no difference.
* `Binary.ofDecimal_mul_pow` — zeros at the end of the digits may go into the exponent.
* `Decimal.namesMagnitude_of_near` — a decimal near the exact value of a datum names it.
* `Decimal.shortest_spec` — the main result.
-/

namespace ArrayExchange

/-! ### Decimals as fractions -/

namespace Binary

variable {f : Format}

theorem ofDecimal_negative (negative : Bool) (digits : Nat) (exponent : Int) :
    (ofDecimal negative digits exponent : Binary f).negative = negative := by
  unfold ofDecimal
  split
  · rfl
  · split
    · rfl
    · split <;> rfl

/-- The sign does not matter for the magnitude. -/
theorem ofDecimal_code_sign (negative : Bool) (digits : Nat) (exponent : Int) :
    (ofDecimal negative digits exponent : Binary f).code =
      (ofDecimal false digits exponent : Binary f).code := by
  unfold ofDecimal
  split
  · rfl
  · split
    · rfl
    · split <;> rfl

/-- A power of ten has more than three binary digits for each of its zeros. -/
theorem two_pow_le_ten_pow (n : Nat) : 2 ^ (3 * n) ≤ 10 ^ n := by
  rw [pow_mul]
  exact Nat.pow_le_pow_left (by decide) n

/-- **A decimal is rounded as the fraction that it is.** -/
theorem ofDecimal_code (negative : Bool) {digits : Nat} (hdigits : digits ≠ 0) (exponent : Int) :
    (ofDecimal negative digits exponent : Binary f).code =
      f.nearestCode (digits * 10 ^ exponent.toNat * 2 ^ f.unitExponent) (10 ^ (-exponent).toNat) := by
  have hpos : 1 ≤ digits := Nat.one_le_iff_ne_zero.mpr hdigits
  unfold ofDecimal decimalReach
  rw [if_neg hdigits]
  split
  · next hle =>
      -- past the largest value
      have hzero : (-exponent).toNat = 0 := by omega
      have hreach : f.fractionBits + f.infinity / f.hiddenBit ≤ 1200 + f.unitExponent := by
        cases f <;> decide
      have hsteps : f.fractionBits + f.infinity / f.hiddenBit ≤
          3 * exponent.toNat + f.unitExponent := by omega
      rw [hzero]
      symm
      apply f.nearestCode_of_huge (by decide)
      calc 2 ^ (f.fractionBits + f.infinity / f.hiddenBit) * 10 ^ 0
          ≤ 2 ^ (3 * exponent.toNat) * 2 ^ f.unitExponent := by
            rw [Nat.pow_zero, Nat.mul_one, ← pow_add]
            exact Nat.pow_le_pow_right (by decide) hsteps
        _ ≤ digits * 10 ^ exponent.toNat * 2 ^ f.unitExponent := by
            apply Nat.mul_le_mul_right
            calc 2 ^ (3 * exponent.toNat) ≤ 10 ^ exponent.toNat := two_pow_le_ten_pow _
              _ ≤ digits * 10 ^ exponent.toNat := Nat.le_mul_of_pos_left _ hpos
  · split
    · next hlt =>
        -- below half a unit
        have hzero : exponent.toNat = 0 := by omega
        have hbits : digits < 2 ^ (digits.log2 + 1) := Nat.lt_log2_self
        have hunit : f.unitExponent ≤ 1200 := by cases f <;> decide
        rw [hzero]
        symm
        apply f.nearestCode_of_tiny
        calc 2 * (digits * 10 ^ 0 * 2 ^ f.unitExponent)
            = 2 * 2 ^ f.unitExponent * digits := by ring
          _ < 2 * 2 ^ f.unitExponent * 2 ^ (digits.log2 + 1) :=
              Nat.mul_lt_mul_of_pos_left hbits (by positivity)
          _ = 2 ^ (f.unitExponent + digits.log2 + 2) := by ring
          _ ≤ 2 ^ (3 * (-exponent).toNat) := Nat.pow_le_pow_right (by decide) (by omega)
          _ ≤ 10 ^ (-exponent).toNat := two_pow_le_ten_pow _
    · rfl

/-- **Zeros at the end of the digits may go into the exponent.** -/
theorem ofDecimal_mul_pow (negative : Bool) (digits zeros : Nat) (exponent : Int) :
    (ofDecimal negative (digits * 10 ^ zeros) exponent : Binary f) =
      ofDecimal negative digits (exponent + zeros) := by
  by_cases hdigits : digits = 0
  · subst hdigits
    rw [Nat.zero_mul]
    simp only [ofDecimal, if_true]
  · have hcode : (ofDecimal negative (digits * 10 ^ zeros) exponent : Binary f).code =
        (ofDecimal negative digits (exponent + zeros) : Binary f).code := by
      rw [ofDecimal_code negative hdigits, ofDecimal_code negative (by positivity)]
      apply f.nearestCode_congr (by positivity) (by positivity)
      have hexp : zeros + exponent.toNat + (-(exponent + zeros)).toNat =
          (exponent + zeros).toNat + (-exponent).toNat := by omega
      calc digits * 10 ^ zeros * 10 ^ exponent.toNat * 2 ^ f.unitExponent *
              10 ^ (-(exponent + zeros)).toNat
          = digits * 2 ^ f.unitExponent *
              10 ^ (zeros + exponent.toNat + (-(exponent + zeros)).toNat) := by ring
        _ = digits * 10 ^ (exponent + zeros).toNat * 2 ^ f.unitExponent *
              10 ^ (-exponent).toNat := by rw [hexp]; ring
    refine eq_of_code_eq ?_ hcode
    rw [ofDecimal_negative, ofDecimal_negative]

end Binary

namespace Decimal

variable {f : Format} {x : Binary f}

/-! ### The exact value -/

/-- The exact value is as many units as the datum has. -/
theorem exact_units (x : Binary f) :
    (exact x).digits * 2 ^ f.unitExponent =
      f.units x.code * 10 ^ (f.unitExponent - f.scale x.code) := by
  have hexp : f.scale x.code - f.unitExponent + f.unitExponent =
      f.scale x.code + (f.unitExponent - f.scale x.code) := by omega
  have hten (n : Nat) : 2 ^ n * 5 ^ n = 10 ^ n := (Nat.mul_pow 2 5 n).symm
  show f.significand x.code * 2 ^ (f.scale x.code - f.unitExponent) *
      5 ^ (f.unitExponent - f.scale x.code) * 2 ^ f.unitExponent =
    f.significand x.code * 2 ^ f.scale x.code * 10 ^ (f.unitExponent - f.scale x.code)
  calc _ = f.significand x.code * 2 ^ (f.scale x.code - f.unitExponent + f.unitExponent) *
        5 ^ (f.unitExponent - f.scale x.code) := by ring
    _ = f.significand x.code * 2 ^ f.scale x.code *
        (2 ^ (f.unitExponent - f.scale x.code) * 5 ^ (f.unitExponent - f.scale x.code)) := by
      rw [hexp]
      ring
    _ = _ := by rw [hten]

theorem exact_digits_pos (h : x.code ≠ 0) : 0 < (exact x).digits :=
  Nat.mul_pos (Nat.mul_pos (f.significand_pos (Nat.pos_of_ne_zero h)) (Nat.pow_pos (by decide)))
    (Nat.pow_pos (by decide))

theorem exact_digits_eq_zero (h : x.code = 0) : (exact x).digits = 0 := by
  have hzero : f.significand x.code = 0 := by
    rw [h, Format.significand, if_pos f.hiddenBit_pos]
  unfold exact
  simp only [hzero, Nat.zero_mul]

/-- **A decimal near the exact value names the datum.** -/
theorem namesMagnitude_of_near (hfin : x.code < f.infinity) {digits : Nat}
    (above : 4 * f.hiddenBit * digits < (4 * f.hiddenBit + 1) * (exact x).digits)
    (below : 4 * f.hiddenBit * (exact x).digits < 4 * f.hiddenBit * digits + (exact x).digits) :
    namesMagnitude x ⟨digits, (exact x).exponent⟩ = true := by
  have hdigits : digits ≠ 0 := by
    rintro rfl
    have hH := Nat.mul_le_mul_right (exact x).digits f.hiddenBit_pos
    linarith
  have hexponent : (exact x).exponent = -((f.unitExponent - f.scale x.code : Nat) : Int) := rfl
  have hunits := exact_units x
  have htwo : 0 < 2 ^ f.unitExponent := by positivity
  apply decide_eq_true
  rw [Binary.ofDecimal_code false hdigits, hexponent]
  have hzero : (-((f.unitExponent - f.scale x.code : Nat) : Int)).toNat = 0 := by omega
  have hpower : (- -((f.unitExponent - f.scale x.code : Nat) : Int)).toNat =
      f.unitExponent - f.scale x.code := by omega
  rw [hzero, hpower, Nat.pow_zero, Nat.mul_one]
  apply f.nearestCode_of_near hfin (by positivity)
  · rw [← hunits]
    have hmul := Nat.mul_lt_mul_of_pos_right above htwo
    linarith
  · rw [← hunits]
    have hmul := Nat.mul_lt_mul_of_pos_right below htwo
    linarith

/-- The exact value names the datum. -/
theorem namesMagnitude_exact (hfin : x.code < f.infinity) : namesMagnitude x (exact x) = true := by
  by_cases h : x.code = 0
  · apply decide_eq_true
    rw [Binary.ofDecimal, if_pos (exact_digits_eq_zero h), h]
    rfl
  · have hpos := exact_digits_pos h
    show namesMagnitude x ⟨(exact x).digits, (exact x).exponent⟩ = true
    generalize hd : (exact x).digits = digits at hpos
    apply namesMagnitude_of_near hfin
    · rw [hd]
      linarith
    · rw [hd]
      linarith

/-! ### Neighbours on a grid -/

/-- What the search looks at on the grid that drops the last `cut` digits. -/
def candidates (d : Decimal) : Nat → List Decimal
  | 0 => [d]
  | cut + 1 => neighbours d (cut + 1)

theorem exponent_of_mem_candidates {d e : Decimal} {cut : Nat} (h : e ∈ candidates d cut) :
    e.exponent = d.exponent + cut := by
  cases cut with
  | zero =>
      cases List.mem_singleton.mp h
      exact (Int.add_zero _).symm
  | succ cut =>
      simp only [candidates, neighbours] at h
      split at h <;> rcases List.mem_pair.mp h with rfl | rfl <;> rfl

theorem digits_of_mem_candidates {d e : Decimal} {cut n : Nat} (h : e ∈ candidates d cut)
    (hd : d.digits < 10 ^ (cut + n)) : e.digits ≤ 10 ^ n := by
  have hdiv : d.digits / 10 ^ cut < 10 ^ n := by
    rw [Nat.div_lt_iff_lt_mul (by positivity), ← pow_add, Nat.add_comm]
    exact hd
  cases cut with
  | zero =>
      cases List.mem_singleton.mp h
      rw [Nat.zero_add] at hd
      exact hd.le
  | succ cut =>
      have hdiv' : d.digits / Nat.pow 10 (cut + 1) < 10 ^ n := hdiv
      simp only [candidates, neighbours] at h
      split at h
      · rcases List.mem_pair.mp h with rfl | rfl
        · exact hdiv'.le
        · exact hdiv'
      · rcases List.mem_pair.mp h with rfl | rfl
        · exact hdiv'
        · exact hdiv'.le

/-- One of the neighbours is at most half a step away. -/
theorem exists_near_neighbour (d : Decimal) (cut : Nat) :
    ∃ e ∈ neighbours d cut, e.exponent = d.exponent + cut ∧
      2 * (e.digits * 10 ^ cut) ≤ 2 * d.digits + 10 ^ cut ∧
      2 * d.digits ≤ 2 * (e.digits * 10 ^ cut) + 10 ^ cut := by
  have hsplit : 10 ^ cut * (d.digits / 10 ^ cut) + d.digits % 10 ^ cut = d.digits :=
    Nat.div_add_mod d.digits (10 ^ cut)
  have hrest : d.digits % 10 ^ cut < 10 ^ cut := Nat.mod_lt _ (by positivity)
  unfold neighbours
  dsimp only [Nat.pow_eq]
  split
  · next h =>
      refine ⟨_, List.mem_cons_self, rfl, ?_, ?_⟩
      · dsimp only
        linarith [Nat.zero_le (d.digits % 10 ^ cut), Nat.zero_le (10 ^ cut)]
      · dsimp only
        rcases h with h | h
        · linarith
        · linarith [h.1]
  · next h =>
      have hge : 10 ^ cut ≤ 2 * (d.digits % 10 ^ cut) := Nat.le_of_not_lt fun e => h (.inl e)
      refine ⟨_, List.mem_cons_self, rfl, ?_, ?_⟩
      · dsimp only
        linarith
      · dsimp only
        linarith

/-- A neighbour at most half a step away names the datum, if 17 digits are left. -/
theorem exists_naming_neighbour (hfin : x.code < f.infinity) {cut : Nat}
    (h : 10 ^ 16 * 10 ^ cut ≤ (exact x).digits) :
    ∃ e ∈ neighbours (exact x) cut, namesMagnitude x e = true := by
  obtain ⟨e, hmem, hexponent, hupper, hlower⟩ := exists_near_neighbour (exact x) cut
  have hwidth : 2 * f.hiddenBit + 1 ≤ 10 ^ 16 := by cases f <;> decide
  have hstep := Nat.mul_le_mul_right (10 ^ cut) hwidth
  have hpos : 0 < 10 ^ cut := by positivity
  -- half a step is less than the part of the value that is allowed
  have hnear : namesMagnitude x ⟨e.digits * 10 ^ cut, (exact x).exponent⟩ = true := by
    apply namesMagnitude_of_near hfin
    · have hmul := Nat.mul_le_mul_left (2 * f.hiddenBit) hupper
      linarith
    · have hmul := Nat.mul_le_mul_left (2 * f.hiddenBit) hlower
      linarith
  refine ⟨e, hmem, ?_⟩
  unfold namesMagnitude at hnear ⊢
  dsimp only at hnear
  rw [Binary.ofDecimal_mul_pow, ← hexponent] at hnear
  exact hnear

/-! ### The search -/

/-- The search finds a candidate no later than on any grid that has one. -/
theorem search_spec {d : Decimal} {least : Nat} (cut : Nat) (hle : least ≤ cut)
    (h : ∃ e ∈ candidates d least, namesMagnitude x e = true) :
    ∃ e k, search x d cut = some e ∧ least ≤ k ∧ k ≤ cut ∧ e ∈ candidates d k ∧
      namesMagnitude x e = true := by
  induction cut with
  | zero =>
      obtain rfl : least = 0 := Nat.le_zero.mp hle
      obtain ⟨e, hmem, hnames⟩ := h
      cases List.mem_singleton.mp hmem
      exact ⟨d, 0, if_pos hnames, Nat.le_refl _, Nat.le_refl _, hmem, hnames⟩
  | succ cut ih =>
      cases hfind : (neighbours d (cut + 1)).find? (namesMagnitude x) with
      | some e =>
          refine ⟨e, cut + 1, ?_, hle, Nat.le_refl _, List.mem_of_find?_eq_some hfind,
            List.find?_some hfind⟩
          rw [search, hfind]
          rfl
      | none =>
          have hne : least ≠ cut + 1 := by
            rintro rfl
            obtain ⟨e, hmem, hnames⟩ := h
            exact List.find?_eq_none.mp hfind e hmem hnames
          obtain ⟨e, k, hsearch, hlow, hhigh, hmem, hnames⟩ := ih (by omega)
          refine ⟨e, k, ?_, hlow, by omega, hmem, hnames⟩
          rw [search, hfind, hsearch]
          rfl

theorem lt_pow_digitCount (n : Nat) : n < 10 ^ digitCount n :=
  (Nat.length_toDigits_le_iff (by decide) Nat.length_toDigits_pos).mp (Nat.le_refl _)

theorem pow_le_of_lt_digitCount {n k : Nat} (hk : 0 < k) (h : k < digitCount n) : 10 ^ k ≤ n :=
  Nat.le_of_not_lt fun hlt =>
    Nat.not_le_of_lt h ((Nat.length_toDigits_le_iff (by decide) hk).mpr hlt)

/-- The exact value has fewer than so many digits. -/
def digitLimit : Nat := 2200

theorem lt_digitLimit (hfin : x.code < f.infinity) {k : Nat} (h : 10 ^ k ≤ (exact x).digits) :
    k < digitLimit := by
  have hscale : f.scale x.code ≤ f.infinity / f.hiddenBit :=
    Nat.le_trans (Nat.sub_le _ _) (Nat.div_le_div_right hfin.le)
  have hsignificand : f.significand x.code ≤ 2 ^ (f.fractionBits + 1) := by
    rw [pow_succ, ← f.hiddenBit_eq, Nat.mul_comm]
    exact (f.significand_lt x.code).le
  have hlayout : f.fractionBits + 1 + f.infinity / f.hiddenBit + 4 * f.unitExponent < 6400 := by
    cases f <;> decide
  have hsixteen : 16 ^ f.unitExponent = 2 ^ (4 * f.unitExponent) := (Nat.pow_mul 2 4 _).symm
  have htwo : 2 ^ (3 * k) ≤ 2 ^ (f.fractionBits + 1 + f.scale x.code + 4 * f.unitExponent) := by
    calc 2 ^ (3 * k) ≤ 10 ^ k := Binary.two_pow_le_ten_pow k
      _ ≤ (exact x).digits * 2 ^ f.unitExponent :=
          Nat.le_trans h (Nat.le_mul_of_pos_right _ (by positivity))
      _ = f.units x.code * 10 ^ (f.unitExponent - f.scale x.code) := exact_units x
      _ ≤ 2 ^ (f.fractionBits + 1) * 2 ^ f.scale x.code * 16 ^ f.unitExponent := by
          refine Nat.mul_le_mul (Nat.mul_le_mul_right _ hsignificand) ?_
          calc 10 ^ (f.unitExponent - f.scale x.code) ≤ 10 ^ f.unitExponent :=
                Nat.pow_le_pow_right (by decide) (Nat.sub_le _ _)
            _ ≤ 16 ^ f.unitExponent := Nat.pow_le_pow_left (by decide) _
      _ = 2 ^ (f.fractionBits + 1 + f.scale x.code + 4 * f.unitExponent) := by
          rw [pow_add 2 (f.fractionBits + 1 + f.scale x.code), pow_add 2 (f.fractionBits + 1), hsixteen]
  have hexp := (Nat.pow_le_pow_iff_right (by decide)).mp htwo
  unfold digitLimit
  omega

/-- **The shortest decimal names its datum**, and has no more than 17 digits or is `10 ^ 17`. -/
theorem shortest_spec (hfin : x.code < f.infinity) :
    namesMagnitude x (shortest x) = true ∧ (shortest x).digits ≤ 10 ^ 17 ∧
      -1074 ≤ (shortest x).exponent ∧ (shortest x).exponent ≤ digitLimit := by
  have hcount := lt_pow_digitCount (exact x).digits
  have hpos : 0 < digitCount (exact x).digits := Nat.length_toDigits_pos
  have hfound : ∃ e ∈ candidates (exact x) (digitCount (exact x).digits - 17),
      namesMagnitude x e = true := by
    cases hcut : digitCount (exact x).digits - 17 with
    | zero => exact ⟨_, List.mem_singleton_self _, namesMagnitude_exact hfin⟩
    | succ cut =>
        apply exists_naming_neighbour hfin
        rw [← pow_add]
        exact pow_le_of_lt_digitCount (by omega) (by omega)
  obtain ⟨e, k, hsearch, hlow, hhigh, hmem, hnames⟩ :=
    search_spec (digitCount (exact x).digits - 1) (by omega) hfound
  have hshortest : shortest x = e := by
    show (search x (exact x) (digitCount (exact x).digits - 1)).getD (exact x) = e
    rw [hsearch]
    rfl
  have hexponent := exponent_of_mem_candidates hmem
  have hexact : (exact x).exponent = -((f.unitExponent - f.scale x.code : Nat) : Int) := rfl
  have hunit : f.unitExponent ≤ 1074 := by cases f <;> decide
  have hk : k ≤ digitLimit := by
    rcases Nat.eq_zero_or_pos k with rfl | hk
    · exact Nat.zero_le _
    · exact (lt_digitLimit hfin (pow_le_of_lt_digitCount hk (by omega))).le
  rw [hshortest]
  refine ⟨hnames, digits_of_mem_candidates hmem (Nat.lt_of_lt_of_le hcount ?_), by omega, by omega⟩
  exact Nat.pow_le_pow_right (by decide) (by omega)

/-- **The shortest decimal is read back.** -/
theorem ofDecimal_shortest (hfin : x.code < f.infinity) :
    Binary.ofDecimal x.negative (shortest x).digits (shortest x).exponent = x := by
  refine Binary.eq_of_code_eq (Binary.ofDecimal_negative _ _ _) ?_
  rw [Binary.ofDecimal_code_sign]
  exact of_decide_eq_true (shortest_spec hfin).1

end Decimal

end ArrayExchange
