import ArrayExchange.Proofs.Bytes.CanonicalBase64
import Mathlib.Data.Nat.Digits.Defs
import Mathlib.Tactic.Ring

/-!
# The base64 format

This file says what a base64 text is without saying how it is written or read.  A text consists of
letters, each for a number of six bits, and of padding.  The letters together spell a number in base
64, the bytes spell one in base 256, and with zero bits appended for the padding both numbers are the
same.  That leaves no choice: a byte string has one text, which is the one that is written.

* `Base64.alphabet`, `Base64.Spells` — the format.
* `Base64.spells_encode` — what is written is of the format.
* `Base64.Spells.text_unique` — nothing else is.
* `Base64.spells_iff` — the format, and what is written.
-/

namespace ArrayExchange

namespace Base64

/-! ### The format -/

/-- The letters, in the order of the numbers that they stand for. -/
def alphabet : List Char :=
  "ABCDEFGHIJKLMNOPQRSTUVWXYZabcdefghijklmnopqrstuvwxyz0123456789+/".toList

/-- The letter for a number of six bits. -/
def letter (v : Nat) : Char := alphabet.getD v '='

/-- The number that a list of digits spells, most significant digit first. -/
def number (base : Nat) (digits : List Nat) : Nat := Nat.ofDigits base digits.reverse

/-- A text spells a byte string by the letters for `sextets`, and by padding. -/
structure Spells (text : List Char) (sextets : List Nat) (padding : Nat) (bytes : Bytes) : Prop where
  text_eq : text = sextets.map letter ++ List.replicate padding '='
  sextet_lt : ∀ v ∈ sextets, v < 64
  padding_lt : padding < 3
  /-- Each padding character stands for two bits behind the bytes. -/
  bits : 6 * sextets.length = 8 * bytes.length + 2 * padding
  /-- The bits behind the bytes are zero. -/
  number_eq : number 64 sextets = 4 ^ padding * number 256 (bytes.map UInt8.toNat)

/-! ### Numbers -/

theorem number_append (base : Nat) (xs ys : List Nat) :
    number base (xs ++ ys) = number base ys + base ^ ys.length * number base xs := by
  rw [number, List.reverse_append, Nat.ofDigits_append, List.length_reverse]
  rfl

theorem number_nil (base : Nat) : number base [] = 0 := rfl

theorem number_cons (base d : Nat) (ds : List Nat) :
    number base (d :: ds) = number base ds + base ^ ds.length * d := by
  have hdigit : number base [d] = d := Nat.ofDigits_singleton
  have hsplit := number_append base [d] ds
  rwa [hdigit] at hsplit

/-- A list of digits is found from its number and its length. -/
theorem number_injective {base : Nat} (hbase : 1 < base) {xs ys : List Nat}
    (hx : ∀ d ∈ xs, d < base) (hy : ∀ d ∈ ys, d < base) (hlength : xs.length = ys.length)
    (h : number base xs = number base ys) : xs = ys := by
  apply List.reverse_inj.mp
  apply Nat.ofDigits_inj_of_len_eq hbase
  · rw [List.length_reverse, List.length_reverse, hlength]
  · exact fun d hd => hx d (List.mem_reverse.mp hd)
  · exact fun d hd => hy d (List.mem_reverse.mp hd)
  · exact h

/-! ### What is written -/

theorem letter_facts : ∀ v : Fin 64, letter v.val = symbol v.val := by
  decide +kernel

theorem letter_eq_symbol {v : Nat} (h : v < 64) : letter v = symbol v := letter_facts ⟨v, h⟩

theorem map_letter {sextets : List Nat} (h : ∀ v ∈ sextets, v < 64) :
    sextets.map letter = sextets.map symbol :=
  List.map_congr_left fun v hv => letter_eq_symbol (h v hv)

/-- A group of four letters for three bytes in front of a text. -/
theorem Spells.cons {text : List Char} {sextets : List Nat} {padding : Nat} {rest : Bytes}
    (h : Spells text sextets padding rest) (a b c : UInt8) {group : List Nat}
    (hlt : ∀ v ∈ group, v < 64) (hlength : group.length = 4)
    (hnumber : number 64 group = number 256 [a.toNat, b.toNat, c.toNat]) :
    Spells (group.map symbol ++ text) (group ++ sextets) padding (a :: b :: c :: rest) where
  text_eq := by
    rw [List.map_append, map_letter hlt, h.text_eq, List.append_assoc]
  sextet_lt := by
    intro v hv
    rcases List.mem_append.mp hv with hv | hv
    · exact hlt v hv
    · exact h.sextet_lt v hv
  padding_lt := h.padding_lt
  bits := by
    have hbits := h.bits
    rw [List.length_append, hlength]
    simp only [List.length_cons]
    omega
  number_eq := by
    have hweight : 64 ^ sextets.length = 4 ^ padding * 256 ^ rest.length := by
      have hbits := congrArg (2 ^ ·) h.bits
      simp only [Nat.pow_add, Nat.pow_mul] at hbits
      rw [Nat.mul_comm]
      exact hbits
    have hsplit : (a :: b :: c :: rest).map UInt8.toNat =
        [a.toNat, b.toNat, c.toNat] ++ rest.map UInt8.toNat := rfl
    rw [hsplit, number_append, number_append, h.number_eq, hnumber, hweight, List.length_map]
    ring

/-- **What is written is of the format.** -/
theorem spells_encode (bytes : Bytes) :
    ∃ sextets padding, Spells (encode bytes) sextets padding bytes := by
  fun_induction encode bytes with
  | case1 a b c rest ih =>
      have ha := a.toNat_lt
      have hb := b.toNat_lt
      have hc := c.toNat_lt
      obtain ⟨sextets, padding, h⟩ := ih
      let group := [a.toNat / 4, a.toNat % 4 * 16 + b.toNat / 16,
        b.toNat % 16 * 4 + c.toNat / 64, c.toNat % 64]
      have hlt : ∀ v ∈ group, v < 64 := by
        simp only [group, List.forall_mem_cons, List.not_mem_nil, false_implies, implies_true,
          and_true]
        omega
      have hnumber : number 64 group = number 256 [a.toNat, b.toNat, c.toNat] := by
        simp only [group, number_cons, number_nil, List.length_cons, List.length_nil]
        omega
      exact ⟨group ++ sextets, padding, h.cons a b c hlt rfl hnumber⟩
  | case2 a b =>
      have ha := a.toNat_lt
      have hb := b.toNat_lt
      let group := [a.toNat / 4, a.toNat % 4 * 16 + b.toNat / 16, b.toNat % 16 * 4]
      have hlt : ∀ v ∈ group, v < 64 := by
        simp only [group, List.forall_mem_cons, List.not_mem_nil, false_implies, implies_true,
          and_true]
        omega
      refine ⟨group, 1, ⟨?_, hlt, by decide, rfl, ?_⟩⟩
      · rw [map_letter hlt]
        rfl
      · simp only [group, List.map_cons, List.map_nil, number_cons, number_nil, List.length_cons,
          List.length_nil]
        omega
  | case3 a =>
      have ha := a.toNat_lt
      let group := [a.toNat / 4, a.toNat % 4 * 16]
      have hlt : ∀ v ∈ group, v < 64 := by
        simp only [group, List.forall_mem_cons, List.not_mem_nil, false_implies, implies_true,
          and_true]
        omega
      refine ⟨group, 2, ⟨?_, hlt, by decide, rfl, ?_⟩⟩
      · rw [map_letter hlt]
        rfl
      · simp only [group, List.map_cons, List.map_nil, number_cons, number_nil, List.length_cons,
          List.length_nil]
        omega
  | case4 => exact ⟨[], 0, ⟨rfl, fun _ hv => absurd hv List.not_mem_nil, by decide, rfl, rfl⟩⟩

/-! ### Nothing else -/

/-- **A byte string has one text.** -/
theorem Spells.text_unique {text text' : List Char} {sextets sextets' : List Nat}
    {padding padding' : Nat} {bytes : Bytes} (h : Spells text sextets padding bytes)
    (h' : Spells text' sextets' padding' bytes) : text = text' := by
  have hbits := h.bits
  have hbits' := h'.bits
  have hlt := h.padding_lt
  have hlt' := h'.padding_lt
  have hpadding : padding = padding' := by omega
  have hlength : sextets.length = sextets'.length := by omega
  subst hpadding
  have hsextets : sextets = sextets' := by
    apply number_injective (by decide) h.sextet_lt h'.sextet_lt hlength
    rw [h.number_eq, h'.number_eq]
  rw [h.text_eq, h'.text_eq, hsextets]

/-- **The format is what is written.** -/
theorem spells_iff {text : List Char} {bytes : Bytes} :
    (∃ sextets padding, Spells text sextets padding bytes) ↔ text = encode bytes := by
  constructor
  · rintro ⟨sextets, padding, h⟩
    obtain ⟨sextets', padding', h'⟩ := spells_encode bytes
    exact h.text_unique h'
  · rintro rfl
    exact spells_encode bytes

end Base64

end ArrayExchange
