import ArrayExchange.Proofs.Binary.Truncation
import ArrayExchange.Proofs.Element.Exact

/-!
# The exact numbers of JSON values

A numeral of JSON is an integer of up to 64 bits or a 64-bit floating-point datum.  Where it is compared
or converted it is replaced by the nearest datum.  That is the same number, unless it is an integer too
long for a significand; such an integer may share its datum with others.

Other values stand for numbers as well where a number is called for: truth values for `0` and `1`, two
strings for the infinities, and everything else for no number.

* `Json.Number.exact`, `Json.exact` — the number, before any rounding.
* `Json.Number.Short` — the numerals that are no longer than a significand.
* `Json.Number.exact_toBinary` — those are not changed by rounding.
* `Json.truncateWithin_toBinary` — no rounding is noticed in a range of integers.
-/

namespace ArrayExchange

namespace Json

/-! ### Numerals -/

namespace Number

/-- The number that a numeral spells. -/
def exact : Number → ExactNumber
  | int n => .finite n.val
  | float x => x.val.exact

/-- A numeral is no longer than a significand: a floating-point number, or an integer of a magnitude up
to `2 ^ 53`. -/
def Short : Number → Prop
  | int n => n.val.natAbs ≤ 2 * Format.double.hiddenBit
  | float _ => True

instance : DecidablePred Short
  | int n => inferInstanceAs (Decidable (n.val.natAbs ≤ 2 * Format.double.hiddenBit))
  | float _ => isTrue trivial

/-- **Short numerals are not changed by rounding.** -/
theorem exact_toBinary {n : Number} (h : n.Short) : n.toBinary.exact = n.exact := by
  cases n with
  | float x => rfl
  | int n =>
      rcases Nat.lt_or_eq_of_le h with hlt | heq
      · exact Binary.exact_ofInt hlt
      · -- the first integer with one bit too many, which is a zero
        have hsplit : n.val.natAbs = Format.double.hiddenBit * 2 ^ 1 := heq.trans (Nat.mul_comm _ _)
        exact Binary.exact_ofInt_of_significand hsplit (by decide) (by decide)

end Number

/-! ### Values -/

/-- The number that a value stands for where a number is called for. -/
def exact : Json → ExactNumber
  | number n => n.exact
  | bool b => .finite b.toNat
  | string s =>
    if s = "Infinity" then .infinite false else if s = "-Infinity" then .infinite true else .nan
  | _ => .nan

theorem exact_toBinary_string (s : String) : (string s).toBinary.exact = (string s).exact := by
  show ((nonFinite? s).getD Binary.nan).exact =
    if s = "Infinity" then .infinite false else if s = "-Infinity" then .infinite true else .nan
  unfold nonFinite?
  split
  · decide
  · decide
  · decide
  · next hpositive hnegative =>
      rw [if_neg hpositive, if_neg hnegative]
      decide

/-- Numerals keep their place in a range of integers, although the long ones are rounded. -/
theorem Number.truncateWithin_toBinary (k : IntegerType) (n : Number) :
    n.toBinary.truncateWithin k.lo k.hi = n.exact.truncateWithin k.lo k.hi := by
  cases n with
  | float x => exact Binary.truncateWithin_eq_exact x.val
  | int n =>
      have hlo : -(2 * Format.double.hiddenBit : Nat) ≤ k.lo := by cases k <;> decide
      have hhi : k.hi ≤ (2 * Format.double.hiddenBit : Nat) := by cases k <;> decide
      have hfin := (Number.int n).isFinite_toBinary
      show (Binary.ofInt n.val : Binary64).truncateWithin k.lo k.hi =
        max k.lo (min k.hi (ExactNumber.cutOff n.val))
      rw [Binary.truncateWithin_ofInt hfin (by decide) hlo hhi, ExactNumber.cutOff_intCast]

/-- **A value is brought into a range of integers by its exact number.** -/
theorem truncateWithin_toBinary (k : IntegerType) (v : Json) :
    v.toBinary.truncateWithin k.lo k.hi = v.exact.truncateWithin k.lo k.hi := by
  cases v with
  | number n => exact n.truncateWithin_toBinary k
  | bool b =>
      have hexact : (bool b).toBinary.exact = (bool b).exact := Binary.exact_ofBool b
      rw [Binary.truncateWithin_eq_exact, hexact]
  | string s => rw [Binary.truncateWithin_eq_exact, exact_toBinary_string]
  | _ => rfl

end Json

end ArrayExchange
