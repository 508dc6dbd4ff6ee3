import ArrayExchange.Proofs.Binary.Exact
import ArrayExchange.Proofs.NdArray.Equality

/-!
# The exact numbers of elements

Every element of a numeric type stands for an exact number, a truth value for `0` or `1`.  It is
turned into the 64-bit datum of this very number, so elements of all numeric types are compared by
their exact numbers.

A numeral of JSON need not be a datum, but the datum nearest to it is always finite.

* `ElementType.exact`, `ElementType.exact_toBinary` — no number changes when an element is widened.
* `Json.Number.isFinite_toBinary` — numerals are not rounded to an infinity.
* `sameNumber_iff_exact` — equality of numbers tells exact numbers apart.
-/

namespace ArrayExchange

/-! ### Numeric elements -/

namespace ElementType

/-- The number that an element stands for. -/
def exact : (t : ElementType) → t.Value → ExactNumber
  | bool, b => .finite (Bool.toNat b)
  | integer _, n => .finite (Subtype.val n : Int)
  | float _, x => Binary.exact x

end ElementType

theorem Binary.exact_ofBool (b : Bool) :
    (Binary.ofInt b.toNat : Binary64).exact = .finite b.toNat := by
  have hshort : (b.toNat : Int).natAbs < 2 * Format.double.hiddenBit := by cases b <;> decide
  rw [Binary.exact_ofInt hshort, Int.cast_natCast]

/-- Integers of all ranges are much shorter than a significand. -/
theorem IntegerType.natAbs_lt {k : IntegerType} (n : k.Value) :
    n.val.natAbs < 2 * Format.double.hiddenBit := by
  have hlo : -0x80000000 ≤ k.lo := by cases k <;> decide
  have hhi : k.hi < 0x100000000 := by cases k <;> decide
  have hn := n.property
  simp only [Format.hiddenBit]
  omega

/-- **No number changes when an element is widened.** -/
theorem ElementType.exact_toBinary (t : ElementType) (x : t.Value) :
    (t.toBinary x).exact = t.exact x := by
  cases t with
  | bool => exact Binary.exact_ofBool x
  | integer k => exact Binary.exact_ofInt (IntegerType.natAbs_lt x)
  | float f => exact Binary.exact_widen x

/-! ### Numerals -/

/-- **Numerals are not rounded to an infinity.** -/
theorem Json.Number.isFinite_toBinary (n : Json.Number) : n.toBinary.isFinite = true := by
  cases n with
  | float x => exact x.property
  | int n =>
      have hn := n.property
      have hwide : n.val.natAbs < 2 * Format.double.hiddenBit * 2 ^ 11 := by
        simp only [Format.hiddenBit]
        omega
      exact Binary.isFinite_ofInt hwide (by decide)

/-! ### Comparison -/

/-- **Equality of numbers tells exact numbers apart**, and nothing else. -/
theorem sameNumber_iff_exact {x y : Binary64} : sameNumber x y = true ↔ x.exact = y.exact := by
  rw [sameNumber_iff]
  cases hx : x.isNaN with
  | true =>
      cases hy : y.isNaN with
      | true => simp [Binary.exact_of_isNaN hx, Binary.exact_of_isNaN hy]
      | false =>
          have hne := Binary.exact_ne_nan hy
          simp [Binary.exact_of_isNaN hx, hne.symm]
  | false =>
      cases hy : y.isNaN with
      | true =>
          have hne := Binary.exact_ne_nan hx
          simp [Binary.exact_of_isNaN hy, hne]
      | false => simp [Binary.rank_eq_iff_exact hx hy]

end ArrayExchange
