/-!
# Rounding from leading bits

To round `digits * 10 ^ exponent` to 64-bit floating point, the leading bits of one product are
nearly always enough: the digits, moved up to fill a word of 64 bits, times the leading bits of the
power of ten.  `Decimal.settled` says whether they are.  They are not

* where the bits left out could carry into the ones that are kept,
* where the value may lie halfway between two neighbours,
* where the result is not a normal number,
* where the exponent or the digits are beyond the reach of the product.

Small decimals are settled without any product, by a division or a multiplication that is exact.
-/

namespace ArrayExchange

namespace Decimal

/-- One more than the greatest word of 64 bits. -/
def word : Nat := 0x10000000000000000

/-- The leading 128 bits of `10 ^ exponent`: the first of them is set, and those behind the last
are cut off. -/
def powerBits (exponent : Int) : Nat :=
  if 0 ≤ exponent then
    let power := Nat.pow 10 exponent.toNat
    power * Nat.pow 2 128 / Nat.pow 2 (power.log2 + 1)
  else
    let power := Nat.pow 10 (-exponent).toNat
    Nat.pow 2 (power.log2 + 128) / power

/-- The exponent of two that belongs to `powerBits`. -/
def powerScale (exponent : Int) : Int :=
  if 0 ≤ exponent then
    ((Nat.pow 10 exponent.toNat).log2 + 1 : Int) - 128
  else
    -((Nat.pow 10 (-exponent).toNat).log2 + 128 : Int)

/-- Whether bits that have been left out can carry: nine bits of `upper` and all bits below them
are set, once `part` is added to `lower`. -/
def mayCarry (upper lower part : Nat) : Bool :=
  upper % 512 = 511 && word ≤ lower + part

/-- The factor of the product: the digits, moved up to fill a word. -/
def factor (digits : Nat) : Nat := digits * Nat.pow 2 (63 - digits.log2)

/-- Whether the leading 128 bits `upper * word + lower` of a product fix its rounding, where its
value is `upper * 2 ^ scale` and a little more. -/
def fixesRounding (upper lower : Nat) (scale : Int) : Bool :=
  let kept := upper / Nat.pow 2 (upper.log2 - 53)
  let rounded := (kept + kept % 2) / 2
  let top : Int := if rounded < 0x20000000000000 then upper.log2 else upper.log2 + 1
  let biased := top + scale + 1023
  !(lower = 0 && upper % 512 = 0 && kept % 4 = 1) && (1 ≤ biased && biased ≤ 2046)

/-- Whether the product settles the rounding: with the first word of the power, or with both
words where a carry could come out of the second. -/
def settledByProduct (digits : Nat) (exponent : Int) : Bool :=
  let bits := powerBits exponent
  let i := factor digits
  let scale := powerScale exponent + 128 - (63 - digits.log2 : Nat)
  let short := i * (bits / word)
  if mayCarry (short / word) (short % word) i then
    let long := i * bits
    let upper := long / word / word
    let lower := long / word % word
    !(lower = word - 1 && mayCarry upper (long % word) i) && fixesRounding upper lower scale
  else fixesRounding (short / word) (short % word) scale

/-- Whether the leading bits settle how `digits * 10 ^ exponent` is rounded. -/
def settled (digits : Nat) (exponent : Int) : Bool :=
  if digits = 0 then true
  else if -22 ≤ exponent ∧ exponent ≤ 22 ∧ digits < 0x20000000000000 then true
  else if exponent < -325 ∨ 308 < exponent ∨ word ≤ digits then false
  else settledByProduct digits exponent

end Decimal

end ArrayExchange
