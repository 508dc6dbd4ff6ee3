import ArrayExchange.Binary.Basic

/-!
# Rounding to a binary format

Whatever is turned into a floating-point datum here, be it a fraction, an integer, a decimal, a
datum of the other format, a difference or a product, is computed exactly first and rounded once
by `Binary.ofUnits`, to nearest with ties to even.

* `Binary.ofRatio`, `Binary.ofInt`, `Binary.ofDecimal`: from exact numbers.
* `Binary.convert`: from one format to the other.
* `Binary.distance`, `Binary.product`: `|x - y|` and `x * y`.
* `Binary.truncate`: the integer part.
-/

namespace ArrayExchange

namespace Binary

variable {f g : Format}

/-- The datum nearest to `± num / den` units. -/
def ofUnits (negative : Bool) (num den : Nat) : Binary f :=
  ⟨negative, f.nearestCode num den, f.nearestCode_lt num den⟩

/-- The datum nearest to `± num / den`. -/
def ofRatio (negative : Bool) (num den : Nat) : Binary f :=
  ofUnits negative (num * f.unitsInOne) den

/-- The datum nearest to an integer. -/
def ofInt (n : Int) : Binary f := ofRatio (n < 0) n.natAbs 1

/-- No value of either format reaches `10 ^ decimalReach`, and none but zero is below
`10 ^ -decimalReach`. -/
def decimalReach : Nat := 400

/-- The datum nearest to `± digits * 10 ^ exponent`.

Exponents that put the value past `decimalReach` are answered without computing the power: the
nearest datum is then an infinity, or a zero. -/
def ofDecimal (negative : Bool) (digits : Nat) (exponent : Int) : Binary f :=
  if digits = 0 then zero negative
  else if decimalReach ≤ exponent then infinity negative
  else if exponent < -(digits.log2 + decimalReach : Nat) then zero negative
  else ofRatio negative (digits * Nat.pow 10 exponent.toNat) (Nat.pow 10 (-exponent).toNat)

/-- The nearest datum of the format `g`.  Infinities keep their sign and NaNs become `nan`. -/
def convert (g : Format) (x : Binary f) : Binary g :=
  if x.isNaN then nan
  else if x.isInfinite then infinity x.negative
  else ofRatio x.negative (f.units x.code) f.unitsInOne

/-! ### Arithmetic -/

/-- The distance `|x - y|` of two finite data, rounded. -/
def distance (x y : Binary f) : Binary f :=
  ofUnits false (x.signedUnits - y.signedUnits).natAbs 1

/-- The magnitude `|x|`. -/
def abs (x : Binary f) : Binary f := { x with negative := false }

/-- The larger of two numbers. -/
def larger (x y : Binary f) : Binary f := if x.numLe y then y else x

/-- The product, rounded.  An infinity times zero is no number. -/
def product (x y : Binary f) : Binary f :=
  if x.isNaN || y.isNaN then nan
  else if x.isInfinite || y.isInfinite then
    if x.code = 0 ∨ y.code = 0 then nan else infinity (x.negative != y.negative)
  else ofUnits (x.negative != y.negative) (f.units x.code * f.units y.code) f.unitsInOne

/-! ### Integers -/

/-- A finite datum with its fraction cut off. -/
def truncate (x : Binary f) : Int := x.signedUnits.tdiv f.unitsInOne

/-- The integer part brought into the range from `lo` to `hi`.  The infinities go to the ends of
the range, and a NaN to `0`. -/
def truncateWithin (lo hi : Int) (x : Binary f) : Int :=
  if x.isNaN then 0
  else if x.isInfinite then if x.negative then lo else hi
  else max lo (min hi x.truncate)

end Binary

end ArrayExchange
