import ArrayExchange.Decimal.LeadingBits
import ArrayExchange.Json.Number

/-!
# Numerals

A numeral is a number as it is spelled: a sign, digits, and perhaps a fraction and an exponent.
Without fraction and exponent it spells an integer, otherwise a floating-point number.  There are
two ways to the value.

* `Numeral.inFull?` knows no limits: the value is the number itself or the datum nearest to it.
* `Numeral.inRegisters?` counts in registers.  An integer has 64 bits, and one that does not fit
  is refused.  An exponent is refused when it outgrows 32 bits before its last digit.  The digits
  lose the bits past the 64th and the exponent those past the 32nd, as long as the leading bits
  settle the rounding.  A numeral too long for the registers, `Numeral.isLong`, is rounded as it
  stands.
-/

namespace ArrayExchange

namespace Json

/-- A number as it is spelled. -/
structure Numeral where
  /-- Whether there is a minus sign. -/
  negative : Bool
  /-- The digits before the point. -/
  whole : List Char
  /-- The digits after the point, if there is one. -/
  fraction : Option (List Char)
  /-- The digits of the exponent, if there is one, and whether it has a minus sign. -/
  exponent : Option (Bool × List Char)

namespace Numeral

/-- Whether the numeral spells an integer. -/
def isInteger (n : Numeral) : Bool := n.fraction.isNone && n.exponent.isNone

/-- All digits but those of the exponent, as one number. -/
def digits (n : Numeral) : Nat := Nat.ofDigitChars 10 (n.whole ++ n.fraction.getD []) 0

/-- The value of an integer. -/
def integer (n : Numeral) : Int := if n.negative then -(n.digits : Int) else n.digits

/-- The exponent as it is spelled. -/
def power (n : Numeral) : Int :=
  match n.exponent with
  | some (true, digits) => -(Nat.ofDigitChars 10 digits 0 : Int)
  | some (false, digits) => Nat.ofDigitChars 10 digits 0
  | none => 0

/-- The power of ten that the last digit counts. -/
def scale (n : Numeral) : Int := n.power - (n.fraction.getD []).length

/-- The datum nearest to `± digits * 10 ^ scale`, if it is finite. -/
def nearest? (n : Numeral) : Option Number :=
  Number.ofBinary? (Binary.ofDecimal n.negative n.digits n.scale)

/-- The value without limits.  An integer past 64 bits is read as the datum nearest to it. -/
def inFull? (n : Numeral) : Option Number :=
  if n.isInteger then (Number.ofInt? n.integer).or n.nearest? else n.nearest?

/-! ### In registers -/

/-- The number that an exponent may not pass before its last digit. -/
def exponentLimit : Nat := 0x100000000

/-- Whether the exponent stays within `exponentLimit` up to its last digit. -/
def exponentFits (n : Numeral) : Bool :=
  match n.exponent with
  | some (_, digits) => Nat.ofDigitChars 10 digits.dropLast 0 ≤ exponentLimit
  | none => true

/-- The scale in a signed register of 32 bits. -/
def narrowScale (n : Numeral) : Int := n.scale.bmod 0x100000000

/-- How many characters there are in front of the exponent, behind the first of them. -/
def span (n : Numeral) : Nat :=
  (if n.negative then 1 else 0) + n.whole.length +
    (n.fraction.map fun digits => digits.length + 1).getD 0 - 1

/-- The least span of a long integer. -/
def integerLimit : Nat := 18

/-- The least span of a long numeral that is no integer. -/
def fractionLimit : Nat := 19

/-- The code of the first digit. -/
def firstCode (n : Numeral) : Nat := (n.whole.head?.map Char.toNat).getD 0

/-- Whether the numeral is too long for the registers, where `lead` bytes of the text come before
its first digit that counts.

An integer is long by its span.  Any other numeral has its span weighed too: the code of the first
digit is put on top and `lead` is taken off, and with less than `fractionLimit` left, but no less
than nothing, the numeral is not long. -/
def isLong (n : Numeral) (lead : Unit → Nat) : Bool :=
  if n.isInteger then integerLimit ≤ n.span
  else
    fractionLimit ≤ n.span &&
      (n.span + n.firstCode < lead () || lead () + fractionLimit ≤ n.span + n.firstCode)

/-- All digits but those of the exponent, in an unsigned register of 64 bits. -/
def narrowDigits (n : Numeral) : Nat := n.digits % Decimal.word

/-- The value counted in registers. -/
def inRegisters? (n : Numeral) (long : Bool) : Option Number :=
  if n.isInteger then Number.ofInt? n.integer
  else if !n.exponentFits then none
  else if !long && Decimal.settled n.narrowDigits n.narrowScale then
    Number.ofBinary? (Binary.ofDecimal n.negative n.narrowDigits n.narrowScale)
  else n.nearest?

end Numeral

end Json

end ArrayExchange
