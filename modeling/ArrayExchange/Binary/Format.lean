/-!
# Binary floating-point formats

A format splits a word into a sign bit, an exponent field and a fraction field.  Leaving the sign
aside, the two fields together are one number, the *magnitude code*: codes grow with the value
they stand for, the code `Format.infinity` is the infinity, and every code above it is a NaN.

Each finite value is a whole number of *units*, the format's smallest positive value.

* `Format.units` reads a magnitude code as a number of units.
* `Format.nearestCode` is the code nearest to a fraction of units, a tie going to the even code.
-/

namespace ArrayExchange

/-- The two interchange formats: 32 bits (`single`) and 64 bits (`double`). -/
inductive Format where
  | single
  | double
  deriving DecidableEq

namespace Format

/-! ### Layout -/

/-- Bits of the fraction field. -/
def fractionBits : Format → Nat
  | single => 23
  | double => 52

/-- Bits of a word. -/
def wordBits : Format → Nat
  | single => 32
  | double => 64

/-- The weight of the lowest bit of the exponent field, which is also the hidden bit in front of
the fraction. -/
def hiddenBit : Format → Nat
  | single => 0x800000
  | double => 0x10000000000000

/-- The weight of the sign bit; magnitude codes stay below it. -/
def signBit : Format → Nat
  | single => 0x80000000
  | double => 0x8000000000000000

/-- The magnitude code of the infinity: all ones in the exponent field, no fraction. -/
def infinity : Format → Nat
  | single => 0x7f800000
  | double => 0x7ff0000000000000

/-- The magnitude code of the quiet NaN: an infinity with the leading bit of the fraction. -/
def quietNaN : Format → Nat
  | single => 0x7fc00000
  | double => 0x7ff8000000000000

/-- One unit is two to the power of minus `unitExponent`. -/
def unitExponent : Format → Nat
  | single => 149
  | double => 1074

/-- How many units make up the number one. -/
def unitsInOne (f : Format) : Nat := Nat.pow 2 f.unitExponent

theorem hiddenBit_pos (f : Format) : 0 < f.hiddenBit := by cases f <;> decide

theorem signBit_pos (f : Format) : 0 < f.signBit := by cases f <;> decide

theorem infinity_lt (f : Format) : f.infinity < f.signBit := by cases f <;> decide

theorem quietNaN_lt (f : Format) : f.quietNaN < f.signBit := by cases f <;> decide

theorem infinity_lt_quietNaN (f : Format) : f.infinity < f.quietNaN := by cases f <;> decide

/-! ### From code to value -/

/-- The significand of a code: the fraction, with the hidden bit in front when the exponent
field is not zero. -/
def significand (f : Format) (code : Nat) : Nat :=
  if code < f.hiddenBit then code else f.hiddenBit + code % f.hiddenBit

/-- The power of two that scales the significand of a code to units. -/
def scale (f : Format) (code : Nat) : Nat := code / f.hiddenBit - 1

/-- The value of a magnitude code, counted in units. -/
def units (f : Format) (code : Nat) : Nat := f.significand code * Nat.pow 2 (f.scale code)

/-! ### From value to code -/

/-- The whole number nearest to `num / den`; a half goes to the even neighbour. -/
def roundHalfEven (num den : Nat) : Nat :=
  if den < 2 * (num % den) ∨ (2 * (num % den) = den ∧ num / den % 2 = 1) then num / den + 1
  else num / den

/-- The magnitude code whose value is nearest to `num / den` units, the even code on a tie, and
the infinity from half a step above the largest finite value on.

With `shift` binary digits too many for the significand, the code is `shift` whole exponent steps
plus the rounded significand: a carry out of the significand lands in the exponent field. -/
def nearestCode (f : Format) (num den : Nat) : Nat :=
  let shift := (num / den).log2 - f.fractionBits
  min (shift * f.hiddenBit + roundHalfEven num (den * Nat.pow 2 shift)) f.infinity

theorem nearestCode_le (f : Format) (num den : Nat) : f.nearestCode num den ≤ f.infinity :=
  Nat.min_le_right _ _

theorem nearestCode_lt (f : Format) (num den : Nat) : f.nearestCode num den < f.signBit :=
  Nat.lt_of_le_of_lt (f.nearestCode_le num den) f.infinity_lt

end Format

end ArrayExchange
