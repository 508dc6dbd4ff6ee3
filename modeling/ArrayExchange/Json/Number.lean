import ArrayExchange.Decimal.Shortest

/-!
# JSON numbers

A JSON number is an integer that fits in 64 bits, signed or unsigned, or a finite 64-bit floating
point number.  The two kinds are told apart by their spelling: only the second has a fraction or
an exponent.  So the integer `1` and the float `1.0` are different numbers of JSON.

* `Json.Number.same` is equality of JSON numbers, `Json.Number.toBinary` the nearest datum.
* `Json.Number.chars` is the spelling of a number.
-/

namespace ArrayExchange

/-- The integers that fit in 64 bits, signed or unsigned. -/
abbrev WideInt := { n : Int // -0x8000000000000000 ≤ n ∧ n < 0x10000000000000000 }

/-- The 64-bit floating-point numbers that are neither infinite nor NaN. -/
abbrev FiniteBinary64 := { x : Binary64 // x.isFinite = true }

namespace Json

/-- A number of JSON. -/
inductive Number where
  | int (n : WideInt)
  | float (x : FiniteBinary64)
  deriving DecidableEq

namespace Number

/-- The integer as a number, if it fits in 64 bits. -/
def ofInt? (n : Int) : Option Number :=
  if h : -0x8000000000000000 ≤ n ∧ n < 0x10000000000000000 then some (int ⟨n, h⟩) else none

/-- The floating-point datum as a number, if it is finite. -/
def ofBinary? (x : Binary64) : Option Number :=
  if h : x.isFinite = true then some (float ⟨x, h⟩) else none

/-- The floating-point datum nearest to a number. -/
def toBinary : Number → Binary64
  | int n => Binary.ofInt n.val
  | float x => x.val

/-- Equality of numbers: an integer never equals a float, and the two float zeros are equal. -/
def same : Number → Number → Bool
  | int m, int n => m = n
  | float x, float y => x.val.numEq y.val
  | _, _ => false

/-! ### Spelling -/

/-- The spelling of an integer. -/
def intChars (n : Int) : List Char :=
  if n < 0 then '-' :: Nat.toDigits 10 n.natAbs else Nat.toDigits 10 n.natAbs

/-- The least and the greatest decimal exponent, of the first digit, that is written without an
exponent. -/
def positionalRange : Int × Int := (-5, 15)

/-- Digits whose first one stands for `10 ^ exponent`, written out around a point, with at least
one digit on each side of it. -/
def positional (digits : List Char) (exponent : Int) : List Char :=
  if exponent < 0 then
    '0' :: '.' :: List.replicate (-exponent - 1).toNat '0' ++ digits
  else
    let places := exponent.toNat + 1
    let fraction := digits.drop places
    digits.take places ++ List.replicate (places - digits.length) '0' ++
      '.' :: (if fraction = [] then ['0'] else fraction)

/-- Digits whose first one stands for `10 ^ exponent`, with an exponent that has its sign. -/
def scientific (digits : List Char) (exponent : Int) : List Char :=
  let fraction := digits.drop 1
  digits.take 1 ++ (if fraction = [] then [] else '.' :: fraction) ++
    'e' :: (if exponent < 0 then '-' else '+') :: Nat.toDigits 10 exponent.natAbs

/-- The spelling of a decimal without sign.  Zeros at the end of its digits do not count. -/
def decimalChars (d : Decimal) : List Char :=
  if d.digits = 0 then ['0', '.', '0']
  else
    let all := Nat.toDigits 10 d.digits
    let digits := (all.reverse.dropWhile (· = '0')).reverse
    let exponent := d.exponent + all.length - 1
    if positionalRange.1 ≤ exponent ∧ exponent ≤ positionalRange.2 then positional digits exponent
    else scientific digits exponent

/-- The spelling of a finite datum: the shortest decimal that reads back. -/
def floatChars (x : Binary64) : List Char :=
  if x.negative then '-' :: decimalChars (Decimal.shortest x) else decimalChars (Decimal.shortest x)

/-- The spelling of a number. -/
def chars : Number → List Char
  | int n => intChars n.val
  | float x => floatChars x.val

end Number

end Json

end ArrayExchange
