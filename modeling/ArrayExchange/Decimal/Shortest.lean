import ArrayExchange.Binary.Rounding

/-!
# Shortest decimals

Every finite datum is a terminating decimal, but usually far fewer digits are enough to name it
among its neighbours.  `Decimal.shortest` finds the decimal with the fewest digits that rounds
back to a given datum, and among those the one nearest to it.

The search looks at one decimal grid after the other.  The grid of `n` digits has two points next
to the exact value, and if any point of the grid rounds back then one of these two does.  The
grid that holds the exact value itself always succeeds, so the search ends there at the latest.
-/

namespace ArrayExchange

/-- The number `digits * 10 ^ exponent`. -/
structure Decimal where
  digits : Nat
  exponent : Int
  deriving DecidableEq

namespace Decimal

/-- The magnitude of a finite datum as a decimal, all digits kept: a significand times a power of
two is an integer, or, two halves of ten for each missing factor, an integer of tenths. -/
def exact {f : Format} (x : Binary f) : Decimal :=
  let m := f.significand x.code
  let scale := f.scale x.code
  ⟨m * Nat.pow 2 (scale - f.unitExponent) * Nat.pow 5 (f.unitExponent - scale),
    -((f.unitExponent - scale : Nat) : Int)⟩

/-- How many decimal digits a number has; zero has one. -/
def digitCount (n : Nat) : Nat := (Nat.toDigits 10 n).length

/-- The two neighbours of `d` on the grid that drops its last `cut` digits, the nearer first; of
two equally near ones, the even one first. -/
def neighbours (d : Decimal) (cut : Nat) : List Decimal :=
  let step := Nat.pow 10 cut
  let below := d.digits / step
  let rest := d.digits % step
  let lower : Decimal := ⟨below, d.exponent + cut⟩
  let upper : Decimal := ⟨below + 1, d.exponent + cut⟩
  if 2 * rest < step ∨ (2 * rest = step ∧ below % 2 = 0) then [lower, upper] else [upper, lower]

/-- Whether a decimal rounds to the magnitude of `x`. -/
def namesMagnitude {f : Format} (x : Binary f) (d : Decimal) : Bool :=
  (Binary.ofDecimal false d.digits d.exponent : Binary f).code = x.code

/-- The first neighbour of the exact value that names `x`, on grids that drop fewer and fewer of
its digits. -/
def search {f : Format} (x : Binary f) (d : Decimal) : Nat → Option Decimal
  | 0 => if namesMagnitude x d then some d else none
  | cut + 1 => ((neighbours d (cut + 1)).find? (namesMagnitude x)).or (search x d cut)

/-- The shortest decimal that rounds to the magnitude of `x`, nearest to `x` among the shortest. -/
def shortest {f : Format} (x : Binary f) : Decimal :=
  let d := exact x
  (search x d (digitCount d.digits - 1)).getD d

end Decimal

end ArrayExchange
