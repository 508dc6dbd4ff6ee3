import ArrayExchange.NdArray.Basic

/-!
# Comparing arrays

Two arrays are compared by shape first and by contents second; their types are not compared.
Elements are compared pairwise, numbers by a relation that is a parameter:

* `structural` asks for the same number, and counts all NaNs as one;
* `Tolerance.comparator` also lets finite numbers pass that are close together.

A truth value counts as `0` or `1` beside a number.  A JSON value is compared as a JSON value with
another one, numbers apart, and beside a numeric element it must be a numeral or the string that
stands for a number without one.
-/

namespace ArrayExchange

/-! ### Scalars -/

namespace Scalar

/-- Whether a JSON value equals a numeric element. -/
def agreesWithJson (numbers : Binary64 → Binary64 → Bool) : Json → Scalar → Bool
  | .number n, .number y => numbers n.toBinary y
  | .string s, .number y =>
    match nonFinite? s with
    | some x => numbers x y
    | none => false
  | .bool a, .bool b => a == b
  | _, _ => false

/-- Equality of scalars, given the equality of numbers. -/
def agrees (numbers : Binary64 → Binary64 → Bool) : Scalar → Scalar → Bool
  | number x, number y => numbers x y
  | bool a, bool b => a == b
  | bool a, number y => numbers (Binary.ofInt (Bool.toNat a)) y
  | number x, bool b => numbers (Binary.ofInt (Bool.toNat b)) x
  | json (.number m), json (.number n) => numbers m.toBinary n.toBinary
  | json a, json b => a.same b
  | json a, other => agreesWithJson numbers a other
  | other, json b => agreesWithJson numbers b other

end Scalar

/-! ### Numbers -/

/-- The same number; all NaNs are one. -/
def sameNumber (x y : Binary64) : Bool := x.numEq y || (x.isNaN && y.isNaN)

/-- How far apart two numbers may be: `absolute` in any case, and `relative` times the larger
magnitude. -/
structure Tolerance where
  relative : Binary64
  absolute : Binary64
  deriving DecidableEq

namespace Tolerance

/-- A hundred-thousandth of the larger magnitude, or a hundred-millionth. -/
def default : Tolerance := ⟨Binary.ofDecimal false 1 (-5), Binary.ofDecimal false 1 (-8)⟩

/-- Whether two finite numbers are close together. -/
def close (t : Tolerance) (x y : Binary64) : Bool :=
  (x.distance y).numLe t.absolute ||
    (x.distance y).numLe ((Binary.larger x.abs y.abs).product t.relative)

/-- The same number, or two finite ones that are close together. -/
def nearNumber (t : Tolerance) (x y : Binary64) : Bool :=
  sameNumber x y || (x.isFinite && y.isFinite && t.close x y)

end Tolerance

/-! ### Arrays -/

/-- A policy for the equality of arrays. -/
structure Comparator where
  /-- Equality of shapes. -/
  shapes : Shape → Shape → Bool := fun s t => s == t
  /-- Equality of contents. -/
  contents : Store → NdArray → NdArray → Bool

namespace NdArray

/-- Equality of contents: as many elements on both sides, and equal ones at each position. -/
def sameContents (numbers : Binary64 → Binary64 → Bool) (store : Store) (a b : NdArray) : Bool :=
  a.count store == b.count store &&
    ((a.scalars store).zip (b.scalars store)).all fun (x, y) => x.agrees numbers y

/-- Equality under a policy: the shapes first, then the contents. -/
def equals (comparator : Comparator) (store : Store) (a b : NdArray) : Bool :=
  comparator.shapes a.shape b.shape && comparator.contents store a b

end NdArray

namespace Comparator

/-- Exact equality, element by element. -/
def structural : Comparator where
  contents := NdArray.sameContents sameNumber

/-- Equality up to a tolerance. -/
def approximate (t : Tolerance) : Comparator where
  contents := NdArray.sameContents t.nearNumber

end Comparator

end ArrayExchange
