/-!
# Shapes

A shape lists the extents of an array, the outermost axis first.  It *covers* a number of elements
when the product of its extents is that number.  The product is formed from left to right in 64
bits, so a shape can overflow; a shape without axes has the product `1`.

* `Shape.count?` is the product, or `none` when it overflows on the way.
* `Shape.verdict` compares a shape with the number of elements at hand.
-/

namespace ArrayExchange

/-- The extents of an array. -/
abbrev Shape := List Nat

namespace Shape

/-- Counts of elements stay below this limit. -/
def countLimit : Nat := 0x10000000000000000

/-- The product of the extents, times `acc`, as long as each step stays below the limit. -/
def countFrom (acc : Nat) : Shape → Option Nat
  | [] => some acc
  | extent :: rest => if acc * extent < countLimit then countFrom (acc * extent) rest else none

/-- The product of the extents, formed from left to right below the limit. -/
def count? (shape : Shape) : Option Nat := countFrom 1 shape

/-- How a shape relates to a number of elements. -/
inductive Verdict where
  | covers
  /-- The product of the extents is another number. -/
  | mismatch (expected : Nat)
  | overflow
  deriving DecidableEq

/-- Whether a shape covers `count` elements, and if not, why. -/
def verdict (shape : Shape) (count : Nat) : Verdict :=
  match shape.count? with
  | some expected => if expected = count then .covers else .mismatch expected
  | none => .overflow

/-- The extents in brackets, as event fields show them. -/
def text (shape : Shape) : String :=
  "[" ++ ", ".intercalate (shape.map Nat.repr) ++ "]"

end Shape

end ArrayExchange
