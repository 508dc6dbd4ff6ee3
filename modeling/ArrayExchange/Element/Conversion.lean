import ArrayExchange.Binary.Rounding
import ArrayExchange.Element.Basic
import ArrayExchange.Json.Basic

/-!
# Converting elements

Elements change their type by way of a 64-bit floating-point number, which holds every element
of every numeric type exactly.  On the way out, a truth value is whether the number is neither
zero nor NaN, an integer is the number cut off and brought into its range, and a 32-bit float is
the nearest one.

JSON has no infinities and no NaN, so those three are written as the strings of `nonFiniteText`.

* `ElementType.toBinary` and `ElementType.ofBinary`: by way of a number.
* `ElementType.toJson` and `ElementType.ofJson`: to and from a JSON value.
* `Scalar`: an element of any type, as equality sees it.
-/

namespace ArrayExchange

/-! ### Numbers without a JSON numeral -/

/-- The string that stands for a number that is not finite. -/
def nonFiniteText (x : Binary64) : String :=
  if x.isNaN then "NaN" else if x.negative then "-Infinity" else "Infinity"

/-- The number that is not finite for which a string stands. -/
def nonFinite? : String → Option Binary64
  | "NaN" => some Binary.nan
  | "Infinity" => some (Binary.infinity false)
  | "-Infinity" => some (Binary.infinity true)
  | _ => none

namespace Json

/-- A floating-point number as a JSON value. -/
def ofBinary (x : Binary64) : Json :=
  if h : x.isFinite = true then number (.float ⟨x, h⟩) else string (nonFiniteText x)

/-- What a JSON value stands for where a number is called for.  Truth values count as `0` and
`1`, and whatever is no number at all as NaN. -/
def toBinary : Json → Binary64
  | number n => n.toBinary
  | bool b => Binary.ofInt (Bool.toNat b)
  | string s => (nonFinite? s).getD Binary.nan
  | _ => Binary.nan

end Json

namespace Binary

/-- A datum of either format as a 64-bit number, exactly. -/
def widen : {f : Format} → Binary f → Binary64
  | .single, x => x.convert .double
  | .double, x => x

/-- A 64-bit number as the nearest datum of either format. -/
def narrow : (f : Format) → Binary64 → Binary f
  | .single, x => x.convert .single
  | .double, x => x

theorem truncateWithin_mem {f : Format} {lo hi : Int} (hlo : lo ≤ 0) (hhi : 0 ≤ hi)
    (x : Binary f) : lo ≤ x.truncateWithin lo hi ∧ x.truncateWithin lo hi ≤ hi := by
  unfold truncateWithin
  split
  · omega
  · split
    · split <;> omega
    · omega

end Binary

namespace ElementType

/-- An element as a 64-bit number. -/
def toBinary : (t : ElementType) → t.Value → Binary64
  | bool, b => Binary.ofInt (Bool.toNat b)
  | integer _, n => Binary.ofInt (Subtype.val n)
  | float _, x => Binary.widen x

/-- The element that a 64-bit number is converted to. -/
def ofBinary : (t : ElementType) → Binary64 → t.Value
  | bool, x => !x.isNaN && x.code != 0
  | integer range, x =>
    ⟨x.truncateWithin range.lo range.hi,
      Binary.truncateWithin_mem range.lo_nonpos range.hi_nonneg x⟩
  | float format, x => Binary.narrow format x

/-- An element as a JSON value. -/
def toJson : (t : ElementType) → t.Value → Json
  | bool, b => .bool b
  | integer _, n => .number (.int ⟨Subtype.val n, IntegerType.wide_of_mem (Subtype.property n)⟩)
  | float _, x => Json.ofBinary (Binary.widen x)

/-- The element that a JSON value is converted to. -/
def ofJson (t : ElementType) (value : Json) : t.Value := t.ofBinary value.toBinary

end ElementType

/-- One element of an array of any type, as equality sees it. -/
inductive Scalar where
  | bool (b : Bool)
  | number (x : Binary64)
  | json (value : Json)

/-- An element as a scalar: all numeric types but the truth values become numbers. -/
def ElementType.toScalar : (t : ElementType) → t.Value → Scalar
  | .bool, b => .bool b
  | .integer range, n => .number ((ElementType.integer range).toBinary n)
  | .float _, x => .number (Binary.widen x)

end ArrayExchange
