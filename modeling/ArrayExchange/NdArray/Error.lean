import ArrayExchange.Element.Type
import ArrayExchange.Grid.Basic

/-!
# Array errors

Why an array cannot be built or accessed.  `ArrayError.message` words each cause.
-/

namespace ArrayExchange

/-- Why an operation on arrays fails. -/
inductive ArrayError where
  /-- An array of JSON values was to be built from raw bytes. -/
  | objectFromBytes
  /-- Under validation, a shape that holds `expected` elements for `actual` ones. -/
  | shapeMismatch (expected actual : Nat)
  /-- Under validation, a shape whose element count overflows. -/
  | shapeOverflow
  /-- A buffer of `actual` bytes for elements of `width` bytes. -/
  | partialElement (width actual : Nat)
  /-- Typed access to an array of another type. -/
  | wrongElementType (array : DType) (requested : ElementType)
  | indexOutOfBounds (index count : Nat)
  /-- A shape that does not make a grid of the elements. -/
  | grid (error : GridError)
  deriving DecidableEq

/-- The wording of an error. -/
def ArrayError.message : ArrayError → String
  | objectFromBytes => s!"cannot build a {DType.object.tag} array from a raw byte buffer"
  | shapeMismatch expected actual =>
    s!"shape mismatch: shape holds {expected} elements, data has {actual}"
  | shapeOverflow => "shape element count overflow"
  | partialElement width actual =>
    s!"byte length {actual} is not a multiple of the element width {width}"
  | wrongElementType array requested =>
    s!"wrong element type: array is {array.tag}, requested {requested.tag}"
  | indexOutOfBounds index count => s!"index {index} out of bounds (len={count})"
  | grid error => error.message

end ArrayExchange
