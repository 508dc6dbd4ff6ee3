import ArrayExchange.Shape

/-!
# Dense grids

A grid is a row-major array of elements: the last axis runs fastest.  Its shape covers its
elements exactly, and the product of its non-zero extents stays below `Grid.spanLimit`.

* `Grid.ofList` makes a grid of a shape and a list of elements; `GridError` says why it cannot.
-/

namespace ArrayExchange

/-- Why a shape and a list of elements do not make a grid. -/
inductive GridError where
  /-- The product of the non-zero extents reaches `Grid.spanLimit`. -/
  | overflow
  /-- The shape calls for more elements than there are. -/
  | outOfBounds
  /-- The shape calls for fewer elements than there are. -/
  | incompatibleShape
  deriving DecidableEq

/-- The wording of an error. -/
def GridError.message : GridError → String
  | overflow => "ShapeError/Overflow: arithmetic overflow"
  | outOfBounds => "ShapeError/OutOfBounds: out of bounds indexing"
  | incompatibleShape => "ShapeError/IncompatibleShape: incompatible shapes"

namespace Shape

/-- The product of all extents, without a limit. -/
def product : Shape → Nat
  | [] => 1
  | extent :: rest => extent * product rest

/-- The product of the extents that are not zero. -/
def span (shape : Shape) : Nat := product (shape.filter (· ≠ 0))

end Shape

/-- The product of the non-zero extents of a grid stays below this limit, the signed range of 64
bits. -/
def Grid.spanLimit : Nat := 0x8000000000000000

/-- A row-major array of elements. -/
structure Grid (α : Type) where
  shape : Shape
  data : List α
  span_lt : shape.span < Grid.spanLimit
  length_data : data.length = shape.product

namespace Grid

variable {α : Type}

/-- The grid with the given shape and elements. -/
def ofList (shape : Shape) (data : List α) : Except GridError (Grid α) :=
  if hs : shape.span < spanLimit then
    if hd : data.length = shape.product then .ok ⟨shape, data, hs, hd⟩
    else if data.length < shape.product then .error .outOfBounds
    else .error .incompatibleShape
  else .error .overflow

end Grid

end ArrayExchange
