import ArrayExchange.Element.Conversion
import ArrayExchange.Event
import ArrayExchange.Grid.Basic
import ArrayExchange.NdArray.Error
import ArrayExchange.Store

/-!
# Typed arrays

An array is a shape together with contents: a block of shared memory seen as elements of a numeric
type, or a list of JSON values.  The shape is carried along as given; it need not cover the
elements.  How many elements there are is decided by the contents alone.

* `NdArray.toList` and `NdArray.set` are typed access; the type must be that of the array.
* `NdArray.toValues` and `NdArray.scalars` list the elements of any array.
* `NdArray.toGrid` makes a dense grid, for which the shape has to cover the elements.
-/

namespace ArrayExchange

/-- Where the elements of an array are. -/
inductive Contents where
  /-- A block of memory, read as elements of a numeric type. -/
  | numeric (type : ElementType) (block : BlockId)
  /-- The elements themselves. -/
  | object (values : List Json)

/-- An array of elements of one type. -/
structure NdArray where
  shape : Shape
  contents : Contents

namespace NdArray

/-- The type of the elements. -/
def dtype (a : NdArray) : DType :=
  match a.contents with
  | .numeric type _ => .numeric type
  | .object _ => .object

/-- The number of axes. -/
def dimension (a : NdArray) : Nat := a.shape.length

/-- The memory of a numeric array. -/
def block? (a : NdArray) : Option BlockId :=
  match a.contents with
  | .numeric _ block => some block
  | .object _ => none

/-- The number of elements. -/
def count (store : Store) (a : NdArray) : Nat :=
  match a.contents with
  | .numeric type block => (store.bytes block).length / type.width
  | .object values => values.length

/-! ### Elements of any type -/

/-- The elements as JSON values. -/
def toValues (store : Store) (a : NdArray) : List Json :=
  match a.contents with
  | .numeric type block => (type.decode (store.bytes block)).map type.toJson
  | .object values => values

/-- The elements as equality sees them. -/
def scalars (store : Store) (a : NdArray) : List Scalar :=
  match a.contents with
  | .numeric type block => (type.decode (store.bytes block)).map type.toScalar
  | .object values => values.map .json

/-! ### Typed access -/

/-- The memory of an array of elements of type `t`. -/
def typedBlock (t : ElementType) (a : NdArray) : Except ArrayError BlockId :=
  match a.contents with
  | .numeric type block =>
    if type = t then .ok block else .error (.wrongElementType a.dtype t)
  | .object _ => .error (.wrongElementType a.dtype t)

/-- The elements of an array of type `t`. -/
def toList (t : ElementType) (store : Store) (a : NdArray) : Except ArrayError (List t.Value) :=
  (a.typedBlock t).map fun block => t.decode (store.bytes block)

/-- The store after one element of an array of type `t` was overwritten.  Whoever shares the
memory of the array sees the new element. -/
def set (t : ElementType) (store : Store) (a : NdArray) (index : Nat) (x : t.Value) :
    Except ArrayError Store := do
  let block ← a.typedBlock t
  let count := a.count store
  if index < count then
    return store.write block (index * t.width) (t.write x)
  else
    throw (.indexOutOfBounds index count)

/-- The elements of an array of type `t` as a grid of its shape. -/
def toGrid (t : ElementType) (store : Store) (a : NdArray) : Except ArrayError (Grid t.Value) := do
  let elements ← a.toList t store
  (Grid.ofList a.shape elements).mapError .grid

end NdArray

end ArrayExchange
