import ArrayExchange.Bytes.Order
import ArrayExchange.Element.Type
import ArrayExchange.Shape

/-!
# Events

Operations report what they do, and what they let pass, as events beside their results.

* `Event` lists the occasions, `Event.level`, `Event.message` and `Event.fields` word them.
* `Logged` is a result together with the events that led to it.
-/

namespace ArrayExchange

/-- How much an event matters. -/
inductive Level where
  | trace
  | debug
  | warn
  deriving DecidableEq

def Level.text : Level → String
  | trace => "TRACE"
  | debug => "DEBUG"
  | warn => "WARN"

/-- Something worth reporting. -/
inductive Event where
  /-- A tag that names no element type was taken for `object`. -/
  | unknownTag (tag : String)
  /-- A sequence of values that are not all numbers was taken for `object`. -/
  | mixedValues
  /-- A shape was accepted though it holds another number of elements. -/
  | shapeMismatch (shape : Shape) (expected actual : Nat)
  /-- A shape was accepted though its element count overflows. -/
  | shapeOverflow (shape : Shape) (actual : Nat)
  | encoding (dtype : DType) (shape : Shape)
  | decoding (dtype : DType) (shape : Shape) (order : ByteOrder)
  deriving DecidableEq

namespace Event

def level : Event → Level
  | unknownTag _ | mixedValues => .debug
  | shapeMismatch .. | shapeOverflow .. => .warn
  | encoding .. | decoding .. => .trace

def message : Event → String
  | unknownTag _ => "unrecognized dtype, falling back to object"
  | mixedValues => "non-numeric value sequence, using object dtype"
  | shapeMismatch .. => "array shape doesn't match its length"
  | shapeOverflow .. => "array shape element count overflows"
  | encoding .. => "encoding ndarray"
  | decoding .. => "decoding ndarray"

/-- The named particulars of an event. -/
def fields : Event → List (String × String)
  | unknownTag tag => [("tag", tag)]
  | mixedValues => []
  | shapeMismatch shape expected actual =>
    [("shape", shape.text), ("expected", expected.repr), ("actual", actual.repr)]
  | shapeOverflow shape actual => [("shape", shape.text), ("actual", actual.repr)]
  | encoding dtype shape => [("dtype", dtype.tag), ("shape", shape.text)]
  | decoding dtype shape order =>
    [("dtype", dtype.tag), ("shape", shape.text), ("order", order.name)]

end Event

/-- A result with the events that were reported on the way to it, in order. -/
structure Logged (α : Type) where
  result : α
  events : List Event

/-- The type with a given tag; an unknown tag is reported and stands for `object`. -/
def DType.resolve (tag : String) : Logged DType :=
  match DType.ofTag? tag with
  | some dtype => ⟨dtype, []⟩
  | none => ⟨.object, [.unknownTag tag]⟩

/-- What a lenient construction reports about a shape for `count` elements. -/
def Shape.warnings (shape : Shape) (count : Nat) : List Event :=
  match shape.verdict count with
  | .covers => []
  | .mismatch expected => [.shapeMismatch shape expected count]
  | .overflow => [.shapeOverflow shape count]

end ArrayExchange
