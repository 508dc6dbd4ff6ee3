import ArrayExchange.Bytes.Order
import ArrayExchange.Element.Type
import ArrayExchange.Reading.Error
import ArrayExchange.Shape

/-!
# Reading names, shapes and flags

A name out of a set is given by a string, or by an object with the name as its only key and null
beside it.  Every name is an element type, `object` if it is none of the known tags; the names of
byte orders are known or refused.

Each reader takes a JSON value and returns what it stands for, or a `ReadError`.
-/

namespace ArrayExchange

/-- The outcome of reading a value. -/
abbrev Read (α : Type) := Except ReadError α

/-- A name, given in either of its forms; `pick` says what the name stands for. -/
def readName {α : Type} (pick : String → Read α) : Json → Read α
  | .string name => pick name
  | .object [(name, .null)] => pick name
  | .object [(name, value)] => do
    let _ ← pick name
    throw (.unexpected value .nothing)
  | .object _ => .error .notSingleKey
  | value => .error (.unexpected value .name)

/-- An element type. -/
def readDType : Json → Read DType := readName fun tag => .ok ((DType.ofTag? tag).getD .object)

/-- A byte order. -/
def readOrder : Json → Read ByteOrder := readName fun tag =>
  match ByteOrder.ofTag? tag with
  | some order => .ok order
  | none => .error (.unknownName tag [ByteOrder.littleEndian.tag, ByteOrder.bigEndian.tag])

/-- A text. -/
def readText : Json → Read String
  | .string s => .ok s
  | value => .error (.unexpected value .text)

/-- A flag. -/
def readFlag : Json → Read Bool
  | .bool b => .ok b
  | value => .error (.unexpected value .flag)

/-- An extent. -/
def readExtent : Json → Read Nat
  | .number (.int n) => if n.val < 0 then .error (.negative n.val) else .ok n.val.toNat
  | value => .error (.unexpected value .extent)

/-- A shape. -/
def readShape : Json → Read Shape
  | .array items => items.mapM readExtent
  | value => .error (.unexpected value .sequence)

/-- A value that may be left out by giving null. -/
def readOptional {α : Type} (read : Json → Read α) : Json → Read (Option α)
  | .null => .ok none
  | value => (read value).map some

end ArrayExchange
