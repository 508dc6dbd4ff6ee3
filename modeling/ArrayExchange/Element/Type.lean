import ArrayExchange.Binary.Format

/-!
# Element types

The elements of an array are truth values, integers of one of six ranges, floating-point numbers
of one of two formats, or arbitrary JSON values.  The first three kinds are *numeric*: such an
element takes a fixed number of bytes.

* `ElementType` is a numeric type, `DType` any type, with the tag under which it is recorded.
* `DType.resolve` finds the type with a tag; an unknown tag stands for `DType.object`.
-/

namespace ArrayExchange

/-- The integer ranges, each named by its tag. -/
inductive IntegerType where
  | uint8
  | int8
  | uint16
  | int16
  | uint32
  | int32
  deriving DecidableEq

namespace IntegerType

/-- Bytes of one integer. -/
def width : IntegerType → Nat
  | uint8 | int8 => 1
  | uint16 | int16 => 2
  | uint32 | int32 => 4

/-- Whether the range has negative integers. -/
def isSigned : IntegerType → Bool
  | int8 | int16 | int32 => true
  | uint8 | uint16 | uint32 => false

/-- How many integers the range has. -/
def size : IntegerType → Nat
  | uint8 | int8 => 0x100
  | uint16 | int16 => 0x10000
  | uint32 | int32 => 0x100000000

/-- The least integer. -/
def lo (k : IntegerType) : Int := if k.isSigned then -(k.size / 2 : Nat) else 0

/-- The greatest integer. -/
def hi (k : IntegerType) : Int := k.lo + k.size - 1

def tag : IntegerType → String
  | uint8 => "uint8"
  | int8 => "int8"
  | uint16 => "uint16"
  | int16 => "int16"
  | uint32 => "uint32"
  | int32 => "int32"

end IntegerType

/-- A numeric element type. -/
inductive ElementType where
  | bool
  | integer (range : IntegerType)
  | float (format : Format)
  deriving DecidableEq

namespace ElementType

/-- Bytes of one element. -/
def width : ElementType → Nat
  | bool => 1
  | integer range => range.width
  | float .single => 4
  | float .double => 8

def tag : ElementType → String
  | bool => "bool"
  | integer range => range.tag
  | float .single => "float32"
  | float .double => "float64"

theorem width_pos (t : ElementType) : 0 < t.width := by
  match t with
  | bool => decide
  | integer range => cases range <;> decide
  | float .single => decide
  | float .double => decide

end ElementType

/-- The type of the elements of an array: numeric, or arbitrary JSON values. -/
inductive DType where
  | numeric (type : ElementType)
  | object
  deriving DecidableEq

namespace DType

/-- All types, in the order of their documentation. -/
def all : List DType :=
  [numeric .bool, numeric (.integer .uint8), numeric (.integer .int8), numeric (.integer .uint16),
    numeric (.integer .int16), numeric (.integer .uint32), numeric (.integer .int32),
    numeric (.float .single), numeric (.float .double), object]

/-- Bytes of one element; `none` for JSON values. -/
def width? : DType → Option Nat
  | numeric type => some type.width
  | object => none

def isNumeric : DType → Bool
  | numeric _ => true
  | object => false

/-- The tag under which a type is recorded. -/
def tag : DType → String
  | numeric type => type.tag
  | object => "object"

/-- The type with a given tag. -/
def ofTag? (tag : String) : Option DType := all.find? (·.tag = tag)

end DType

end ArrayExchange
