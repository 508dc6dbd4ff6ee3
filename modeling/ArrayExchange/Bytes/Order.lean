import ArrayExchange.Bytes.LittleEndian

/-!
# Byte order

A byte string holds a run of elements of one width.  `Bytes.chunks` cuts it into its complete
elements, and `Bytes.reverseEach` turns every complete element around, which is how a byte string
changes its byte order.  Bytes past the last complete element are left alone.
-/

namespace ArrayExchange

/-- The order in which the bytes of one element are stored. -/
inductive ByteOrder where
  | littleEndian
  | bigEndian
  deriving DecidableEq

namespace ByteOrder

/-- The byte order of the host. -/
def host : ByteOrder := littleEndian

/-- The tag under which an order is recorded. -/
def tag : ByteOrder → String
  | littleEndian => "little_endian"
  | bigEndian => "big_endian"

/-- The name of an order in event fields. -/
def name : ByteOrder → String
  | littleEndian => "LittleEndian"
  | bigEndian => "BigEndian"

/-- The order with a given tag. -/
def ofTag? : String → Option ByteOrder
  | "little_endian" => some littleEndian
  | "big_endian" => some bigEndian
  | _ => none

end ByteOrder

namespace Bytes

/-- The first `count` pieces of `width` bytes. -/
def pieces (width : Nat) : Nat → Bytes → List Bytes
  | 0, _ => []
  | count + 1, bytes => bytes.take width :: pieces width count (bytes.drop width)

/-- The complete pieces of `width` bytes, in order; none for the width `0`. -/
def chunks (width : Nat) (bytes : Bytes) : List Bytes :=
  pieces width (bytes.length / width) bytes

/-- The bytes past the last complete piece. -/
def remainder (width : Nat) (bytes : Bytes) : Bytes := bytes.drop (bytes.length / width * width)

/-- The byte string with each of its complete pieces turned around. -/
def reverseEach (width : Nat) (bytes : Bytes) : Bytes :=
  (chunks width bytes).flatMap List.reverse ++ remainder width bytes

@[simp] theorem length_pieces (width count : Nat) (bytes : Bytes) :
    (pieces width count bytes).length = count := by
  induction count generalizing bytes with
  | zero => rfl
  | succ count ih => simp only [pieces, List.length_cons, ih]

@[simp] theorem length_chunks (width : Nat) (bytes : Bytes) :
    (chunks width bytes).length = bytes.length / width := length_pieces ..

end Bytes

end ArrayExchange
