import ArrayExchange.Bytes.Order
import ArrayExchange.Element.Type
import ArrayExchange.Json.Printer
import ArrayExchange.Shape

/-!
# Records

A record describes an array to a reader who knows nothing about it: what it is, its elements as a
JSON payload, the byte order of the host that wrote the payload, the element type and the shape.

* `Record.text` is the JSON text of a record, an object with its five fields in a fixed order.
* `Record.same` is equality of records, payloads compared as JSON values.
-/

namespace ArrayExchange

/-- The self-describing form of an array. -/
structure Record where
  /-- What is described; `Record.arrayKind` for arrays. -/
  kind : String
  payload : Json
  order : ByteOrder
  dtype : DType
  shape : Shape

namespace Record

/-- The kind of the records that describe arrays. -/
def arrayKind : String := "ndarray"

/-- Equality of records. -/
def same (r s : Record) : Bool :=
  r.kind == s.kind && r.payload.same s.payload && r.order == s.order && r.dtype == s.dtype &&
    r.shape == s.shape

end Record

/-! ### Text -/

/-- The JSON text of a shape. -/
def Shape.chars (shape : Shape) : List Char :=
  '[' :: List.intercalate [','] (shape.map (Nat.toDigits 10)) ++ [']']

/-- A field of a JSON object: its name and the text of its value. -/
def Json.fieldText (name : String) (value : List Char) : List Char :=
  Json.stringChars name ++ ':' :: value

/-- A JSON object, given by its fields. -/
def Json.objectText (fields : List (List Char)) : List Char :=
  '\x7b' :: List.intercalate [','] fields ++ ['\x7d']

/-- The JSON text of a record. -/
def Record.chars (r : Record) : List Char :=
  Json.objectText
    [Json.fieldText "type" (Json.stringChars r.kind),
      Json.fieldText "array" r.payload.chars,
      Json.fieldText "order" (Json.stringChars r.order.tag),
      Json.fieldText "dtype" (Json.stringChars r.dtype.tag),
      Json.fieldText "shape" r.shape.chars]

/-- The JSON text of a record. -/
def Record.text (r : Record) : String := String.ofList r.chars

end ArrayExchange
