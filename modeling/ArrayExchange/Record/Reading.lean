import ArrayExchange.Json.Reader
import ArrayExchange.Reading.Basic
import ArrayExchange.Record.Basic
import ArrayExchange.Text.Utf8

/-!
# Reading records

A record is given by an object with its five fields, in any order and among others, or by a list
of the five.  The payload is kept as it is, in canonical form.

* `Record.ofJson` reads a JSON value; a list may have no more than five items.
* `Record.ofBytes` reads a whole JSON text, where items after the fifth do not count.  A text that
  is not JSON at all is told apart from one that is not a record: `RecordTextError`.
-/

namespace ArrayExchange

namespace Record

/-- The names of the fields, in the order of their declaration. -/
def fieldNames : List String := ["type", "array", "order", "dtype", "shape"]

/-- The name of the structure in messages. -/
def title : String := "WireRecord"

/-- The fields of a record that have been read so far. -/
structure Draft where
  kind : Option String := none
  payload : Option Json := none
  order : Option ByteOrder := none
  dtype : Option DType := none
  shape : Option Shape := none

namespace Draft

/-- A field that must not be there yet. -/
def fresh {α : Type} (name : String) (field : Option α) (read : Read α) : Read (Option α) :=
  match field with
  | some _ => .error (.duplicateField name)
  | none => read.map some

/-- Reads one field.  A field with an unknown name does not count. -/
def put (d : Draft) (name : String) (value : Json) : Read Draft :=
  match name with
  | "type" => return { d with kind := ← fresh name d.kind (readText value) }
  | "array" => return { d with payload := ← fresh name d.payload (.ok value.normalize) }
  | "order" => return { d with order := ← fresh name d.order (readOrder value) }
  | "dtype" => return { d with dtype := ← fresh name d.dtype (readDType value) }
  | "shape" => return { d with shape := ← fresh name d.shape (readShape value) }
  | _ => return d

/-- A field that must be there by the end. -/
def required {α : Type} (name : String) (field : Option α) : Read α :=
  match field with
  | some value => .ok value
  | none => .error (.missingField name)

/-- The record, if no field is missing; the first missing one is reported. -/
def finish (d : Draft) : Read Record :=
  return {
    kind := ← required "type" d.kind
    payload := ← required "array" d.payload
    order := ← required "order" d.order
    dtype := ← required "dtype" d.dtype
    shape := ← required "shape" d.shape }

end Draft

/-- Reads the fields of an object one after the other. -/
def ofFields (d : Draft) : List (String × Json) → Read Record
  | [] => d.finish
  | (name, value) :: rest => do ofFields (← d.put name value) rest

/-- Reads the items of a list as the fields in order; items after the last field do not count. -/
def ofItems (items : List Json) : Read Record := do
  let fields := fieldNames.zip items
  let d ← fields.foldlM (fun (d : Draft) (name, value) => d.put name value) {}
  if items.length < fieldNames.length then
    throw (.tooShort items.length title fieldNames.length)
  else d.finish

/-- Reads a record from a value.  Items after the last field are refused, if `exactly` is set. -/
def read (exactly : Bool) : Json → Read Record
  | .object fields => ofFields {} fields
  | .array items => do
    let record ← ofItems items
    if exactly ∧ fieldNames.length < items.length then throw (.tooLong items.length)
    else return record
  | value => .error (.unexpected value (.fields title))

/-- Reads a record from a JSON value. -/
def ofJson : Json → Read Record := read true

end Record

/-- Why a text is not the text of a record. -/
inductive RecordTextError where
  /-- The text is not JSON in UTF-8. -/
  | notJson
  /-- The value that the text spells is not a record. -/
  | notRecord (error : ReadError)

/-- Reads a record from the bytes of its JSON text. -/
def Record.ofBytes (bytes : Bytes) : Except RecordTextError Record :=
  match (Text.ofBytes? bytes).bind Json.ofText64? with
  | none => .error .notJson
  | some value => (Record.read false value).mapError .notRecord

end ArrayExchange
