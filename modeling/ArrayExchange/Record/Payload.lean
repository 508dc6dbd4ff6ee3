import ArrayExchange.Bytes.Base64
import ArrayExchange.Json.Basic
import ArrayExchange.NdArray.Error
import ArrayExchange.Store
import ArrayExchange.Text.Quoted

/-!
# Payloads

The payload of a record holds the elements of an array: the bytes of a numeric array, or the
values of an object array.  How it does so is left to a `PayloadWriter` and a `PayloadReader`;
records are written and read with any of them.

* `Elements` is what a writer is given, memory by its handle and without a copy.
* `DecodeError` lists why a record is not turned into an array, `DecodeError.message` words it.
-/

namespace ArrayExchange

/-- The elements of an array, as they are handed to a writer of payloads. -/
inductive Elements where
  /-- The memory of a numeric array, by its handle. -/
  | buffer (block : BlockId)
  | sequence (values : List Json)

/-- A way of writing payloads that keeps a state of type `σ` and fails with errors of type `ε`. -/
structure PayloadWriter (σ ε : Type) where
  write : Store → Elements → σ → Except ε Json × σ

/-! ### Errors -/

/-- Why a payload is not of the form that a reader expects. -/
inductive PayloadFault where
  /-- A buffer payload that is no object. -/
  | notObject
  /-- A buffer payload without a string in a field. -/
  | missingText (field : String)
  /-- A buffer payload of an unknown type. -/
  | unknownType (type : String)
  /-- A sequence payload that is no array. -/
  | notArray
  deriving DecidableEq

/-- The wording of a fault. -/
def PayloadFault.message : PayloadFault → String
  | notObject => "buffer payload is not an object"
  | missingText field => "buffer payload has no string " ++ Text.quoted field
  | unknownType type => "unknown buffer payload type " ++ Text.quoted type
  | notArray => "sequence payload is not an array"

/-- Why a record is not turned into an array. -/
inductive DecodeError where
  /-- The record describes something else. -/
  | unexpectedKind (kind : String)
  | invalidPayload (fault : PayloadFault)
  /-- The payload refers to a frame that is not there. -/
  | missingFrame (id : String)
  | base64 (error : Base64.Error)
  | array (error : ArrayError)
  deriving DecidableEq

/-- The wording of an error. -/
def DecodeError.message : DecodeError → String
  | unexpectedKind kind =>
    "expected a record of type " ++ Text.quoted "ndarray" ++ ", got " ++ Text.quoted kind
  | invalidPayload fault => "invalid payload: " ++ fault.message
  | missingFrame id => "buffer " ++ Text.quoted id ++ " is not available"
  | base64 error => error.message
  | array error => error.message

/-! ### Readers -/

/-- A way of reading payloads. -/
structure PayloadReader where
  /-- The bytes of a buffer payload, in the byte order of the record. -/
  readBytes : Json → Except DecodeError Bytes
  /-- The values of a sequence payload. -/
  readValues : Json → Except DecodeError (List Json)

end ArrayExchange
