import ArrayExchange.Record.Payload
import ArrayExchange.Text.Utf8

/-!
# JSON payloads

Values are put into a JSON array as they are.  Bytes are written in one of two ways, and read in
both:

* inline, as an object with the base64 text of the bytes;
* by reference, as an object with the identifier of a *frame*.  The frame is a snapshot of the
  bytes that travels beside the record.

Main definitions: `JsonWriter.write` and `JsonWriter.payloadWriter` on the writing side,
`Frames.readBytes`, `readSequence` and `Frames.payloadReader` on the reading side.
-/

namespace ArrayExchange

/-- How a `JsonWriter` writes. -/
structure WriterOptions where
  /-- Whether bytes are kept out of the payload and referred to. -/
  binary : Bool := false
  deriving DecidableEq

/-- Bytes that travel beside a record, under an identifier. -/
structure Frame where
  id : String
  bytes : Bytes
  deriving DecidableEq

/-! ### Writing -/

/-- The state of the writer of JSON payloads: the frames that its payloads refer to, oldest
first. -/
structure JsonWriter where
  options : WriterOptions := {}
  frames : List Frame := []
  deriving DecidableEq

/-- The payload with the base64 text of some bytes. -/
def inlinePayload (bytes : Bytes) : Json :=
  .object [("data", .string (String.ofList (Base64.encode bytes))), ("type", .string "bytes")]

/-- The payload that refers to the frame with a given identifier. -/
def framePayload (id : String) : Json := .object [("id", .string id), ("type", .string "ref")]

namespace JsonWriter

/-- The identifier of the next frame: the number of frames before it. -/
def nextId (w : JsonWriter) : String := w.frames.length.repr

/-- Writes a payload.  By reference, the bytes go into a new frame, which later writes to the
memory do not reach. -/
def write (store : Store) (elements : Elements) (w : JsonWriter) : Json × JsonWriter :=
  match elements with
  | .sequence values => (.array values, w)
  | .buffer block =>
    if w.options.binary then
      (framePayload w.nextId, { w with frames := w.frames ++ [⟨w.nextId, store.bytes block⟩] })
    else (inlinePayload (store.bytes block), w)

/-- The writer of JSON payloads, which never fails. -/
def payloadWriter : PayloadWriter JsonWriter Empty where
  write store elements w := (.ok (w.write store elements).1, (w.write store elements).2)

end JsonWriter

/-! ### Reading -/

/-- The string in a field of a buffer payload. -/
def textField (fields : List (String × Json)) (name : String) : Except DecodeError String :=
  match (fields.lookup name).bind Json.text? with
  | some text => .ok text
  | none => .error (.invalidPayload (.missingText name))

/-- The bytes of a base64 text. -/
def readBase64 (text : String) : Except DecodeError Bytes :=
  (Base64.decode (Text.bytes text)).mapError .base64

/-- The values of a sequence payload. -/
def readSequence : Json → Except DecodeError (List Json)
  | .array values => .ok values
  | _ => .error (.invalidPayload .notArray)

/-- The frames that a reader has at hand.  Of several frames with one identifier the last counts. -/
abbrev Frames := List Frame

namespace Frames

/-- The bytes of the frame with a given identifier. -/
def bytes? (frames : Frames) (id : String) : Option Bytes :=
  (frames.reverse.find? (·.id = id)).map Frame.bytes

/-- The bytes of the frame that a payload refers to. -/
def resolve (frames : Frames) (id : String) : Except DecodeError Bytes :=
  match frames.bytes? id with
  | some bytes => .ok bytes
  | none => .error (.missingFrame id)

/-- The bytes of a buffer payload, of either form. -/
def readBytes (frames : Frames) : Json → Except DecodeError Bytes
  | .object fields => do
    match ← textField fields "type" with
    | "bytes" => readBase64 (← textField fields "data")
    | "ref" => frames.resolve (← textField fields "id")
    | type => throw (.invalidPayload (.unknownType type))
  | _ => .error (.invalidPayload .notObject)

/-- The reader of JSON payloads with the given frames. -/
def payloadReader (frames : Frames) : PayloadReader := ⟨frames.readBytes, readSequence⟩

end Frames

end ArrayExchange
