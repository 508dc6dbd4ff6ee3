import ArrayExchange.NdArray.Construction
import ArrayExchange.Record.Basic
import ArrayExchange.Record.JsonPayload

/-!
# From arrays to records and back

`encode` describes an array by a record; the elements are handed to a writer of payloads, memory
by its handle and without a copy.  `decode` rebuilds an array from a record, in memory of its own.
A payload that was written on a host of the other byte order is turned around first.  The shape
of the record is kept whatever it covers.
-/

namespace ArrayExchange

/-- The elements of an array, ready for a writer. -/
def NdArray.elements (a : NdArray) : Elements :=
  match a.contents with
  | .numeric _ block => .buffer block
  | .object values => .sequence values

/-- The record of an array with a given payload, stamped with the byte order of the host. -/
def NdArray.describe (a : NdArray) (payload : Json) : Record where
  kind := Record.arrayKind
  payload := payload
  order := ByteOrder.host
  dtype := a.dtype
  shape := a.shape

/-- Describes an array by a record.  Only the writer can fail, and its error is passed on. -/
def encode {σ ε : Type} (writer : PayloadWriter σ ε) (store : Store) (a : NdArray) (state : σ) :
    Logged (Except ε Record × σ) :=
  let (payload, state) := writer.write store a.elements state
  ⟨(payload.map a.describe, state), [.encoding a.dtype a.shape]⟩

/-- Describes an array by a record with a JSON payload, which always succeeds. -/
def JsonWriter.encode (w : JsonWriter) (store : Store) (a : NdArray) :
    Logged (Record × JsonWriter) :=
  match ArrayExchange.encode JsonWriter.payloadWriter store a w with
  | ⟨(.ok record, w), events⟩ => ⟨(record, w), events⟩
  | ⟨(.error impossible, _), _⟩ => impossible.elim

theorem JsonWriter.encode_eq (w : JsonWriter) (store : Store) (a : NdArray) :
    w.encode store a =
      ⟨(a.describe (w.write store a.elements).1, (w.write store a.elements).2),
        [.encoding a.dtype a.shape]⟩ := rfl

/-- Bytes in the byte order of the host, for elements that were written in the given one. -/
def ByteOrder.toHost (order : ByteOrder) (width : Nat) (bytes : Bytes) : Bytes :=
  if order = ByteOrder.host then bytes else bytes.reverseEach width

/-- The source for the array of a record, and the store in which it lies. -/
def Record.source (reader : PayloadReader) (r : Record) (store : Store) :
    Except DecodeError (Source × Store) :=
  match r.dtype with
  | .numeric t => do
    let bytes ← reader.readBytes r.payload
    let (block, store) := store.alloc (r.order.toHost t.width bytes)
    return (.buffer block, store)
  | .object => do
    let values ← reader.readValues r.payload
    return (.values values, store)

/-- Rebuilds the array that a record describes. -/
def decode (reader : PayloadReader) (r : Record) (store : Store) :
    Logged (Except DecodeError (NdArray × Store)) :=
  if r.kind = Record.arrayKind then
    let begun := Event.decoding r.dtype r.shape r.order
    match r.source reader store with
    | .error error => ⟨.error error, [begun]⟩
    | .ok (source, store) =>
      let made := NdArray.fromSource r.dtype source { shape := some r.shape } store
      ⟨made.result.mapError .array, begun :: made.events⟩
  else ⟨.error (.unexpectedKind r.kind), []⟩

end ArrayExchange
