import ArrayExchange.Proofs.Record.ForeignOrder

/-!
# The normal form of a record

An array that was decoded from a record is described again by a record with all its elements inline, in
the byte order of the host.  This is the normal form of the record that it was decoded from: it decodes to
the same array and is described as itself again, and a record in this form already is not changed.

Only three things get lost.  The bytes of a foreign host are turned around, a reference to a frame is
replaced by the bytes of the frame, and the fields of a payload that are not asked for are dropped.

* `Picture.record` — the record of an array that looks as in a picture.
* `Record.Spells` — the picture that a record spells to a reader of payloads.
* `JsonWriter.encode_inline`, `decodedPicture_record` — writing the record of a picture and reading it.
* `Record.Spells.record_eq_iff` — the records in normal form.
* `encode_undoes_decode` — the main result.
-/

namespace ArrayExchange

/-! ### Records of pictures -/

namespace Picture

/-- The payload that has all elements in it. -/
def Elements.payload : Picture.Elements → Json
  | .bytes _ content => inlinePayload content
  | .values items => .array items

/-- The record of an array that looks as in a picture, with all its elements inline. -/
def record (p : Picture) : Record where
  kind := Record.arrayKind
  payload := p.elements.payload
  order := ByteOrder.host
  dtype := p.dtype
  shape := p.shape

/-- The bytes are those of complete elements. -/
def Whole (p : Picture) : Prop :=
  ∀ type bytes, p.elements = .bytes type bytes → type.width ∣ bytes.length

end Picture

/-- A writer without frames writes the record of how the array looks. -/
theorem JsonWriter.encode_inline {w : JsonWriter} (h : w.options.binary = false) (store : Store)
    (a : NdArray) : (w.encode store a).result.1 = (a.picture store).record := by
  obtain ⟨shape, contents⟩ := a
  rw [encode_eq]
  cases contents with
  | object values => rfl
  | numeric t block =>
      simp only [NdArray.elements, write, h]
      rfl

/-- **The record of a picture is read as the picture**, whatever frames are at hand. -/
theorem decodedPicture_record {p : Picture} (h : p.Whole) (frames : Frames) (store : Store) :
    decodedPicture frames.payloadReader p.record store = .ok p := by
  obtain ⟨shape, elements⟩ := p
  cases elements with
  | bytes t bytes =>
      have hread : frames.payloadReader.readBytes (inlinePayload bytes) = .ok bytes :=
        frames.readBytes_inlinePayload bytes
      rw [decodedPicture_numeric _ rfl rfl]
      show (frames.payloadReader.readBytes (inlinePayload bytes)).bind _ = _
      rw [hread]
      exact if_pos (h t bytes rfl)
  | values items =>
      rw [decodedPicture_object _ rfl rfl]
      rfl

/-! ### What a record spells -/

/-- The picture that a record spells to a reader of payloads. -/
inductive Record.Spells (reader : PayloadReader) (r : Record) : Picture → Prop
  | numeric {t : ElementType} {bytes : Bytes} (dtype : r.dtype = .numeric t)
      (read : reader.readBytes r.payload = .ok bytes) (whole : t.width ∣ bytes.length) :
      Spells reader r ⟨r.shape, .bytes t (r.order.toHost t.width bytes)⟩
  | object {items : List Json} (dtype : r.dtype = .object)
      (read : reader.readValues r.payload = .ok items) : Spells reader r ⟨r.shape, .values items⟩

section Decoding

variable {reader : PayloadReader} {r : Record} {p : Picture} {store store' : Store} {a : NdArray}

theorem decodedPicture_of_decode (h : (decode reader r store).result = .ok (a, store')) :
    decodedPicture reader r store = .ok (a.picture store') := by
  rw [decodedPicture, h]
  rfl

theorem decode_of_decodedPicture (h : decodedPicture reader r store = .ok p) :
    ∃ a store', (decode reader r store).result = .ok (a, store') ∧ a.picture store' = p := by
  unfold decodedPicture at h
  cases hmade : (decode reader r store).result with
  | error error =>
      rw [hmade] at h
      cases h
  | ok made =>
      rw [hmade] at h
      cases h
      exact ⟨made.1, made.2, rfl, rfl⟩

/-- **An array looks as its record spells.** -/
theorem spells_of_decode (h : (decode reader r store).result = .ok (a, store')) :
    r.kind = Record.arrayKind ∧ r.Spells reader (a.picture store') := by
  have hpicture := decodedPicture_of_decode h
  by_cases hkind : r.kind = Record.arrayKind
  · refine ⟨hkind, ?_⟩
    cases hdtype : r.dtype with
    | numeric t =>
        rw [decodedPicture_numeric reader hkind hdtype] at hpicture
        obtain ⟨bytes, hread, hpicture⟩ := ok_of_bind hpicture
        split at hpicture
        · next hwhole =>
            rw [← Except.ok.inj hpicture]
            exact .numeric hdtype hread hwhole
        · cases hpicture
    | object =>
        rw [decodedPicture_object reader hkind hdtype] at hpicture
        cases hread : reader.readValues r.payload with
        | error error =>
            rw [hread] at hpicture
            cases hpicture
        | ok items =>
            rw [hread] at hpicture
            rw [← Except.ok.inj hpicture]
            exact .object hdtype hread
  · rw [decodedPicture_of_kind_ne reader hkind] at hpicture
    cases hpicture

end Decoding

namespace Record.Spells

variable {reader : PayloadReader} {frames : Frames} {r : Record} {p : Picture}

theorem dtype_eq (h : r.Spells reader p) : p.dtype = r.dtype := by
  cases h with
  | numeric dtype _ _ => exact dtype.symm
  | object dtype _ => exact dtype.symm

theorem shape_eq (h : r.Spells reader p) : p.shape = r.shape := by
  cases h <;> rfl

/-- Bytes in either order are those of complete elements. -/
theorem whole (h : r.Spells reader p) : p.Whole := by
  intro type bytes e
  cases h with
  | numeric _ _ hwhole =>
      cases e
      rwa [ByteOrder.length_toHost]
  | object => cases e

end Record.Spells

/-! ### Records in normal form -/

namespace Json

/-- The keys of an object, in their order.  In a canonical object they are ascending. -/
def keys : Json → List String
  | object fields => fields.map Prod.fst
  | _ => []

theorem eq_of_keys {payload : Json} {key key' : String} (h : payload.keys = [key, key']) :
    ∃ value value', payload = .object [(key, value), (key', value')] := by
  cases payload with
  | object fields =>
      match fields, h with
      | [(_, value), (_, value')], rfl => exact ⟨value, value', rfl⟩
  | _ => cases h

end Json

theorem keys_inlinePayload (bytes : Bytes) : (inlinePayload bytes).keys = ["data", "type"] := rfl

namespace Frames

variable {frames : Frames} {payload : Json} {bytes : Bytes}

/-- A payload that is read as bytes asks for them, and the frames yield them. -/
theorem yields_of_readBytes (h : frames.readBytes payload = .ok bytes) :
    ∃ request, payload.Asks request ∧ frames.Yields request bytes := by
  rcases frames.yields_or_fails payload with ⟨request, found, asks, yields⟩ | ⟨error, fails⟩
  · rw [yields.readBytes asks] at h
    cases h
    exact ⟨request, asks, yields⟩
  · rw [fails.readBytes] at h
    cases h

/-- **A payload of exactly two fields** that is read as bytes is the one that is written for them. -/
theorem eq_inlinePayload (hkeys : payload.keys = ["data", "type"])
    (h : frames.readBytes payload = .ok bytes) : payload = inlinePayload bytes := by
  obtain ⟨data, type, rfl⟩ := Json.eq_of_keys hkeys
  obtain ⟨request, asks, yields⟩ := yields_of_readBytes h
  cases asks with
  | inline htype hdata =>
      cases yields
      cases htype
      cases hdata
      rfl
  | frame htype hid =>
      -- a reference is in a third field
      cases hid

end Frames

namespace Record.Spells

variable {frames : Frames} {r : Record} {p : Picture}

/-- The payload of the normal form. -/
theorem record_payload (h : r.Spells frames.payloadReader p) :
    (r.dtype = .object → p.record.payload = r.payload) ∧
      ∀ t bytes, r.dtype = .numeric t → frames.readBytes r.payload = .ok bytes →
        p.record.payload = inlinePayload (r.order.toHost t.width bytes) := by
  cases h with
  | @numeric t bytes dtype read _ =>
      constructor
      · intro hobject
        rw [dtype] at hobject
        cases hobject
      · intro t' bytes' hdtype hread
        have hbytes : bytes = bytes' := Except.ok.inj (read.symm.trans hread)
        rw [dtype] at hdtype
        cases hdtype
        rw [← hbytes]
        rfl
  | @object items dtype read =>
      constructor
      · intro _
        have hread : readSequence r.payload = .ok items := read
        unfold readSequence at hread
        split at hread
        · next found e =>
            cases hread
            exact e.symm
        · cases hread
      · intro t bytes hdtype
        rw [dtype] at hdtype
        cases hdtype

/-- **The records in normal form** are those of the host with all elements inline and nothing else. -/
theorem record_eq_iff (h : r.Spells frames.payloadReader p) (kind : r.kind = Record.arrayKind) :
    p.record = r ↔
      r.order = ByteOrder.host ∧ (r.dtype = .object ∨ r.payload.keys = ["data", "type"]) := by
  obtain ⟨hobject, hnumeric⟩ := h.record_payload
  constructor
  · intro e
    refine ⟨by rw [← e]; rfl, ?_⟩
    cases h with
    | object dtype _ => exact .inl dtype
    | numeric =>
        right
        rw [← e]
        exact keys_inlinePayload _
  · rintro ⟨horder, hform⟩
    have hpayload : p.record.payload = r.payload := by
      cases h with
      | object dtype _ => exact hobject dtype
      | numeric dtype read _ =>
          -- the bytes are in the order of the host already, and there is one payload for them
          have hkeys := hform.resolve_left (by rw [dtype]; nofun)
          rw [hnumeric _ _ dtype read, Frames.eq_inlinePayload hkeys read, ByteOrder.toHost,
            if_pos horder]
    have hrecord : p.record = ⟨Record.arrayKind, p.record.payload, ByteOrder.host, p.dtype, p.shape⟩ :=
      rfl
    rw [hrecord, hpayload, h.dtype_eq, h.shape_eq, ← kind, ← horder]

end Record.Spells

/-! ### There and back -/

/-- **Encoding undoes decoding**, up to the normal form of a record.  An array that was decoded, by any
reader of payloads, is described again with its elements inline.  The new record decodes to an array that
looks the same, whatever frames are at hand, and that array is described by the new record again.  The
kind, the type and the shape stay, and the order is that of the host.

For a reader of JSON payloads, the new record is the old one just when that is in the order of the host
and has JSON values or a payload of exactly two fields.  In any case JSON values stay as they are, and the
bytes are those that the old payload yields, in the order of the host. -/
theorem encode_undoes_decode {reader : PayloadReader} {r : Record} {store store' : Store} {a : NdArray}
    (h : (decode reader r store).result = .ok (a, store')) {w : JsonWriter}
    (inline : w.options.binary = false) :
    let normal := (w.encode store' a).result.1
    (∀ (frames : Frames) (later : Store), ∃ b last,
      (decode frames.payloadReader normal later).result = .ok (b, last) ∧
        b.picture last = a.picture store' ∧
        ∀ w' : JsonWriter, w'.options.binary = false → (w'.encode last b).result.1 = normal) ∧
    (normal.kind = r.kind ∧ normal.dtype = r.dtype ∧ normal.shape = r.shape ∧
      normal.order = ByteOrder.host) ∧
    ∀ frames : Frames, reader = frames.payloadReader →
      (normal = r ↔
        r.order = ByteOrder.host ∧ (r.dtype = .object ∨ r.payload.keys = ["data", "type"])) ∧
      (r.dtype = .object → normal.payload = r.payload) ∧
      ∀ t bytes, r.dtype = .numeric t → frames.readBytes r.payload = .ok bytes →
        normal.payload = inlinePayload (r.order.toHost t.width bytes) := by
  intro normal
  obtain ⟨kind, spells⟩ := spells_of_decode h
  have hnormal : normal = (a.picture store').record := JsonWriter.encode_inline inline store' a
  rw [hnormal]
  refine ⟨?_, ⟨kind.symm, spells.dtype_eq, spells.shape_eq, rfl⟩, ?_⟩
  · intro frames later
    obtain ⟨b, last, hdecode, hpicture⟩ :=
      decode_of_decodedPicture (decodedPicture_record spells.whole frames later)
    refine ⟨b, last, hdecode, hpicture, ?_⟩
    intro w' inline'
    rw [JsonWriter.encode_inline inline', hpicture]
  · rintro frames rfl
    exact ⟨spells.record_eq_iff kind, spells.record_payload⟩

/-- A big-endian record of two bytes, in a frame, with a field that is not asked for. -/
theorem encode_undoes_decode_foreign :
    let frames : Frames := [⟨"0", [1, 2]⟩]
    let payload := Json.object [("id", .string "0"), ("note", .null), ("type", .string "ref")]
    let r : Record := ⟨"ndarray", payload, .bigEndian, .numeric (.integer .uint16), [7]⟩
    ∃ a store', (decode frames.payloadReader r .empty).result = .ok (a, store') ∧
      let normal := (JsonWriter.encode {} store' a).result.1
      normal ≠ r ∧ normal.payload = inlinePayload [2, 1] ∧
        ∃ b last, (decode (Frames.payloadReader []) normal .empty).result = .ok (b, last) ∧
          (JsonWriter.encode {} last b).result.1 = normal := by
  intro frames payload r
  have found : frames = [] ++ ⟨"0", [1, 2]⟩ :: [] := rfl
  have yields : frames.Yields (.frame "0") [1, 2] := .frame found nofun
  have accepted : frames.Accepts r := .numeric rfl rfl (.frame rfl rfl) yields (by decide)
  obtain ⟨a, store', hdecode, -⟩ := accepted.decode_ok .empty
  refine ⟨a, store', hdecode, ?_⟩
  obtain ⟨again, -, json⟩ := encode_undoes_decode hdecode (w := {}) rfl
  obtain ⟨same, -, bytes⟩ := json frames rfl
  obtain ⟨b, last, hlast, -, fixed⟩ := again [] .empty
  refine ⟨?_, bytes _ _ rfl (yields.readBytes (.frame rfl rfl)), b, last, hlast, fixed {} rfl⟩
  intro e
  cases (same.mp e).1

end ArrayExchange
