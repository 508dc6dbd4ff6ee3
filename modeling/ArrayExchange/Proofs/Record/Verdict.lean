import ArrayExchange.Proofs.Bytes.CanonicalBase64
import ArrayExchange.Proofs.Bytes.Reversal
import ArrayExchange.Record.Exchange

/-!
# Which records are accepted

Decoding checks the kind of a record, then the form of its payload, then whether the payload yields
bytes, and at last whether these are the bytes of complete elements.  This file says what each check
asks for without mention of how it is carried out, and which error belongs to which check.

* `Json.Asks`, `Json.Malformed` — what a buffer payload asks for, and what is wrong with one that asks
  for nothing.
* `Frames.Yields`, `Frames.Fails` — the bytes of a payload, and why there are none.
* `Frames.Accepts`, `Frames.Refuses` — the records that become arrays, and the errors of the others.
* `decode_of_kind_ne`, `decode_numeric`, `decode_object` — decoding of a record of each sort, with any
  reader of payloads.
* `Frames.decode_verdict` — every record is judged as these say.
-/

namespace ArrayExchange

/-! ### The form of a payload -/

/-- What a buffer payload asks for. -/
inductive Request where
  /-- The bytes that a base64 text spells. -/
  | inline (text : String)
  /-- The bytes of the frame with an identifier. -/
  | frame (id : String)

namespace Json

variable {payload : Json} {fields : List (String × Json)} {name text : String}

/-- A payload that asks for bytes.  Fields other than those named here do not matter. -/
inductive Asks (payload : Json) : Request → Prop
  | inline {text : String} (type : payload.field? "type" = some (.string "bytes"))
      (data : payload.field? "data" = some (.string text)) : Asks payload (.inline text)
  | frame {id : String} (type : payload.field? "type" = some (.string "ref"))
      (reference : payload.field? "id" = some (.string id)) : Asks payload (.frame id)

/-- There is no string in a field. -/
def LacksText (payload : Json) (name : String) : Prop :=
  ∀ text, payload.field? name ≠ some (.string text)

/-- The first thing that is wrong with a payload that asks for nothing. -/
inductive Malformed (payload : Json) : PayloadFault → Prop
  | notObject (h : ∀ fields, payload ≠ .object fields) : Malformed payload .notObject
  | noType {fields : List (String × Json)} (object : payload = .object fields)
      (type : payload.LacksText "type") : Malformed payload (.missingText "type")
  | noData (type : payload.field? "type" = some (.string "bytes"))
      (data : payload.LacksText "data") : Malformed payload (.missingText "data")
  | noId (type : payload.field? "type" = some (.string "ref"))
      (id : payload.LacksText "id") : Malformed payload (.missingText "id")
  | unknownType {type : String} (h : payload.field? "type" = some (.string type))
      (bytes : type ≠ "bytes") (ref : type ≠ "ref") : Malformed payload (.unknownType type)

theorem text_or_lacks (payload : Json) (name : String) :
    (∃ text, payload.field? name = some (.string text)) ∨ payload.LacksText name := by
  by_cases h : ∃ text, payload.field? name = some (.string text)
  · exact .inl h
  · exact .inr fun text e => h ⟨text, e⟩

/-- **A payload asks for something or is malformed.** -/
theorem asks_or_malformed (payload : Json) :
    (∃ request, payload.Asks request) ∨ ∃ fault, payload.Malformed fault := by
  by_cases hobject : ∃ fields, payload = .object fields
  · obtain ⟨fields, hobject⟩ := hobject
    rcases payload.text_or_lacks "type" with ⟨type, htype⟩ | hlacks
    · by_cases hbytes : type = "bytes"
      · subst hbytes
        rcases payload.text_or_lacks "data" with ⟨text, hdata⟩ | hlacks
        · exact .inl ⟨_, .inline htype hdata⟩
        · exact .inr ⟨_, .noData htype hlacks⟩
      · by_cases href : type = "ref"
        · subst href
          rcases payload.text_or_lacks "id" with ⟨id, hid⟩ | hlacks
          · exact .inl ⟨_, .frame htype hid⟩
          · exact .inr ⟨_, .noId htype hlacks⟩
        · exact .inr ⟨_, .unknownType htype hbytes href⟩
    · exact .inr ⟨_, .noType hobject hlacks⟩
  · exact .inr ⟨_, .notObject fun fields e => hobject ⟨fields, e⟩⟩

theorem object_of_field? {value : Json} (h : payload.field? name = some value) :
    ∃ fields, payload = .object fields := by
  unfold field? at h
  split at h
  · exact ⟨_, rfl⟩
  · cases h

/-- A payload that asks for bytes has one of two types. -/
theorem Asks.type {request : Request} (h : payload.Asks request) :
    ∃ type, payload.field? "type" = some (.string type) ∧ (type = "bytes" ∨ type = "ref") := by
  cases h with
  | inline type _ => exact ⟨_, type, .inl rfl⟩
  | frame type _ => exact ⟨_, type, .inr rfl⟩

/-- A malformed payload asks for nothing. -/
theorem Malformed.not_asks {fault : PayloadFault} {request : Request} (h : payload.Malformed fault) :
    ¬ payload.Asks request := by
  intro asks
  obtain ⟨found, htype, hfound⟩ := asks.type
  cases h with
  | notObject h =>
      obtain ⟨fields, hobject⟩ := object_of_field? htype
      exact h fields hobject
  | noType _ lacks => exact lacks found htype
  | noData type lacks =>
      cases asks with
      | inline _ data => exact lacks _ data
      | frame type' _ => simp [type] at type'
  | noId type lacks =>
      cases asks with
      | inline type' _ => simp [type] at type'
      | frame _ reference => exact lacks _ reference
  | unknownType type hbytes href =>
      rw [type] at htype
      cases htype
      exact hfound.elim hbytes href

/-! ### Reading fields -/

theorem textField_of_field? (h : (object fields).field? name = some (.string text)) :
    textField fields name = .ok text := by
  have hlookup : fields.lookup name = some (.string text) := h
  rw [textField, hlookup]
  rfl

theorem textField_of_lacks (h : (object fields).LacksText name) :
    textField fields name = .error (.invalidPayload (.missingText name)) := by
  unfold textField
  split
  · next found htext =>
      obtain ⟨value, hvalue, htext⟩ := Option.bind_eq_some_iff.mp htext
      unfold text? at htext
      split at htext
      · cases htext
        exact absurd hvalue (h found)
      · cases htext
  · rfl

end Json

/-! ### The bytes of a payload -/

namespace Frames

variable {frames : Frames} {payload : Json} {request : Request} {text id : String} {bytes : Bytes}
  {fault : PayloadFault} {error : DecodeError}

/-- The bytes that a request yields: those whose base64 text is the given one, or those of the last
frame with the identifier. -/
inductive Yields (frames : Frames) : Request → Bytes → Prop
  | inline (bytes : Bytes) : Yields frames (.inline (String.ofList (Base64.encode bytes))) bytes
  | frame {before after : Frames} {id : String} {bytes : Bytes}
      (found : frames = before ++ ⟨id, bytes⟩ :: after) (last : ∀ f ∈ after, f.id ≠ id) :
      Yields frames (.frame id) bytes

/-- Why a payload yields no bytes.  The error of a text that is not base64 is that of its reader. -/
inductive Fails (frames : Frames) (payload : Json) : DecodeError → Prop
  | form {fault : PayloadFault} (h : payload.Malformed fault) :
      Fails frames payload (.invalidPayload fault)
  | base64 {text : String} {error : Base64.Error} (asks : payload.Asks (.inline text))
      (h : ∀ bytes, text ≠ String.ofList (Base64.encode bytes))
      (reason : Base64.decode (Text.bytes text) = .error error) : Fails frames payload (.base64 error)
  | frame {id : String} (asks : payload.Asks (.frame id)) (h : ∀ f ∈ frames, f.id ≠ id) :
      Fails frames payload (.missingFrame id)

theorem bytes?_append (before after : Frames) (id : String) (bytes : Bytes)
    (last : ∀ f ∈ after, f.id ≠ id) :
    Frames.bytes? (before ++ ⟨id, bytes⟩ :: after) id = some bytes := by
  have hafter : after.reverse.find? (fun f => decide (f.id = id)) = none := by
    rw [List.find?_eq_none]
    intro f hf
    simpa using last f (List.mem_reverse.mp hf)
  rw [bytes?, List.reverse_append, List.reverse_cons, List.append_assoc, List.find?_append, hafter]
  simp

/-- The last frame with an identifier is found, if there is one. -/
theorem yields_or_missing (frames : Frames) (id : String) :
    (∃ bytes, frames.Yields (.frame id) bytes) ∨ ∀ f ∈ frames, f.id ≠ id := by
  induction frames with
  | nil => exact .inr (by simp)
  | cons f rest ih =>
      rcases ih with ⟨bytes, hrest⟩ | hrest
      · cases hrest with
        | @frame before after _ _ found last =>
            have hfound : f :: rest = (f :: before) ++ ⟨id, bytes⟩ :: after := by
              rw [found]
              rfl
            exact .inl ⟨bytes, .frame hfound last⟩
      · by_cases hf : f.id = id
        · subst hf
          have hfound : f :: rest = [] ++ ⟨f.id, f.bytes⟩ :: rest := rfl
          exact .inl ⟨f.bytes, .frame hfound hrest⟩
        · exact .inr (List.forall_mem_cons.mpr ⟨hf, hrest⟩)

theorem bytes?_of_missing (h : ∀ f ∈ frames, f.id ≠ id) : frames.bytes? id = none := by
  have hfind : frames.reverse.find? (fun f => decide (f.id = id)) = none := by
    rw [List.find?_eq_none]
    intro f hf
    simpa using h f (List.mem_reverse.mp hf)
  rw [bytes?, hfind]
  rfl

/-! ### Reading a payload -/

theorem readBytes_inline (frames : Frames) (h : payload.Asks (.inline text)) :
    frames.readBytes payload = readBase64 text := by
  cases h with
  | inline type data =>
      obtain ⟨fields, rfl⟩ := Json.object_of_field? type
      simp only [readBytes, Json.textField_of_field? type, Json.textField_of_field? data, bind,
        Except.bind]

theorem readBytes_frame (frames : Frames) (h : payload.Asks (.frame id)) :
    frames.readBytes payload = frames.resolve id := by
  cases h with
  | frame type hid =>
      obtain ⟨fields, rfl⟩ := Json.object_of_field? type
      simp only [readBytes, Json.textField_of_field? type, Json.textField_of_field? hid, bind,
        Except.bind]

theorem readBytes_malformed (frames : Frames) (h : payload.Malformed fault) :
    frames.readBytes payload = .error (.invalidPayload fault) := by
  cases h with
  | notObject h =>
      cases payload with
      | object fields => exact absurd rfl (h fields)
      | _ => rfl
  | noType object type =>
      subst object
      simp only [readBytes, Json.textField_of_lacks type, bind, Except.bind]
  | noData type data =>
      obtain ⟨fields, rfl⟩ := Json.object_of_field? type
      simp only [readBytes, Json.textField_of_field? type, Json.textField_of_lacks data, bind,
        Except.bind]
  | noId type hid =>
      obtain ⟨fields, rfl⟩ := Json.object_of_field? type
      simp only [readBytes, Json.textField_of_field? type, Json.textField_of_lacks hid, bind,
        Except.bind]
  | unknownType type hbytes href =>
      obtain ⟨fields, rfl⟩ := Json.object_of_field? type
      simp only [readBytes, Json.textField_of_field? type, bind, Except.bind]
      rfl

theorem readBase64_eq_ok_iff :
    readBase64 text = .ok bytes ↔ text = String.ofList (Base64.encode bytes) := by
  rw [← Base64.decode_eq_ok_iff, readBase64]
  cases Base64.decode (Text.bytes text) with
  | error error => exact ⟨nofun, nofun⟩
  | ok found =>
      show Except.ok found = .ok bytes ↔ Except.ok found = .ok bytes
      rw [Except.ok.injEq, Except.ok.injEq]

/-- A payload that asks for bytes is read as the bytes that the request yields. -/
theorem Yields.readBytes (h : frames.Yields request bytes) (asks : payload.Asks request) :
    frames.readBytes payload = .ok bytes := by
  cases h with
  | inline bytes => rw [readBytes_inline frames asks, readBase64_eq_ok_iff]
  | @frame before after id _ found last =>
      rw [readBytes_frame frames asks, resolve, found, bytes?_append before after id bytes last]

theorem Fails.readBytes (h : frames.Fails payload error) : frames.readBytes payload = .error error := by
  cases h with
  | form h => exact readBytes_malformed frames h
  | base64 asks _ reason => rw [readBytes_inline frames asks, readBase64, reason]; rfl
  | frame asks h => rw [readBytes_frame frames asks, resolve, bytes?_of_missing h]

/-- **A payload yields bytes or fails.** -/
theorem yields_or_fails (frames : Frames) (payload : Json) :
    (∃ request bytes, payload.Asks request ∧ frames.Yields request bytes) ∨
      ∃ error, frames.Fails payload error := by
  rcases payload.asks_or_malformed with ⟨request, asks⟩ | ⟨fault, h⟩
  · cases request with
    | inline text =>
        cases hread : Base64.decode (Text.bytes text) with
        | ok bytes =>
            obtain rfl := Base64.decode_eq_ok_iff.mp hread
            exact .inl ⟨_, bytes, asks, .inline bytes⟩
        | error error =>
            refine .inr ⟨_, .base64 asks ?_ hread⟩
            rintro bytes rfl
            rw [Base64.decode_encode] at hread
            cases hread
    | frame id =>
        rcases frames.yields_or_missing id with ⟨bytes, h⟩ | h
        · exact .inl ⟨_, bytes, asks, h⟩
        · exact .inr ⟨_, .frame asks h⟩
  · exact .inr ⟨_, .form h⟩

end Frames

/-! ### Decoding -/

@[simp] theorem ByteOrder.length_toHost (order : ByteOrder) (width : Nat) (bytes : Bytes) :
    (order.toHost width bytes).length = bytes.length := by
  unfold toHost
  split
  · rfl
  · exact Bytes.length_reverseEach width bytes

section Decoding

variable (reader : PayloadReader) {r : Record} (store : Store)

theorem decode_of_kind_ne (h : r.kind ≠ Record.arrayKind) :
    (decode reader r store).result = .error (.unexpectedKind r.kind) := by
  unfold decode
  rw [if_neg h]

/-- Decoding of a numeric record: the bytes are put into a new block in the byte order of the host,
unless there are none or they are not those of complete elements. -/
theorem decode_numeric (h : r.kind = Record.arrayKind) {t : ElementType} (e : r.dtype = .numeric t) :
    (decode reader r store).result = (reader.readBytes r.payload).bind fun bytes =>
      if t.width ∣ bytes.length then
        .ok (⟨r.shape, .numeric t store.next⟩, (store.alloc (r.order.toHost t.width bytes)).2)
      else .error (.array (.partialElement t.width bytes.length)) := by
  unfold decode Record.source
  rw [if_pos h, e]
  cases reader.readBytes r.payload with
  | error error => rfl
  | ok bytes =>
      have hbytes : (store.alloc (r.order.toHost t.width bytes)).2.bytes
          (store.alloc (r.order.toHost t.width bytes)).1 = r.order.toHost t.width bytes :=
        store.bytes_alloc_next _
      simp only [bind, Except.bind, pure, Except.pure, NdArray.fromSource, Source.backing,
        Source.numericBacking, hbytes, ByteOrder.length_toHost]
      by_cases hmod : bytes.length % t.width = 0
      · rw [if_pos hmod, if_pos (Nat.dvd_of_mod_eq_zero hmod)]
        rfl
      · rw [if_neg hmod, if_neg fun hdvd => hmod (Nat.mod_eq_zero_of_dvd hdvd)]
        rfl

/-- Decoding of a record of JSON values: they become the elements as they are. -/
theorem decode_object (h : r.kind = Record.arrayKind) (e : r.dtype = .object) :
    (decode reader r store).result =
      (reader.readValues r.payload).bind fun items => .ok (⟨r.shape, .object items⟩, store) := by
  unfold decode Record.source
  rw [if_pos h, e]
  cases reader.readValues r.payload with
  | error error => rfl
  | ok items => rfl

end Decoding

/-! ### The verdict -/

namespace Frames

variable {frames : Frames} {r : Record} {error : DecodeError} {store : Store}

/-- The records that become arrays, with the frames at hand.  Their shape does not matter. -/
inductive Accepts (frames : Frames) (r : Record) : Prop
  | numeric {t : ElementType} {request : Request} {bytes : Bytes} (kind : r.kind = "ndarray")
      (dtype : r.dtype = .numeric t) (asks : r.payload.Asks request)
      (yields : frames.Yields request bytes) (h : t.width ∣ bytes.length) : Accepts frames r
  | object {items : List Json} (kind : r.kind = "ndarray") (dtype : r.dtype = .object)
      (payload : r.payload = .array items) : Accepts frames r

/-- The error of a record that becomes no array: that of the first check it does not pass. -/
inductive Refuses (frames : Frames) (r : Record) : DecodeError → Prop
  | kind (h : r.kind ≠ "ndarray") : Refuses frames r (.unexpectedKind r.kind)
  | notArray (kind : r.kind = "ndarray") (dtype : r.dtype = .object)
      (h : ∀ items, r.payload ≠ .array items) : Refuses frames r (.invalidPayload .notArray)
  | payload {t : ElementType} {error : DecodeError} (kind : r.kind = "ndarray")
      (dtype : r.dtype = .numeric t) (h : frames.Fails r.payload error) : Refuses frames r error
  | length {t : ElementType} {request : Request} {bytes : Bytes} (kind : r.kind = "ndarray")
      (dtype : r.dtype = .numeric t) (asks : r.payload.Asks request)
      (yields : frames.Yields request bytes) (h : ¬ t.width ∣ bytes.length) :
      Refuses frames r (.array (.partialElement t.width bytes.length))

/-- Every record is accepted or refused. -/
theorem accepts_or_refuses (frames : Frames) (r : Record) :
    frames.Accepts r ∨ ∃ error, frames.Refuses r error := by
  by_cases hk : r.kind = "ndarray"
  · cases e : r.dtype with
    | object =>
        by_cases h : ∃ items, r.payload = .array items
        · obtain ⟨items, h⟩ := h
          exact .inl (.object hk e h)
        · exact .inr ⟨_, .notArray hk e fun items hp => h ⟨items, hp⟩⟩
    | numeric t =>
        rcases frames.yields_or_fails r.payload with ⟨request, bytes, asks, yields⟩ | ⟨error, h⟩
        · by_cases hdvd : t.width ∣ bytes.length
          · exact .inl (.numeric hk e asks yields hdvd)
          · exact .inr ⟨_, .length hk e asks yields hdvd⟩
        · exact .inr ⟨error, .payload hk e h⟩
  · exact .inr ⟨_, .kind hk⟩

/-- A record that is accepted becomes an array of its type and shape. -/
theorem Accepts.decode_ok (h : frames.Accepts r) (store : Store) :
    ∃ a store', (decode frames.payloadReader r store).result = .ok (a, store') ∧
      a.dtype = r.dtype ∧ a.shape = r.shape := by
  cases h with
  | @numeric t _ bytes kind dtype asks yields hdvd =>
      refine ⟨⟨r.shape, .numeric t store.next⟩, (store.alloc (r.order.toHost t.width bytes)).2, ?_,
        dtype.symm, rfl⟩
      rw [decode_numeric _ store kind dtype]
      simp only [payloadReader, yields.readBytes asks, Except.bind, if_pos hdvd]
  | @object items kind dtype payload =>
      refine ⟨⟨r.shape, .object items⟩, store, ?_, dtype.symm, rfl⟩
      rw [decode_object _ store kind dtype, payload]
      rfl

/-- A record that is refused gives its error. -/
theorem Refuses.decode_error (h : frames.Refuses r error) (store : Store) :
    (decode frames.payloadReader r store).result = .error error := by
  cases h with
  | kind h => exact decode_of_kind_ne _ store h
  | notArray kind dtype h =>
      have hread : readSequence r.payload = .error (.invalidPayload .notArray) := by
        unfold readSequence
        split
        · next items e => exact absurd e (h items)
        · rfl
      rw [decode_object _ store kind dtype]
      simp only [payloadReader, hread, Except.bind]
  | payload kind dtype h =>
      rw [decode_numeric _ store kind dtype]
      simp only [payloadReader, h.readBytes, Except.bind]
  | length kind dtype asks yields h =>
      rw [decode_numeric _ store kind dtype]
      simp only [payloadReader, yields.readBytes asks, Except.bind, if_neg h]

theorem Accepts.of_ok {made : NdArray × Store}
    (h : (decode frames.payloadReader r store).result = .ok made) : frames.Accepts r := by
  rcases frames.accepts_or_refuses r with haccepts | ⟨error, hrefuses⟩
  · exact haccepts
  · rw [hrefuses.decode_error store] at h
    cases h

theorem Refuses.of_error (h : (decode frames.payloadReader r store).result = .error error) :
    frames.Refuses r error := by
  rcases frames.accepts_or_refuses r with haccepts | ⟨found, hrefuses⟩
  · obtain ⟨a, store', hok, -⟩ := haccepts.decode_ok store
    rw [hok] at h
    cases h
  · rw [hrefuses.decode_error store] at h
    cases h
    exact hrefuses

/-- The only error of arrays is that of bytes that are not those of complete elements. -/
theorem Refuses.partialElement {fault : ArrayError} (h : frames.Refuses r (.array fault)) :
    ∃ width actual, fault = .partialElement width actual := by
  cases h with
  | payload _ _ h => cases h
  | length _ _ _ _ _ => exact ⟨_, _, rfl⟩

/-- **The verdict on a record**, given all frames at hand.  The records that are accepted become
arrays of their type and shape, and no others become arrays.  Each of the others has the error of the
first check that it does not pass; among the errors of arrays, that of incomplete elements is the only
one. -/
theorem decode_verdict (frames : Frames) (r : Record) (store : Store) :
    ((∃ made, (decode frames.payloadReader r store).result = .ok made) ↔ frames.Accepts r) ∧
      (∀ a store', (decode frames.payloadReader r store).result = .ok (a, store') →
        a.dtype = r.dtype ∧ a.shape = r.shape) ∧
      (∀ error, (decode frames.payloadReader r store).result = .error error ↔
        frames.Refuses r error) ∧
      (∀ fault, (decode frames.payloadReader r store).result = .error (.array fault) →
        ∃ width actual, fault = .partialElement width actual) := by
  refine ⟨⟨fun ⟨made, hresult⟩ => .of_ok hresult, ?_⟩, ?_, fun error => ⟨.of_error, ?_⟩, ?_⟩
  · intro h
    obtain ⟨a, store', hok, -⟩ := h.decode_ok store
    exact ⟨_, hok⟩
  · intro a store' hresult
    obtain ⟨b, last, hok, hb⟩ := (Accepts.of_ok hresult).decode_ok store
    rw [hok] at hresult
    cases hresult
    exact hb
  · exact fun h => h.decode_error store
  · exact fun fault hresult => (Refuses.of_error hresult).partialElement

end Frames

end ArrayExchange
