import ArrayExchange.Proofs.Record.Payloads
import ArrayExchange.Proofs.Session.Effects

/-!
# Records of the other byte order

A host of the other byte order sends the same record with every element of the payload turned around,
and stamps it with its own order.  Decoding gives the same array, or the same error, for both.

* `Frames.foreign` — a record and its frames as the host of the other order would send them.
* `Frames.readBytes_mirror` — the payload it sends yields the same bytes turned around, or fails with
  the same error.
* `decode_bigEndian` — an element of a big-endian record is the big-endian number of its bytes.
* `Session.run_decodes` — decoding does nothing to the frames that it reads from.
* `decode_host_independent` — all of this together.
-/

namespace ArrayExchange

/-! ### Byte orders -/

namespace ByteOrder

/-- The other byte order. -/
def opposite : ByteOrder → ByteOrder
  | littleEndian => bigEndian
  | bigEndian => littleEndian

/-- Elements that were turned around and are said to be of the other order are the same elements. -/
theorem toHost_opposite (order : ByteOrder) (width : Nat) (bytes : Bytes) :
    order.opposite.toHost width (bytes.reverseEach width) = order.toHost width bytes := by
  cases order with
  | littleEndian =>
      show (bytes.reverseEach width).reverseEach width = bytes
      exact Bytes.reverseEach_reverseEach width bytes
  | bigEndian => rfl

end ByteOrder

/-! ### Payloads -/

namespace Json

variable {payload : Json} {name other text : String} {request : Request}

/-- What a buffer payload asks for; `none` if it is malformed. -/
def request? (payload : Json) : Option Request :=
  match (payload.field? "type").bind text? with
  | some "bytes" => ((payload.field? "data").bind text?).map .inline
  | some "ref" => ((payload.field? "id").bind text?).map .frame
  | _ => none

/-- An object with another text in one of its fields. -/
def withText (name text : String) : Json → Json
  | .object fields =>
    .object (fields.map fun field => if field.1 = name then (name, .string text) else field)
  | payload => payload

theorem bind_text?_eq_some_iff :
    (payload.field? name).bind text? = some text ↔ payload.field? name = some (.string text) := by
  constructor
  · intro h
    obtain ⟨value, hvalue, htext⟩ := Option.bind_eq_some_iff.mp h
    unfold text? at htext
    split at htext
    · cases htext
      exact hvalue
    · cases htext
  · intro h
    rw [h]
    rfl

theorem request?_eq_some_iff : payload.request? = some request ↔ payload.Asks request := by
  constructor
  · intro h
    unfold request? at h
    split at h
    · next type =>
        obtain ⟨text, data, rfl⟩ := Option.map_eq_some_iff.mp h
        exact .inline (bind_text?_eq_some_iff.mp type) (bind_text?_eq_some_iff.mp data)
    · next type =>
        obtain ⟨id, reference, rfl⟩ := Option.map_eq_some_iff.mp h
        exact .frame (bind_text?_eq_some_iff.mp type) (bind_text?_eq_some_iff.mp reference)
    · cases h
  · intro h
    unfold request?
    cases h with
    | inline type data => rw [bind_text?_eq_some_iff.mpr type, bind_text?_eq_some_iff.mpr data]; rfl
    | frame type reference =>
        rw [bind_text?_eq_some_iff.mpr type, bind_text?_eq_some_iff.mpr reference]
        rfl

theorem Malformed.request?_eq_none {fault : PayloadFault} (h : payload.Malformed fault) :
    payload.request? = none := by
  cases hrequest : payload.request? with
  | none => rfl
  | some request =>
      exact absurd (request?_eq_some_iff.mp hrequest) h.not_asks

theorem field?_withText_self {value : Json} (h : payload.field? name = some value) :
    (payload.withText name text).field? name = some (.string text) := by
  obtain ⟨fields, rfl⟩ := object_of_field? h
  simp only [withText, field?] at h ⊢
  induction fields with
  | nil => cases h
  | cons field rest ih =>
      obtain ⟨key, found⟩ := field
      rw [List.map_cons]
      by_cases hkey : key = name
      · rw [if_pos hkey, List.lookup_cons_self]
      · have hne : (name == key) = false := beq_false_of_ne (Ne.symm hkey)
        rw [List.lookup_cons, hne] at h
        rw [if_neg hkey, List.lookup_cons, hne]
        exact ih h

theorem field?_withText_of_ne (h : other ≠ name) :
    (payload.withText name text).field? other = payload.field? other := by
  cases payload with
  | object fields =>
      simp only [withText, field?]
      induction fields with
      | nil => rfl
      | cons field rest ih =>
          obtain ⟨key, found⟩ := field
          rw [List.map_cons]
          by_cases hkey : key = name
          · have hne : (other == key) = false := beq_false_of_ne (hkey ▸ h)
            have hne' : (other == name) = false := beq_false_of_ne h
            rw [if_pos hkey, List.lookup_cons, List.lookup_cons, hne, hne', ih]
          · rw [if_neg hkey, List.lookup_cons, List.lookup_cons, ih]
  | _ => rfl

/-- With another text for its bytes, a payload asks for that text. -/
theorem Asks.withText {old : String} (h : payload.Asks (.inline old)) (text : String) :
    (payload.withText "data" text).Asks (.inline text) := by
  cases h with
  | inline type data =>
      refine .inline ?_ (field?_withText_self data)
      rw [field?_withText_of_ne (by decide), type]

end Json

namespace Frames

variable {frames : Frames} {payload : Json} {width : Nat} {id : String} {bytes : Bytes}
  {error : DecodeError}

/-- The frames with the bytes under an identifier turned around. -/
def turn (frames : Frames) (width : Nat) (id : String) : Frames :=
  frames.map fun frame => if frame.id = id then ⟨id, frame.bytes.reverseEach width⟩ else frame

theorem turn_of_missing (h : ∀ f ∈ frames, f.id ≠ id) : frames.turn width id = frames := by
  have hsame : frames.map (fun f => if f.id = id then ⟨id, f.bytes.reverseEach width⟩ else f) =
      frames.map fun f => f := by
    apply List.map_congr_left
    intro f hf
    exact if_neg (h f hf)
  rw [turn, hsame, List.map_id']

theorem Yields.turn (h : frames.Yields (.frame id) bytes) :
    (frames.turn width id).Yields (.frame id) (bytes.reverseEach width) := by
  cases h with
  | @frame before after _ _ found last =>
      have hafter : Frames.turn after width id = after := turn_of_missing last
      have hturned : frames.turn width id =
          Frames.turn before width id ++ ⟨id, bytes.reverseEach width⟩ :: after := by
        rw [← hafter, found]
        simp [Frames.turn]
      exact .frame hturned last

/-- The frames and the payload that a host of the other byte order would send: wherever the bytes are,
inline or in a frame, each complete element of theirs is turned around.  A payload that yields no
bytes is left as it is. -/
def mirror (frames : Frames) (width : Nat) (payload : Json) : Frames × Json :=
  match payload.request? with
  | some (.inline text) =>
    match Base64.decode (Text.bytes text) with
    | .ok bytes =>
      (frames, payload.withText "data" (String.ofList (Base64.encode (bytes.reverseEach width))))
    | .error _ => (frames, payload)
  | some (.frame id) => (frames.turn width id, payload)
  | none => (frames, payload)

theorem mirror_inline (frames : Frames) (width : Nat)
    (asks : payload.Asks (.inline (String.ofList (Base64.encode bytes)))) :
    frames.mirror width payload =
      (frames, payload.withText "data" (String.ofList (Base64.encode (bytes.reverseEach width)))) := by
  simp only [mirror, Json.request?_eq_some_iff.mpr asks, Base64.decode_encode]

theorem mirror_frame (frames : Frames) (width : Nat) (asks : payload.Asks (.frame id)) :
    frames.mirror width payload = (frames.turn width id, payload) := by
  simp only [mirror, Json.request?_eq_some_iff.mpr asks]

/-- A payload that yields no bytes is left as it is, and so are the frames. -/
theorem mirror_of_fails (width : Nat) (h : frames.Fails payload error) :
    frames.mirror width payload = (frames, payload) := by
  cases h with
  | form malformed => simp only [mirror, malformed.request?_eq_none]
  | base64 asks _ reason => simp only [mirror, Json.request?_eq_some_iff.mpr asks, reason]
  | frame asks missing => rw [mirror_frame frames width asks, turn_of_missing missing]

/-- **The mirrored payload yields the bytes turned around**, or fails with the same error. -/
theorem readBytes_mirror (frames : Frames) (width : Nat) (payload : Json) :
    (frames.mirror width payload).1.readBytes (frames.mirror width payload).2 =
      (frames.readBytes payload).map (Bytes.reverseEach width) := by
  rcases frames.yields_or_fails payload with ⟨request, bytes, asks, yields⟩ | ⟨error, fails⟩
  · rw [yields.readBytes asks]
    cases request with
    | inline text =>
        cases yields with
        | inline bytes =>
            rw [mirror_inline frames width asks]
            exact (Yields.inline _).readBytes (asks.withText _)
    | frame id =>
        rw [mirror_frame frames width asks]
        exact yields.turn.readBytes asks
  · rw [mirror_of_fails width fails, fails.readBytes]
    rfl

/-- A record and its frames as the host of the other byte order would send them. -/
def foreign (frames : Frames) (r : Record) : Frames × Record :=
  match r.dtype with
  | .numeric t =>
    let sent := frames.mirror t.width r.payload
    (sent.1, { r with payload := sent.2, order := r.order.opposite })
  | .object => (frames, { r with order := r.order.opposite })

end Frames

/-! ### Decoding -/

section Decoding

variable {frames : Frames} {r : Record} {t : ElementType}

/-- How the array looks that a decoding has made. -/
def decodedPicture (reader : PayloadReader) (r : Record) (store : Store) :
    Except DecodeError Picture :=
  (decode reader r store).result.map fun made => made.1.picture made.2

theorem decodedPicture_of_kind_ne (reader : PayloadReader) (h : r.kind ≠ Record.arrayKind)
    (store : Store) : decodedPicture reader r store = .error (.unexpectedKind r.kind) := by
  rw [decodedPicture, decode_of_kind_ne reader store h]
  rfl

theorem decodedPicture_numeric (reader : PayloadReader) (h : r.kind = Record.arrayKind)
    (e : r.dtype = .numeric t) (store : Store) :
    decodedPicture reader r store = (reader.readBytes r.payload).bind fun bytes =>
      if t.width ∣ bytes.length then .ok ⟨r.shape, .bytes t (r.order.toHost t.width bytes)⟩
      else .error (.array (.partialElement t.width bytes.length)) := by
  rw [decodedPicture, decode_numeric reader store h e]
  cases reader.readBytes r.payload with
  | error error => rfl
  | ok bytes =>
      by_cases hdvd : t.width ∣ bytes.length
      · simp only [Except.bind, if_pos hdvd, Except.map, NdArray.picture, store.bytes_alloc_next]
      · simp only [Except.bind, if_neg hdvd, Except.map]

theorem decodedPicture_object (reader : PayloadReader) (h : r.kind = Record.arrayKind)
    (e : r.dtype = .object) (store : Store) :
    decodedPicture reader r store =
      (reader.readValues r.payload).map fun items => ⟨r.shape, .values items⟩ := by
  rw [decodedPicture, decode_object reader store h e]
  cases reader.readValues r.payload <;> rfl

/-- The order of a record of JSON values does not matter. -/
theorem decodedPicture_order (reader : PayloadReader) (e : r.dtype = .object) (order : ByteOrder)
    (store store' : Store) :
    decodedPicture reader { r with order } store' = decodedPicture reader r store := by
  by_cases h : r.kind = Record.arrayKind
  · rw [decodedPicture_object reader h e]
    exact decodedPicture_object (r := { r with order }) reader h e store'
  · rw [decodedPicture_of_kind_ne reader h]
    exact decodedPicture_of_kind_ne (r := { r with order }) reader h store'

/-- **Both hosts' records give the same array**, or the same error. -/
theorem decodedPicture_foreign (frames : Frames) (r : Record) (store store' : Store) :
    decodedPicture (frames.foreign r).1.payloadReader (frames.foreign r).2 store' =
      decodedPicture frames.payloadReader r store := by
  cases e : r.dtype with
  | object =>
      have hforeign : frames.foreign r = (frames, { r with order := r.order.opposite }) := by
        simp only [Frames.foreign, e]
      rw [hforeign]
      exact decodedPicture_order _ e r.order.opposite store store'
  | numeric t =>
      have hforeign : frames.foreign r = ((frames.mirror t.width r.payload).1,
          { r with payload := (frames.mirror t.width r.payload).2, order := r.order.opposite }) := by
        simp only [Frames.foreign, e]
      have hread := frames.readBytes_mirror t.width r.payload
      rw [hforeign]
      by_cases h : r.kind = Record.arrayKind
      · rw [decodedPicture_numeric _ h e, decodedPicture_numeric _ (by exact h) (by exact e)]
        simp only [Frames.payloadReader, hread]
        cases frames.readBytes r.payload with
        | error error => rfl
        | ok bytes =>
            simp only [Except.map, Except.bind, Bytes.length_reverseEach,
              ByteOrder.toHost_opposite]
      · rw [decodedPicture_of_kind_ne _ h, decodedPicture_of_kind_ne _ (by exact h)]

/-- **An element of a big-endian record** is the big-endian number of its bytes. -/
theorem decode_bigEndian {request : Request} {bytes : Bytes} (kind : r.kind = Record.arrayKind)
    (dtype : r.dtype = .numeric t) (order : r.order = .bigEndian) (asks : r.payload.Asks request)
    (yields : frames.Yields request bytes) (h : t.width ∣ bytes.length) (store : Store) :
    ∃ a store' xs, (decode frames.payloadReader r store).result = .ok (a, store') ∧
      a.toList t store' = .ok xs ∧ xs.length = bytes.length / t.width ∧
      ∀ i < bytes.length / t.width,
        xs[i]? = some (t.ofCode (Bytes.toNatBig ((bytes.drop (i * t.width)).take t.width))) := by
  have hhost : r.order.toHost t.width bytes = bytes.reverseEach t.width := by rw [order]; rfl
  refine ⟨⟨r.shape, .numeric t store.next⟩, (store.alloc (bytes.reverseEach t.width)).2,
    t.decode (bytes.reverseEach t.width), ?_, ?_, ?_, ?_⟩
  · rw [decode_numeric _ store kind dtype]
    simp only [Frames.payloadReader, yields.readBytes asks, Except.bind, if_pos h, hhost]
  · simp only [NdArray.toList, NdArray.typedBlock, if_true, Except.map, store.bytes_alloc_next]
  · rw [ElementType.length_decode, Bytes.length_reverseEach]
  · intro i hi
    rw [ElementType.decode, Bytes.chunks_reverseEach, List.getElem?_map, List.getElem?_map,
      Bytes.getElem?_chunks hi, Option.map_some, Option.map_some, ElementType.read,
      Bytes.toNat_reverse]

end Decoding

/-! ### What decoding leaves alone -/

/-- A command that decodes a record. -/
def Command.decodes : Command → Bool
  | .decode _ _ _ => true
  | _ => false

namespace Session

variable {c : Command}

theorem tryDecoding_keeps {s s' : Session} {answer : Answer} {target : String}
    {made : Logged (Except DecodeError (NdArray × Store))}
    (h : (s.tryDecoding target made).result = .ok (answer, s')) :
    s'.readers = s.readers ∧ s'.frames = s.frames := by
  obtain ⟨array, -, e⟩ := tryDecoding_ok h
  cases e
  exact ⟨rfl, rfl⟩

/-- A decoding changes neither a reader nor frames that were set aside. -/
theorem step_decodes (s : Session) (h : c.decodes = true) :
    (s.step c).readers = s.readers ∧ (s.step c).frames = s.frames := by
  cases c with
  | decode record reader target =>
      rcases s.step_cases (.decode record reader target) with ⟨_, _, e⟩ | ⟨answer, hok, _⟩
      · rw [e]
        exact ⟨rfl, rfl⟩
      · cases reader with
        | none =>
            obtain ⟨r, -, hok⟩ := having_ok hok
            exact tryDecoding_keeps hok
        | some reader =>
            obtain ⟨r, -, hok⟩ := having_ok hok
            obtain ⟨frames, -, hok⟩ := having_ok hok
            exact tryDecoding_keeps hok
  | _ => cases h

/-- **Decodings change no frames**, however many there are. -/
theorem run_decodes (s : Session) (commands : List Command) (h : ∀ c ∈ commands, c.decodes = true) :
    (s.run commands).readers = s.readers ∧ (s.run commands).frames = s.frames := by
  induction commands generalizing s with
  | nil => exact ⟨rfl, rfl⟩
  | cons c rest ih =>
      obtain ⟨hreaders, hframes⟩ := s.step_decodes (h c List.mem_cons_self)
      obtain ⟨hreaders', hframes'⟩ := ih (s.step c) fun d hd => h d (List.mem_cons_of_mem _ hd)
      exact ⟨hreaders'.trans hreaders, hframes'.trans hframes⟩

end Session

/-! ### All together -/

/-- **The byte order of the host that sends does not matter.**  The records of two hosts of different
order decode to arrays that look alike, or fail alike.  An element of a big-endian record is the
big-endian number of its bytes.  The order of a record of JSON values does not count, and decoding
changes no frames. -/
theorem decode_host_independent (frames : Frames) (r : Record) :
    (∀ store store', decodedPicture (frames.foreign r).1.payloadReader (frames.foreign r).2 store' =
        decodedPicture frames.payloadReader r store) ∧
      (∀ t request bytes store, r.kind = Record.arrayKind → r.dtype = .numeric t →
        r.order = .bigEndian → r.payload.Asks request → frames.Yields request bytes →
        if t.width ∣ bytes.length then
          ∃ a store' xs, (decode frames.payloadReader r store).result = .ok (a, store') ∧
            a.toList t store' = .ok xs ∧ xs.length = bytes.length / t.width ∧
            ∀ i < bytes.length / t.width,
              xs[i]? = some (t.ofCode (Bytes.toNatBig ((bytes.drop (i * t.width)).take t.width)))
        else (decode frames.payloadReader r store).result =
          .error (.array (.partialElement t.width bytes.length))) ∧
      (r.dtype = .object → ∀ reader order store store',
        decodedPicture reader { r with order } store' = decodedPicture reader r store) ∧
      ∀ (s : Session) (commands : List Command), (∀ c ∈ commands, c.decodes = true) →
        (s.run commands).readers = s.readers ∧ (s.run commands).frames = s.frames := by
  refine ⟨decodedPicture_foreign frames r, ?_, ?_, Session.run_decodes⟩
  · intro t request bytes store kind dtype order asks yields
    by_cases hdvd : t.width ∣ bytes.length
    · rw [if_pos hdvd]
      exact decode_bigEndian kind dtype order asks yields hdvd store
    · rw [if_neg hdvd]
      exact (Frames.Refuses.length kind dtype asks yields hdvd).decode_error store
  · intro e reader order store store'
    exact decodedPicture_order reader e order store store'

/-- Bytes `0`, `1`, `2`, `3` from a big-endian host are the 16-bit numbers `1` and `515`. -/
theorem decode_host_independent_words :
    let payload := Json.object [("data", .string "AAECAw=="), ("type", .string "bytes")]
    let r : Record := ⟨Record.arrayKind, payload, .bigEndian, .numeric (.integer .uint16), [2]⟩
    ∃ a store' xs, (decode (Frames.payloadReader []) r .empty).result = .ok (a, store') ∧
      a.toList (.integer .uint16) store' = .ok xs ∧ xs.length = 2 ∧
      xs[0]? = some (⟨1, by decide⟩ : IntegerType.uint16.Value) ∧
      xs[1]? = some (⟨515, by decide⟩ : IntegerType.uint16.Value) := by
  intro payload r
  obtain ⟨-, elements, -, -⟩ := decode_host_independent [] r
  have text : "AAECAw==" = String.ofList (Base64.encode [0, 1, 2, 3]) := by decide
  have asks : r.payload.Asks (.inline (String.ofList (Base64.encode [0, 1, 2, 3]))) :=
    .inline rfl (by rw [← text]; rfl)
  obtain ⟨a, store', xs, made, read, length, each⟩ :=
    elements (.integer .uint16) _ [0, 1, 2, 3] .empty rfl rfl rfl asks (.inline _)
  exact ⟨a, store', xs, made, read, length, each 0 (by decide), each 1 (by decide)⟩

end ArrayExchange
