import ArrayExchange.Proofs.Memory.Placement
import ArrayExchange.Proofs.Record.Verdict

/-!
# Payloads that can be read

A writer numbers its frames: the identifier of a frame is the number of frames before it.  Frames are
only ever added behind the others, so a payload that refers to a frame goes on to refer to the same
frame, and a reader that has the frames at hand finds it.

* `Frames.Numbered` — every frame has its position for an identifier.
* `Picture` — an array as it looks at one time: its shape, its type and its bytes or values.
* `Frames.Holds` — a payload that spells the elements of a picture, given the frames.
* `JsonWriter.write_holds`, `Frames.Holds.append` — what a writer has written is held by its frames,
  now and later.
* `Frames.Shows` and `Frames.Shows.decode_of_shows` — a record that shows a picture decodes to an
  array that looks like it, in new memory.
* `Frames.decodeAll_of_shows` — so do any number of them.
-/

namespace ArrayExchange

/-! ### Identifiers -/

/-- Numbers are told apart by their digits. -/
theorem repr_injective {m n : Nat} (h : m.repr = n.repr) : m = n := by
  have hdigits : Nat.toDigits 10 m = Nat.toDigits 10 n := by
    rw [← Nat.toList_repr, ← Nat.toList_repr, h]
  rw [← Nat.ofDigitChars_ten_toDigits (n := m), hdigits, Nat.ofDigitChars_ten_toDigits]

namespace Frames

variable {frames : Frames}

/-- Every frame has its position for an identifier. -/
def Numbered (frames : Frames) : Prop :=
  ∀ (k : Nat) (frame : Frame), frames[k]? = some frame → frame.id = k.repr

theorem numbered_nil : Numbered [] := by
  intro k frame h
  simp at h

/-- The next frame gets the next number. -/
theorem Numbered.concat (h : frames.Numbered) (bytes : Bytes) :
    Numbered (frames ++ [⟨frames.length.repr, bytes⟩]) := by
  intro k frame hk
  rw [List.getElem?_append] at hk
  split at hk
  · exact h k frame hk
  · next hlen =>
      obtain ⟨hlt, rfl⟩ := List.getElem?_eq_some_iff.mp hk
      have hzero : k - frames.length = 0 := by simpa using hlt
      have e : k = frames.length := by omega
      subst e
      simp

/-- **Identifiers are pairwise distinct.** -/
theorem Numbered.nodup (h : frames.Numbered) : (frames.map Frame.id).Nodup := by
  rw [List.nodup_iff_pairwise_ne, List.pairwise_iff_getElem]
  intro i j hi hj hlt e
  rw [List.length_map] at hi hj
  simp only [List.getElem_map] at e
  rw [h i _ (List.getElem?_eq_getElem hi), h j _ (List.getElem?_eq_getElem hj)] at e
  exact Nat.ne_of_lt hlt (repr_injective e)

/-- The frame at a position is found under its number. -/
theorem Numbered.bytes? (h : frames.Numbered) {k : Nat} {frame : Frame}
    (hk : frames[k]? = some frame) : frames.bytes? k.repr = some frame.bytes := by
  have hmem : frame ∈ frames.reverse := List.mem_reverse.mpr (List.mem_of_getElem? hk)
  have hid : frame.id = k.repr := h k frame hk
  obtain ⟨found, hfound⟩ := Option.isSome_iff_exists.mp
    (List.find?_isSome.mpr ⟨frame, hmem, decide_eq_true hid⟩ :
      (frames.reverse.find? (fun f => decide (f.id = k.repr))).isSome)
  -- the frame that is found has the same number, so it is at the same position
  have hfid : found.id = k.repr := of_decide_eq_true (List.find?_some hfound :)
  obtain ⟨j, hj⟩ := List.mem_iff_getElem?.mp
    (List.mem_reverse.mp (List.mem_of_find?_eq_some hfound))
  have hjk : j = k := repr_injective ((h j found hj).symm.trans hfid)
  rw [hjk, hk] at hj
  cases hj
  rw [Frames.bytes?, hfound]
  rfl

end Frames

/-! ### Pictures -/

/-- The elements of an array as they are at one time. -/
inductive Picture.Elements where
  | bytes (type : ElementType) (bytes : Bytes)
  | values (items : List Json)

/-- An array as it looks at one time. -/
structure Picture where
  shape : Shape
  elements : Picture.Elements

/-- The type of the elements. -/
def Picture.dtype (p : Picture) : DType :=
  match p.elements with
  | .bytes type _ => .numeric type
  | .values _ => .object

/-- How an array looks. -/
def NdArray.picture (store : Store) (a : NdArray) : Picture where
  shape := a.shape
  elements :=
    match a.contents with
    | .numeric type block => .bytes type (store.bytes block)
    | .object values => .values values

theorem NdArray.picture_dtype (store : Store) (a : NdArray) : (a.picture store).dtype = a.dtype := by
  unfold Picture.dtype picture dtype
  cases a.contents <;> rfl

/-! ### Payloads -/

namespace Frames

variable {frames : Frames}

/-- A payload that spells the given elements, with the frames at hand. -/
inductive Holds (frames : Frames) : Json → Picture.Elements → Prop
  | inline (type : ElementType) (bytes : Bytes) :
      Holds frames (inlinePayload bytes) (.bytes type bytes)
  | frame (type : ElementType) {k : Nat} {bytes : Bytes}
      (h : frames[k]? = some ⟨k.repr, bytes⟩) :
      Holds frames (framePayload k.repr) (.bytes type bytes)
  | values (items : List Json) : Holds frames (.array items) (.values items)

/-- More frames hold no less. -/
theorem Holds.append {payload : Json} {elements : Picture.Elements}
    (h : frames.Holds payload elements) (more : Frames) :
    Holds (frames ++ more) payload elements := by
  cases h with
  | inline type bytes => exact .inline type bytes
  | @frame type k bytes h =>
      refine .frame type ?_
      obtain ⟨hlt, -⟩ := List.getElem?_eq_some_iff.mp h
      rw [List.getElem?_append_left hlt, h]
  | values items => exact .values items

theorem readBytes_inlinePayload (frames : Frames) (bytes : Bytes) :
    frames.readBytes (inlinePayload bytes) = .ok bytes := by
  show readBase64 (String.ofList (Base64.encode bytes)) = .ok bytes
  rw [readBase64, Base64.decode_encode]
  rfl

theorem readBytes_framePayload (frames : Frames) (id : String) :
    frames.readBytes (framePayload id) = frames.resolve id := rfl

/-- Bytes are read as they were written. -/
theorem Holds.readBytes (h : frames.Numbered) {payload : Json} {type : ElementType} {bytes : Bytes}
    (hp : frames.Holds payload (.bytes type bytes)) : frames.readBytes payload = .ok bytes := by
  cases hp with
  | inline => exact frames.readBytes_inlinePayload bytes
  | frame _ hk => rw [readBytes_framePayload, resolve, h.bytes? hk]

/-- Values are read as they were written. -/
theorem Holds.readSequence {payload : Json} {items : List Json}
    (hp : frames.Holds payload (.values items)) : readSequence payload = .ok items := by
  cases hp
  rfl

end Frames

namespace JsonWriter

variable {w : JsonWriter} {store : Store}

/-- Writing adds frames behind the others. -/
theorem write_frames (w : JsonWriter) (store : Store) (elements : Elements) :
    ∃ more, (w.write store elements).2.frames = w.frames ++ more := by
  unfold write
  cases elements with
  | sequence values => exact ⟨[], (List.append_nil _).symm⟩
  | buffer block =>
      dsimp only
      split
      · exact ⟨_, rfl⟩
      · exact ⟨[], (List.append_nil _).symm⟩

theorem write_numbered (h : Frames.Numbered w.frames) (elements : Elements) :
    Frames.Numbered (w.write store elements).2.frames := by
  unfold write
  cases elements with
  | sequence values => exact h
  | buffer block =>
      dsimp only
      split
      · exact h.concat (store.bytes block)
      · exact h

/-- **What a writer has written is held by its frames.** -/
theorem write_holds (w : JsonWriter) (store : Store) (a : NdArray) :
    Frames.Holds (w.write store a.elements).2.frames (w.write store a.elements).1
      (a.picture store).elements := by
  unfold NdArray.elements NdArray.picture
  cases a.contents with
  | object values => exact .values values
  | numeric type block =>
      simp only [write]
      split
      · refine .frame type (k := w.frames.length) ?_
        rw [List.getElem?_append_right (Nat.le_refl _), Nat.sub_self]
        rfl
      · exact .inline type _

end JsonWriter

/-! ### Records -/

namespace Frames

variable {frames : Frames} {r : Record} {p : Picture}

/-- A record of an array that looks as in a picture, with the frames at hand.  The bytes are those of
complete elements. -/
structure Shows (frames : Frames) (r : Record) (p : Picture) : Prop where
  kind : r.kind = Record.arrayKind
  order : r.order = ByteOrder.host
  dtype : r.dtype = p.dtype
  shape : r.shape = p.shape
  payload : frames.Holds r.payload p.elements
  whole : ∀ type bytes, p.elements = .bytes type bytes → type.width ∣ bytes.length

/-- More frames show no less. -/
theorem Shows.append (h : frames.Shows r p) (more : Frames) : Shows (frames ++ more) r p :=
  { h with payload := h.payload.append more }

/-- The record that a writer makes of an array shows how the array looks. -/
theorem shows_encode (w : JsonWriter) {store : Store} {a : NdArray} (h : a.Whole store) :
    Shows (w.encode store a).result.2.frames (w.encode store a).result.1 (a.picture store) where
  kind := rfl
  order := rfl
  dtype := (a.picture_dtype store).symm
  shape := rfl
  payload := w.write_holds store a
  whole type bytes e := by
    unfold NdArray.picture at e
    cases hc : a.contents with
    | object values => simp only [hc] at e; cases e
    | numeric t block =>
        simp only [hc] at e
        cases e
        exact h.dvd hc

/-! ### Decoding -/

theorem Shows.decode_bytes (h : frames.Shows r p) (numbered : frames.Numbered) {type : ElementType}
    {bytes : Bytes} (e : p.elements = .bytes type bytes) (store : Store) :
    (decode frames.payloadReader r store).result =
      .ok (⟨p.shape, .numeric type store.next⟩, (store.alloc bytes).2) := by
  have hdtype : r.dtype = .numeric type := by rw [h.dtype, Picture.dtype, e]
  have hpayload : frames.payloadReader.readBytes r.payload = .ok bytes :=
    Holds.readBytes numbered (e ▸ h.payload)
  have horder : r.order.toHost type.width bytes = bytes := by
    rw [ByteOrder.toHost, if_pos h.order]
  rw [decode_numeric _ store h.kind hdtype, hpayload, h.shape]
  simp only [Except.bind, if_pos (h.whole type bytes e), horder]

theorem Shows.decode_values (h : frames.Shows r p) {items : List Json} (e : p.elements = .values items)
    (store : Store) :
    (decode frames.payloadReader r store).result = .ok (⟨p.shape, .object items⟩, store) := by
  have hdtype : r.dtype = .object := by rw [h.dtype, Picture.dtype, e]
  have hholds : frames.Holds r.payload (.values items) := e ▸ h.payload
  have hpayload : frames.payloadReader.readValues r.payload = .ok items := hholds.readSequence
  rw [decode_object _ store h.kind hdtype, hpayload, h.shape]
  rfl

/-- **A record that shows a picture decodes** to an array that looks like it.  Existing memory is left
alone, and that of the array is new. -/
theorem Shows.decode_of_shows (h : frames.Shows r p) (numbered : frames.Numbered) (store : Store) :
    ∃ a store', (decode frames.payloadReader r store).result = .ok (a, store') ∧
      a.picture store' = p ∧ store.Extends store' ∧
      ∀ b, a.block? = some b → ¬ store.Has b ∧ store'.Has b := by
  obtain ⟨shape, elements⟩ := p
  cases elements with
  | bytes type bytes =>
      refine ⟨_, _, h.decode_bytes numbered rfl store, ?_, store.extends_alloc bytes, ?_⟩
      · show Picture.mk shape (.bytes type ((store.alloc bytes).2.bytes store.next)) = _
        rw [store.bytes_alloc_next]
      · intro b hb
        cases hb
        exact ⟨store.not_has_next, store.has_alloc_next bytes⟩
  | values items =>
      refine ⟨_, _, h.decode_values rfl store, rfl, .refl store, ?_⟩
      intro b hb
      cases hb

end Frames

/-! ### Decoding many records -/

/-- Decodes records one after the other. -/
def decodeAll (reader : PayloadReader) : List Record → Store → Except DecodeError (List NdArray × Store)
  | [], store => .ok ([], store)
  | r :: rest, store => do
    let (a, store) ← (decode reader r store).result
    let (others, store) ← decodeAll reader rest store
    return (a :: others, store)

/-- A record, and how its array looked when the record was made. -/
structure Issue where
  record : Record
  picture : Picture

/-- An array goes on to look as it does, as long as its memory is left alone. -/
theorem NdArray.picture_extends {a : NdArray} {store store' : Store} (h : store.Extends store')
    (hb : ∀ b, a.block? = some b → store.Has b) : a.picture store' = a.picture store := by
  unfold picture
  cases e : a.contents with
  | object values => rfl
  | numeric type block =>
      have hblock : a.block? = some block := by rw [block?, e]
      simp only [h.bytes block (hb block hblock)]

/-- **Records decode in any order and any number of times.**  Every array looks as its picture, and
has memory that is shared neither with what was there before nor with the other arrays. -/
theorem Frames.decodeAll_of_shows {frames : Frames} (numbered : frames.Numbered)
    (picks : List Issue) (h : ∀ i ∈ picks, frames.Shows i.record i.picture) (store : Store) :
    ∃ arrays store', decodeAll frames.payloadReader (picks.map Issue.record) store =
        .ok (arrays, store') ∧
      arrays.map (NdArray.picture store') = picks.map Issue.picture ∧ store.Extends store' ∧
      (arrays.filterMap NdArray.block?).Nodup ∧
      ∀ b ∈ arrays.filterMap NdArray.block?, ¬ store.Has b ∧ store'.Has b := by
  induction picks generalizing store with
  | nil => exact ⟨[], store, rfl, rfl, .refl store, List.nodup_nil, by simp⟩
  | cons i rest ih =>
      obtain ⟨a, middle, hdecode, hpicture, hext, hnew⟩ :=
        (h i List.mem_cons_self).decode_of_shows numbered store
      obtain ⟨arrays, last, hrest, hpictures, hext', hnodup, hnews⟩ :=
        ih (fun j hj => h j (List.mem_cons_of_mem _ hj)) middle
      refine ⟨a :: arrays, last, ?_, ?_, hext.trans hext', ?_, ?_⟩
      · simp only [List.map_cons, decodeAll, hdecode, hrest, bind, Except.bind]
        rfl
      · rw [List.map_cons, List.map_cons, hpictures,
          NdArray.picture_extends hext' fun b hb => (hnew b hb).2, hpicture]
      · cases hblock : a.block? with
        | none => rwa [List.filterMap_cons_none hblock]
        | some b =>
            rw [List.filterMap_cons_some hblock, List.nodup_cons]
            -- the blocks of the later arrays were not there when this one was made
            exact ⟨fun hb => (hnews b hb).1 (hnew b hblock).2, hnodup⟩
      · intro b hb
        obtain ⟨x, hx, hxb⟩ := List.mem_filterMap.mp hb
        rcases List.mem_cons.mp hx with rfl | hx
        · obtain ⟨hfree, hhas⟩ := hnew b hxb
          exact ⟨hfree, hext'.has b hhas⟩
        · obtain ⟨hfree, hhas⟩ := hnews b (List.mem_filterMap.mpr ⟨x, hx, hxb⟩)
          exact ⟨fun hb => hfree (hext.has b hb), hhas⟩

end ArrayExchange
