import ArrayExchange.Proofs.Bytes.Base64Format
import ArrayExchange.Proofs.Record.Verdict

/-!
# Inline payloads

A writer that keeps bytes inline puts the base64 text of a buffer into the payload.  Reading such a
payload is its inverse in both directions: it gives back the bytes of the buffer, and a payload with any
text that no buffer has is refused.

* `inlineText` — the payload with a given text.
* `Frames.readBytes_inlineText`, `JsonWriter.write_inline` — reading and writing, by the format.
* `inline_payloads_bijective` — both together.
-/

namespace ArrayExchange

/-- The payload with a given text in the place of the base64 text of bytes. -/
def inlineText (text : String) : Json := .object [("data", .string text), ("type", .string "bytes")]

/-- The text of an inline payload, and nothing else, tells it from others. -/
theorem inlineText_eq_inlinePayload {text : String} {bytes : Bytes} :
    inlinePayload bytes = inlineText text ↔ text = String.ofList (Base64.encode bytes) := by
  constructor
  · intro h
    injection h with fields
    injection fields with field
    injection field with _ data
    injection data with same
    exact same.symm
  · rintro rfl
    rfl

/-- A writer that keeps bytes inline writes those of the buffer. -/
theorem JsonWriter.write_inline {w : JsonWriter} (inline : w.options.binary = false) (store : Store)
    (block : BlockId) : w.write store (.buffer block) = (inlinePayload (store.bytes block), w) := by
  unfold write
  rw [inline]
  rfl

namespace Frames

variable {text : String} {bytes : Bytes}

theorem asks_inlineText (text : String) : (inlineText text).Asks (.inline text) := .inline rfl rfl

/-- A payload is read as the bytes that its text spells. -/
theorem readBytes_inlineText (frames : Frames) (text : String) :
    frames.readBytes (inlineText text) = readBase64 text :=
  frames.readBytes_inline (asks_inlineText text)

/-- A text that is not read is not base64. -/
theorem readBase64_fails (h : ∀ bytes, readBase64 text ≠ .ok bytes) :
    ∃ reason, readBase64 text = .error (.base64 reason) := by
  unfold readBase64 at h ⊢
  cases hdecode : Base64.decode (Text.bytes text) with
  | ok bytes =>
      rw [hdecode] at h
      exact absurd rfl (h bytes)
  | error reason => exact ⟨reason, rfl⟩

end Frames

/-- **Inline payloads and byte strings correspond to each other.**  A payload with the text `text` is
read as the bytes `bytes` just when a writer that keeps bytes inline writes this payload for a buffer
that holds them, and just when the text spells them in the base64 format.  Each byte string has exactly
one such text.  A payload that is not written for any buffer is refused, because its text is not
base64. -/
theorem inline_payloads_bijective (frames : Frames) (w : JsonWriter)
    (inline : w.options.binary = false) (text : String) (bytes : Bytes) :
    (∀ store block, store.bytes block = bytes →
      (frames.readBytes (inlineText text) = .ok bytes ↔
        w.write store (.buffer block) = (inlineText text, w))) ∧
    (frames.readBytes (inlineText text) = .ok bytes ↔
      ∃ sextets padding, Base64.Spells text.toList sextets padding bytes) ∧
    (∃! text, frames.readBytes (inlineText text) = .ok bytes) ∧
    ((∀ store block, w.write store (.buffer block) ≠ (inlineText text, w)) →
      ∃ reason, frames.readBytes (inlineText text) = .error (.base64 reason)) := by
  have reads (text : String) (bytes : Bytes) : frames.readBytes (inlineText text) = .ok bytes ↔
      text = String.ofList (Base64.encode bytes) := by
    rw [frames.readBytes_inlineText, Frames.readBase64_eq_ok_iff]
  have writes (store : Store) (block : BlockId) :
      w.write store (.buffer block) = (inlineText text, w) ↔
        text = String.ofList (Base64.encode (store.bytes block)) := by
    rw [w.write_inline inline, Prod.mk.injEq, inlineText_eq_inlinePayload]
    exact and_iff_left rfl
  refine ⟨?_, ?_, ⟨_, (reads _ bytes).mpr rfl, fun _ h => (reads _ bytes).mp h⟩, ?_⟩
  · rintro store block rfl
    rw [reads, writes]
  · rw [reads, Base64.spells_iff, ← String.toList_inj, String.toList_ofList]
  · intro unwritten
    rw [frames.readBytes_inlineText]
    apply Frames.readBase64_fails
    intro found read
    rw [Frames.readBase64_eq_ok_iff] at read
    apply unwritten (Store.empty.alloc found).2 Store.empty.next
    rw [writes, Store.bytes_alloc_next, read]

/-- The text of four bytes, and the same text without its padding. -/
theorem inline_payloads_bijective_four :
    let frames : Frames := []
    let w : JsonWriter := {}
    w.write (Store.empty.alloc [0, 1, 2, 255]).2 (.buffer ⟨0⟩) = (inlineText "AAEC/w==", w) ∧
      frames.readBytes (inlineText "AAEC/w==") = .ok [0, 1, 2, 255] ∧
      ∃ reason, frames.readBytes (inlineText "AAEC/w") = .error (.base64 reason) := by
  intro frames w
  have spelled : Base64.Spells "AAEC/w==".toList [0, 0, 4, 2, 63, 48] 2 [0, 1, 2, 255] :=
    ⟨by decide +kernel, by decide, by decide, rfl, by decide⟩
  obtain ⟨written, format, -, -⟩ :=
    inline_payloads_bijective frames w rfl "AAEC/w==" [0, 1, 2, 255]
  have read := format.mpr ⟨_, _, spelled⟩
  refine ⟨(written _ _ rfl).mp read, read, ?_⟩
  obtain ⟨-, -, -, refused⟩ := inline_payloads_bijective frames w rfl "AAEC/w" []
  apply refused
  intro store block h
  rw [w.write_inline rfl, Prod.mk.injEq, inlineText_eq_inlinePayload] at h
  -- texts have groups of four letters
  have hlength : "AAEC/w".toList.length = (Base64.encode (store.bytes block)).length := by
    rw [h.1, String.toList_ofList]
  have hsix : "AAEC/w".toList.length = 6 := by decide +kernel
  rw [Base64.length_encode, hsix] at hlength
  omega

end ArrayExchange
