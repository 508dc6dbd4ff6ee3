import ArrayExchange.Bytes.LittleEndian

/-!
# Text as bytes

`Text.bytes` is the UTF-8 form of a text, and `Text.ofBytes?` reads it back.  Reading refuses
whatever is not well-formed UTF-8.
-/

namespace ArrayExchange

namespace Text

/-- The UTF-8 bytes of a text. -/
def bytes (s : String) : Bytes := s.toByteArray.data.toList

/-- The text with the given UTF-8 bytes. -/
def ofBytes? (bytes : Bytes) : Option String := String.fromUTF8? ⟨bytes.toArray⟩

theorem ofBytes?_bytes (s : String) : ofBytes? (bytes s) = some s := by
  simp [ofBytes?, bytes, String.fromUTF8?, s.isValidUTF8, String.fromUTF8]

end Text

end ArrayExchange
