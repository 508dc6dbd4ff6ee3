import ArrayExchange.Bytes.Base64
import ArrayExchange.Text.Utf8

/-!
# Base64 there and back

The base64 text of a byte string is made of symbols in groups of four, and reading it gives the byte
string back.  The groups are read with their offsets, which only errors show; the induction runs over
the groups of three bytes and is for all offsets at once.

* `Text.bytes_ofList` — in the UTF-8 form of an ASCII text every character is a byte.
* `Base64.decodeFrom_text` — every group is read back.
* `Base64.decode_encode` — so is every byte string.
-/

namespace ArrayExchange

/-! ### ASCII text -/

/-- The byte of an ASCII character. -/
def Text.byte (c : Char) : UInt8 := UInt8.ofNat c.toNat

theorem Text.utf8EncodeChar_ascii {c : Char} (h : c.toNat < 128) :
    String.utf8EncodeChar c = [byte c] := by
  have hle : c.val.toNat ≤ 127 := Nat.le_of_lt_succ h
  simp only [String.utf8EncodeChar, if_pos hle]
  rfl

/-- In the UTF-8 form of an ASCII text every character is a byte. -/
theorem Text.bytes_ofList {cs : List Char} (h : ∀ c ∈ cs, c.toNat < 128) :
    bytes (String.ofList cs) = cs.map byte := by
  have hflat : cs.flatMap String.utf8EncodeChar = cs.map byte := by
    induction cs with
    | nil => rfl
    | cons c cs ih =>
        rw [List.flatMap_cons, utf8EncodeChar_ascii (h c List.mem_cons_self),
          ih fun d hd => h d (List.mem_cons_of_mem _ hd)]
        rfl
  show (String.ofList cs).toByteArray.data.toList = _
  rw [String.toByteArray_ofList, ← hflat, List.utf8Encode, List.data_toByteArray]

namespace Base64

/-! ### Symbols -/

/-- Every symbol is an ASCII character, is read as the six bits it was written for, and is not the
padding. -/
theorem symbol_facts : ∀ v : Fin 64, (symbol v.val).toNat < 128 ∧
    value? (Text.byte (symbol v.val)) = some v.val ∧ Text.byte (symbol v.val) ≠ pad := by
  decide

theorem symbol_ascii {v : Nat} (h : v < 64) : (symbol v).toNat < 128 := (symbol_facts ⟨v, h⟩).1

theorem value?_symbol {v : Nat} (h : v < 64) : value? (Text.byte (symbol v)) = some v :=
  (symbol_facts ⟨v, h⟩).2.1

theorem symbol_ne_pad {v : Nat} (h : v < 64) : Text.byte (symbol v) ≠ pad :=
  (symbol_facts ⟨v, h⟩).2.2

theorem valueAt_symbol (offset : Nat) {v : Nat} (h : v < 64) :
    valueAt offset (Text.byte (symbol v)) = .ok v := by
  rw [valueAt, value?_symbol h]

theorem valuesFrom_symbols (offset : Nat) {vs : List Nat} (h : ∀ v ∈ vs, v < 64) :
    valuesFrom offset (vs.map fun v => Text.byte (symbol v)) = .ok vs := by
  induction vs generalizing offset with
  | nil => rfl
  | cons v vs ih =>
      rw [List.map_cons, valuesFrom, valueAt_symbol offset (h v List.mem_cons_self),
        ih (offset + 1) fun w hw => h w (List.mem_cons_of_mem _ hw)]
      rfl

/-! ### The text -/

/-- The bytes of the text of a byte string. -/
def text (bytes : Bytes) : Bytes := (encode bytes).map Text.byte

theorem encode_ascii (bytes : Bytes) : ∀ c ∈ encode bytes, c.toNat < 128 := by
  fun_induction encode bytes with
  | case1 a b c rest ih =>
      have := a.toNat_lt
      have := b.toNat_lt
      have := c.toNat_lt
      intro d hd
      simp only [List.mem_cons] at hd
      rcases hd with rfl | rfl | rfl | rfl | hd
      · exact symbol_ascii (by omega)
      · exact symbol_ascii (by omega)
      · exact symbol_ascii (by omega)
      · exact symbol_ascii (by omega)
      · exact ih d hd
  | case2 a b =>
      have := a.toNat_lt
      have := b.toNat_lt
      intro d hd
      simp only [List.mem_cons, List.not_mem_nil, or_false] at hd
      rcases hd with rfl | rfl | rfl | rfl
      · exact symbol_ascii (by omega)
      · exact symbol_ascii (by omega)
      · exact symbol_ascii (by omega)
      · decide
  | case3 a =>
      have := a.toNat_lt
      intro d hd
      simp only [List.mem_cons, List.not_mem_nil, or_false] at hd
      rcases hd with rfl | rfl | rfl | rfl
      · exact symbol_ascii (by omega)
      · exact symbol_ascii (by omega)
      · decide
      · decide
  | case4 => simp

/-- The text consists of groups of four. -/
theorem length_encode (bytes : Bytes) : (encode bytes).length = (bytes.length + 2) / 3 * 4 := by
  fun_induction encode bytes with
  | case1 a b c rest ih =>
      simp only [List.length_cons, ih]
      omega
  | case2 a b => simp
  | case3 a => simp
  | case4 => simp

/-! ### Groups -/

/-- Four symbols give back three bytes. -/
theorem groupBytes_of_bytes (a b c : UInt8) :
    groupBytes (a.toNat / 4) (a.toNat % 4 * 16 + b.toNat / 16) (b.toNat % 16 * 4 + c.toNat / 64)
      (c.toNat % 64) = [a, b, c] := by
  have ha := a.toNat_lt
  have hb := b.toNat_lt
  have hc := c.toNat_lt
  have first : a.toNat / 4 * 4 + (a.toNat % 4 * 16 + b.toNat / 16) / 16 = a.toNat := by omega
  have second : (a.toNat % 4 * 16 + b.toNat / 16) % 16 * 16 + (b.toNat % 16 * 4 + c.toNat / 64) / 4 =
      b.toNat := by omega
  have third : (b.toNat % 16 * 4 + c.toNat / 64) % 4 * 64 + c.toNat % 64 = c.toNat := by omega
  rw [groupBytes, first, second, third]
  simp only [UInt8.ofNat_toNat]

/-- A last group of symbols, filled up by padding, is read through the values of the symbols. -/
theorem decodeLast_symbols (offset : Nat) (vs : List Nat) (h : ∀ v ∈ vs, v < 64)
    (hlow : 2 ≤ vs.length) (hhigh : vs.length ≤ 4) :
    ∃ last, decodeLast offset
        (vs.map (fun v => Text.byte (symbol v)) ++ List.replicate (4 - vs.length) pad) =
      lastBytes last (offset + vs.length - 1) vs := by
  have hsymbols : ∀ x ∈ vs.map (fun v => Text.byte (symbol v)), (decide (x ≠ pad)) = true := by
    intro x hx
    obtain ⟨v, hv, rfl⟩ := List.mem_map.mp hx
    exact decide_eq_true (symbol_ne_pad (h v hv))
  have htake : (List.replicate (4 - vs.length) pad).takeWhile (· ≠ pad) = [] := by simp
  have hdrop : (List.replicate (4 - vs.length) pad).dropWhile (· ≠ pad) =
      List.replicate (4 - vs.length) pad := by simp
  refine ⟨(vs.map fun v => Text.byte (symbol v)).getLastD pad, ?_⟩
  unfold decodeLast
  rw [List.takeWhile_append_of_pos hsymbols, List.dropWhile_append_of_pos hsymbols, htake, hdrop,
    List.append_nil]
  dsimp only
  rw [valuesFrom_symbols offset h]
  have hne : vs.map (fun v => Text.byte (symbol v)) ++ List.replicate (4 - vs.length) pad ≠ [] := by
    intro e
    rw [List.map_eq_nil_iff.mp (List.append_eq_nil_iff.mp e).1] at hlow
    exact absurd hlow (by decide)
  simp only [bind, Except.bind]
  rw [if_neg, if_neg hne, if_neg, if_neg]
  · rw [List.length_map]
  · rw [List.length_map, List.length_replicate]
    omega
  · rw [List.length_map]
    omega
  · rw [List.length_map]
    rintro ⟨-, h2 | hall⟩
    · omega
    · exact hall (by simp)

/-- A group of four symbols is read as three bytes, whether or not more groups follow. -/
theorem decodeFrom_group (offset : Nat) {x y z w : Nat} (hx : x < 64) (hy : y < 64) (hz : z < 64)
    (hw : w < 64) {tail bytes : Bytes} (h : decodeFrom (offset + 4) tail = .ok bytes) :
    decodeFrom offset (Text.byte (symbol x) :: Text.byte (symbol y) :: Text.byte (symbol z) ::
      Text.byte (symbol w) :: tail) = .ok (groupBytes x y z w ++ bytes) := by
  cases tail with
  | nil =>
      -- the last group; nothing follows, so nothing was read there
      cases h
      obtain ⟨last, hlast⟩ := decodeLast_symbols offset [x, y, z, w]
        (by simp only [List.forall_mem_cons]; exact ⟨hx, hy, hz, hw, by simp⟩) (by simp) (by simp)
      exact hlast
  | cons e tail =>
      rw [decodeFrom, valueAt_symbol offset hx, valueAt_symbol (offset + 1) hy,
        valueAt_symbol (offset + 2) hz, valueAt_symbol (offset + 3) hw, h]
      rfl

/-- **Every group is read back**, whatever the offset. -/
theorem decodeFrom_text (offset : Nat) (bytes : Bytes) :
    decodeFrom offset (text bytes) = .ok bytes := by
  induction bytes using encode.induct generalizing offset with
  | case1 a b c rest ih =>
      have ha := a.toNat_lt
      have hb := b.toNat_lt
      have hc := c.toNat_lt
      have hgroup := decodeFrom_group offset (x := a.toNat / 4)
        (y := a.toNat % 4 * 16 + b.toNat / 16) (z := b.toNat % 16 * 4 + c.toNat / 64)
        (w := c.toNat % 64) (by omega) (by omega) (by omega) (by omega) (ih (offset + 4))
      rw [groupBytes_of_bytes] at hgroup
      exact hgroup
  | case2 a b =>
      have ha := a.toNat_lt
      have hb := b.toNat_lt
      obtain ⟨last, hlast⟩ := decodeLast_symbols offset
        [a.toNat / 4, a.toNat % 4 * 16 + b.toNat / 16, b.toNat % 16 * 4]
        (by simp only [List.forall_mem_cons]; exact ⟨by omega, by omega, by omega, by simp⟩)
        (by simp) (by simp)
      have hfirst : a.toNat / 4 * 4 + (a.toNat % 4 * 16 + b.toNat / 16) / 16 = a.toNat := by omega
      have hsecond : (a.toNat % 4 * 16 + b.toNat / 16) % 16 * 16 + b.toNat % 16 * 4 / 4 =
          b.toNat := by omega
      have hspare : b.toNat % 16 * 4 % 4 = 0 := by omega
      refine hlast.trans ?_
      rw [lastBytes, if_pos hspare, hfirst, hsecond, UInt8.ofNat_toNat, UInt8.ofNat_toNat]
  | case3 a =>
      have ha := a.toNat_lt
      obtain ⟨last, hlast⟩ := decodeLast_symbols offset [a.toNat / 4, a.toNat % 4 * 16]
        (by simp only [List.forall_mem_cons]; exact ⟨by omega, by omega, by simp⟩)
        (by simp) (by simp)
      have hfirst : a.toNat / 4 * 4 + a.toNat % 4 * 16 / 16 = a.toNat := by omega
      have hspare : a.toNat % 4 * 16 % 16 = 0 := by omega
      refine hlast.trans ?_
      rw [lastBytes, if_pos hspare, hfirst, UInt8.ofNat_toNat]
  | case4 => rfl

/-- **Every byte string is read back** from its text. -/
theorem decode_encode (bytes : Bytes) :
    decode (Text.bytes (String.ofList (encode bytes))) = .ok bytes := by
  rw [Text.bytes_ofList (encode_ascii bytes)]
  show decode (text bytes) = .ok bytes
  have hlength : (text bytes).length % 4 ≠ 1 := by
    rw [text, List.length_map, length_encode]
    omega
  unfold decode
  cases hlast : (text bytes).getLast? with
  | none =>
      have hnil : text bytes = [] := List.getLast?_eq_none_iff.mp hlast
      have hread := decodeFrom_text 0 bytes
      rw [hnil] at hread
      exact hread
  | some last =>
      dsimp only
      rw [if_neg fun h => hlength h.1, decodeFrom_text]

end Base64

end ArrayExchange
