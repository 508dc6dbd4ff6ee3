import ArrayExchange.Proofs.Bytes.Base64

/-!
# Base64 has one text for each byte string

A text that is accepted is the one that writing produces.  Padding is required, so the length says how
many bytes the last group holds; the spare bits of a last symbol must be zero, so the symbol is the one
that was written.  Each step of reading is turned around: from the result of the step to the bytes of
the text that it has read.

* `Base64.valuesFrom_ok`, `Base64.decodeLast_ok`, `Base64.decodeFrom_ok` — the steps, turned around.
* `Base64.decode_eq_ok_iff` — reading accepts exactly what writing produces.
-/

namespace ArrayExchange

/-- A computation of two steps succeeds only if both of them do. -/
theorem ok_of_bind {ε α β : Type} {first : Except ε α} {next : α → Except ε β} {y : β}
    (h : (first >>= next) = .ok y) : ∃ x, first = .ok x ∧ next x = .ok y := by
  cases first with
  | error error => cases h
  | ok x => exact ⟨x, rfl, h⟩

/-- A text is determined by its bytes. -/
theorem Text.bytes_injective {s t : String} (h : bytes s = bytes t) : s = t := by
  apply String.toByteArray_inj.mp
  apply ByteArray.ext
  exact Array.toList_inj.mp h

namespace Base64

/-! ### Symbols -/

theorem value_facts : ∀ n : Fin 256, ∀ v ∈ value? (UInt8.ofNat n.val),
    v < 64 ∧ Text.byte (symbol v) = UInt8.ofNat n.val := by
  decide +kernel

/-- A byte that is read as six bits is the symbol for them. -/
theorem symbol_of_value? {byte : UInt8} {v : Nat} (h : value? byte = some v) :
    v < 64 ∧ Text.byte (symbol v) = byte := by
  have hfacts := value_facts ⟨byte.toNat, byte.toNat_lt⟩ v
  rw [UInt8.ofNat_toNat] at hfacts
  exact hfacts h

theorem valueAt_ok {offset : Nat} {byte : UInt8} {v : Nat} (h : valueAt offset byte = .ok v) :
    v < 64 ∧ Text.byte (symbol v) = byte := by
  unfold valueAt at h
  cases e : value? byte with
  | none => rw [e] at h; cases h
  | some found =>
      rw [e] at h
      cases h
      exact symbol_of_value? e

theorem valuesFrom_ok {offset : Nat} {bytes : Bytes} {vs : List Nat}
    (h : valuesFrom offset bytes = .ok vs) :
    bytes = vs.map (fun v => Text.byte (symbol v)) ∧ ∀ v ∈ vs, v < 64 := by
  induction bytes generalizing offset vs with
  | nil =>
      cases h
      exact ⟨rfl, by simp⟩
  | cons byte rest ih =>
      rw [valuesFrom] at h
      obtain ⟨v, hv, h⟩ := ok_of_bind h
      obtain ⟨others, hothers, h⟩ := ok_of_bind h
      cases h
      obtain ⟨hlt, hbyte⟩ := valueAt_ok hv
      obtain ⟨hrest, hall⟩ := ih hothers
      refine ⟨by rw [List.map_cons, hbyte, ← hrest], ?_⟩
      intro w hw
      rcases List.mem_cons.mp hw with rfl | hw
      · exact hlt
      · exact hall w hw

/-! ### Groups -/

theorem toNat_ofNat {n : Nat} (h : n < 256) : (UInt8.ofNat n).toNat = n :=
  UInt8.toNat_ofNat_of_lt' h

/-- Four symbols are what is written for the three bytes that they give. -/
theorem text_groupBytes {x y z w : Nat} (hx : x < 64) (hy : y < 64) (hz : z < 64) (hw : w < 64)
    (rest : Bytes) :
    text (groupBytes x y z w ++ rest) =
      [x, y, z, w].map (fun v => Text.byte (symbol v)) ++ text rest := by
  have ha : (UInt8.ofNat (x * 4 + y / 16)).toNat = x * 4 + y / 16 := toNat_ofNat (by omega)
  have hb : (UInt8.ofNat (y % 16 * 16 + z / 4)).toNat = y % 16 * 16 + z / 4 := toNat_ofNat (by omega)
  have hc : (UInt8.ofNat (z % 4 * 64 + w)).toNat = z % 4 * 64 + w := toNat_ofNat (by omega)
  have h₁ : (x * 4 + y / 16) / 4 = x := by omega
  have h₂ : (x * 4 + y / 16) % 4 * 16 + (y % 16 * 16 + z / 4) / 16 = y := by omega
  have h₃ : (y % 16 * 16 + z / 4) % 16 * 4 + (z % 4 * 64 + w) / 64 = z := by omega
  have h₄ : (z % 4 * 64 + w) % 64 = w := by omega
  simp only [text, groupBytes, List.cons_append, List.nil_append, encode, ha, hb, hc, h₁, h₂, h₃, h₄,
    List.map_cons, List.map_nil]

/-- The bytes of a last group are those whose text is its symbols, filled up by padding. -/
theorem lastBytes_ok {last : UInt8} {offset : Nat} {vs : List Nat} {bytes : Bytes}
    (h : lastBytes last offset vs = .ok bytes) (hvs : ∀ v ∈ vs, v < 64) (hlow : 2 ≤ vs.length)
    (hhigh : vs.length ≤ 4) :
    vs.map (fun v => Text.byte (symbol v)) ++ List.replicate (4 - vs.length) pad = text bytes := by
  match vs, hlow, hhigh with
  | [x, y], _, _ =>
      have hx : x < 64 := hvs x (by simp)
      have hy : y < 64 := hvs y (by simp)
      rw [lastBytes] at h
      split at h
      · next hspare =>
          cases h
          have ha : (UInt8.ofNat (x * 4 + y / 16)).toNat = x * 4 + y / 16 := toNat_ofNat (by omega)
          have h₁ : (x * 4 + y / 16) / 4 = x := by omega
          have h₂ : (x * 4 + y / 16) % 4 * 16 = y := by omega
          simp only [text, encode, ha, h₁, h₂]
          rfl
      · cases h
  | [x, y, z], _, _ =>
      have hx : x < 64 := hvs x (by simp)
      have hy : y < 64 := hvs y (by simp)
      have hz : z < 64 := hvs z (by simp)
      rw [lastBytes] at h
      split at h
      · next hspare =>
          cases h
          have ha : (UInt8.ofNat (x * 4 + y / 16)).toNat = x * 4 + y / 16 := toNat_ofNat (by omega)
          have hb : (UInt8.ofNat (y % 16 * 16 + z / 4)).toNat = y % 16 * 16 + z / 4 := toNat_ofNat (by omega)
          have h₁ : (x * 4 + y / 16) / 4 = x := by omega
          have h₂ : (x * 4 + y / 16) % 4 * 16 + (y % 16 * 16 + z / 4) / 16 = y := by omega
          have h₃ : (y % 16 * 16 + z / 4) % 16 * 4 = z := by omega
          simp only [text, encode, ha, hb, h₁, h₂, h₃]
          rfl
      · cases h
  | [x, y, z, w], _, _ =>
      have hx : x < 64 := hvs x (by simp)
      have hy : y < 64 := hvs y (by simp)
      have hz : z < 64 := hvs z (by simp)
      have hw : w < 64 := hvs w (by simp)
      cases h
      exact (text_groupBytes hx hy hz hw []).symm

theorem decodeLast_ok {offset : Nat} {group bytes : Bytes}
    (h : decodeLast offset group = .ok bytes) : group = text bytes := by
  unfold decodeLast at h
  have hsplit : group.takeWhile (· ≠ pad) ++ group.dropWhile (· ≠ pad) = group :=
    List.takeWhile_append_dropWhile
  generalize group.takeWhile (· ≠ pad) = symbols at h hsplit
  generalize group.dropWhile (· ≠ pad) = padding at h hsplit
  dsimp only at h
  obtain ⟨vs, hv, h⟩ := ok_of_bind h
  obtain ⟨hsymbols, hvs⟩ := valuesFrom_ok hv
  have hlength : symbols.length = vs.length := by rw [hsymbols, List.length_map]
  split at h
  · cases h
  next hpadding =>
    split at h
    · next hnil =>
        cases h
        exact hnil
    · split at h
      · cases h
      next hlow =>
        split at h
        · cases h
        next hfour =>
          -- at least two symbols, and nothing but padding up to four characters
          have hall : ∀ b ∈ padding, b = pad := by
            by_cases hnil : padding = []
            · simp [hnil]
            · have hnot := fun e => hpadding ⟨hnil, .inr e⟩
              simpa using hnot
          have hpad : padding = List.replicate (4 - vs.length) pad :=
            List.eq_replicate_iff.mpr ⟨by omega, hall⟩
          rw [← lastBytes_ok h hvs (by omega) (by omega), ← hsplit, ← hsymbols, ← hpad]

/-- The groups that are read are the text of the bytes that they give. -/
theorem decodeFrom_ok {offset : Nat} {t bytes : Bytes} (h : decodeFrom offset t = .ok bytes) :
    t = text bytes := by
  fun_induction decodeFrom offset t generalizing bytes with
  | case1 offset a b c d e rest ih =>
      obtain ⟨x, hx, h⟩ := ok_of_bind h
      obtain ⟨y, hy, h⟩ := ok_of_bind h
      obtain ⟨z, hz, h⟩ := ok_of_bind h
      obtain ⟨w, hw, h⟩ := ok_of_bind h
      obtain ⟨others, hothers, h⟩ := ok_of_bind h
      cases h
      obtain ⟨hxlt, rfl⟩ := valueAt_ok hx
      obtain ⟨hylt, rfl⟩ := valueAt_ok hy
      obtain ⟨hzlt, rfl⟩ := valueAt_ok hz
      obtain ⟨hwlt, rfl⟩ := valueAt_ok hw
      rw [ih hothers]
      exact (text_groupBytes hxlt hylt hzlt hwlt others).symm
  | case2 offset group _ => exact decodeLast_ok h

/-- **Reading accepts exactly what writing produces.** -/
theorem decode_eq_ok_iff {s : String} {bytes : Bytes} :
    decode (Text.bytes s) = .ok bytes ↔ s = String.ofList (encode bytes) := by
  constructor
  · intro h
    apply Text.bytes_injective
    rw [Text.bytes_ofList (encode_ascii bytes)]
    show _ = text bytes
    unfold decode at h
    split at h
    · split at h
      · cases h
      · exact decodeFrom_ok h
    · next hnone =>
        cases h
        exact List.getLast?_eq_none_iff.mp hnone
  · rintro rfl
    exact decode_encode bytes

end Base64

end ArrayExchange
