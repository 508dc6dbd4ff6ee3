import ArrayExchange.Proofs.NdArray.Conversion
import ArrayExchange.Proofs.NdArray.Grids

/-!
# Elements as bytes, and bytes as elements

A new array is read as it was written.  The other way round, every run of bytes as wide as an element is
read as some element, and this element is written as the same bytes.  So complete elements and bytes
determine each other, the bits of a NaN included.  The only type for which this is not so is that of the
truth values: all bytes but `0` are read as true, and `1` is written for each of them.

* `Bytes.toNat_lt` — a byte string spells a number that fits in it.
* `ElementType.code_ofCode` — the code of an element that was found by its code.
* `ElementType.rewritten`, `ElementType.write_read` — the bytes of an element that was read.
* `ElementType.encode_decode` — the bytes of a list of elements that was read.
* `NdArray.recoded` — both directions, for every numeric type.
-/

namespace ArrayExchange

/-- A byte string spells a number that fits in it. -/
theorem Bytes.toNat_lt (bytes : Bytes) : toNat bytes < Nat.pow 256 bytes.length := by
  have hspelled := toNat_ofNat bytes.length (toNat bytes)
  rw [ofNat_toNat] at hspelled
  rw [hspelled]
  exact Nat.mod_lt _ (Nat.pow_pos (by decide))

/-! ### Codes that are read -/

/-- An integer has the code by which it was found. -/
theorem IntegerType.code_ofCode {k : IntegerType} {c : Nat} (h : c < k.size) : code (k.ofCode c) = c := by
  -- both reductions are modulo the size of the range, below which the code is
  have hrange : (k.lo + ((c : Int) - k.lo) % k.size) % k.size = c := by
    rw [Int.add_emod_emod, add_sub_cancel, Int.emod_eq_of_lt (by omega) (by omega)]
  show ((k.lo + ((c : Int) - k.lo) % k.size) % k.size).toNat = c
  rw [hrange, Int.toNat_natCast]

/-- A datum has the word by which it was found. -/
theorem Binary.toBits_ofBits {f : Format} {word : Nat} (h : word < 2 * f.signBit) :
    (ofBits f word).toBits = word := by
  have hsplit := Nat.div_add_mod word f.signBit
  have hhigh : word / f.signBit < 2 := Nat.div_lt_of_lt_mul (by rwa [Nat.mul_comm])
  show (if decide (word / f.signBit % 2 = 1) = true then f.signBit else 0) + word % f.signBit = word
  generalize word / f.signBit = sign at hsplit hhigh ⊢
  match sign with
  | 0 => simpa using hsplit
  | 1 => simpa using hsplit

namespace ElementType

variable {t : ElementType}

/-- An element has the code by which it was found, unless it is a truth value. -/
theorem code_ofCode (ht : t ≠ bool) {c : Nat} (h : c < Nat.pow 256 t.width) : t.code (t.ofCode c) = c := by
  cases t with
  | bool => exact absurd rfl ht
  | integer k => exact IntegerType.code_ofCode (Nat.lt_of_lt_of_eq h k.size_eq.symm)
  | float f => exact Binary.toBits_ofBits (Nat.lt_of_lt_of_eq h f.two_signBit.symm)

/-! ### Bytes that are read -/

/-- The bytes that are written for the elements that a byte string is read as.  Every truth value that is
not false is stored as `1`. -/
def rewritten (t : ElementType) (bytes : Bytes) : Bytes :=
  if t = bool then bytes.map fun byte => if byte = 0 then 0 else 1 else bytes

theorem rewritten_append (t : ElementType) (bytes bytes' : Bytes) :
    t.rewritten (bytes ++ bytes') = t.rewritten bytes ++ t.rewritten bytes' := by
  unfold rewritten
  split
  · rw [List.map_append]
  · rfl

theorem rewritten_flatten (t : ElementType) (pieces : List Bytes) :
    t.rewritten pieces.flatten = pieces.flatMap t.rewritten := by
  induction pieces with
  | nil => simp [rewritten]
  | cons piece rest ih => rw [List.flatten_cons, rewritten_append, ih, List.flatMap_cons]

theorem write_read_bool (byte : UInt8) :
    bool.write (bool.read [byte]) = [if byte = 0 then 0 else 1] := by
  by_cases hzero : byte = 0
  · rw [hzero]
    rfl
  · have hnat : byte.toNat ≠ 0 := fun e => hzero (UInt8.toNat_inj.mp e)
    have hread : bool.read [byte] = (true : Bool) := by
      show (byte.toNat + 256 * 0 != 0) = true
      simpa using hnat
    rw [hread, if_neg hzero]
    rfl

/-- **An element is written as it was read**, but for the truth values. -/
theorem write_read {piece : Bytes} (h : piece.length = t.width) :
    t.write (t.read piece) = t.rewritten piece := by
  by_cases ht : t = bool
  · subst ht
    obtain ⟨byte, rfl⟩ := List.length_eq_one_iff.mp h
    exact write_read_bool byte
  · have hlt : Bytes.toNat piece < Nat.pow 256 t.width := by
      rw [← h]
      exact Bytes.toNat_lt piece
    rw [write, read, code_ofCode ht hlt, ← h, Bytes.ofNat_toNat, rewritten, if_neg ht]

/-- **A list of elements is written as it was read**, but for the truth values. -/
theorem encode_decode {bytes : Bytes} (h : t.width ∣ bytes.length) :
    t.encode (t.decode bytes) = t.rewritten bytes := by
  have hpieces : (Bytes.chunks t.width bytes).flatMap (fun piece => t.write (t.read piece)) =
      (Bytes.chunks t.width bytes).flatMap t.rewritten := by
    apply List.flatMap_congr
    intro piece hpiece
    exact write_read (Bytes.length_of_mem_chunks hpiece)
  calc t.encode (t.decode bytes)
      = (Bytes.chunks t.width bytes).flatMap fun piece => t.write (t.read piece) := by
        rw [encode, decode, List.flatMap_map]
    _ = t.rewritten (Bytes.chunks t.width bytes).flatten := by rw [hpieces, rewritten_flatten]
    _ = t.rewritten bytes := by rw [Bytes.flatten_chunks_of_dvd h]

end ElementType

namespace NdArray

/-- The bytes of a new array of elements. -/
theorem fromElements_bytes? (t : ElementType) (xs : List t.Value) (shape : Option Shape) (store : Store) :
    let made := (fromElements t xs shape store).result
    made.1.bytes? made.2 = some (t.encode xs) :=
  Backing.toArray_bytes? (.fresh t (t.encode xs)) _ store

/-- **Elements and bytes determine each other.**  A new array has the elements that it was made of, in
memory of exactly as many bytes as they take.  The elements that complete bytes are read as are written as
the same bytes; only truth values are written anew, each byte that is not `0` as `1`. -/
theorem recoded (t : ElementType) :
    (∀ (xs : List t.Value) (shape : Option Shape) (store : Store),
      let made := (fromElements t xs shape store).result
      made.1.dtype = .numeric t ∧ made.1.toList t made.2 = .ok xs ∧
        ∃ bytes, made.1.bytes? made.2 = some bytes ∧ bytes.length = xs.length * t.width) ∧
    ∀ bytes : Bytes, t.width ∣ bytes.length →
      (t ≠ .bool → t.encode (t.decode bytes) = bytes) ∧
      (t = .bool → t.encode (t.decode bytes) = bytes.map fun byte => if byte = 0 then 0 else 1) := by
  constructor
  · intro xs shape store made
    have hlist : made.1.toList t made.2 = .ok xs := fromElements_toList t xs shape store
    have hbytes : made.1.bytes? made.2 = some (t.encode xs) := fromElements_bytes? t xs shape store
    exact ⟨dtype_of_toList hlist, hlist, _, hbytes, t.length_encode xs⟩
  · intro bytes hwidth
    rw [ElementType.encode_decode hwidth, ElementType.rewritten]
    exact ⟨fun ht => if_neg ht, fun ht => if_pos ht⟩

/-- The least integer of two bytes and a signalling NaN with a sign are written as they were read, and four
truth values are written anew. -/
theorem recoded_specials :
    let int16 := ElementType.integer .int16
    let single := ElementType.float .single
    int16.encode (int16.decode [0x00, 0x80, 0xff, 0xff]) = [0x00, 0x80, 0xff, 0xff] ∧
      single.encode (single.decode [1, 0, 0x80, 0xff]) = [1, 0, 0x80, 0xff] ∧
      ElementType.bool.encode (ElementType.bool.decode [0, 1, 2, 0xff]) = [0, 1, 1, 1] := by
  intro int16 single
  have hint16 : int16.width ∣ [(0x00 : UInt8), 0x80, 0xff, 0xff].length := by decide
  have hsingle : single.width ∣ [(1 : UInt8), 0, 0x80, 0xff].length := by decide
  have hbool : ElementType.bool.width ∣ [(0 : UInt8), 1, 2, 0xff].length := by decide
  have hwritten := ((recoded .bool).2 [0, 1, 2, 0xff] hbool).2 rfl
  exact ⟨((recoded int16).2 _ hint16).1 (by decide), ((recoded single).2 _ hsingle).1 (by decide),
    hwritten⟩

end NdArray

end ArrayExchange
