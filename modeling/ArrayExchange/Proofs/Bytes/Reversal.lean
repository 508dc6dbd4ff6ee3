import ArrayExchange.Proofs.Bytes.Pieces

/-!
# Elements turned around

Turning every complete element of a byte string around changes where a byte stands within its element,
and nothing else: the elements stay where they are, what is left over at the end stays, and turning
around a second time gives the byte string back.  An element that was turned around is read from the
other end, so the number that it spells is the big-endian one.

* `Bytes.getElem?_chunks` — the element at an index is a slice.
* `Bytes.chunks_flatten_append` — a byte string that is put together of pieces is cut into them.
* `Bytes.reverseEach_reverseEach` — turning around twice.
* `Bytes.toNatBig`, `Bytes.toNat_reverse` — the number that a byte string spells in big-endian order.
-/

namespace ArrayExchange

namespace Bytes

/-! ### Slices -/

/-- A byte of a slice. -/
theorem getElem?_slice {width i : Nat} (h : i < width) (bytes : Bytes) (start : Nat) :
    ((bytes.drop start).take width)[i]? = bytes[start + i]? := by
  rw [List.getElem?_take_of_lt h, List.getElem?_drop]

theorem getElem?_pieces {width count i : Nat} (bytes : Bytes) (h : i < count) :
    (pieces width count bytes)[i]? = some ((bytes.drop (i * width)).take width) := by
  induction count generalizing bytes i with
  | zero => exact absurd h (Nat.not_lt_zero i)
  | succ count ih =>
      cases i with
      | zero => rw [pieces, List.getElem?_cons_zero, Nat.zero_mul, List.drop_zero]
      | succ i =>
          rw [pieces, List.getElem?_cons_succ, ih _ (Nat.lt_of_succ_lt_succ h), List.drop_drop,
            Nat.succ_mul, Nat.add_comm]

/-- The element at an index is the slice of that number. -/
theorem getElem?_chunks {width i : Nat} {bytes : Bytes} (h : i < bytes.length / width) :
    (chunks width bytes)[i]? = some ((bytes.drop (i * width)).take width) :=
  getElem?_pieces bytes h

/-! ### Putting pieces together -/

theorem length_flatten_pieces {width : Nat} {ps : List Bytes} (h : ∀ p ∈ ps, p.length = width) :
    ps.flatten.length = ps.length * width := by
  induction ps with
  | nil => simp
  | cons p ps ih =>
      rw [List.flatten_cons, List.length_append, h p List.mem_cons_self,
        ih fun q hq => h q (List.mem_cons_of_mem _ hq), List.length_cons, Nat.succ_mul, Nat.add_comm]

theorem pieces_flatten_append {width : Nat} {ps : List Bytes} (h : ∀ p ∈ ps, p.length = width)
    (tail : Bytes) : pieces width ps.length (ps.flatten ++ tail) = ps := by
  induction ps with
  | nil => rfl
  | cons p ps ih =>
      have hp : p.length = width := h p List.mem_cons_self
      rw [List.length_cons, pieces, List.flatten_cons, List.append_assoc, List.take_left' hp,
        List.drop_left' hp, ih fun q hq => h q (List.mem_cons_of_mem _ hq)]

/-- Pieces and a tail are as many complete pieces as there are pieces. -/
theorem length_div_width {width : Nat} {ps : List Bytes} {tail : Bytes}
    (h : ∀ p ∈ ps, p.length = width) (htail : tail.length < width) :
    (ps.flatten ++ tail).length / width = ps.length := by
  rw [List.length_append, length_flatten_pieces h, Nat.mul_comm,
    Nat.mul_add_div (Nat.zero_lt_of_lt htail), Nat.div_eq_of_lt htail, Nat.add_zero]

/-- **A byte string that is put together of pieces is cut into them.** -/
theorem chunks_flatten_append {width : Nat} {ps : List Bytes} {tail : Bytes}
    (h : ∀ p ∈ ps, p.length = width) (htail : tail.length < width) :
    chunks width (ps.flatten ++ tail) = ps := by
  rw [chunks, length_div_width h htail, pieces_flatten_append h]

/-- What is left over is what stands behind the pieces. -/
theorem remainder_flatten_append {width : Nat} {ps : List Bytes} {tail : Bytes}
    (h : ∀ p ∈ ps, p.length = width) (htail : tail.length < width) :
    remainder width (ps.flatten ++ tail) = tail := by
  rw [remainder, length_div_width h htail, ← length_flatten_pieces h, List.drop_left]

theorem length_remainder_lt {width : Nat} (h : 0 < width) (bytes : Bytes) :
    (remainder width bytes).length < width := by
  have hsplit := Nat.div_add_mod bytes.length width
  have hmod := Nat.mod_lt bytes.length h
  rw [Nat.mul_comm] at hsplit
  rw [remainder, List.length_drop]
  omega

/-! ### Turning around -/

theorem reverseEach_eq (width : Nat) (bytes : Bytes) :
    reverseEach width bytes =
      ((chunks width bytes).map List.reverse).flatten ++ remainder width bytes := by
  rw [reverseEach, List.flatMap_def]

/-- Elements of no bytes cannot be turned around. -/
theorem reverseEach_zero (bytes : Bytes) : reverseEach 0 bytes = bytes := by
  simp [reverseEach, chunks, remainder, pieces]

theorem length_of_mem_reversed {width : Nat} {bytes piece : Bytes}
    (h : piece ∈ (chunks width bytes).map List.reverse) : piece.length = width := by
  obtain ⟨p, hp, rfl⟩ := List.mem_map.mp h
  rw [List.length_reverse, length_of_mem_chunks hp]

/-- The elements stay where they are. -/
theorem chunks_reverseEach (width : Nat) (bytes : Bytes) :
    chunks width (reverseEach width bytes) = (chunks width bytes).map List.reverse := by
  rcases Nat.eq_zero_or_pos width with rfl | hw
  · rw [reverseEach_zero]
    simp [chunks, pieces]
  · rw [reverseEach_eq]
    exact chunks_flatten_append (fun p hp => length_of_mem_reversed hp) (length_remainder_lt hw bytes)

/-- What is left over stays as it is. -/
theorem remainder_reverseEach (width : Nat) (bytes : Bytes) :
    remainder width (reverseEach width bytes) = remainder width bytes := by
  rcases Nat.eq_zero_or_pos width with rfl | hw
  · rw [reverseEach_zero]
  · rw [reverseEach_eq]
    exact remainder_flatten_append (fun p hp => length_of_mem_reversed hp)
      (length_remainder_lt hw bytes)

/-- **Turning around twice** gives the byte string back. -/
theorem reverseEach_reverseEach (width : Nat) (bytes : Bytes) :
    reverseEach width (reverseEach width bytes) = bytes := by
  have htwice : ((chunks width bytes).map List.reverse).map List.reverse = chunks width bytes := by
    have hinverse : List.reverse ∘ List.reverse = (id : Bytes → Bytes) := by
      funext p
      exact List.reverse_reverse p
    rw [List.map_map, hinverse, List.map_id]
  rw [reverseEach_eq, chunks_reverseEach, remainder_reverseEach, htwice, flatten_chunks]

@[simp] theorem length_reverseEach (width : Nat) (bytes : Bytes) :
    (reverseEach width bytes).length = bytes.length := by
  have hlength : ((chunks width bytes).map List.reverse).flatten.length =
      (chunks width bytes).flatten.length := by
    rw [length_flatten_pieces fun p hp => length_of_mem_reversed hp,
      length_flatten_pieces fun p hp => length_of_mem_chunks hp, List.length_map]
  rw [reverseEach_eq, List.length_append, hlength, ← List.length_append, flatten_chunks]

/-! ### Big-endian numbers -/

/-- The number that a byte string spells, most significant byte first. -/
def toNatBig (bytes : Bytes) : Nat := bytes.foldl (fun n b => 256 * n + b.toNat) 0

theorem toNat_eq_foldr (bytes : Bytes) :
    toNat bytes = bytes.foldr (fun b n => 256 * n + b.toNat) 0 := by
  induction bytes with
  | nil => rfl
  | cons b rest ih => rw [toNat, ih, List.foldr_cons, Nat.add_comm]

/-- Read from the other end, a byte string spells its big-endian number. -/
theorem toNat_reverse (bytes : Bytes) : toNat bytes.reverse = toNatBig bytes := by
  rw [toNat_eq_foldr, List.foldr_reverse, toNatBig]

end Bytes

end ArrayExchange
