import ArrayExchange.Element.Basic

/-!
# Pieces of byte strings

A byte string is cut into pieces of one width, and what is left over is shorter than a piece.  If
the width divides the length, nothing is left over and the pieces are the whole byte string.
-/

namespace ArrayExchange

namespace Bytes

theorem length_of_mem_pieces {width count : Nat} {bytes piece : Bytes}
    (h : count * width ≤ bytes.length) (hp : piece ∈ pieces width count bytes) :
    piece.length = width := by
  induction count generalizing bytes with
  | zero => cases hp
  | succ count ih =>
      rw [Nat.succ_mul] at h
      rcases List.mem_cons.mp hp with rfl | hp
      · rw [List.length_take]
        omega
      · exact ih (by rw [List.length_drop]; omega) hp

/-- Every piece is complete. -/
theorem length_of_mem_chunks {width : Nat} {bytes piece : Bytes} (h : piece ∈ chunks width bytes) :
    piece.length = width :=
  length_of_mem_pieces (Nat.div_mul_le_self _ _) h

/-- There is room for a complete piece. -/
theorem piece_fits {width i : Nat} {bytes : Bytes} (h : i < bytes.length / width) :
    i * width + width ≤ bytes.length := by
  rw [← Nat.succ_mul]
  exact Nat.le_trans (Nat.mul_le_mul_right _ h) (Nat.div_mul_le_self _ _)

theorem flatten_pieces (width count : Nat) (bytes : Bytes) :
    (pieces width count bytes).flatten = bytes.take (count * width) := by
  induction count generalizing bytes with
  | zero => simp [pieces]
  | succ count ih =>
      rw [pieces, List.flatten_cons, ih, Nat.succ_mul, Nat.add_comm, List.take_add]

/-- **Nothing is lost by cutting**: the pieces and what is left over are the byte string again. -/
theorem flatten_chunks (width : Nat) (bytes : Bytes) :
    (chunks width bytes).flatten ++ remainder width bytes = bytes := by
  rw [chunks, flatten_pieces, remainder, List.take_append_drop]

theorem remainder_eq_nil {width : Nat} {bytes : Bytes} (h : width ∣ bytes.length) :
    remainder width bytes = [] := by
  rw [remainder, Nat.div_mul_cancel h, List.drop_length]

theorem flatten_chunks_of_dvd {width : Nat} {bytes : Bytes} (h : width ∣ bytes.length) :
    (chunks width bytes).flatten = bytes := by
  have hcut := flatten_chunks width bytes
  rwa [remainder_eq_nil h, List.append_nil] at hcut

end Bytes

end ArrayExchange
