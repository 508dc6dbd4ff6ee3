import ArrayExchange.Proofs.Memory.Updates

/-!
# Elements turned around in place

Turning the elements of a byte string around needs no second byte string.  The elements have no byte in
common, so they can be turned around one after the other where they stand, each by overwriting it with its
own reversal.  After `count` steps the bytes of the first `count` elements have changed places within
their element, and all others stand where they stood.  That alone says which byte stands where, so there is
only one such byte string.  With no complete element left, it is the one that is cut, turned around and put
together again.

* `Bytes.turnAt`, `Bytes.turnFirst` — one element turned around in place, and the first ones in turn.
* `Bytes.Turned` — where every byte stands once the first elements are turned around.
* `Bytes.Turned.step`, `Bytes.turned_turnFirst` — one step, and all of them.
* `Bytes.Turned.unique` — nothing is left open.
* `Bytes.turned_reverseEach`, `Bytes.turnFirst_eq_reverseEach` — cutting and turning in place agree.
* `Bytes.reverseEach_bytewise` — all of this, byte by byte.
-/

namespace ArrayExchange

namespace Bytes

/-! ### Turning in place -/

/-- A byte string with one of its elements turned around where it stands. -/
def turnAt (width index : Nat) (bytes : Bytes) : Bytes :=
  Store.patch (index * width) ((bytes.drop (index * width)).take width).reverse bytes

/-- A byte string with its first elements turned around, one after the other. -/
def turnFirst (width : Nat) : Nat → Bytes → Bytes
  | 0, bytes => bytes
  | count + 1, bytes => turnAt width count (turnFirst width count bytes)

/-- The first `count` elements of `before` are turned around in `after`: a byte of such an element is as far
from the start of the element as it was from the end.  All other bytes stand where they stood. -/
structure Turned (width count : Nat) (before after : Bytes) : Prop where
  length : after.length = before.length
  element : ∀ q < count, ∀ r < width, after[q * width + r]? = before[q * width + (width - 1 - r)]?
  rest : ∀ i, count * width ≤ i → after[i]? = before[i]?

variable {width count : Nat} {before after after' bytes : Bytes}

/-! ### One step and all steps -/

theorem length_slice {start : Nat} (h : start + width ≤ bytes.length) :
    ((bytes.drop start).take width).length = width := by
  rw [List.length_take, List.length_drop]
  omega

/-- A byte of a slice that is turned around. -/
theorem getElem?_reverse_slice {start r : Nat} (h : start + width ≤ bytes.length) (hr : r < width) :
    ((bytes.drop start).take width).reverse[r]? = bytes[start + (width - 1 - r)]? := by
  have hlength := length_slice h
  rw [List.getElem?_reverse (by omega), hlength, getElem?_slice (by omega)]

/-- **A byte of a byte string with one element turned around.** -/
theorem getElem?_turnAt {index : Nat} (h : index * width + width ≤ bytes.length) (i : Nat) :
    (turnAt width index bytes)[i]? =
      if index * width ≤ i ∧ i < index * width + width then
        bytes[index * width + (width - 1 - (i - index * width))]?
      else bytes[i]? := by
  have hlength : ((bytes.drop (index * width)).take width).reverse.length = width := by
    rw [List.length_reverse, length_slice h]
  rw [turnAt, Store.getElem?_patch (by omega), hlength]
  split
  · rw [getElem?_reverse_slice h (by omega)]
  · rfl

theorem length_turnAt (width index : Nat) (bytes : Bytes) :
    (turnAt width index bytes).length = bytes.length :=
  Store.length_patch ..

namespace Turned

/-- Before the first step nothing has moved. -/
theorem zero (width : Nat) (bytes : Bytes) : Turned width 0 bytes bytes where
  length := rfl
  element _ hq := absurd hq (Nat.not_lt_zero _)
  rest _ _ := rfl

/-- **One step** turns one more element around. -/
theorem step (h : Turned width count before after) (fits : count * width + width ≤ before.length) :
    Turned width (count + 1) before (turnAt width count after) := by
  have hfits : count * width + width ≤ after.length := by rwa [h.length]
  refine ⟨(length_turnAt ..).trans h.length, ?_, ?_⟩
  · intro q hq r hr
    rw [getElem?_turnAt hfits]
    rcases Nat.lt_succ_iff_lt_or_eq.mp hq with hq | rfl
    · -- an element of an earlier step lies in front of this one
      have hfront : (q + 1) * width ≤ count * width := Nat.mul_le_mul_right _ hq
      rw [Nat.succ_mul] at hfront
      rw [if_neg (by omega), h.element q hq r hr]
    · -- this element has not moved before
      rw [if_pos (by omega), Nat.add_sub_cancel_left, h.rest _ (Nat.le_add_right _ _)]
  · intro i hi
    rw [Nat.succ_mul] at hi
    rw [getElem?_turnAt hfits, if_neg (by omega), h.rest i (by omega)]

/-- **Nothing is left open**: there is one byte string with the first elements turned around. -/
theorem unique (h : Turned width count before after) (h' : Turned width count before after') :
    after = after' := by
  apply List.ext_getElem?
  intro i
  by_cases hi : i < count * width
  · have hwidth : 0 < width := Nat.pos_of_mul_pos_left (Nat.zero_lt_of_lt hi)
    have hq : i / width < count := Nat.div_lt_of_lt_mul (by rwa [Nat.mul_comm])
    have hr : i % width < width := Nat.mod_lt i hwidth
    rw [← Nat.div_add_mod' i width, h.element _ hq _ hr, h'.element _ hq _ hr]
  · have hrest : count * width ≤ i := Nat.le_of_not_lt hi
    rw [h.rest i hrest, h'.rest i hrest]

end Turned

/-- **All steps** turn the first elements around, as long as they are complete. -/
theorem turned_turnFirst (fits : count * width ≤ bytes.length) :
    Turned width count bytes (turnFirst width count bytes) := by
  induction count with
  | zero => exact Turned.zero width bytes
  | succ count ih =>
      rw [Nat.succ_mul] at fits
      exact (ih (by omega)).step fits

/-! ### Cut, turned around and put together -/

/-- An element of a byte string that was turned around is the element turned around. -/
theorem slice_reverseEach {q : Nat} (h : q < bytes.length / width) :
    ((reverseEach width bytes).drop (q * width)).take width =
      ((bytes.drop (q * width)).take width).reverse := by
  have hturned : q < (reverseEach width bytes).length / width := by rwa [length_reverseEach]
  have hchunk : (chunks width (reverseEach width bytes))[q]? =
      ((chunks width bytes).map List.reverse)[q]? := by
    rw [chunks_reverseEach]
  rw [getElem?_chunks hturned, List.getElem?_map, getElem?_chunks h, Option.map_some] at hchunk
  exact Option.some.inj hchunk

/-- **Cutting moves the bytes as turning in place does**, for all complete elements. -/
theorem turned_reverseEach (width : Nat) (bytes : Bytes) :
    Turned width (bytes.length / width) bytes (reverseEach width bytes) := by
  refine ⟨length_reverseEach width bytes, ?_, ?_⟩
  · intro q hq r hr
    calc (reverseEach width bytes)[q * width + r]?
        = (((reverseEach width bytes).drop (q * width)).take width)[r]? := (getElem?_slice hr _ _).symm
      _ = ((bytes.drop (q * width)).take width).reverse[r]? := by rw [slice_reverseEach hq]
      _ = bytes[q * width + (width - 1 - r)]? := getElem?_reverse_slice (piece_fits hq) hr
  · intro i hi
    have hremainder := remainder_reverseEach width bytes
    rw [remainder, remainder, length_reverseEach] at hremainder
    rw [← Nat.add_sub_of_le hi, ← List.getElem?_drop, hremainder, List.getElem?_drop]

/-- Turning all complete elements around in place gives the same byte string. -/
theorem turnFirst_eq_reverseEach (width : Nat) (bytes : Bytes) :
    turnFirst width (bytes.length / width) bytes = reverseEach width bytes :=
  (turned_turnFirst (Nat.div_mul_le_self _ _)).unique (turned_reverseEach width bytes)

/-- Elements of at most one byte read the same from both ends. -/
theorem reverseEach_of_le_one (h : width ≤ 1) (bytes : Bytes) : reverseEach width bytes = bytes := by
  apply (turned_reverseEach width bytes).unique
  refine ⟨rfl, ?_, fun _ _ => rfl⟩
  intro q _ r hr
  have hmirror : width - 1 - r = r := by omega
  rw [hmirror]

/-- **Turning every complete element around, byte by byte**, for any width.  No byte is added or lost.  In
a complete element the byte at an offset is the one that had this offset from the other end.  Past the last
complete element nothing changes, and nothing at all does when elements have at most one byte.  No other
byte string is turned around so, and the one is made in place, element after element.  Turned around once
more, it is the byte string at the start. -/
theorem reverseEach_bytewise (width : Nat) (bytes : Bytes) :
    (reverseEach width bytes).length = bytes.length ∧
      (∀ q r, q < bytes.length / width → r < width →
        ∃ byte, bytes[q * width + (width - 1 - r)]? = some byte ∧
          (reverseEach width bytes)[q * width + r]? = some byte) ∧
      (∀ i, bytes.length - bytes.length % width ≤ i →
        (reverseEach width bytes)[i]? = bytes[i]?) ∧
      (width ≤ 1 → reverseEach width bytes = bytes) ∧
      (∀ turned, Turned width (bytes.length / width) bytes turned →
        turned = reverseEach width bytes) ∧
      turnFirst width (bytes.length / width) bytes = reverseEach width bytes ∧
      reverseEach width (reverseEach width bytes) = bytes := by
  have hturned := turned_reverseEach width bytes
  refine ⟨length_reverseEach width bytes, ?_, ?_, fun h => reverseEach_of_le_one h bytes,
    fun _ h => h.unique hturned, turnFirst_eq_reverseEach width bytes,
    reverseEach_reverseEach width bytes⟩
  · intro q r hq hr
    have hfits := piece_fits hq
    have hlt : q * width + (width - 1 - r) < bytes.length := by omega
    have hold : bytes[q * width + (width - 1 - r)]? = some bytes[q * width + (width - 1 - r)] :=
      List.getElem?_eq_getElem hlt
    exact ⟨_, hold, (hturned.element q hq r hr).trans hold⟩
  · intro i hi
    have hsplit := Nat.div_add_mod' bytes.length width
    exact hturned.rest i (by omega)

/-- Eight bytes are two elements of three bytes, which are turned around, and two more bytes. -/
theorem reverseEach_bytewise_threes :
    let bytes : Bytes := [1, 2, 3, 4, 5, 6, 7, 8]
    let turned : Bytes := [3, 2, 1, 6, 5, 4, 7, 8]
    Turned 3 2 bytes turned ∧ reverseEach 3 bytes = turned ∧
      (∃ byte, bytes[1 * 3 + 2]? = some byte ∧ (reverseEach 3 bytes)[1 * 3 + 0]? = some byte) ∧
      (reverseEach 3 bytes)[6]? = bytes[6]? ∧ reverseEach 1 bytes = bytes := by
  intro bytes turned
  have hturned : Turned 3 2 bytes turned := by
    refine ⟨rfl, by decide, ?_⟩
    intro i hi
    obtain ⟨j, rfl⟩ := Nat.exists_eq_add_of_le' hi
    rfl
  have hcount : bytes.length / 3 = 2 := by decide
  obtain ⟨-, element, tail, -, only, -, -⟩ := reverseEach_bytewise 3 bytes
  rw [hcount] at only
  obtain ⟨-, -, -, narrow, -, -, -⟩ := reverseEach_bytewise 1 bytes
  exact ⟨hturned, (only turned hturned).symm, element 1 0 (by decide) (by decide), tail 6 (by decide),
    narrow (Nat.le_refl 1)⟩

end Bytes

end ArrayExchange
