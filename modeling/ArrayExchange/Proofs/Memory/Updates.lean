import ArrayExchange.Proofs.Element.Coding
import ArrayExchange.Proofs.Memory.Access

/-!
# Overwritten elements

A block of memory is cut into elements of one width by one array and of another width by another one,
so an element that is overwritten through the first array is a piece of several elements of the second,
or a part of one of them.  Which elements change is a question about byte ranges: an element keeps its
bytes unless it has a byte in common with the element that was written.

* `Bytes.Overwritten` — which byte is which after a part of a byte string was overwritten.
* `Store.getElem?_patch`, `Store.slice_patch_self`, `Store.slice_patch_of_apart` — a byte, and a slice,
  of a byte string with a part overwritten.
* `Bytes.Overlap` — an element of one width has a byte in common with an element of another width.
* `ElementType.decode_patch_self` — the element that was written is the only one of its width to change.
* `ElementType.decode_patch_of_apart` — elements of any width without a common byte do not change.
* `Store.Updated` — one slice of one block was overwritten.
-/

namespace ArrayExchange

/-- A part of a byte string from `start` on was overwritten: the bytes there are those of the part, and
all others are as they were. -/
structure Bytes.Overwritten (start : Nat) (part old new : Bytes) : Prop where
  length : new.length = old.length
  bytes : ∀ p, new[p]? =
    if start ≤ p ∧ p < start + part.length then part[p - start]? else old[p]?

namespace Store

variable {start : Nat} {new old : Bytes}

/-! ### Bytes of a patched byte string -/

/-- **A patch changes the bytes it covers**, and no others. -/
theorem getElem?_patch (h : start + new.length ≤ old.length) (p : Nat) :
    (patch start new old)[p]? =
      if start ≤ p ∧ p < start + new.length then new[p - start]? else old[p]? := by
  have hstart : (old.take start).length = start := by
    rw [List.length_take]
    omega
  rw [patch_of_le h, List.append_assoc]
  by_cases hp : p < start
  · rw [List.getElem?_append_left (by omega), List.getElem?_take_of_lt hp, if_neg (by omega)]
  · rw [List.getElem?_append_right (by omega), hstart]
    by_cases hnew : p < start + new.length
    · rw [List.getElem?_append_left (by omega), if_pos (by omega)]
    · rw [List.getElem?_append_right (by omega), List.getElem?_drop, if_neg (by omega)]
      congr 1
      omega

/-- A patch that fits is what is written, byte by byte. -/
theorem overwritten_patch (h : start + new.length ≤ old.length) :
    Bytes.Overwritten start new old (patch start new old) :=
  ⟨length_patch start new old, getElem?_patch h⟩

/-- The slice that a patch covers is the patch. -/
theorem slice_patch_self (h : start + new.length ≤ old.length) :
    ((patch start new old).drop start).take new.length = new := by
  have hstart : (old.take start).length = start := by
    rw [List.length_take]
    omega
  rw [patch_of_le h, List.append_assoc, List.drop_left' hstart, List.take_left]

/-- A slice without a byte of the patch is as it was. -/
theorem slice_patch_of_apart (h : start + new.length ≤ old.length) {first width : Nat}
    (apart : ∀ p, first ≤ p → p < first + width → ¬ (start ≤ p ∧ p < start + new.length)) :
    ((patch start new old).drop first).take width = (old.drop first).take width := by
  apply List.ext_getElem?
  intro i
  by_cases hi : i < width
  · rw [Bytes.getElem?_slice hi, Bytes.getElem?_slice hi, getElem?_patch h,
      if_neg (apart _ (by omega) (by omega))]
  · rw [List.getElem?_take_eq_none (by omega), List.getElem?_take_eq_none (by omega)]

end Store

/-! ### Elements over one byte string -/

/-- The bytes of element `j` of width `v` and those of element `i` of width `w` have one in common. -/
def Bytes.Overlap (j v i w : Nat) : Prop :=
  ∃ p, (j * v ≤ p ∧ p < (j + 1) * v) ∧ (i * w ≤ p ∧ p < (i + 1) * w)

/-- Two elements of one width have bytes in common only if they are the same one. -/
theorem Bytes.Overlap.eq {i j w : Nat} (h : Overlap j w i w) : j = i := by
  obtain ⟨p, ⟨hj, hj'⟩, hi, hi'⟩ := h
  have hle : j ≤ i := Nat.le_of_lt_succ (Nat.lt_of_mul_lt_mul_right (Nat.lt_of_le_of_lt hj hi'))
  have hge : i ≤ j := Nat.le_of_lt_succ (Nat.lt_of_mul_lt_mul_right (Nat.lt_of_le_of_lt hi hj'))
  exact Nat.le_antisymm hle hge

namespace ElementType

variable {t u : ElementType} {bytes : Bytes} {i j : Nat}

/-- The element at an index is read from the slice of that number. -/
theorem getElem?_decode (h : i < bytes.length / t.width) :
    (t.decode bytes)[i]? = some (t.read ((bytes.drop (i * t.width)).take t.width)) := by
  rw [decode, List.getElem?_map, Bytes.getElem?_chunks h, Option.map_some]

/-- There is room for the bytes of an element in a byte string that holds an element of this index. -/
theorem write_fits (h : i < bytes.length / t.width) (x : t.Value) :
    i * t.width + (t.write x).length ≤ bytes.length := by
  rw [length_write]
  exact Bytes.piece_fits h

/-- **Elements without a common byte** with the element that is written do not change. -/
theorem decode_patch_of_apart (hi : i < bytes.length / t.width) (x : t.Value)
    (apart : ¬ Bytes.Overlap j u.width i t.width) :
    (u.decode (Store.patch (i * t.width) (t.write x) bytes))[j]? = (u.decode bytes)[j]? := by
  have hlength : (Store.patch (i * t.width) (t.write x) bytes).length = bytes.length :=
    Store.length_patch _ _ _
  have hfits := write_fits hi x
  by_cases hj : j < bytes.length / u.width
  · have hbytes : ∀ p, j * u.width ≤ p → p < j * u.width + u.width →
        ¬ (i * t.width ≤ p ∧ p < i * t.width + (t.write x).length) := by
      intro p hp hp' hcommon
      rw [length_write, ← Nat.succ_mul] at hcommon
      rw [← Nat.succ_mul] at hp'
      exact apart ⟨p, ⟨hp, hp'⟩, hcommon⟩
    have hslice := Store.slice_patch_of_apart hfits hbytes
    rw [getElem?_decode hj, getElem?_decode (by rwa [hlength]), hslice]
  · rw [List.getElem?_eq_none (by rw [length_decode, hlength]; omega),
      List.getElem?_eq_none (by rw [length_decode]; omega)]

/-- **The element that is written** is the only one of its width to change. -/
theorem decode_patch_self (hi : i < bytes.length / t.width) (x : t.Value) :
    t.decode (Store.patch (i * t.width) (t.write x) bytes) = (t.decode bytes).set i x := by
  have hlength : (Store.patch (i * t.width) (t.write x) bytes).length = bytes.length :=
    Store.length_patch _ _ _
  have hfits := write_fits hi x
  apply List.ext_getElem?
  intro j
  by_cases hj : j = i
  · subst hj
    have hslice := Store.slice_patch_self hfits
    rw [length_write] at hslice
    rw [getElem?_decode (by rwa [hlength]), hslice, t.read_write,
      List.getElem?_set_self (by rwa [length_decode])]
  · rw [decode_patch_of_apart hi x fun h => hj h.eq, List.getElem?_set_ne fun h => hj h.symm]

end ElementType

/-! ### Stores -/

/-- The bytes of one block from `start` on were overwritten, and nothing else was. -/
structure Store.Updated (store : Store) (block : BlockId) (start : Nat) (new : Bytes)
    (store' : Store) : Prop where
  bytes : ∀ p, (store'.bytes block)[p]? =
    if start ≤ p ∧ p < start + new.length then new[p - start]? else (store.bytes block)[p]?
  length : (store'.bytes block).length = (store.bytes block).length
  elsewhere : ∀ other, other ≠ block → store'.bytes other = store.bytes other

theorem Store.updated_write {store : Store} {block : BlockId} {start : Nat} {new : Bytes}
    (has : store.Has block) (fits : start + new.length ≤ (store.bytes block).length) :
    store.Updated block start new (store.write block start new) where
  bytes p := by
    rw [write, bytes_replace_self _ has, getElem?_patch fits]
  length := by
    rw [write, bytes_replace_self _ has, length_patch]
  elsewhere other hne := bytes_replace_of_ne _ hne

end ArrayExchange
