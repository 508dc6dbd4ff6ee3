import ArrayExchange.Proofs.Bytes.Reversal

/-!
# Elements are read as they were written

The code of an element fits in its bytes, and every code stands for the element it belongs to.  So an
element is read as it was written, and so is a list of elements: its bytes are cut into those of each
element.

* `ElementType.code_lt`, `ElementType.ofCode_code` — one element and its code.
* `ElementType.read_write` — one element and its bytes.
* `ElementType.chunks_encode`, `ElementType.decode_encode` — a list of elements.
-/

namespace ArrayExchange

/-! ### Codes -/

theorem IntegerType.size_eq (k : IntegerType) : k.size = Nat.pow 256 k.width := by
  cases k <;> decide

theorem IntegerType.code_lt {k : IntegerType} (n : k.Value) : code n < k.size := by
  have hpos : (0 : Int) < k.size := Int.natCast_pos.mpr k.size_pos
  have hlt := Int.emod_lt_of_pos n.val hpos
  unfold code
  omega

/-- An integer of the range is found by its code. -/
theorem IntegerType.ofCode_code {k : IntegerType} (n : k.Value) : k.ofCode (code n) = n := by
  have hpos : (0 : Int) < k.size := Int.natCast_pos.mpr k.size_pos
  have hcode : (code n : Int) = n.val % k.size :=
    Int.toNat_of_nonneg (Int.emod_nonneg _ (Int.ne_of_gt hpos))
  obtain ⟨hlo, hhi⟩ := n.property
  apply Subtype.ext
  show k.lo + ((code n : Int) - k.lo) % k.size = n.val
  unfold hi at hhi
  rw [hcode, Int.emod_sub_emod, Int.emod_eq_of_lt (by omega) (by omega)]
  omega

theorem Format.two_signBit (f : Format) :
    2 * f.signBit = Nat.pow 256 (ElementType.float f).width := by
  cases f <;> decide

theorem Binary.toBits_lt {f : Format} (x : Binary f) : x.toBits < 2 * f.signBit := by
  have hcode := x.code_lt
  unfold toBits
  split <;> omega

/-- A datum is found by its word. -/
theorem Binary.ofBits_toBits {f : Format} (x : Binary f) : ofBits f x.toBits = x := by
  obtain ⟨negative, code, hcode⟩ := x
  have hsign := f.signBit_pos
  unfold ofBits toBits
  cases negative with
  | false =>
      simp only [Bool.false_eq_true, if_false, Nat.zero_add, Nat.div_eq_of_lt hcode,
        Nat.mod_eq_of_lt hcode]
      rfl
  | true =>
      simp only [if_true, Nat.add_div_left _ hsign, Nat.add_mod_left, Nat.div_eq_of_lt hcode,
        Nat.mod_eq_of_lt hcode]
      rfl

namespace ElementType

variable (t : ElementType)

/-- The code of an element fits in its bytes. -/
theorem code_lt (x : t.Value) : t.code x < Nat.pow 256 t.width := by
  cases t with
  | bool => cases x <;> decide
  | integer k => exact Nat.lt_of_lt_of_eq (IntegerType.code_lt x) k.size_eq
  | float f => exact Nat.lt_of_lt_of_eq (Binary.toBits_lt x) f.two_signBit

/-- An element is found by its code. -/
theorem ofCode_code (x : t.Value) : t.ofCode (t.code x) = x := by
  cases t with
  | bool => cases x <;> rfl
  | integer k => exact IntegerType.ofCode_code x
  | float f => exact Binary.ofBits_toBits x

/-! ### Bytes -/

/-- **An element is read as it was written.** -/
theorem read_write (x : t.Value) : t.read (t.write x) = x := by
  rw [read, write, Bytes.toNat_ofNat, Nat.mod_eq_of_lt (t.code_lt x), t.ofCode_code]

/-- The bytes of a list are cut into those of each element. -/
theorem chunks_encode (xs : List t.Value) : Bytes.chunks t.width (t.encode xs) = xs.map t.write := by
  have hpieces : ∀ p ∈ xs.map t.write, p.length = t.width := by
    intro p hp
    obtain ⟨x, -, rfl⟩ := List.mem_map.mp hp
    exact t.length_write x
  have hnone : ([] : Bytes).length < t.width := t.width_pos
  have hcut := Bytes.chunks_flatten_append hpieces hnone
  rwa [List.append_nil, ← List.flatMap_def] at hcut

/-- Nothing is left over behind the last element. -/
theorem remainder_encode (xs : List t.Value) : Bytes.remainder t.width (t.encode xs) = [] :=
  Bytes.remainder_eq_nil ⟨xs.length, by rw [length_encode, Nat.mul_comm]⟩

/-- **A list of elements is read as it was written.** -/
theorem decode_encode (xs : List t.Value) : t.decode (t.encode xs) = xs := by
  rw [decode, chunks_encode, List.map_map]
  have hread : t.read ∘ t.write = id := funext t.read_write
  rw [hread, List.map_id]

end ElementType

end ArrayExchange
