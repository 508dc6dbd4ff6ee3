import ArrayExchange.Proofs.NdArray.Elements

/-!
# Integers in a new array

A new array of integers holds the numbers of its items, cut off toward zero and brought into the range of
its type.  The numbers are the exact ones.  The conversion goes by way of 64-bit data, but the rounding of
a long JSON integer is never noticed behind the ends of the range.

Infinities are stored as the ends of the range.  A JSON value that stands for no number is stored as `0`,
and so is a NaN.

* `Item.val_convert` — an item as an integer.
* `Item.Become.vals` — the integers that a list of items becomes.
* `NdArray.integers_truncated` — what a new array of integers holds, whatever it is made of.
-/

namespace ArrayExchange

variable {k : IntegerType}

/-! ### Items as integers -/

/-- No integer is a NaN, so integers that are alike are equal. -/
theorem ElementType.Alike.eq {x y : k.Value} (h : (integer k).Alike x y) : x = y := by
  rcases h with heq | ⟨hnan, -⟩
  · exact heq
  · cases hnan

/-- **An item is stored as its exact number**, cut off and brought into the range. -/
theorem Item.val_convert (k : IntegerType) (item : Item) :
    Subtype.val (item.convert (.integer k)) = item.exact.truncateWithin k.lo k.hi := by
  cases item with
  | element s x =>
      show (s.toBinary x).truncateWithin k.lo k.hi = (s.exact x).truncateWithin k.lo k.hi
      rw [Binary.truncateWithin_eq_exact, s.exact_toBinary]
  | json v => exact v.truncateWithin_toBinary k

theorem Item.Become.vals {items : List Item} {ys : List k.Value}
    (h : Item.Become (.integer k) items ys) :
    ys.map Subtype.val = items.map fun item => item.exact.truncateWithin k.lo k.hi := by
  apply map_eq_of_forall₂ h
  intro item y hy
  rw [← ElementType.Alike.eq hy, item.val_convert]

/-! ### New arrays -/

namespace NdArray

/-- **An array of integers holds exact numbers, cut off and brought into range.**  It can be built of
everything but incomplete raw bytes.  The integers in it are the numbers of its items without their
fractions or, for a number out of range, the end of the range on its side. -/
theorem integers_truncated (k : IntegerType) (store : Store) :
    (∀ (source : Source) (options : BuildOptions), (∀ block, source ≠ .buffer block) →
      ∃ made, (fromSource (.numeric (.integer k)) source { options with validateShape := false }
        store).result = .ok made) ∧
    (∀ (source : Source) (options : BuildOptions) (made : NdArray × Store),
      (fromSource (.numeric (.integer k)) source options store).result = .ok made →
        ∃ ys : List k.Value, made.1.toList (.integer k) made.2 = .ok ys ∧
          ys.map Subtype.val = (source.items (.integer k) store).map fun item =>
            item.exact.truncateWithin k.lo k.hi) ∧
    ∀ (values : List Json) (shape : Option Shape),
      let made := (fromValues (.numeric (.integer k)) values shape store).result
      ∃ ys : List k.Value, made.1.toList (.integer k) made.2 = .ok ys ∧
        ys.map Subtype.val = values.map fun v => v.exact.truncateWithin k.lo k.hi := by
  refine ⟨fun source options h => fromSource_lenient_ok h _ options store, ?_, ?_⟩
  · intro source options made h
    obtain ⟨ys, hys, hitems⟩ := fromSource_items h
    exact ⟨ys, hys, hitems.vals⟩
  · intro values shape made
    obtain ⟨ys, hys, hitems⟩ := fromValues_items (.integer k) values shape store
    refine ⟨ys, hys, ?_⟩
    rw [Item.Become.vals hitems, List.map_map]
    rfl

/-- The least and the greatest JSON integer, a number just above an end of the range, the infinities and
what is no number, stored as integers of one byte. -/
theorem integers_truncated_one_byte :
    let values : List Json := [.number (.int ⟨-0x8000000000000000, by decide⟩),
      .number (.int ⟨0xffffffffffffffff, by decide⟩),
      Json.ofBinary (Binary.ofBits .double 0x405fffffffffffff),
      Json.ofBinary (Binary.ofBits .double 0xbfffffffffffffff), .string "Infinity",
      .string "-Infinity", .string "NaN", .bool true, .null]
    ∃ made, (fromSource (.numeric (.integer .int8)) (.values values) {} .empty).result = .ok made ∧
      ∃ ys : List (IntegerType.Value .int8), made.1.toList (.integer .int8) made.2 = .ok ys ∧
        ys.map Subtype.val = [-128, 127, 127, -1, 127, -128, 0, 1, 0] := by
  intro values
  obtain ⟨made, hmade⟩ := (integers_truncated .int8 .empty).1 (.values values) {} nofun
  obtain ⟨ys, hys, hvals⟩ := (integers_truncated .int8 .empty).2.1 (.values values) {} made hmade
  refine ⟨made, hmade, ys, hys, hvals.trans ?_⟩
  decide +kernel

end NdArray

end ArrayExchange
