import ArrayExchange.Proofs.Binary.RoundedTwice
import ArrayExchange.Proofs.NdArray.Elements

/-!
# JSON integers as 32-bit data

A JSON integer is stored in an array of 32-bit data by way of a 64-bit datum, and so it is rounded twice.
Up to the length of a 64-bit significand the first rounding changes nothing, and the nearest 32-bit datum
is stored.  Among the longer integers those are missed that are led astray, and no others.

* `Source.json?` — the JSON values that an array is made of.
* `Json.RoundedTwice` — what the integers among JSON values become.
* `NdArray.singles_rounded_twice` — what a new array of 32-bit data holds for JSON integers.
* `NdArray.long_integer_astray` — an integer that is not stored as the nearest 32-bit datum.
-/

namespace ArrayExchange

/-- The JSON values that an array is made of, if it is made of such. -/
def Source.json? : Source → Option (List Json)
  | values items => some items
  | array a =>
    match a.contents with
    | .object items => some items
    | .numeric _ _ => none
  | _ => none

namespace Source

variable {source : Source} {values : List Json}

theorem items_of_json? (h : source.json? = some values) (t : ElementType) (store : Store) :
    source.items t store = values.map .json := by
  cases source with
  | values items =>
      cases h
      rfl
  | array a =>
      obtain ⟨shape, contents⟩ := a
      cases contents with
      | object items =>
          cases h
          rfl
      | numeric s block => cases h
  | buffer block => cases h
  | elements s xs => cases h

theorem ne_buffer_of_json? (h : source.json? = some values) (block : BlockId) :
    source ≠ .buffer block := by
  rintro rfl
  cases h

end Source

/-! ### Integers as items -/

/-- The 32-bit data of JSON values: those of integers are rounded twice. -/
def Json.RoundedTwice (values : List Json) (ys : List Binary32) : Prop :=
  List.Forall₂ (fun v y => ∀ n : WideInt, v = .number (.int n) → Binary.RoundedTwice n.val y) values ys

theorem WideInt.natAbs_le (n : WideInt) : n.val.natAbs ≤ 2 ^ 64 := by
  have hn := n.property
  omega

/-- **An integer among JSON values is rounded twice.** -/
theorem Item.roundedTwice {n : WideInt} {y : Binary32}
    (h : (ElementType.float .single).Alike ((Item.json (.number (.int n))).convert (.float .single)) y) :
    Binary.RoundedTwice n.val y := by
  have htwice := Binary.roundedTwice (WideInt.natAbs_le n)
  rcases h with heq | ⟨hnan, -⟩
  · rw [← heq]
    exact htwice
  · exact absurd hnan (Bool.eq_false_iff.mp (Binary.isNaN_of_isFinite htwice.second.isFinite))

theorem Item.Become.roundedTwice {values : List Json} {ys : List Binary32}
    (h : Item.Become (.float .single) (values.map .json) ys) : Json.RoundedTwice values ys := by
  have hpairs := List.forall₂_map_left_iff.mp h
  apply hpairs.imp
  rintro v y hy n rfl
  exact Item.roundedTwice hy

/-- **Short integers are not led astray.** -/
theorem Json.Number.not_ledAstray_of_short {n : WideInt} (h : (Json.Number.int n).Short) :
    ¬ LedAstray n.val := by
  apply not_ledAstray
  have hexact := Json.Number.exact_toBinary h
  rw [Binary.exact_of_isFinite (Json.Number.int n).isFinite_toBinary] at hexact
  exact ExactNumber.finite.inj hexact

/-- An integer just above the middle between two neighbours, of which the lower one is even. -/
theorem ledAstray_above_middle : LedAstray 0x20000020000001 := by
  have hvalue : (Binary.ofInt 0x20000020000001 : Binary64).value = 0x20000020000000 := by decide +kernel
  have hmiddle : Format.single.middle 0x5a000000 = 0x20000020000000 := by decide +kernel
  refine ⟨0x5a000000, by decide, ?_, ?_⟩
  · rw [hvalue, hmiddle]
    norm_num
  · rw [hvalue, if_pos (by decide)]
    norm_num

/-! ### New arrays -/

namespace NdArray

/-- **JSON integers in an array of 32-bit data** are rounded twice.  Such an array can be made of all JSON
values, listed or held by another array.  An integer is stored as the nearest 32-bit datum, just as one
rounding would find it, if and only if it is not led astray; those of a magnitude up to `2 ^ 53` are not. -/
theorem singles_rounded_twice (values : List Json) (store : Store) :
    (∀ source : Source, source.json? = some values →
      (∀ options : BuildOptions, ∃ made, (fromSource (.numeric (.float .single)) source
        { options with validateShape := false } store).result = .ok made) ∧
      ∀ (options : BuildOptions) (made : NdArray × Store),
        (fromSource (.numeric (.float .single)) source options store).result = .ok made →
          ∃ ys : List Binary32, made.1.toList (.float .single) made.2 = .ok ys ∧
            Json.RoundedTwice values ys) ∧
    (∀ shape : Option Shape,
      let made := (fromValues (.numeric (.float .single)) values shape store).result
      ∃ ys : List Binary32, made.1.toList (.float .single) made.2 = .ok ys ∧
        Json.RoundedTwice values ys) ∧
    ∀ n : WideInt, (Json.Number.int n).Short → ¬ LedAstray n.val := by
  refine ⟨fun source hsource => ⟨fun options => ?_, fun options made h => ?_⟩, ?_,
    fun n => Json.Number.not_ledAstray_of_short⟩
  · exact fromSource_lenient_ok (Source.ne_buffer_of_json? hsource) _ options store
  · obtain ⟨ys, hys, hitems⟩ := fromSource_items h
    rw [Source.items_of_json? hsource] at hitems
    exact ⟨ys, hys, hitems.roundedTwice⟩
  · intro shape made
    obtain ⟨ys, hys, hitems⟩ := fromValues_items (.float .single) values shape store
    exact ⟨ys, hys, hitems.roundedTwice⟩

/-- A long integer that is led astray and a short one that is rounded as it should be, both held by an array
of JSON values. -/
theorem singles_rounded_twice_held :
    let long : WideInt := ⟨0x20000020000001, by decide⟩
    let short : WideInt := ⟨0x1000001, by decide⟩
    let held : Source := .array ⟨[2], .object [.number (.int long), .number (.int short)]⟩
    held.json? = some [.number (.int long), .number (.int short)] ∧
      ∃ made, (fromSource (.numeric (.float .single)) held {} .empty).result = .ok made ∧
        ∃ x y : Binary32, made.1.toList (.float .single) made.2 = .ok [x, y] ∧
          ¬ x.Nearest long.val ∧ y.Nearest short.val ∧ y = Binary.ofInt short.val := by
  intro long short held
  obtain ⟨hheld, -, hshort⟩ := singles_rounded_twice [.number (.int long), .number (.int short)] .empty
  obtain ⟨hmake, hstored⟩ := hheld held rfl
  obtain ⟨made, hmade⟩ := hmake {}
  obtain ⟨ys, hys, hrounded⟩ := hstored _ made hmade
  refine ⟨rfl, made, hmade, ?_⟩
  cases hrounded with
  | @cons _ x _ _ hx hrest =>
      cases hrest with
      | @cons _ y _ _ hy hnil =>
          cases hnil
          have hastray := hshort short (by decide)
          refine ⟨x, y, hys, ?_, ?_, ?_⟩
          · rw [(hx long rfl).nearest_iff, not_not]
            exact ledAstray_above_middle
          · exact (hy short rfl).nearest_iff.mpr hastray
          · exact (hy short rfl).eq_iff.mpr hastray

/-- **A long integer is not stored as the nearest datum.**  It lies just above the middle between two
neighbours.  The first rounding takes it to the middle, and the second one takes the middle to the lower
neighbour, which has the even code. -/
theorem long_integer_astray :
    let n : WideInt := ⟨0x20000020000001, by decide⟩
    let made := (fromValues (.numeric (.float .single)) [.number (.int n)] none .empty).result
    made.1.toList (.float .single) made.2 = .ok [Binary.ofBits .single 0x5a000000] ∧
      (Binary.ofInt n.val : Binary32) = Binary.ofBits .single 0x5a000001 ∧
      ¬ (Binary.ofBits .single 0x5a000000).Nearest n.val := by
  intro n made
  have hstored : (Binary.ofBits .single 0x5a000000).value = 0x20000000000000 := by decide +kernel
  have hother : (Binary.ofBits .single 0x5a000001).value = 0x20000040000000 := by decide +kernel
  refine ⟨by decide +kernel, by decide +kernel, fun h => ?_⟩
  have hcloser := h.closest (Binary.ofBits .single 0x5a000001) (by decide)
  rw [hstored, hother] at hcloser
  norm_num [n] at hcloser

end NdArray

end ArrayExchange
