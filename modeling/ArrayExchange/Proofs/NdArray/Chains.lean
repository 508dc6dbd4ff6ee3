import ArrayExchange.Proofs.NdArray.Elements

/-!
# Chains of conversions

An array is converted, the new array is converted again, and so on.  Each conversion checks the shape that
it takes over.  The elements may stay where they are, be copied, change their width or become JSON values
and back, but there are always as many of them as before.  So what is said about the shape of the first
array is said about the shape of every array of the chain: it covers the elements of all of them, or the
chain ends at its first conversion.

* `Source.backing_array_count` — a conversion keeps the number of elements.
* `Conversion`, `Conversion.apply`, `Conversion.chain` — conversions, and the outcomes of a chain of them.
* `Conversion.apply_of_covers`, `Conversion.apply_of_fault` — one conversion of a valid and of an invalid
  array.
* `NdArray.chain_follows_shape` — a whole chain.
-/

namespace ArrayExchange

/-! ### Numbers of elements -/

theorem ElementType.length_encodeAs (t s : ElementType) (xs : List s.Value) :
    (t.encodeAs s xs).length = xs.length * t.width := by
  unfold encodeAs
  split
  · next e =>
      subst e
      exact s.length_encode xs
  · rw [length_encode, List.length_map]

theorem ElementType.length_encodeValues (t : ElementType) (values : List Json) :
    (t.encodeValues values).length = values.length * t.width := by
  rw [encodeValues, length_encode, List.length_map]

theorem Source.blockBacking_count (t : ElementType) (copy : Bool) (store : Store) (block : BlockId) :
    (blockBacking t copy store block).count store = (store.bytes block).length / t.width := by
  cases copy <;> rfl

/-- New bytes for `n` elements hold `n` elements. -/
theorem Backing.count_fresh {t : ElementType} {bytes : Bytes} {n : Nat} (h : bytes.length = n * t.width)
    (store : Store) : (Backing.fresh t bytes).count store = n := by
  show bytes.length / t.width = n
  rw [h, Nat.mul_div_cancel n t.width_pos]

/-- **An array yields as many elements as it has**, in whichever way they are taken over. -/
theorem Source.backing_array_count {a : NdArray} {dtype : DType} {copy : Bool} {store : Store}
    {backing : Backing} (h : (Source.array a).backing dtype copy store = .ok backing) :
    backing.count store = a.count store := by
  cases dtype with
  | object =>
      cases h
      exact a.length_toValues store
  | numeric t =>
      obtain ⟨shape, contents⟩ := a
      cases contents with
      | object items =>
          cases h
          exact Backing.count_fresh (t.length_encodeValues items) store
      | numeric s block =>
          simp only [Source.backing, numericBacking] at h
          by_cases hs : s = t
          · subst hs
            rw [if_pos rfl] at h
            cases h
            exact blockBacking_count s copy store block
          · rw [if_neg hs] at h
            cases h
            rw [Backing.count_fresh (t.length_encodeAs s _), s.length_decode]
            rfl

/-! ### Checks of a shape -/

namespace Shape

variable {shape : Shape} {count : Nat}

theorem fault?_of_covers (h : shape.count? = some count) : shape.fault? count = none := by
  rw [fault?, verdict, h]
  simp

theorem fault?_of_mismatch {expected : Nat} (h : shape.count? = some expected) (hne : expected ≠ count) :
    shape.fault? count = some (.shapeMismatch expected count) := by
  rw [fault?, verdict, h]
  simp [hne]

theorem fault?_of_overflow (h : shape.count? = none) : shape.fault? count = some .shapeOverflow := by
  rw [fault?, verdict, h]

end Shape

/-! ### Conversions -/

/-- A conversion of an array: the type asked for, and the options beside it. -/
structure Conversion where
  dtype : DType
  options : BuildOptions := {}

namespace Conversion

/-- What a conversion comes to: an array in a store, or an error, with what was reported. -/
abbrev Outcome := Logged (Except ArrayError (NdArray × Store))

variable {a : NdArray} {store : Store}

/-- Converts an array.  The new array takes over the shape, which is checked. -/
def apply (c : Conversion) (a : NdArray × Store) : Outcome :=
  NdArray.fromSource c.dtype (.array a.1) { c.options with shape := none, validateShape := true } a.2

/-- The conversion led to an array of the type asked for, with the given shape and number of elements, and
there was nothing to report. -/
def Keeps (shape : Shape) (count : Nat) (c : Conversion) (outcome : Outcome) : Prop :=
  ∃ made, outcome = ⟨.ok made, []⟩ ∧ made.1.dtype = c.dtype ∧ made.1.shape = shape ∧
    made.1.count made.2 = count

/-- A conversion is settled by the shape of the array and the number of its elements. -/
theorem apply_eq (c : Conversion) (a : NdArray) (store : Store) :
    ∃ backing : Backing, backing.dtype = c.dtype ∧ backing.count store = a.count store ∧
      c.apply (a, store) =
        ⟨match a.shape.fault? (a.count store) with
          | none => .ok (backing.toArray a.shape store)
          | some error => .error error, []⟩ := by
  have hsource : ∀ block, Source.array a ≠ .buffer block := nofun
  obtain ⟨backing, hb⟩ := Source.exists_backing hsource c.dtype c.options.copy store
  have hcount := Source.backing_array_count hb
  refine ⟨backing, (Source.backing_memory hb).1, hcount, ?_⟩
  let options : BuildOptions := { c.options with shape := none }
  have hstrict := @NdArray.fromSource_strict c.dtype (.array a) options store backing hb
  rw [hcount] at hstrict
  exact hstrict

/-- **A shape that covers the elements still does so after a conversion.** -/
theorem apply_of_covers (h : a.shape.count? = some (a.count store)) (c : Conversion) :
    c.Keeps a.shape (a.count store) (c.apply (a, store)) := by
  obtain ⟨backing, hdtype, hcount, happly⟩ := apply_eq c a store
  rw [Shape.fault?_of_covers h] at happly
  refine ⟨_, happly, ?_, rfl, ?_⟩
  · rw [backing.toArray_dtype, hdtype]
  · rw [backing.toArray_count, hcount]

/-- **A shape with a fault is refused**, whatever the type asked for. -/
theorem apply_of_fault {error : ArrayError} (h : a.shape.fault? (a.count store) = some error)
    (c : Conversion) : c.apply (a, store) = ⟨.error error, []⟩ := by
  obtain ⟨backing, -, -, happly⟩ := apply_eq c a store
  rw [happly, h]

/-! ### Chains -/

/-- The outcomes of conversions one after another, each of the array that the one before led to.  The chain
ends where a conversion fails. -/
def chain : List Conversion → NdArray × Store → List Outcome
  | [], _ => []
  | c :: rest, a =>
    match c.apply a with
    | ⟨.ok made, events⟩ => ⟨.ok made, events⟩ :: chain rest made
    | ⟨.error error, events⟩ => [⟨.error error, events⟩]

/-- From a valid array every conversion of a chain leads to a valid array, of one shape. -/
theorem chain_keeps {shape : Shape} {count : Nat} (hvalid : shape.count? = some count)
    (conversions : List Conversion) {a : NdArray} {store : Store} (hshape : a.shape = shape)
    (hcount : a.count store = count) :
    List.Forall₂ (Keeps shape count) conversions (chain conversions (a, store)) := by
  induction conversions generalizing a store with
  | nil => exact .nil
  | cons c rest ih =>
      subst hshape hcount
      obtain ⟨made, happly, hdtype, hshape, hcount⟩ := c.apply_of_covers hvalid
      simp only [chain, happly]
      exact .cons ⟨made, rfl, hdtype, hshape, hcount⟩ (ih hshape hcount)

end Conversion

namespace NdArray

open Conversion

/-- **Chains of conversions follow the shape of the first array.**  If it covers the elements, every
conversion of the chain succeeds without any report and keeps the shape and the number of elements.  If
it does not, or if its product overflows, the chain ends at its first conversion with an error that says
so, whatever the type asked for. -/
theorem chain_follows_shape (a : NdArray) (store : Store) :
    (a.shape.count? = some (a.count store) → ∀ conversions : List Conversion,
      List.Forall₂ (Keeps a.shape (a.count store)) conversions (chain conversions (a, store))) ∧
    (∀ expected, a.shape.count? = some expected → expected ≠ a.count store →
      ∀ (first : Conversion) (rest : List Conversion), chain (first :: rest) (a, store) =
        [⟨.error (.shapeMismatch expected (a.count store)), []⟩]) ∧
    (a.shape.count? = none → ∀ (first : Conversion) (rest : List Conversion),
      chain (first :: rest) (a, store) = [⟨.error .shapeOverflow, []⟩]) := by
  refine ⟨?_, ?_, ?_⟩
  · intro hvalid conversions
    exact chain_keeps hvalid conversions rfl rfl
  · intro expected hexpected hne first rest
    simp only [chain, first.apply_of_fault (Shape.fault?_of_mismatch hexpected hne)]
  · intro hoverflow first rest
    simp only [chain, first.apply_of_fault (Shape.fault?_of_overflow hoverflow)]

/-- Two integers are shared, copied, widened, made into JSON values, and narrowed to truth values.  In
shapes that do not cover them they are not even shared. -/
theorem chain_follows_shape_two :
    let int16 : DType := .numeric (.integer .int16)
    let store : Store := ⟨[[1, 0, 0xfe, 0xff]]⟩
    let pair (shape : Shape) := NdArray.mk shape (.numeric (.integer .int16) ⟨0⟩)
    let conversions : List Conversion :=
      [⟨int16, {}⟩, ⟨int16, { copy := true }⟩, ⟨.numeric (.float .double), {}⟩, ⟨.object, {}⟩,
        ⟨.numeric .bool, {}⟩]
    List.Forall₂ (Keeps [2, 1] 2) conversions (chain conversions (pair [2, 1], store)) ∧
      chain conversions (pair [3], store) = [⟨.error (.shapeMismatch 3 2), []⟩] ∧
      chain conversions (pair [0x100000000, 0x100000000], store) = [⟨.error .shapeOverflow, []⟩] := by
  intro int16 store pair conversions
  have hcount : ∀ shape, (pair shape).count store = 2 := by
    intro shape
    show [(1 : UInt8), 0, 0xfe, 0xff].length / IntegerType.int16.width = 2
    decide
  obtain ⟨hvalid, -, -⟩ := chain_follows_shape (pair [2, 1]) store
  obtain ⟨-, hmismatch, -⟩ := chain_follows_shape (pair [3]) store
  obtain ⟨-, -, hoverflow⟩ := chain_follows_shape (pair [0x100000000, 0x100000000]) store
  rw [hcount] at hvalid hmismatch
  exact ⟨hvalid (by decide) conversions, hmismatch 3 (by decide) (by decide) _ _,
    hoverflow (by decide) _ _⟩

end NdArray

end ArrayExchange
