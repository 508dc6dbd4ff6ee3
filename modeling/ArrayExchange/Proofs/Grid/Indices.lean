import ArrayExchange.Grid.View
import Mathlib.Data.List.Forall2

/-!
# Multi-indices

A multi-index has one index for each axis of a shape, each below the extent of its axis.  In row-major
order the last index runs fastest, so multi-indices are numbers in a mixed radix: the position of one is
its value, and its indices are the digits of the position.

* `Shape.Contains` — the multi-indices of a shape.
* `Shape.offset`, `Shape.indexAt` — the position of a multi-index, and the multi-index at a position.
* `Grid.get?` — the element of a grid at a multi-index.
* `View.position`, `View.get?` — where a view finds the element at a multi-index.
* `View.getElem?_positions` — a view visits its positions in row-major order.
-/

namespace ArrayExchange

namespace Shape

/-- A multi-index lies within a shape. -/
def Contains (shape : Shape) (index : List Nat) : Prop :=
  List.Forall₂ (fun extent i => i < extent) shape index

/-- The position of a multi-index in row-major order. -/
def offset : Shape → List Nat → Nat
  | _ :: rest, i :: index => i * product rest + offset rest index
  | _, _ => 0

/-- The multi-index at a position in row-major order. -/
def indexAt : Shape → Nat → List Nat
  | [], _ => []
  | _ :: rest, k => k / product rest :: indexAt rest (k % product rest)

variable {shape : Shape} {index : List Nat} {k : Nat}

/-- Every multi-index has a position. -/
theorem offset_lt (h : shape.Contains index) : shape.offset index < shape.product := by
  induction h with
  | nil => exact Nat.one_pos
  | @cons extent i rest index hi _ ih =>
      have hrow : (i + 1) * product rest ≤ extent * product rest := Nat.mul_le_mul_right _ hi
      rw [Nat.succ_mul] at hrow
      show i * product rest + offset rest index < extent * product rest
      omega

/-- Every position has a multi-index. -/
theorem contains_indexAt (h : k < shape.product) : shape.Contains (shape.indexAt k) := by
  induction shape generalizing k with
  | nil => exact .nil
  | cons extent rest ih =>
      have hk : k < product rest * extent := by
        rw [Nat.mul_comm]
        exact h
      have hpos : 0 < product rest := Nat.pos_of_mul_pos_right (Nat.zero_lt_of_lt hk)
      exact .cons (Nat.div_lt_of_lt_mul hk) (ih (Nat.mod_lt k hpos))

/-- **The multi-index at a position has this position.** -/
theorem offset_indexAt (h : k < shape.product) : shape.offset (shape.indexAt k) = k := by
  induction shape generalizing k with
  | nil =>
      have hone : k < 1 := h
      show 0 = k
      omega
  | cons extent rest ih =>
      have hpos : 0 < product rest := by
        apply Nat.pos_of_mul_pos_left (a := extent)
        exact Nat.zero_lt_of_lt h
      show k / product rest * product rest + offset rest (indexAt rest (k % product rest)) = k
      rw [ih (Nat.mod_lt k hpos), Nat.mul_comm]
      exact Nat.div_add_mod k (product rest)

end Shape

/-- The element of a grid at a multi-index. -/
def Grid.get? {α : Type} (grid : Grid α) (index : List Nat) : Option α :=
  grid.data[grid.shape.offset index]?

/-! ### Views -/

namespace View

variable {α : Type}

/-- How far from the start of a view the element at a multi-index is. -/
def distance : List Axis → List Nat → Int
  | axis :: axes, i :: index => i * axis.stride + distance axes index
  | _, _ => 0

/-- Where a view finds the element at a multi-index. -/
def position (v : View α) (index : List Nat) : Int := v.start + distance v.axes index

/-- The element of a view at a multi-index. -/
def get? (v : View α) (index : List Nat) : Option α := v.source[(v.position index).toNat]?

/-- The view of a whole grid finds an element at its position in row-major order. -/
theorem distance_axes (shape : Shape) (index : List Nat) :
    distance shape.axes index = (shape.offset index : Nat) := by
  induction shape generalizing index with
  | nil => cases index <;> rfl
  | cons extent rest ih =>
      cases index with
      | nil => rfl
      | cons i index =>
          show (i : Int) * (Shape.product rest : Nat) + distance (Shape.axes rest) index =
            ((i * Shape.product rest + Shape.offset rest index : Nat) : Int)
          rw [ih]
          push_cast
          rfl

theorem shape_axes (shape : Shape) : shape.axes.map Axis.extent = shape := by
  induction shape with
  | nil => rfl
  | cons extent rest ih =>
      show extent :: (Shape.axes rest).map Axis.extent = _
      rw [ih]

theorem shape_view (grid : Grid α) : grid.view.shape = grid.shape := shape_axes grid.shape

theorem length_axes_view (grid : Grid α) : grid.view.axes.length = grid.shape.length := by
  rw [← shape_view, shape, List.length_map]

/-! ### Positions in order -/

/-- The parts of a list that is made of parts of one length follow each other. -/
theorem getElem?_flatMap_range {β : Type} {part : Nat → List β} {length : Nat}
    (h : ∀ i, (part i).length = length) {n i r : Nat} (hi : i < n) (hr : r < length) :
    ((List.range n).flatMap part)[i * length + r]? = (part i)[r]? := by
  induction n with
  | zero => exact absurd hi (Nat.not_lt_zero i)
  | succ n ih =>
      have hlength : ((List.range n).flatMap part).length = n * length := by
        simp [List.length_flatMap, h]
      rw [List.range_succ, List.flatMap_append, List.flatMap_singleton]
      by_cases hlast : i = n
      · subst hlast
        rw [List.getElem?_append_right (by omega), hlength, Nat.add_sub_cancel_left]
      · have hbefore : (i + 1) * length ≤ n * length := Nat.mul_le_mul_right _ (by omega)
        rw [Nat.succ_mul] at hbefore
        rw [List.getElem?_append_left (by omega), ih (by omega)]

/-- There is a position for each multi-index. -/
theorem length_positions (start : Int) (axes : List Axis) :
    (positions start axes).length = Shape.product (axes.map Axis.extent) := by
  induction axes generalizing start with
  | nil => rfl
  | cons axis axes ih => simp [positions, List.length_flatMap, ih, Shape.product]

/-- **Positions come in row-major order of their multi-indices.** -/
theorem getElem?_positions (start : Int) {axes : List Axis} {index : List Nat}
    (h : Shape.Contains (axes.map Axis.extent) index) :
    (positions start axes)[Shape.offset (axes.map Axis.extent) index]? =
      some (start + distance axes index) := by
  induction axes generalizing start index with
  | nil =>
      cases h
      simp [positions, Shape.offset, distance]
  | cons axis axes ih =>
      cases h with
      | @cons _ i _ index hi hrest =>
          have hlt := Shape.offset_lt hrest
          have hlength : ∀ i : Nat, (positions (start + i * axis.stride) axes).length =
              Shape.product (axes.map Axis.extent) := fun i => length_positions _ axes
          have hrow := getElem?_flatMap_range hlength hi hlt
          refine hrow.trans ?_
          rw [ih _ hrest, distance, Int.add_assoc]

/-- Every position is that of a multi-index. -/
theorem exists_index_of_mem {start p : Int} {axes : List Axis} (h : p ∈ positions start axes) :
    ∃ index, Shape.Contains (axes.map Axis.extent) index ∧ p = start + distance axes index := by
  obtain ⟨k, hk, rfl⟩ := List.mem_iff_getElem.mp h
  rw [length_positions] at hk
  refine ⟨_, Shape.contains_indexAt hk, ?_⟩
  have hposition := getElem?_positions start (Shape.contains_indexAt hk)
  rw [Shape.offset_indexAt hk] at hposition
  exact (List.getElem?_eq_some_iff.mp hposition).2

/-! ### Elements in order -/

/-- The positions of a view are positions of elements. -/
def Sound (v : View α) : Prop :=
  ∀ index, v.shape.Contains index → 0 ≤ v.position index ∧ v.position index < v.source.length

/-- An element at every position gives a list of as many elements, in the same order. -/
theorem filterMap_of_forall {β γ : Type} {f : β → Option γ} {xs : List β}
    (h : ∀ x ∈ xs, ∃ y, f x = some y) :
    (xs.filterMap f).length = xs.length ∧ ∀ k : Nat, (xs.filterMap f)[k]? = xs[k]?.bind f := by
  induction xs with
  | nil => exact ⟨rfl, fun _ => rfl⟩
  | cons x xs ih =>
      obtain ⟨y, hy⟩ := h x List.mem_cons_self
      obtain ⟨hlength, hget⟩ := ih fun z hz => h z (List.mem_cons_of_mem x hz)
      rw [List.filterMap_cons_some hy]
      refine ⟨by rw [List.length_cons, List.length_cons, hlength], ?_⟩
      intro k
      cases k with
      | zero => exact hy.symm
      | succ k => exact hget k

theorem Sound.exists_get? {v : View α} (h : v.Sound) {index : List Nat}
    (hindex : v.shape.Contains index) : ∃ x, v.get? index = some x := by
  obtain ⟨hnonneg, hlt⟩ := h index hindex
  have htoNat : (v.position index).toNat < v.source.length := by omega
  exact ⟨_, List.getElem?_eq_getElem htoNat⟩

theorem Sound.toList_facts {v : View α} (h : v.Sound) :
    v.toList.length = (positions v.start v.axes).length ∧
      ∀ k : Nat, v.toList[k]? =
        (positions v.start v.axes)[k]?.bind fun position : Int => v.source[position.toNat]? := by
  apply filterMap_of_forall
  intro p hp
  obtain ⟨index, hindex, rfl⟩ := exists_index_of_mem hp
  exact h.exists_get? hindex

/-- A view lists an element for each multi-index. -/
theorem Sound.length_toList {v : View α} (h : v.Sound) : v.toList.length = v.shape.product :=
  h.toList_facts.1.trans (length_positions _ _)

/-- **A view lists its elements in row-major order of their multi-indices.** -/
theorem Sound.getElem?_toList {v : View α} (h : v.Sound) {index : List Nat}
    (hindex : v.shape.Contains index) : v.toList[v.shape.offset index]? = v.get? index := by
  have hposition := getElem?_positions v.start hindex
  rw [h.toList_facts.2]
  show (positions v.start v.axes)[Shape.offset (v.axes.map Axis.extent) index]?.bind _ = _
  rw [hposition]
  rfl

end View

end ArrayExchange
