import ArrayExchange.Proofs.Grid.Indices
import Mathlib.Algebra.BigOperators.Group.List.Basic
import Mathlib.Data.List.GetD
import Mathlib.Tactic.Ring

/-!
# Rearranged views

Permuting axes, running through axes backwards and thinning out axes change the start, the extents and
the strides of a view, but move no element.  So each of them can be undone on multi-indices: what the
new view shows at a multi-index, the old view shows at another one, and that one is found from the
order, the reversed axes or the steps alone.

* `View.unpermute`, `View.unreverse`, `View.unthin` — a multi-index in front of each operation, and
  `View.sourceIndex`, in front of all three.
* `View.Reindexes` — one view shows another one at other multi-indices.
* `View.reindexes_permute`, `View.reindexes_reverses`, `View.reindexes_every` — the three operations.
* `View.rearrange_get?` — a rearranged view of a grid shows the element at `View.sourceIndex`.
-/

namespace ArrayExchange

namespace View

variable {α : Type} {u v w : View α} {axes : List Axis} {index order steps : List Nat}

/-! ### Multi-indices in front of an operation -/

/-- The multi-index in front of a permutation: along axis `order[i]` lies the index of axis `i`. -/
def unpermute (order index : List Nat) : List Nat :=
  (List.range order.length).map fun j => index.getD (order.idxOf j) 0

/-- The multi-index in front of reversals: along a reversed axis it is counted from the end. -/
def unreverse (shape : Shape) (reversed index : List Nat) : List Nat :=
  index.mapIdx fun i k => if i ∈ reversed then shape.getD i 0 - 1 - k else k

/-- The multi-index in front of steps. -/
def unthin (steps index : List Nat) : List Nat := index.zipWith (· * ·) steps

/-- The multi-index of a grid whose element is found at `index` after the axes were permuted, then some
of them were reversed, and then all of them were thinned out. -/
def sourceIndex (shape : Shape) (order reversed steps index : List Nat) : List Nat :=
  unpermute order
    (unreverse (order.map fun j => shape.getD j 0) reversed (unthin steps index))

/-! ### Views of views -/

/-- What `w` shows at a multi-index, `v` shows at another one. -/
structure Reindexes (v w : View α) (back : List Nat → List Nat) : Prop where
  source : w.source = v.source
  contains : ∀ index, w.shape.Contains index → v.shape.Contains (back index)
  position : ∀ index, w.shape.Contains index → w.position index = v.position (back index)

theorem Reindexes.refl (v : View α) : v.Reindexes v id := ⟨rfl, fun _ h => h, fun _ _ => rfl⟩

theorem Reindexes.trans {back back' : List Nat → List Nat} (h : u.Reindexes v back)
    (h' : v.Reindexes w back') : u.Reindexes w fun index => back (back' index) where
  source := h'.source.trans h.source
  contains index hindex := h.contains _ (h'.contains index hindex)
  position index hindex :=
    (h'.position index hindex).trans (h.position _ (h'.contains index hindex))

/-! ### Permuting -/

/-- Distances are sums over the axes, each with its index. -/
theorem distance_eq_sum (axes : List Axis) (index : List Nat) :
    distance axes index = ((axes.zip index).map fun p => (p.2 : Int) * p.1.stride).sum := by
  induction axes generalizing index with
  | nil => cases index <;> rfl
  | cons axis axes ih =>
      cases index with
      | nil => rfl
      | cons i index => rw [distance, ih, List.zip_cons_cons, List.map_cons, List.sum_cons]

/-- A multi-index has an index for each axis, below its extent. -/
theorem contains_iff_zip : Shape.Contains (axes.map Axis.extent) index ↔
    axes.length = index.length ∧ ∀ p ∈ axes.zip index, p.2 < p.1.extent := by
  rw [Shape.Contains, List.forall₂_map_left_iff, List.forall₂_iff_zip]
  exact and_congr_right fun _ => ⟨fun h p hp => h hp, fun h a b hp => h (a, b) hp⟩

/-- The axes after a permutation. -/
theorem axes_permute (h : order.Perm (List.range axes.length)) :
    (order.filterMap fun i => axes[i]?) = order.map fun j => axes.getD j ⟨0, 0⟩ := by
  apply List.filterMap_eq_map_iff_forall_eq_some.mpr
  intro j hj
  have hlt : j < axes.length := List.mem_range.mp (h.mem_iff.mp hj)
  rw [List.getElem?_eq_getElem hlt, List.getD_eq_getElem _ _ hlt]

/-- **The axes with their indices** are the same in front of a permutation, in another order. -/
theorem zip_permute (h : order.Perm (List.range axes.length)) (hlength : index.length = order.length) :
    ((order.map fun j => axes.getD j ⟨0, 0⟩).zip index).Perm (axes.zip (unpermute order index)) := by
  have hcount : order.length = axes.length := by
    rw [h.length_eq, List.length_range]
  have hnodup : order.Nodup := h.nodup_iff.mpr List.nodup_range
  let pair (j : Nat) : Axis × Nat := (axes.getD j ⟨0, 0⟩, index.getD (order.idxOf j) 0)
  have hnew : (order.map fun j => axes.getD j ⟨0, 0⟩).zip index = order.map pair := by
    apply List.ext_getElem
    · simp [hlength]
    · intro i hi hi'
      have hlt : i < order.length := by simpa using hi'
      simp [pair, hnodup.idxOf_getElem i hlt, List.getElem?_eq_getElem (hlength ▸ hlt)]
  have hold : axes.zip (unpermute order index) = (List.range axes.length).map pair := by
    apply List.ext_getElem
    · simp [unpermute, hcount]
    · intro j hj hj'
      have hlt : j < axes.length := by simpa using hj'
      simp [pair, unpermute, hlt]
  rw [hnew, hold]
  exact h.map pair

/-- **Permuting axes moves no element.** -/
theorem reindexes_permute (h : order.Perm (List.range v.axes.length)) :
    v.Reindexes (v.permute order) (unpermute order) := by
  have haxes : (v.permute order).axes = order.map fun j => v.axes.getD j ⟨0, 0⟩ := axes_permute h
  have hzip : ∀ index, (v.permute order).shape.Contains index →
      ((v.permute order).axes.zip index).Perm (v.axes.zip (unpermute order index)) := by
    intro index hindex
    have hlength := (contains_iff_zip.mp hindex).1
    rw [haxes, List.length_map] at hlength
    rw [haxes]
    exact zip_permute h hlength.symm
  refine ⟨rfl, ?_, ?_⟩
  · intro index hindex
    apply contains_iff_zip.mpr
    refine ⟨?_, ?_⟩
    · simp [unpermute, h.length_eq]
    · intro p hp
      exact (contains_iff_zip.mp hindex).2 p ((hzip index hindex).mem_iff.mpr hp)
  · intro index hindex
    have hsum := ((hzip index hindex).map fun p => (p.2 : Int) * p.1.stride).sum_eq
    rw [← distance_eq_sum, ← distance_eq_sum] at hsum
    show v.start + _ = v.start + _
    rw [hsum]

/-! ### Reversing -/

/-- Reversing an axis, seen from the start of the axes. -/
theorem distance_reverse {i : Nat} {axis : Axis} (h : axes[i]? = some axis)
    (hindex : Shape.Contains (axes.map Axis.extent) index) :
    Shape.Contains (axes.map Axis.extent) (index.modify i fun k => axis.extent - 1 - k) ∧
      (axis.extent - 1 : Nat) * axis.stride +
        distance (axes.set i { axis with stride := -axis.stride }) index =
      distance axes (index.modify i fun k => axis.extent - 1 - k) := by
  induction axes generalizing i index with
  | nil => cases h
  | cons first axes ih =>
      cases hindex with
      | @cons _ k _ index hk hrest =>
          cases i with
          | zero =>
              cases h
              have hmirror : axis.extent - 1 - k < axis.extent := by omega
              refine ⟨.cons hmirror hrest, ?_⟩
              have hsub : ((axis.extent - 1 - k : Nat) : Int) = (axis.extent - 1 : Nat) - k :=
                Nat.cast_sub (by omega)
              show (axis.extent - 1 : Nat) * axis.stride +
                  ((k : Int) * -axis.stride + distance axes index) =
                ((axis.extent - 1 - k : Nat) : Int) * axis.stride + distance axes index
              rw [hsub]
              ring
          | succ i =>
              obtain ⟨hcontains, hdistance⟩ := ih h hrest
              refine ⟨.cons hk hcontains, ?_⟩
              show _ + ((k : Int) * first.stride + distance (axes.set i _) index) =
                (k : Int) * first.stride + distance axes (index.modify i _)
              rw [← hdistance]
              ring

theorem shape_reverse (v : View α) (i : Nat) : (v.reverse i).shape = v.shape := by
  unfold reverse
  cases h : v.axes[i]? with
  | none => rfl
  | some axis =>
      show (v.axes.set i _).map Axis.extent = v.axes.map Axis.extent
      apply List.ext_getElem?
      intro j
      rw [List.getElem?_map, List.getElem?_map, List.getElem?_set]
      by_cases hj : i = j
      · subst hj
        have hlt : i < v.axes.length := (List.getElem?_eq_some_iff.mp h).1
        rw [if_pos rfl, if_pos hlt, h]
        rfl
      · rw [if_neg hj]

/-- A reversal of one axis modifies one index. -/
theorem unreverse_singleton (shape : Shape) (i : Nat) (index : List Nat) :
    unreverse shape [i] index = index.modify i fun k => shape.getD i 0 - 1 - k := by
  apply List.ext_getElem?
  intro j
  rw [unreverse, List.getElem?_mapIdx, List.getElem?_modify]
  by_cases hj : i = j
  · subst hj
    cases index[i]? <;> simp
  · have hj' : j ≠ i := fun e => hj e.symm
    cases index[j]? <;> simp [hj, hj']

/-- Axes are reversed one after the other. -/
theorem unreverse_cons (shape : Shape) {i : Nat} {reversed : List Nat} (h : i ∉ reversed)
    (index : List Nat) :
    unreverse shape [i] (unreverse shape reversed index) = unreverse shape (i :: reversed) index := by
  unfold unreverse
  rw [List.mapIdx_mapIdx]
  congr 1
  funext j k
  by_cases hj : j = i
  · subst hj
    simp [h]
  · simp [hj]

/-- Running through one axis backwards moves no element. -/
theorem reindexes_reverse (v : View α) (i : Nat) :
    v.Reindexes (v.reverse i) (unreverse v.shape [i]) := by
  cases h : v.axes[i]? with
  | none =>
      -- there is no such axis, and no index for it
      have hsame : v.reverse i = v := by
        unfold reverse
        rw [h]
      have hindex : ∀ index, v.shape.Contains index → unreverse v.shape [i] index = index := by
        intro index hindex
        have hlength := (contains_iff_zip.mp hindex).1
        have hout : index.length ≤ i := hlength ▸ List.getElem?_eq_none_iff.mp h
        rw [unreverse_singleton, List.modify_eq_self hout]
      rw [hsame]
      refine ⟨rfl, ?_, ?_⟩
      · intro index hcontains
        rwa [hindex index hcontains]
      · intro index hcontains
        rw [hindex index hcontains]
  | some axis =>
      have hextent : v.shape.getD i 0 = axis.extent := by
        rw [View.shape, List.getD_eq_getElem?_getD, List.getElem?_map, h]
        rfl
      have hview : v.reverse i =
          { v with
            start := v.start + (axis.extent - 1 : Nat) * axis.stride
            axes := v.axes.set i { axis with stride := -axis.stride } } := by
        unfold reverse
        rw [h]
      refine ⟨by rw [hview], ?_, ?_⟩
      · intro index hindex
        rw [shape_reverse] at hindex
        rw [unreverse_singleton, hextent]
        exact (distance_reverse h hindex).1
      · intro index hindex
        rw [shape_reverse] at hindex
        rw [unreverse_singleton, hextent, position, position, ← (distance_reverse h hindex).2, hview]
        ring

theorem shape_reverses (v : View α) (reversed : List Nat) :
    (reversed.foldl (fun v i => v.reverse i) v).shape = v.shape := by
  induction reversed generalizing v with
  | nil => rfl
  | cons i reversed ih => rw [List.foldl_cons, ih, shape_reverse]

/-- **Running through axes backwards moves no element.** -/
theorem reindexes_reverses (v : View α) {reversed : List Nat} (h : reversed.Nodup) :
    v.Reindexes (reversed.foldl (fun v i => v.reverse i) v) (unreverse v.shape reversed) := by
  induction reversed generalizing v with
  | nil =>
      have hnone : unreverse v.shape [] = id := by
        funext index
        apply List.ext_getElem?
        intro j
        simp [unreverse, List.getElem?_mapIdx]
      rw [hnone]
      exact .refl v
  | cons i reversed ih =>
      obtain ⟨hfresh, hnodup⟩ := List.nodup_cons.mp h
      have hrest := ih (v.reverse i) hnodup
      rw [shape_reverse] at hrest
      have hboth : unreverse v.shape (i :: reversed) =
          fun index => unreverse v.shape [i] (unreverse v.shape reversed index) := by
        funext index
        exact (unreverse_cons v.shape hfresh index).symm
      rw [hboth]
      exact (v.reindexes_reverse i).trans hrest

/-! ### Thinning out -/

/-- Thinning out axes, seen from the start of the axes. -/
theorem distance_every (hlength : steps.length = axes.length) (hpos : ∀ step ∈ steps, 0 < step)
    (h : Shape.Contains ((axes.zipWith (fun axis step => axis.every step) steps).map Axis.extent)
      index) :
    Shape.Contains (axes.map Axis.extent) (unthin steps index) ∧
      distance (axes.zipWith (fun axis step => axis.every step) steps) index =
        distance axes (unthin steps index) := by
  induction axes generalizing steps index with
  | nil =>
      cases h
      exact ⟨.nil, rfl⟩
  | cons axis axes ih =>
      cases steps with
      | nil => cases hlength
      | cons step steps =>
          cases h with
          | @cons _ i _ index hi hrest =>
              have hstep : 0 < step := hpos step List.mem_cons_self
              obtain ⟨hcontains, hdistance⟩ := ih (Nat.succ.inj hlength)
                (fun s hs => hpos s (List.mem_cons_of_mem step hs)) hrest
              have hlt : i * step < axis.extent := by
                have hceil : i + 1 ≤ (axis.extent + step - 1) / step := hi
                have hmul := (Nat.le_div_iff_mul_le hstep).mp hceil
                rw [Nat.succ_mul] at hmul
                omega
              refine ⟨.cons hlt hcontains, ?_⟩
              show (i : Int) * (axis.stride * step) + distance _ index =
                ((i * step : Nat) : Int) * axis.stride + distance axes (unthin steps index)
              rw [hdistance]
              push_cast
              ring

/-- **Thinning out axes moves no element.** -/
theorem reindexes_every (hlength : steps.length = v.axes.length) (hpos : ∀ step ∈ steps, 0 < step) :
    v.Reindexes (v.every steps) (unthin steps) where
  source := rfl
  contains _ hindex := (distance_every hlength hpos hindex).1
  position _ hindex := congrArg (v.start + ·) (distance_every hlength hpos hindex).2

/-! ### All three -/

/-- The shape of a permuted view. -/
theorem shape_permute (h : order.Perm (List.range v.axes.length)) :
    (v.permute order).shape = order.map fun j => v.shape.getD j 0 := by
  show (order.filterMap fun i => v.axes[i]?).map Axis.extent = _
  rw [axes_permute h, List.map_map]
  apply List.map_congr_left
  intro j hj
  have hlt : j < v.axes.length := List.mem_range.mp (h.mem_iff.mp hj)
  rw [View.shape, List.getD_eq_getElem _ _ (by rwa [List.length_map]), List.getElem_map,
    Function.comp_apply, List.getD_eq_getElem _ _ hlt]

/-- **A rearranged view is the view at other multi-indices.** -/
theorem reindexes_rearrange {reversed : List Nat} (horder : order.Perm (List.range v.axes.length))
    (hreversed : reversed.Nodup) (hlength : steps.length = v.axes.length)
    (hpos : ∀ step ∈ steps, 0 < step) :
    v.Reindexes (v.rearrange order reversed steps) (sourceIndex v.shape order reversed steps) := by
  have hpermute := reindexes_permute horder
  have hreverses := (v.permute order).reindexes_reverses hreversed
  rw [shape_permute horder] at hreverses
  have haxes : (reversed.foldl (fun v i => v.reverse i) (v.permute order)).axes.length =
      v.axes.length := by
    have hshape := congrArg List.length (shape_reverses (v.permute order) reversed)
    rw [shape_permute horder, List.length_map, horder.length_eq, List.length_range, View.shape,
      List.length_map] at hshape
    exact hshape
  exact (hpermute.trans hreverses).trans (reindexes_every (by rw [haxes, hlength]) hpos)

/-- The extents of a rearranged view: those of the grid in the new order, divided by the steps and
rounded up. -/
theorem shape_rearrange {reversed : List Nat} (horder : order.Perm (List.range v.axes.length)) :
    (v.rearrange order reversed steps).shape =
      (order.map fun j => v.shape.getD j 0).zipWith (fun extent step => (extent + step - 1) / step)
        steps := by
  rw [← shape_permute horder, ← shape_reverses (v.permute order) reversed]
  show (List.zipWith _ _ _).map Axis.extent = List.zipWith _ (List.map Axis.extent _) _
  rw [List.map_zipWith, List.zipWith_map_left]
  rfl

/-- **A rearranged view of a grid** shows at each multi-index the element of the grid at its source. -/
theorem rearrange_get? {grid : Grid α} {reversed : List Nat}
    (horder : order.Perm (List.range grid.shape.length)) (hreversed : reversed.Nodup)
    (hlength : steps.length = grid.shape.length) (hpos : ∀ step ∈ steps, 0 < step) :
    (grid.view.rearrange order reversed steps).Sound ∧
      ∀ index, (grid.view.rearrange order reversed steps).shape.Contains index →
        grid.shape.Contains (sourceIndex grid.shape order reversed steps index) ∧
        (grid.view.rearrange order reversed steps).get? index =
          grid.get? (sourceIndex grid.shape order reversed steps index) := by
  rw [← length_axes_view] at horder hlength
  have back := reindexes_rearrange horder hreversed hlength hpos
  rw [shape_view] at back
  have hcontains := back.contains
  rw [shape_view] at hcontains
  have hposition : ∀ index, (grid.view.rearrange order reversed steps).shape.Contains index →
      (grid.view.rearrange order reversed steps).position index =
        (grid.shape.offset (sourceIndex grid.shape order reversed steps index) : Nat) := by
    intro index hindex
    rw [back.position index hindex]
    show 0 + distance grid.shape.axes _ = _
    rw [distance_axes, Int.zero_add]
  constructor
  · intro index hindex
    have hlt := Shape.offset_lt (hcontains index hindex)
    rw [← grid.length_data] at hlt
    rw [hposition index hindex, back.source]
    show _ ∧ _ < ((grid.data.length : Nat) : Int)
    omega
  · intro index hindex
    refine ⟨hcontains index hindex, ?_⟩
    rw [get?, hposition index hindex, back.source]
    rfl

end View

end ArrayExchange
