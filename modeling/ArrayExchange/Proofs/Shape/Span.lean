import ArrayExchange.Proofs.Grid.Rearrangement
import ArrayExchange.Proofs.Shape.Product

/-!
# Products of non-zero extents

Grids have a limit of their own.  It bounds the product of all extents that are not zero, wherever the
zeros stand, while the number of elements is formed from left to right and only what stands in front of
the first zero can exceed its limit.  A shape within the limit of grids is within that of counts; it
is not the other way around.

* `Shape.span_cons`, `Shape.span_of_pos` — the product of the non-zero extents.
* `Shape.verdict_of_span` — within the limit of grids, the verdict is about the product alone.
* `Shape.span_rearrange_le` — rearranging a view does not lead out of the limit.
-/

namespace ArrayExchange

namespace Shape

variable {shape : Shape} {count : Nat}

theorem product_eq_prod (shape : Shape) : shape.product = shape.prod := by
  induction shape with
  | nil => rfl
  | cons extent rest ih => rw [product, ih, List.prod_cons]

theorem span_eq_prod (shape : Shape) : shape.span = (shape.filter (· ≠ 0)).prod := product_eq_prod _

/-! ### One extent at a time -/

/-- An extent takes part in the span as itself, or as `1` if it is zero. -/
theorem span_cons (extent : Nat) (rest : Shape) : span (extent :: rest) = max 1 extent * span rest := by
  rw [span_eq_prod, span_eq_prod]
  by_cases hzero : extent = 0
  · subst hzero
    rw [List.filter_cons_of_neg (by decide), Nat.max_eq_left (Nat.zero_le 1), Nat.one_mul]
  · have hkept : decide (extent ≠ 0) = true := decide_eq_true hzero
    rw [List.filter_cons, if_pos hkept, List.prod_cons, Nat.max_eq_right (Nat.pos_of_ne_zero hzero)]

/-- Without zeros, the span is the number of elements. -/
theorem span_of_pos (h : 0 ∉ shape) : shape.span = shape.prod := by
  rw [span_eq_prod, List.filter_eq_self.mpr]
  intro extent hmem
  exact decide_eq_true fun hzero => h (hzero ▸ hmem)

theorem leading_prod_le_span (shape : Shape) : shape.leading.prod ≤ shape.span := by
  induction shape with
  | nil => exact Nat.le_refl 1
  | cons extent rest ih =>
      rw [span_cons]
      by_cases hzero : extent = 0
      · subst hzero
        have hspan : 0 < span rest := Nat.lt_of_lt_of_le (prod_leading_pos rest) ih
        show 1 ≤ max 1 0 * span rest
        rw [Nat.max_eq_left (Nat.zero_le 1), Nat.one_mul]
        exact hspan
      · rw [leading_cons hzero, List.prod_cons]
        exact Nat.mul_le_mul (Nat.le_max_right 1 extent) ih

/-! ### Both limits -/

/-- **A shape within the limit of grids** is judged by its product alone. -/
theorem verdict_of_span (h : shape.span < Grid.spanLimit) (hprod : shape.prod = count) :
    shape.verdict count = .covers := by
  have hlimit : Grid.spanLimit < countLimit := by decide
  have hleading := shape.leading_prod_le_span
  rw [verdict_eq, if_neg (by omega), if_pos hprod]

/-- A shape that covers its elements has their number as its product. -/
theorem prod_of_covers (h : shape.verdict count = .covers) : shape.prod = count := by
  rw [verdict_eq] at h
  by_cases hlarge : countLimit ≤ shape.leading.prod
  · rw [if_pos hlarge] at h
    cases h
  · rw [if_neg hlarge] at h
    by_cases hprod : shape.prod = count
    · exact hprod
    · rw [if_neg hprod] at h
      cases h

/-- Only beside a zero can the span of a shape exceed the number of its elements. -/
theorem zero_mem_or_le (shape : Shape) {limit : Nat} (h : limit ≤ shape.span) :
    0 ∈ shape ∨ limit ≤ shape.prod := by
  by_cases hzero : 0 ∈ shape
  · exact .inl hzero
  · rw [span_of_pos hzero] at h
    exact .inr h

/-! ### Rearranged shapes -/

theorem span_perm {other : Shape} (h : shape.Perm other) : shape.span = other.span := by
  rw [span_eq_prod, span_eq_prod]
  exact (h.filter _).prod_nat

/-- Dividing and rounding up does not make an extent larger. -/
theorem ceil_le (extent : Nat) {step : Nat} (hstep : 0 < step) : (extent + step - 1) / step ≤ extent := by
  cases extent with
  | zero => exact Nat.le_of_eq (Nat.div_eq_of_lt (by omega))
  | succ k =>
      have hmul : k ≤ step * k := Nat.le_mul_of_pos_left k hstep
      apply Nat.div_le_of_le_mul
      rw [Nat.mul_succ]
      omega

/-- Thinning out axes does not make the span larger. -/
theorem span_thin_le {steps : List Nat} (hlength : steps.length = shape.length)
    (hpos : ∀ step ∈ steps, 0 < step) :
    span (shape.zipWith (fun extent step => (extent + step - 1) / step) steps) ≤ shape.span := by
  induction shape generalizing steps with
  | nil => exact Nat.le_refl 1
  | cons extent rest ih =>
      cases steps with
      | nil => cases hlength
      | cons step steps =>
          have hrest := ih (Nat.succ.inj hlength) fun s hs => hpos s (List.mem_cons_of_mem step hs)
          have hceil := ceil_le extent (hpos step List.mem_cons_self)
          rw [List.zipWith_cons_cons, span_cons, span_cons]
          exact Nat.mul_le_mul (max_le_max_left 1 hceil) hrest

/-- **A rearranged view stays within the span** of what it is a view of. -/
theorem span_rearrange_le {α : Type} {v : View α} {order reversed steps : List Nat}
    (horder : order.Perm (List.range v.axes.length)) (hlength : steps.length = v.axes.length)
    (hpos : ∀ step ∈ steps, 0 < step) :
    (v.rearrange order reversed steps).shape.span ≤ v.shape.span := by
  have hrange : (List.range v.axes.length).map (fun j => v.shape.getD j 0) = v.shape := by
    apply List.ext_getElem
    · simp [View.shape]
    · intro j hj hj'
      simp [hj']
  have hpermuted : (order.map fun j => v.shape.getD j 0).Perm v.shape := by
    have hmap := horder.map fun j => v.shape.getD j 0
    rwa [hrange] at hmap
  rw [View.shape_rearrange horder, ← span_perm hpermuted]
  apply span_thin_le _ hpos
  rw [List.length_map, horder.length_eq, List.length_range, hlength]

end Shape

end ArrayExchange
