import ArrayExchange.Proofs.Element.Coding
import ArrayExchange.Proofs.Memory.Access
import ArrayExchange.Proofs.NdArray.Validation
import ArrayExchange.Proofs.Shape.Span

/-!
# Arrays and grids

An array becomes a grid if its shape covers its elements and stays within the limit of grids.  A view of
a grid becomes an array by listing its elements in row-major order, and such an array always becomes a
grid again.

* `Grid.ofList_ok`, `Grid.ofList_error` — the shapes and elements that make a grid.
* `NdArray.fromView_logical_order` — an array from a view shows what the view shows.
* `NdArray.toGrid_validated` — an array whose shape was checked becomes a grid, unless the extents beside
  a zero multiply beyond the limit of grids.
* `NdArray.overflow_beside_zero` — such an array.
-/

namespace ArrayExchange

namespace Grid

variable {α : Type} {shape : Shape} {data : List α}

/-- A shape within the limit that covers the elements makes a grid of them. -/
theorem ofList_ok (hspan : shape.span < spanLimit) (hprod : shape.prod = data.length) :
    ∃ grid, ofList shape data = .ok grid ∧ grid.shape = shape ∧ grid.data = data := by
  have hlength : data.length = shape.product := by rw [Shape.product_eq_prod, hprod]
  refine ⟨⟨shape, data, hspan, hlength⟩, ?_, rfl, rfl⟩
  rw [ofList, dif_pos hspan, dif_pos hlength]

/-- The limit is checked first. -/
theorem ofList_overflow (hspan : spanLimit ≤ shape.span) : ofList shape data = .error .overflow :=
  dif_neg (Nat.not_lt.mpr hspan)

/-- A failure is due to the limit or to the number of elements. -/
theorem ofList_error {error : GridError} (h : ofList shape data = .error error) :
    spanLimit ≤ shape.span ∨ shape.prod ≠ data.length := by
  by_cases hspan : spanLimit ≤ shape.span
  · exact .inl hspan
  · refine .inr ?_
    intro hprod
    obtain ⟨grid, hgrid, -⟩ := ofList_ok (Nat.lt_of_not_le hspan) hprod
    rw [hgrid] at h
    cases h

end Grid

namespace NdArray

variable {t : ElementType} {a : NdArray} {store : Store} {xs : List t.Value}

/-! ### From arrays to grids -/

/-- An array with elements of type `t` becomes a grid if they and its shape make one. -/
theorem toGrid_of_toList (h : a.toList t store = .ok xs) :
    a.toGrid t store = (Grid.ofList a.shape xs).mapError .grid := by
  unfold toGrid
  rw [h]
  rfl

theorem toGrid_ok (h : a.toList t store = .ok xs) (hspan : a.shape.span < Grid.spanLimit)
    (hprod : a.shape.prod = xs.length) :
    ∃ grid, a.toGrid t store = .ok grid ∧ grid.shape = a.shape ∧ grid.data = xs := by
  obtain ⟨grid, hgrid, hshape, hdata⟩ := Grid.ofList_ok hspan hprod
  refine ⟨grid, ?_, hshape, hdata⟩
  rw [toGrid_of_toList h, hgrid]
  rfl

/-- An array fails to become a grid because of its shape, if it has the right type. -/
theorem toGrid_error {error : GridError} (h : a.toGrid t store = .error (.grid error)) :
    Grid.spanLimit ≤ a.shape.span ∨ a.shape.prod ≠ a.count store := by
  by_cases htype : a.dtype = .numeric t
  · obtain ⟨xs, hxs⟩ := exists_toList htype store
    rw [toGrid_of_toList hxs] at h
    cases hgrid : Grid.ofList a.shape xs with
    | ok grid =>
        rw [hgrid] at h
        cases h
    | error error =>
        rw [← length_of_toList hxs]
        exact Grid.ofList_error hgrid
  · -- the error would be about the type
    cases hblock : a.typedBlock t with
    | ok block =>
        have hcontents := typedBlock_eq_ok_iff.mp hblock
        unfold dtype at htype
        rw [hcontents] at htype
        exact absurd rfl htype
    | error failure =>
        unfold toGrid toList at h
        rw [hblock, (typedBlock_error hblock).1] at h
        cases h

/-! ### From views to arrays -/

/-- A new array has the elements that it was made of. -/
theorem fromElements_toList (t : ElementType) (xs : List t.Value) (shape : Option Shape)
    (store : Store) :
    (fromElements t xs shape store).result.1.toList t (fromElements t xs shape store).result.2 =
      .ok xs := by
  apply toList_eq_ok_iff.mpr
  refine ⟨store.next, rfl, ?_⟩
  show t.decode ((store.alloc (t.encode xs)).2.bytes store.next) = xs
  rw [store.bytes_alloc_next, t.decode_encode]

/-- Nothing is reported about a shape that covers the elements of a new array. -/
theorem fromElements_events {shape : Shape} (h : shape.verdict xs.length = .covers) (store : Store) :
    (fromElements t xs (some shape) store).events = [] := by
  show shape.warnings ((t.encode xs).length / t.width) = []
  rw [t.length_encode, Nat.mul_div_cancel _ t.width_pos, Shape.warnings, h]

/-- An array from a view has the elements of the view in row-major order. -/
theorem fromView_elements {v : View t.Value} (sound : v.Sound) (store : Store) :
    let made := (fromView t v store).result
    made.1.toList t made.2 = .ok v.toList ∧ v.toList.length = v.shape.prod ∧
      ∀ k < v.shape.prod, v.toList[k]? = v.get? (v.shape.indexAt k) := by
  refine ⟨fromElements_toList t v.toList (some v.shape) store, ?_, ?_⟩
  · rw [sound.length_toList, Shape.product_eq_prod]
  · intro k hk
    rw [← Shape.product_eq_prod] at hk
    have hget := sound.getElem?_toList (Shape.contains_indexAt hk)
    rwa [Shape.offset_indexAt hk] at hget

/-- **An array from a view becomes a grid**, which agrees with the view. -/
theorem fromView_toGrid {v : View t.Value} (sound : v.Sound) (hspan : v.shape.span < Grid.spanLimit)
    (store : Store) :
    let made := (fromView t v store).result
    ∃ g, made.1.toGrid t made.2 = .ok g ∧ g.shape = v.shape ∧ ∀ index, v.shape.Contains index →
      ∃ x, g.get? index = some x ∧ v.get? index = some x := by
  intro made
  obtain ⟨hlist, hcount, -⟩ := fromView_elements sound store
  obtain ⟨g, hgrid, hshape, hdata⟩ := toGrid_ok hlist hspan hcount.symm
  refine ⟨g, hgrid, hshape, ?_⟩
  intro index hindex
  obtain ⟨x, hx⟩ := sound.exists_get? hindex
  refine ⟨x, ?_, hx⟩
  have hsame : g.shape = v.shape := hshape
  rw [Grid.get?, hdata, hsame, sound.getElem?_toList hindex, hx]

/-- **An array from a view shows what the view shows.**  Take any grid, permute its axes, run through
some of them backwards and thin them out.  An array that is made from this view has the shape of the
view, as many elements as the shape says, and nothing is reported.  Its elements are those of the grid
at the multi-indices of the view in row-major order, each mapped back through steps, reversals and
permutation.  The array becomes a grid again, which agrees with the view at every multi-index. -/
theorem fromView_logical_order (t : ElementType) (grid : Grid t.Value)
    (order reversed steps : List Nat) (store : Store)
    (horder : order.Perm (List.range grid.shape.length)) (hreversed : reversed.Nodup)
    (hlength : steps.length = grid.shape.length) (hpos : ∀ step ∈ steps, 0 < step) :
    let v := grid.view.rearrange order reversed steps
    let back := View.sourceIndex grid.shape order reversed steps
    let made := fromView t v store
    let a := made.result.1
    let store' := made.result.2
    v.shape = (order.map fun j => grid.shape.getD j 0).zipWith
      (fun extent step => (extent + step - 1) / step) steps ∧
    made.events = [] ∧ a.shape = v.shape ∧ a.count store' = v.shape.prod ∧
    (∃ xs, a.toList t store' = .ok xs ∧ xs.length = v.shape.prod ∧ ∀ k < xs.length,
      grid.shape.Contains (back (v.shape.indexAt k)) ∧
        xs[k]? = grid.get? (back (v.shape.indexAt k))) ∧
    ∃ g, a.toGrid t store' = .ok g ∧ g.shape = v.shape ∧ ∀ index, v.shape.Contains index →
      ∃ x, g.get? index = some x ∧ v.get? index = some x := by
  intro v back made a store'
  obtain ⟨sound, hget⟩ := View.rearrange_get? horder hreversed hlength hpos
  obtain ⟨hlist, hcount, helements⟩ := fromView_elements sound store
  rw [← View.length_axes_view] at horder hlength
  have hextents : v.shape = _ := View.shape_rearrange horder
  have hspan : v.shape.span < Grid.spanLimit := by
    have hle : v.shape.span ≤ grid.view.shape.span :=
      Shape.span_rearrange_le horder hlength hpos
    rw [View.shape_view] at hle
    exact Nat.lt_of_le_of_lt hle grid.span_lt
  have hcovers := Shape.verdict_of_span hspan hcount.symm
  rw [View.shape_view] at hextents
  refine ⟨hextents, fromElements_events hcovers store, rfl, (length_of_toList hlist).symm.trans hcount,
    ⟨v.toList, hlist, hcount, ?_⟩, fromView_toGrid sound hspan store⟩
  intro k hk
  rw [hcount] at hk
  have hindex : v.shape.Contains (v.shape.indexAt k) := by
    apply Shape.contains_indexAt
    rwa [Shape.product_eq_prod]
  obtain ⟨hcontains, hsource⟩ := hget _ hindex
  exact ⟨hcontains, (helements k hk).trans hsource⟩

/-- The columns of a grid of two rows and three columns, from the last one on and every second one: the
third column, then the first. -/
theorem fromView_logical_order_columns :
    let cells : List IntegerType.uint8.Value := [⟨1, by decide⟩, ⟨2, by decide⟩, ⟨3, by decide⟩,
      ⟨4, by decide⟩, ⟨5, by decide⟩, ⟨6, by decide⟩]
    let grid : Grid (ElementType.integer .uint8).Value := ⟨[2, 3], cells, by decide, rfl⟩
    let made := fromView (.integer .uint8) (grid.view.rearrange [1, 0] [0] [2, 1]) .empty
    made.events = [] ∧ made.result.1.shape = [2, 2] ∧
      ∃ xs, made.result.1.toList (.integer .uint8) made.result.2 = .ok xs ∧ xs.length = 4 ∧
        xs[0]? = cells[2]? ∧ xs[1]? = cells[5]? ∧ xs[2]? = cells[0]? ∧ xs[3]? = cells[3]? := by
  intro cells grid made
  obtain ⟨-, hevents, hshape, -, ⟨xs, hxs, hlength, hsource⟩, -⟩ :=
    fromView_logical_order (.integer .uint8) grid [1, 0] [0] [2, 1] .empty (.swap 0 1 []) (by decide)
      rfl (by decide)
  have hfour : xs.length = 4 := hlength
  let back (k : Nat) := View.sourceIndex [2, 3] [1, 0] [0] [2, 1] (Shape.indexAt [2, 2] k)
  have h₀ : back 0 = [0, 2] := by decide
  have h₁ : back 1 = [1, 2] := by decide
  have h₂ : back 2 = [0, 0] := by decide
  have h₃ : back 3 = [1, 0] := by decide
  exact ⟨hevents, hshape, xs, hxs, hfour,
    (hsource 0 (by omega)).2.trans (congrArg grid.get? h₀),
    (hsource 1 (by omega)).2.trans (congrArg grid.get? h₁),
    (hsource 2 (by omega)).2.trans (congrArg grid.get? h₂),
    (hsource 3 (by omega)).2.trans (congrArg grid.get? h₃)⟩

/-! ### Validated arrays -/

/-- The shape of an array that passed validation covers its elements. -/
theorem covers_of_validated {dtype : DType} {source : Source} {options : BuildOptions}
    {made : NdArray × Store}
    (h : (fromSource dtype source { options with validateShape := true } store).result = .ok made) :
    made.1.shape.verdict (made.1.count made.2) = .covers := by
  cases hb : source.backing dtype options.copy store with
  | error error =>
      rw [fromSource_of_error hb] at h
      cases h
  | ok backing =>
      rw [fromSource_strict hb] at h
      generalize settledShape source options (backing.count store) = shape at h
      cases hverdict : shape.verdict (backing.count store) with
      | covers =>
          simp only [Shape.fault?, hverdict] at h
          cases h
          rwa [backing.toArray_count]
      | mismatch | overflow =>
          simp only [Shape.fault?, hverdict] at h
          cases h

/-- **An array that passed validation becomes a grid** of its shape and its elements, as long as the
product of its non-zero extents stays within the limit of grids.  It does not become one otherwise,
although its shape covers its elements; that takes a zero among the extents, or as many elements as
the limit.  The store may be any one in which the array has as many elements as when it was made.  No
array of the right type fails to become a grid for another reason than these: the product of the
non-zero extents, or the number of elements. -/
theorem toGrid_validated (t : ElementType) :
    (∀ (source : Source) (options : BuildOptions) (store : Store) (made : NdArray × Store),
      (fromSource (.numeric t) source { options with validateShape := true } store).result =
        .ok made →
      ∀ later : Store, made.1.count later = made.1.count made.2 →
        ∃ xs, made.1.toList t later = .ok xs ∧ xs.length = made.1.count later ∧
          made.1.shape.prod = xs.length ∧
          (made.1.shape.span < Grid.spanLimit →
            ∃ grid, made.1.toGrid t later = .ok grid ∧ grid.shape = made.1.shape ∧ grid.data = xs) ∧
          (Grid.spanLimit ≤ made.1.shape.span →
            made.1.toGrid t later = .error (.grid .overflow) ∧
              (0 ∈ made.1.shape ∨ Grid.spanLimit ≤ xs.length))) ∧
    ∀ (a : NdArray) (store : Store) (error : GridError),
      a.toGrid t store = .error (.grid error) →
        Grid.spanLimit ≤ a.shape.span ∨ a.shape.prod ≠ a.count store := by
  refine ⟨?_, fun _ _ _ failed => toGrid_error failed⟩
  intro source options store made h later hlater
  obtain ⟨xs, hxs⟩ := exists_toList (fromSource_ok h).1 later
  have hlength := length_of_toList hxs
  have hprod : made.1.shape.prod = xs.length := by
    rw [hlength, hlater]
    exact Shape.prod_of_covers (covers_of_validated h)
  refine ⟨xs, hxs, hlength, hprod, fun hspan => toGrid_ok hxs hspan hprod, ?_⟩
  intro hspan
  refine ⟨?_, hprod ▸ Shape.zero_mem_or_le _ hspan⟩
  rw [toGrid_of_toList hxs, Grid.ofList_overflow hspan]
  rfl

/-- An array without elements, in the shape `0` by `2 ^ 62`. -/
theorem toGrid_validated_empty :
    let made := fromSource (.numeric .bool) (.values [])
      { shape := some [0, 0x4000000000000000], validateShape := true } .empty
    ∃ a store grid, made.result = .ok (a, store) ∧ a.toGrid .bool store = .ok grid ∧
      grid.shape = [0, 0x4000000000000000] ∧ grid.data = [] := by
  intro made
  obtain ⟨validated, -⟩ := toGrid_validated .bool
  obtain ⟨xs, -, hlength, hprod, hgrid, -⟩ := validated (.values [])
    { shape := some [0, 0x4000000000000000] } .empty _ rfl _ rfl
  obtain ⟨grid, hok, hshape, hdata⟩ := hgrid (by decide)
  have hnone : xs = [] := List.length_eq_zero_iff.mp hprod.symm
  exact ⟨_, _, grid, rfl, hok, hshape, hdata.trans hnone⟩

/-- **An array that covers its elements and becomes no grid.**  It has none, and its shape passed
validation. -/
theorem overflow_beside_zero :
    let made := fromSource (.numeric (.float .double)) (.values [])
      { shape := some [0, 0x8000000000000000], validateShape := true } .empty
    ∃ a store, made.result = .ok (a, store) ∧ a.shape = [0, 0x8000000000000000] ∧
      a.shape.prod = a.count store ∧
      a.toGrid (.float .double) store = .error (.grid .overflow) := by
  exact ⟨_, _, rfl, rfl, by decide, rfl⟩

end NdArray

end ArrayExchange
