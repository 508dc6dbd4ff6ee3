import ArrayExchange.Grid.Basic

/-!
# Strided views of a grid

A view looks at the elements of a grid through axes of its own.  Each axis has an extent and a
stride, the distance between two neighbours along it; the element at a multi-index is found from
the start of the view by going the indexed number of strides along each axis.

* `Grid.view` is the view of a whole grid.
* `View.permute`, `View.reverse` and `View.every` rearrange the axes and move no element;
  `View.rearrange` does all three.
* `View.toList` lists the elements of a view in row-major order.
-/

namespace ArrayExchange

/-- One axis of a view. -/
structure Axis where
  extent : Nat
  stride : Int
  deriving DecidableEq

/-- The axis that keeps the indices `0`, `step`, `2 * step`, and so on. -/
def Axis.every (step : Nat) (axis : Axis) : Axis :=
  ⟨(axis.extent + step - 1) / step, axis.stride * step⟩

/-- A view of a list of elements. -/
structure View (α : Type) where
  source : List α
  /-- The position of the element at index zero of every axis. -/
  start : Int
  axes : List Axis

/-- The axes of a row-major grid: the stride of an axis is the product of the extents after it. -/
def Shape.axes : Shape → List Axis
  | [] => []
  | extent :: rest => ⟨extent, (Shape.product rest : Nat)⟩ :: axes rest

/-- The view of a whole grid. -/
def Grid.view {α : Type} (grid : Grid α) : View α := ⟨grid.data, 0, grid.shape.axes⟩

namespace View

variable {α : Type}

/-- The extents of a view. -/
def shape (v : View α) : Shape := v.axes.map Axis.extent

/-! ### Rearranging -/

/-- The view whose `i`-th axis is axis `order[i]` of the given one. -/
def permute (order : List Nat) (v : View α) : View α :=
  { v with axes := order.filterMap fun i => v.axes[i]? }

/-- The view that runs through one axis backwards. -/
def reverse (i : Nat) (v : View α) : View α :=
  match v.axes[i]? with
  | none => v
  | some axis =>
    { v with
      start := v.start + (axis.extent - 1 : Nat) * axis.stride
      axes := v.axes.set i { axis with stride := -axis.stride } }

/-- The view that keeps of axis `i` every `steps[i]`-th index. -/
def every (steps : List Nat) (v : View α) : View α :=
  { v with axes := v.axes.zipWith (fun axis step => Axis.every step axis) steps }

/-- The view that permutes the axes, then runs through some of them backwards, then thins out each
of them. -/
def rearrange (order reversed steps : List Nat) (v : View α) : View α :=
  (reversed.foldl (fun v i => v.reverse i) (v.permute order)).every steps

/-! ### Elements -/

/-- The positions that axes reach from a start, the last axis running fastest. -/
def positions (start : Int) : List Axis → List Int
  | [] => [start]
  | axis :: rest =>
    (List.range axis.extent).flatMap fun (i : Nat) => positions (start + i * axis.stride) rest

/-- The elements of a view in row-major order. -/
def toList (v : View α) : List α :=
  (positions v.start v.axes).filterMap fun position => v.source[position.toNat]?

end View

end ArrayExchange
