import ArrayExchange.Proofs.Shape.Product

/-!
# Strict and lenient construction

An array is built from a source in two ways.  A strict construction fails if the shape does not cover
the elements; a lenient one keeps the shape and reports it.  Both get the elements and the shape from
the same places, so each tells what the other one would do.

* `NdArray.settledShape` — the shape that an array from a source gets.
* `NdArray.fromSource_of_error`, `NdArray.fromSource_lenient`, `NdArray.fromSource_strict` — the
  construction in closed form: without elements, lenient and strict.
* `NdArray.validated_outcome` — what is said about an explicit shape, by the product of its extents.
* `NdArray.overflow_before_zero` — a shape that covers its elements is refused if extents in front of
  a zero multiply beyond the limit.
* `NdArray.Twins`, `NdArray.twins` — the four pairs of outcomes of both constructions.
* `NdArray.validation_agrees` — a strict construction fails just when the lenient one fails or warns.
-/

namespace ArrayExchange

/-- A source yields no elements of a type: JSON values are no bytes, and elements are complete. -/
inductive ArrayError.Unbacked : ArrayError → Prop
  | objectFromBytes : Unbacked .objectFromBytes
  | partialElement (width actual : Nat) : Unbacked (.partialElement width actual)

/-- Only raw bytes can fail to yield elements. -/
theorem Source.backing_error {source : Source} {dtype : DType} {copy : Bool} {store : Store}
    {error : ArrayError} (h : source.backing dtype copy store = .error error) : error.Unbacked := by
  cases dtype with
  | object =>
      cases source with
      | buffer block => cases h; exact .objectFromBytes
      | values | elements | array => cases h
  | numeric t =>
      cases source with
      | buffer block =>
          simp only [backing, numericBacking] at h
          split at h
          · cases h
          · cases h
            exact .partialElement _ _
      | values | elements => cases h
      | array a =>
          simp only [backing, numericBacking] at h
          split at h
          · split at h <;> cases h
          · cases h

/-- The array has as many elements as there were to become its contents. -/
theorem Backing.toArray_count (backing : Backing) (shape : Shape) (store : Store) :
    (backing.toArray shape store).1.count (backing.toArray shape store).2 = backing.count store := by
  cases backing with
  | shared type block => rfl
  | fresh type bytes =>
      show ((store.alloc bytes).2.bytes store.next).length / type.width = bytes.length / type.width
      rw [store.bytes_alloc_next]
  | values items => rfl

namespace NdArray

variable {dtype : DType} {source : Source} {options : BuildOptions} {store : Store} {backing : Backing}

/-! ### Construction in closed form -/

/-- The shape that an array from a source gets: the one in the options, or else that of the source, or
else one axis. -/
def settledShape (source : Source) (options : BuildOptions) (count : Nat) : Shape :=
  (options.shape.or source.shape?).getD [count]

/-- Without elements there is no array, whether the shape would be checked or not. -/
theorem fromSource_of_error {error : ArrayError}
    (h : source.backing dtype options.copy store = .error error) (strict : Bool) :
    fromSource dtype source { options with validateShape := strict } store = ⟨.error error, []⟩ := by
  unfold fromSource
  rw [h]

/-- A lenient construction keeps the shape. -/
theorem fromSource_lenient (h : source.backing dtype options.copy store = .ok backing) :
    let shape := settledShape source options (backing.count store)
    fromSource dtype source { options with validateShape := false } store =
      ⟨.ok (backing.toArray shape store), shape.warnings (backing.count store)⟩ := by
  unfold fromSource
  rw [h]
  rfl

/-- A strict construction checks the shape. -/
theorem fromSource_strict (h : source.backing dtype options.copy store = .ok backing) :
    let shape := settledShape source options (backing.count store)
    fromSource dtype source { options with validateShape := true } store =
      ⟨match shape.fault? (backing.count store) with
        | none => .ok (backing.toArray shape store)
        | some error => .error error, []⟩ := by
  unfold fromSource
  rw [h]
  rfl

/-! ### Explicit shapes -/

/-- The outcome of a strict construction with an explicit shape. -/
def withShape (dtype : DType) (source : Source) (options : BuildOptions) (store : Store)
    (shape : Shape) : Except ArrayError (NdArray × Store) :=
  (fromSource dtype source { options with shape := some shape, validateShape := true } store).result

/-- A strict construction with an explicit shape is judged by the verdict on this shape. -/
theorem withShape_of_verdict (h : source.backing dtype options.copy store = .ok backing)
    {shape : Shape} {large : Prop} [Decidable large] {product : Nat}
    (verdict : shape.verdict (backing.count store) =
      if large then .overflow else if product = backing.count store then .covers
      else .mismatch product) :
    withShape dtype source options store shape =
      if large then .error .shapeOverflow
      else if product = backing.count store then .ok (backing.toArray shape store)
      else .error (.shapeMismatch product (backing.count store)) := by
  let given : BuildOptions := { options with shape := some shape }
  have backed : source.backing dtype given.copy store = .ok backing := h
  rw [withShape, fromSource_strict backed]
  show (match shape.fault? (backing.count store) with
    | none => Except.ok (backing.toArray shape store)
    | some error => .error error) = _
  rw [Shape.fault?, verdict]
  by_cases hlarge : large
  · rw [if_pos hlarge, if_pos hlarge]
  · rw [if_neg hlarge, if_neg hlarge]
    by_cases hcount : product = backing.count store
    · rw [if_pos hcount, if_pos hcount]
    · rw [if_neg hcount, if_neg hcount]

/-- **What is said about an explicit shape.**  It is accepted when the product of its extents is the
number of elements, and is refused with this product when it is not; but it is refused as too large
when the extents in front of its first zero reach the limit.  Without a zero among the extents the
product alone decides, so their order does not matter. -/
theorem validated_outcome (h : source.backing dtype options.copy store = .ok backing) (shape : Shape) :
    (withShape dtype source options store shape =
      if Shape.countLimit ≤ shape.leading.prod then .error .shapeOverflow
      else if shape.prod = backing.count store then .ok (backing.toArray shape store)
      else .error (.shapeMismatch shape.prod (backing.count store))) ∧
    (0 ∉ shape → ∀ permuted : Shape, shape.Perm permuted →
      withShape dtype source options store permuted =
        if Shape.countLimit ≤ shape.prod then .error .shapeOverflow
        else if shape.prod = backing.count store then .ok (backing.toArray permuted store)
        else .error (.shapeMismatch shape.prod (backing.count store))) := by
  constructor
  · exact withShape_of_verdict h (Shape.verdict_eq shape _)
  · intro hzero permuted hperm
    have hzero' : 0 ∉ permuted := fun hmem => hzero (hperm.mem_iff.mpr hmem)
    apply withShape_of_verdict h
    rw [Shape.verdict_of_pos hzero', hperm.prod_nat]

/-- No elements, in the shape `0` by `2 ^ 32` by `2 ^ 32` and in the shape `2` by `3`. -/
theorem validated_outcome_empty :
    let empty := withShape (.numeric .bool) (.values []) {} .empty
    empty [0, 0x100000000, 0x100000000] =
        .ok ((Backing.fresh .bool []).toArray [0, 0x100000000, 0x100000000] .empty) ∧
      empty [3, 2] = .error (.shapeMismatch 6 0) := by
  intro empty
  have backed : (Source.values []).backing (.numeric .bool) ({} : BuildOptions).copy .empty =
      .ok (.fresh .bool []) := rfl
  exact ⟨(validated_outcome backed [0, 0x100000000, 0x100000000]).1,
    (validated_outcome backed [2, 3]).2 (by decide) [3, 2] (.swap 3 2 [])⟩

/-- **A shape that covers its elements is refused** if extents in front of a zero multiply beyond the
limit.  With the zero in front of them it is accepted. -/
theorem overflow_before_zero :
    let empty := withShape (.numeric (.float .double)) (.values []) {} .empty
    List.prod [0x100000000, 0x100000000, 0] = (Backing.fresh (.float .double) []).count .empty ∧
      (Source.values []).backing (.numeric (.float .double)) false .empty =
        .ok (.fresh (.float .double) []) ∧
      empty [0x100000000, 0x100000000, 0] = .error .shapeOverflow ∧
      ∃ made, empty [0, 0x100000000, 0x100000000] = .ok made := by
  exact ⟨by decide, rfl, rfl, ⟨_, rfl⟩⟩

/-! ### Both at once -/

/-- What a lenient and a strict construction from one source come to. -/
inductive Twins : Logged (Except ArrayError (NdArray × Store)) →
    Logged (Except ArrayError (NdArray × Store)) → Prop
  /-- There are no elements. -/
  | failed {error : ArrayError} (unbacked : error.Unbacked) :
      Twins ⟨.error error, []⟩ ⟨.error error, []⟩
  /-- The shape covers the elements. -/
  | passed (made : NdArray × Store) : Twins ⟨.ok made, []⟩ ⟨.ok made, []⟩
  | mismatch (made : NdArray × Store) (expected : Nat) :
      Twins ⟨.ok made, [.shapeMismatch made.1.shape expected (made.1.count made.2)]⟩
        ⟨.error (.shapeMismatch expected (made.1.count made.2)), []⟩
  | overflow (made : NdArray × Store) :
      Twins ⟨.ok made, [.shapeOverflow made.1.shape (made.1.count made.2)]⟩
        ⟨.error .shapeOverflow, []⟩

/-- **Both constructions come to one of four pairs of outcomes.** -/
theorem twins (dtype : DType) (source : Source) (options : BuildOptions) (store : Store) :
    Twins (fromSource dtype source { options with validateShape := false } store)
      (fromSource dtype source { options with validateShape := true } store) := by
  cases hb : source.backing dtype options.copy store with
  | error error =>
      rw [fromSource_of_error hb, fromSource_of_error hb]
      exact .failed (Source.backing_error hb)
  | ok backing =>
      rw [fromSource_lenient hb, fromSource_strict hb]
      generalize settledShape source options (backing.count store) = shape
      have judged := shape.judged (backing.count store)
      rw [← backing.toArray_count shape store] at judged ⊢
      generalize hmade : backing.toArray shape store = made at judged ⊢
      obtain rfl : made.1.shape = shape := by
        rw [← hmade]
        rfl
      generalize made.1.shape.warnings _ = warnings at judged ⊢
      generalize made.1.shape.fault? _ = fault at judged ⊢
      cases judged with
      | covers => exact .passed made
      | mismatch expected => exact .mismatch made expected
      | overflow => exact .overflow made

namespace Twins

variable {lenient strict : Logged (Except ArrayError (NdArray × Store))}

theorem error_of_error (h : Twins lenient strict) {error : ArrayError}
    (failed : lenient.result = .error error) : strict.result = .error error := by
  cases h with
  | failed => exact failed
  | passed | mismatch | overflow => cases failed

theorem ok_of_quiet (h : Twins lenient strict) {made : NdArray × Store}
    (ok : lenient.result = .ok made) (quiet : ∀ event ∈ lenient.events, event.level ≠ .warn) :
    strict.result = .ok made := by
  cases h with
  | failed => cases ok
  | passed => exact ok
  | mismatch | overflow => exact absurd rfl (quiet _ List.mem_cons_self)

theorem mismatch_of_message (h : Twins lenient strict) {event : Event} (mem : event ∈ lenient.events)
    (message : event.message = "array shape doesn't match its length") :
    ∃ expected actual : Nat, ("expected", expected.repr) ∈ event.fields ∧
      ("actual", actual.repr) ∈ event.fields ∧
      strict.result = .error (.shapeMismatch expected actual) := by
  cases h with
  | failed | passed => cases mem
  | mismatch made expected =>
      cases List.mem_singleton.mp mem
      exact ⟨expected, made.1.count made.2, by simp [Event.fields], by simp [Event.fields], rfl⟩
  | overflow =>
      cases List.mem_singleton.mp mem
      have other : "array shape element count overflows" ≠ "array shape doesn't match its length" := by
        decide
      exact absurd message other

theorem overflow_of_message (h : Twins lenient strict) {event : Event} (mem : event ∈ lenient.events)
    (message : event.message = "array shape element count overflows") :
    strict.result = .error .shapeOverflow := by
  cases h with
  | failed | passed => cases mem
  | mismatch =>
      cases List.mem_singleton.mp mem
      have other : "array shape doesn't match its length" ≠ "array shape element count overflows" := by
        decide
      exact absurd message other
  | overflow => rfl

theorem length_events_le (h : Twins lenient strict) : lenient.events.length ≤ 1 := by
  cases h with
  | failed | passed => exact Nat.zero_le 1
  | mismatch | overflow => exact Nat.le_refl 1

/-- Where a lenient construction has nothing to report, a strict one finds no fault with the shape. -/
theorem no_fault (h : Twins lenient strict) (quiet : lenient.events = []) :
    strict.result ≠ .error .shapeOverflow ∧
      ∀ expected actual, strict.result ≠ .error (.shapeMismatch expected actual) := by
  cases h with
  | failed unbacked => cases unbacked <;> exact ⟨nofun, nofun⟩
  | passed => exact ⟨nofun, nofun⟩
  | mismatch | overflow => cases quiet

end Twins

/-- One axis for all elements covers them. -/
theorem settledShape_covers {count : Nat} (hshape : options.shape = none)
    (hsource : ∀ a, source ≠ .array a) (hcount : count < Shape.countLimit) :
    (settledShape source options count).verdict count = .covers := by
  have hnone : source.shape? = none := by
    cases source with
    | array a => exact absurd rfl (hsource a)
    | _ => rfl
  rw [settledShape, hshape, hnone]
  exact Shape.verdict_singleton hcount

/-- Without a given shape, a strict construction is no stricter than a lenient one. -/
theorem fromSource_oneAxis (hshape : options.shape = none) (hsource : ∀ a, source ≠ .array a)
    (hcount : ∀ made, (fromSource dtype source { options with validateShape := false } store).result =
      .ok made → made.1.count made.2 < Shape.countLimit) :
    (fromSource dtype source { options with validateShape := false } store).events = [] := by
  cases hb : source.backing dtype options.copy store with
  | error error => rw [fromSource_of_error hb]
  | ok backing =>
      rw [fromSource_lenient hb] at hcount ⊢
      have hlt := hcount _ rfl
      rw [Backing.toArray_count] at hlt
      show Shape.warnings _ _ = []
      rw [Shape.warnings, settledShape_covers hshape hsource hlt]

/-- **A strict construction fails just when the lenient one fails or warns.**  If the lenient one fails,
the strict one fails with the same error.  If it succeeds without a warning, the strict one makes the
same array, in the same memory.  If it warns of a shape that holds another number of elements, the
strict one fails with the same two numbers, and if it warns of an overflow, the strict one fails with
that.  There is one warning at most.  Without a given shape there is none, unless the source is an
array with a shape of its own; the elements have to be few enough to be counted in 64 bits, as those of
every array in memory are. -/
theorem validation_agrees (dtype : DType) (source : Source) (options : BuildOptions) (store : Store) :
    let lenient := fromSource dtype source { options with validateShape := false } store
    let strict := fromSource dtype source { options with validateShape := true } store
    (∀ error, lenient.result = .error error → strict.result = .error error) ∧
    (∀ made, lenient.result = .ok made → (∀ event ∈ lenient.events, event.level ≠ .warn) →
      strict.result = .ok made) ∧
    (∀ event ∈ lenient.events, event.message = "array shape doesn't match its length" →
      ∃ expected actual : Nat, ("expected", expected.repr) ∈ event.fields ∧
        ("actual", actual.repr) ∈ event.fields ∧
        strict.result = .error (.shapeMismatch expected actual)) ∧
    (∀ event ∈ lenient.events, event.message = "array shape element count overflows" →
      strict.result = .error .shapeOverflow) ∧
    (lenient.events.filter fun event => event.level = .warn).length ≤ 1 ∧
    (options.shape = none → (∀ a, source ≠ .array a) →
      (∀ made, lenient.result = .ok made → made.1.count made.2 < Shape.countLimit) →
      (∀ event ∈ lenient.events, event.level ≠ .warn) ∧ strict.result ≠ .error .shapeOverflow ∧
        ∀ expected actual, strict.result ≠ .error (.shapeMismatch expected actual)) := by
  intro lenient strict
  have twins : Twins lenient strict := twins dtype source options store
  refine ⟨fun _ => twins.error_of_error, fun _ => twins.ok_of_quiet,
    fun _ => twins.mismatch_of_message, fun _ => twins.overflow_of_message,
    Nat.le_trans (List.length_filter_le _ _) twins.length_events_le, ?_⟩
  intro hshape hsource hcount
  have quiet : lenient.events = [] := fromSource_oneAxis hshape hsource hcount
  rw [quiet]
  exact ⟨nofun, twins.no_fault quiet⟩

/-- One element: in a shape for six, in a shape that overflows, and without a shape. -/
theorem validation_agrees_one :
    let source := Source.elements (.integer .uint8) [⟨7, by decide⟩]
    let build (strict : Bool) (shape : Option Shape) :=
      fromSource (.numeric (.integer .uint8)) source { shape, validateShape := strict } .empty
    (∃ expected actual : Nat,
        ("expected", expected.repr) ∈ [("shape", "[2, 3]"), ("expected", "6"), ("actual", "1")] ∧
        ("actual", actual.repr) ∈ [("shape", "[2, 3]"), ("expected", "6"), ("actual", "1")] ∧
        (build true (some [2, 3])).result = .error (.shapeMismatch expected actual)) ∧
      (build true (some [0x100000000, 0x100000000])).result = .error .shapeOverflow ∧
      (build true none).result = .ok ((Backing.fresh (.integer .uint8) [7]).toArray [1] .empty) ∧
      ∀ expected actual, (build true none).result ≠ .error (.shapeMismatch expected actual) := by
  intro source build
  let dtype := DType.numeric (.integer .uint8)
  have few : ∀ made, (build false none).result = .ok made →
      made.1.count made.2 < Shape.countLimit := by
    intro made h
    cases h
    decide
  obtain ⟨-, -, mismatch, -, -, -⟩ := validation_agrees dtype source { shape := some [2, 3] } .empty
  obtain ⟨-, -, -, overflow, -, -⟩ :=
    validation_agrees dtype source { shape := some [0x100000000, 0x100000000] } .empty
  obtain ⟨-, quiet, -, -, -, oneAxis⟩ := validation_agrees dtype source {} .empty
  obtain ⟨silent, -, accepted⟩ := oneAxis rfl nofun few
  exact ⟨mismatch (.shapeMismatch [2, 3] 6 1) List.mem_cons_self rfl,
    overflow (.shapeOverflow [0x100000000, 0x100000000] 1) List.mem_cons_self rfl,
    quiet _ rfl silent, accepted⟩

end NdArray

end ArrayExchange
