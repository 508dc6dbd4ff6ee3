import ArrayExchange.Proofs.Element.Conversion
import ArrayExchange.Proofs.NdArray.Validation

/-!
# All ways of converting an array

Elements of one numeric type become an array of another one along several ways: they are converted at
once or out of an array, and they may be JSON values in between, by themselves or in an array.  Whatever
the shapes, the stores and the options, all ways lead to the same bytes.

* `NdArray.bytes?` — the bytes of a numeric array.
* `Source.Holds` — what bytes a source yields, shared or copied.
* `Route`, `Route.convert` — the ways.
* `Route.convert_bytes` — every way leads to the bytes of the converted elements.
* `NdArray.conversions_agree` — no way can fail because of the elements, and all ways agree.
-/

namespace ArrayExchange

/-! ### Bytes of an array -/

/-- The bytes of a numeric array. -/
def NdArray.bytes? (store : Store) (a : NdArray) : Option Bytes := a.block?.map store.bytes

/-- The bytes of numeric elements that are about to become the contents of an array. -/
def Backing.bytes? (store : Store) : Backing → Option Bytes
  | shared _ block => some (store.bytes block)
  | fresh _ bytes => some bytes
  | values _ => none

theorem Backing.toArray_bytes? (backing : Backing) (shape : Shape) (store : Store) :
    (backing.toArray shape store).1.bytes? (backing.toArray shape store).2 = backing.bytes? store := by
  cases backing with
  | shared type block => rfl
  | fresh type bytes => exact congrArg some (store.bytes_alloc_next bytes)
  | values items => rfl

theorem Source.blockBacking_bytes? (t : ElementType) (copy : Bool) (store : Store) (block : BlockId) :
    (blockBacking t copy store block).bytes? store = some (store.bytes block) := by
  cases copy <;> rfl

/-! ### Bytes of a source -/

/-- A source yields elements of type `t` with the given bytes, whether they are copied or not. -/
def Source.Holds (t : ElementType) (store : Store) (bytes : Bytes) (source : Source) : Prop :=
  ∀ copy, ∃ backing, source.backing (.numeric t) copy store = .ok backing ∧
    backing.bytes? store = some bytes

namespace Source

variable {s t : ElementType} {store : Store} {bytes : Bytes} {source : Source} {a : NdArray}

theorem holds_elements (xs : List s.Value) : (elements s xs).Holds t store (t.encodeAs s xs) :=
  fun _ => ⟨_, rfl, rfl⟩

theorem holds_values (items : List Json) : (values items).Holds t store (t.encodeValues items) :=
  fun _ => ⟨_, rfl, rfl⟩

theorem holds_array_of_object {items : List Json} (h : a.contents = .object items) :
    (array a).Holds t store (t.encodeValues items) := by
  intro copy
  refine ⟨.fresh t (t.encodeValues items), ?_, rfl⟩
  simp only [backing, numericBacking, h]

/-- An array yields its elements, be they in the memory of the array or converted. -/
theorem holds_array {xs : List s.Value} {block : BlockId} (h : a.contents = .numeric s block)
    (hbytes : store.bytes block = s.encode xs) : (array a).Holds t store (t.encodeAs s xs) := by
  intro copy
  simp only [backing, numericBacking, h]
  by_cases hs : s = t
  · subst hs
    refine ⟨blockBacking s copy store block, if_pos rfl, ?_⟩
    rw [blockBacking_bytes?, hbytes, ElementType.encodeAs, if_pos rfl]
  · refine ⟨.fresh t (t.encodeAs s xs), ?_, rfl⟩
    rw [if_neg hs, hbytes, s.decode_encode]

/-- A lenient construction succeeds if there are elements. -/
theorem Holds.lenient (h : source.Holds t store bytes) (options : BuildOptions) :
    ∃ made, (NdArray.fromSource (.numeric t) source { options with validateShape := false } store).result =
      .ok made := by
  obtain ⟨backing, hb, -⟩ := h options.copy
  exact ⟨_, congrArg Logged.result (NdArray.fromSource_lenient hb)⟩

/-- Whatever is built of a source has the bytes of the source. -/
theorem Holds.made (h : source.Holds t store bytes) {options : BuildOptions} {made : NdArray × Store}
    (hmade : (NdArray.fromSource (.numeric t) source options store).result = .ok made) :
    made.1.dtype = .numeric t ∧ made.1.bytes? made.2 = some bytes := by
  obtain ⟨backing, hb, hbytes⟩ := h options.copy
  refine ⟨(NdArray.fromSource_ok hmade).1, ?_⟩
  obtain ⟨backing', shape, hb', rfl⟩ := NdArray.fromSource_eq hmade
  obtain rfl : backing = backing' := Except.ok.inj (hb.symm.trans hb')
  exact (backing.toArray_bytes? shape store).trans hbytes

end Source

/-! ### Routes -/

/-- The ways from elements of one numeric type to an array of another one. -/
inductive Route where
  /-- The elements are converted. -/
  | elements
  /-- An array of the elements is converted. -/
  | array
  /-- The elements become an array of JSON values, and its values are converted as a source. -/
  | values
  /-- The same, but that the values are converted by themselves. -/
  | listed
  /-- The elements become an array of JSON values, and this array is converted. -/
  | object

namespace Route

variable (t s : ElementType) (xs : List s.Value) (shape : Option Shape) (options : BuildOptions)
  (store : Store)

/-- The array of type `t` that elements of type `s` become along a way.  An array in between gets the
shape `shape`. -/
def convert : Route → Except ArrayError (NdArray × Store)
  | elements => (NdArray.fromSource (.numeric t) (.elements s xs) options store).result
  | array =>
    let made := (NdArray.fromElements s xs shape store).result
    (NdArray.fromSource (.numeric t) (.array made.1) options made.2).result
  | values => do
    let made ← (NdArray.fromSource .object (.elements s xs) { shape } store).result
    (NdArray.fromSource (.numeric t) (.values (made.1.toValues made.2)) options made.2).result
  | listed => do
    let made ← (NdArray.fromSource .object (.elements s xs) { shape } store).result
    return (NdArray.fromValues (.numeric t) (made.1.toValues made.2) options.shape made.2).result
  | object => do
    let made ← (NdArray.fromSource .object (.elements s xs) { shape } store).result
    (NdArray.fromSource (.numeric t) (.array made.1) options made.2).result

/-- The bytes to which a way leads. -/
def bytes : Route → Bytes
  | elements | array => t.encodeAs s xs
  | values | listed | object => t.encodeValues (xs.map s.toJson)

/-- A way without a check of the shape leads to an array. -/
theorem convert_lenient (route : Route) :
    ∃ made, route.convert t s xs shape { options with validateShape := false } store = .ok made := by
  cases route with
  | elements => exact (Source.holds_elements xs).lenient options
  | array =>
      have hbytes := store.bytes_alloc_next (s.encode xs)
      exact (Source.holds_array rfl hbytes).lenient options
  | values => exact (Source.holds_values (xs.map s.toJson)).lenient options
  | listed => exact ⟨_, rfl⟩
  | object => exact (Source.holds_array_of_object rfl).lenient options

variable {t s xs shape options store}

/-- An array along a way has the bytes to which the way leads. -/
theorem convert_ok {route : Route} {made : NdArray × Store}
    (h : route.convert t s xs shape options store = .ok made) :
    made.1.dtype = .numeric t ∧ made.1.bytes? made.2 = some (route.bytes t s xs) := by
  cases route with
  | elements => exact (Source.holds_elements xs).made h
  | array =>
      have hbytes := store.bytes_alloc_next (s.encode xs)
      exact (Source.holds_array rfl hbytes).made h
  | values => exact (Source.holds_values (xs.map s.toJson)).made h
  | listed =>
      cases h
      exact ⟨rfl, Backing.toArray_bytes? (.fresh t _) _ store⟩
  | object => exact (Source.holds_array_of_object rfl).made h

/-- **Every way leads to the bytes of the converted elements.** -/
theorem bytes_sameBytes (route : Route) :
    t.SameBytes (route.bytes t s xs) (t.encode (t.convert s xs)) := by
  cases route with
  | elements | array => exact t.encodeAs_sameBytes s xs
  | values | listed | object => exact t.encodeValues_sameBytes s xs

/-- Two ways lead to the same bytes, without exception if no element is a NaN. -/
theorem bytes_agree (route route' : Route) :
    t.SameBytes (route.bytes t s xs) (route'.bytes t s xs) ∧
      ((∀ x ∈ xs, s.isNaN x = false) → route.bytes t s xs = route'.bytes t s xs) := by
  refine ⟨route.bytes_sameBytes.trans route'.bytes_sameBytes.symm, ?_⟩
  intro hnan
  -- both are compared with the bytes of the converted elements, among which there is no NaN
  have hconverted : ∀ y ∈ t.decode (t.encode (t.convert s xs)), t.isNaN y = false := by
    rw [t.decode_encode]
    exact fun y hy => ElementType.isNaN_of_mem_convert hnan hy
  rw [route.bytes_sameBytes.symm.eq hconverted, route'.bytes_sameBytes.symm.eq hconverted]

end Route

/-- **All ways of converting elements agree.**  No way can fail because of the elements, and if two of
them lead to an array, whatever the options and the shapes on the way, both arrays have the type asked
for and the same bytes.  Only which of the NaNs an element is may depend on the way; without NaNs the
bytes are the same without exception. -/
theorem NdArray.conversions_agree (s t : ElementType) (xs : List s.Value) :
    (∀ (route : Route) shape (options : BuildOptions) store, ∃ made,
      route.convert t s xs shape { options with validateShape := false } store = .ok made) ∧
    ∀ (route route' : Route) shape shape' options options' store store' made made',
      route.convert t s xs shape options store = .ok made →
      route'.convert t s xs shape' options' store' = .ok made' →
      made.1.dtype = .numeric t ∧ made'.1.dtype = .numeric t ∧
        ∃ bytes bytes', made.1.bytes? made.2 = some bytes ∧ made'.1.bytes? made'.2 = some bytes' ∧
          t.SameBytes bytes bytes' ∧ ((∀ x ∈ xs, s.isNaN x = false) → bytes = bytes') := by
  refine ⟨fun route shape options store => route.convert_lenient t s xs shape options store, ?_⟩
  intro route route' shape shape' options options' store store' made made' h h'
  obtain ⟨hdtype, hbytes⟩ := Route.convert_ok h
  obtain ⟨hdtype', hbytes'⟩ := Route.convert_ok h'
  exact ⟨hdtype, hdtype', _, _, hbytes, hbytes', route.bytes_agree route'⟩

/-- A NaN with a sign and a payload, the negative zero and an infinity are stored as they are, or are
JSON values in between.  So are the integers at both ends of a range. -/
theorem NdArray.conversions_agree_extremes :
    let double := ElementType.float .double
    let specials : List double.Value :=
      [Binary.ofBits .double 0xfff8000000000001, Binary.zero true, Binary.infinity true]
    let int8 := ElementType.integer .int8
    let ends : List (IntegerType.Value .int8) := [⟨-128, by decide⟩, ⟨127, by decide⟩]
    (∃ made made', Route.elements.convert double double specials none {} .empty = .ok made ∧
      Route.object.convert double double specials none {} .empty = .ok made' ∧
      ∃ bytes bytes', made.1.bytes? made.2 = some bytes ∧ made'.1.bytes? made'.2 = some bytes' ∧
        double.SameBytes bytes bytes') ∧
    (∃ made made', Route.array.convert double int8 ends none {} .empty = .ok made ∧
      Route.listed.convert double int8 ends none {} .empty = .ok made' ∧
      made.1.bytes? made.2 = made'.1.bytes? made'.2) := by
  intro double specials int8 ends
  obtain ⟨-, -, same⟩ := (conversions_agree double double specials).2 .elements .object none none {} {}
    .empty .empty _ _ rfl rfl
  obtain ⟨-, -, bytes, bytes', hbytes, hbytes', -, equal⟩ :=
    (conversions_agree int8 double ends).2 .array .listed none none {} {} .empty .empty _ _ rfl rfl
  refine ⟨⟨_, _, rfl, rfl, ?_⟩, ⟨_, _, rfl, rfl, ?_⟩⟩
  · obtain ⟨bytes, bytes', hbytes, hbytes', alike, -⟩ := same
    exact ⟨bytes, bytes', hbytes, hbytes', alike⟩
  · rw [hbytes, hbytes', equal fun _ _ => rfl]

end ArrayExchange
