import ArrayExchange.Proofs.Memory.Access

/-!
# Element types as tags

An array can also be kept as a type tag beside a storage that does not know the type.  Nothing then
keeps the two from disagreeing: a tag of JSON values beside a block of memory, or a numeric tag beside
JSON values.  Operations on such an array have branches for these cases, with an error of its own or
with an empty result, and slices of memory are taken without knowing that they are there.

* `TaggedArray`, with the operations on it, those branches included; `Fault` is how they end.
* `TaggedArray.Coherent` — tag and storage agree.
* `NdArray.tagged` — an array of the library in this form.  It is coherent, and each operation on it
  gives what the operation of the library gives on the array itself.

How arrays are made in this form, tag and storage each on their own, is the matter of
`ArrayExchange.Proofs.Memory.TaggedConstruction`.
-/

namespace ArrayExchange

/-- The elements of an array, whatever type they are said to have. -/
inductive Storage where
  | memory (block : BlockId)
  | values (items : List Json)

/-- How many elements of a given type there are; without a width, every byte counts. -/
def Storage.count (store : Store) (dtype : DType) : Storage → Nat
  | .memory block => (store.bytes block).length / dtype.width?.getD 1
  | .values items => items.length

/-- An array with its element type as a tag. -/
structure TaggedArray where
  dtype : DType
  shape : Shape
  storage : Storage

/-- How an operation on tags and storages ends early. -/
inductive Fault (ε : Type) where
  /-- With an error that the library knows, too. -/
  | known (error : ε)
  /-- The tag is the numeric type asked for, but there is no memory. -/
  | unsupportedObject
  /-- A slice of memory that is not there. -/
  | outOfRange
  deriving DecidableEq

namespace Fault

/-- The fault of a larger operation. -/
def map {ε ε' : Type} (f : ε → ε') : Fault ε → Fault ε'
  | known error => known (f error)
  | unsupportedObject => unsupportedObject
  | outOfRange => outOfRange

variable {ε α : Type} {result : Except ε α}

/-- Where every fault is an error of the library, failing is failing with such an error. -/
theorem of_mapError_error {fault : Fault ε} (h : result.mapError known = .error fault) :
    ∃ error, result = .error error ∧ fault = known error := by
  cases result with
  | error error =>
      cases h
      exact ⟨error, rfl, rfl⟩
  | ok value => cases h

theorem of_mapError_ok {value : α} (h : result.mapError (@known ε) = .ok value) :
    result = .ok value := by
  cases result with
  | error error => cases h
  | ok found =>
      cases h
      rfl

end Fault

namespace TaggedArray

/-- Tag and storage agree. -/
def Coherent (x : TaggedArray) : Prop := x.dtype = .object ↔ ∃ items, x.storage = .values items

/-- The number of elements. -/
def count (store : Store) (x : TaggedArray) : Nat := x.storage.count store x.dtype

/-- The memory of an array that has some, whatever its tag. -/
def block? (x : TaggedArray) : Option BlockId :=
  match x.storage with
  | .memory block => some block
  | .values _ => none

/-! ### Typed access -/

/-- The memory of an array of elements of type `t`. -/
def typedBlock (t : ElementType) (x : TaggedArray) : Except (Fault ArrayError) BlockId :=
  if x.dtype = .numeric t then
    match x.storage with
    | .memory block => .ok block
    | .values _ => .error .unsupportedObject
  else .error (.known (.wrongElementType x.dtype t))

/-- The elements of an array of type `t`. -/
def toList (t : ElementType) (store : Store) (x : TaggedArray) :
    Except (Fault ArrayError) (List t.Value) :=
  (x.typedBlock t).map fun block => t.decode (store.bytes block)

/-- The bytes with a slice of the given width overwritten, if the slice is there. -/
def overwriteSlice (start width : Nat) (new old : Bytes) : Except (Fault ArrayError) Bytes :=
  if start + width ≤ old.length ∧ new.length = width then
    .ok (old.take start ++ new ++ old.drop (start + width))
  else .error .outOfRange

/-- The slice of a complete element is there, and an element fills it. -/
theorem overwriteSlice_of_lt {t : ElementType} {bytes : Bytes} {index : Nat}
    (h : index < bytes.length / t.width) (x : t.Value) :
    overwriteSlice (index * t.width) t.width (t.write x) bytes =
      .ok (Store.patch (index * t.width) (t.write x) bytes) := by
  have hfits := Bytes.piece_fits h
  have hlength := t.length_write x
  rw [overwriteSlice, if_pos ⟨hfits, hlength⟩, Store.patch_of_le (by rwa [hlength]), hlength]

/-- The store after one element of an array of type `t` was overwritten. -/
def set (t : ElementType) (store : Store) (x : TaggedArray) (index : Nat) (value : t.Value) :
    Except (Fault ArrayError) Store := do
  let block ← x.typedBlock t
  let count := x.count store
  if index < count then
    let bytes ← overwriteSlice (index * t.width) t.width (t.write value) (store.bytes block)
    return store.replace block bytes
  else
    throw (.known (.indexOutOfBounds index count))

/-! ### Elements of any type -/

/-- The elements as numbers, if they are in memory and have a numeric type. -/
def toBinaries? (store : Store) (x : TaggedArray) : Option (List Binary64) :=
  match x.storage, x.dtype with
  | .memory block, .numeric t => some ((t.decode (store.bytes block)).map t.toBinary)
  | _, _ => none

/-- The elements as JSON values; none if memory is said to hold JSON values. -/
def toValues (store : Store) (x : TaggedArray) : List Json :=
  match x.storage, x.dtype with
  | .values items, _ => items
  | .memory block, .numeric t => (t.decode (store.bytes block)).map t.toJson
  | .memory _, .object => []

/-- The elements as equality sees them; none if memory is said to hold JSON values. -/
def scalars (store : Store) (x : TaggedArray) : List Scalar :=
  match x.storage, x.dtype with
  | .values items, _ => items.map .json
  | .memory block, .numeric t => (t.decode (store.bytes block)).map t.toScalar
  | .memory _, .object => []

/-! ### Records -/

/-- The elements, ready for a writer: memory whatever the tag, and else the values. -/
def elements (x : TaggedArray) : Elements :=
  match x.storage with
  | .memory block => .buffer block
  | .values items => .sequence items

/-- The record of an array with a given payload. -/
def describe (x : TaggedArray) (payload : Json) : Record where
  kind := Record.arrayKind
  payload := payload
  order := ByteOrder.host
  dtype := x.dtype
  shape := x.shape

/-- Describes an array by a record with a JSON payload. -/
def encode (w : JsonWriter) (store : Store) (x : TaggedArray) : Logged (Record × JsonWriter) :=
  let written := w.write store x.elements
  ⟨(x.describe written.1, written.2), [.encoding x.dtype x.shape]⟩

end TaggedArray

/-! ### Arrays of the library -/

/-- The storage of an array with given contents; the type is left out. -/
def Contents.storage : Contents → Storage
  | .numeric _ block => .memory block
  | .object values => .values values

namespace NdArray

variable {store : Store} {a : NdArray}

/-- An array with its element type as a tag. -/
def tagged (a : NdArray) : TaggedArray := ⟨a.dtype, a.shape, a.contents.storage⟩

theorem tagged_coherent (a : NdArray) : a.tagged.Coherent := by
  unfold TaggedArray.Coherent tagged dtype
  cases a.contents with
  | numeric type block => simp [Contents.storage]
  | object values => simp [Contents.storage]

/-- Memory of an array of the library has a numeric type beside it. -/
theorem contents_of_memory {block : BlockId} (h : a.tagged.storage = .memory block) :
    ∃ t, a.contents = .numeric t block := by
  cases e : a.contents with
  | numeric type b =>
      simp only [tagged, e, Contents.storage, Storage.memory.injEq] at h
      exact ⟨type, by rw [h]⟩
  | object values => simp [tagged, e, Contents.storage] at h

theorem tagged_of_numeric {t : ElementType} {block : BlockId} (h : a.contents = .numeric t block) :
    a.tagged = ⟨.numeric t, a.shape, .memory block⟩ := by
  simp only [tagged, dtype, h, Contents.storage]

/-- Memory with a numeric tag beside it holds elements of just this type. -/
theorem contents_of_tagged {t : ElementType} {block : BlockId} (htype : a.dtype = .numeric t)
    (h : a.tagged.storage = .memory block) : a.contents = .numeric t block := by
  obtain ⟨s, e⟩ := contents_of_memory h
  have hs : DType.numeric s = .numeric t := by
    rw [← htype, dtype, e]
  cases hs
  exact e

theorem tagged_count (store : Store) (a : NdArray) : a.tagged.count store = a.count store := by
  unfold TaggedArray.count tagged dtype count
  cases a.contents <;> rfl

theorem tagged_block? (a : NdArray) : a.tagged.block? = a.block? := by
  unfold TaggedArray.block? tagged block?
  cases a.contents <;> rfl

/-- Typed access fails for the type only. -/
theorem tagged_typedBlock (t : ElementType) (a : NdArray) :
    a.tagged.typedBlock t = (a.typedBlock t).mapError .known := by
  obtain ⟨shape, contents⟩ := a
  cases contents with
  | object values => rfl
  | numeric type block =>
      unfold TaggedArray.typedBlock typedBlock
      by_cases h : type = t
      · simp only [tagged, dtype, Contents.storage, h, if_true]
        rfl
      · simp only [tagged, dtype, DType.numeric.injEq, h, if_false]
        rfl

theorem tagged_toList (t : ElementType) (store : Store) (a : NdArray) :
    a.tagged.toList t store = (a.toList t store).mapError .known := by
  unfold TaggedArray.toList toList
  rw [tagged_typedBlock]
  cases a.typedBlock t <;> rfl

/-- Overwriting an element never asks for a slice that is not there. -/
theorem tagged_set (t : ElementType) (store : Store) (a : NdArray) (index : Nat) (x : t.Value) :
    a.tagged.set t store index x = (a.set t store index x).mapError .known := by
  unfold TaggedArray.set set
  rw [tagged_typedBlock, tagged_count]
  cases e : a.typedBlock t with
  | error error => rfl
  | ok block =>
      show (if index < a.count store then _ else _ : Except (Fault ArrayError) Store) =
        (if index < a.count store then _ else _ : Except ArrayError Store).mapError .known
      by_cases h : index < a.count store
      · have hlt : index < (store.bytes block).length / t.width := by
          rwa [count_of_numeric (typedBlock_eq_ok_iff.mp e)] at h
        rw [if_pos h, if_pos h, TaggedArray.overwriteSlice_of_lt hlt]
        rfl
      · rw [if_neg h, if_neg h]
        rfl

/-- Elements in memory are always numbers. -/
theorem tagged_toBinaries? {t : ElementType} {block : BlockId} (h : a.contents = .numeric t block)
    (store : Store) :
    a.tagged.toBinaries? store = some ((t.decode (store.bytes block)).map t.toBinary) := by
  rw [tagged_of_numeric h]
  rfl

theorem tagged_toValues (store : Store) (a : NdArray) :
    a.tagged.toValues store = a.toValues store := by
  unfold TaggedArray.toValues tagged dtype toValues
  cases a.contents <;> rfl

theorem tagged_scalars (store : Store) (a : NdArray) :
    a.tagged.scalars store = a.scalars store := by
  unfold TaggedArray.scalars tagged dtype scalars
  cases a.contents <;> rfl

theorem tagged_elements (a : NdArray) : a.tagged.elements = a.elements := by
  unfold TaggedArray.elements tagged elements
  cases a.contents <;> rfl

theorem tagged_encode (w : JsonWriter) (store : Store) (a : NdArray) :
    a.tagged.encode w store = w.encode store a := by
  rw [JsonWriter.encode_eq, TaggedArray.encode, tagged_elements]
  rfl

end NdArray

end ArrayExchange
