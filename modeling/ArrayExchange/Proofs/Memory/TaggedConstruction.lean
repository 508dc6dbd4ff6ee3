import ArrayExchange.Proofs.Memory.Tagged

/-!
# Building arrays, tag and storage apart

An array with a tag is built by choosing its tag and its storage each on its own: the tag is the type
asked for, and the storage is made by a routine for that type.  A tag and a storage that disagree could
come out of a routine that makes the wrong kind of storage, or of one that cuts memory for another
width.

* `TaggedArray.fromSource`, `build`, `fromElements`, `fromValues`, `fromBuffer`, `fromView`, `copy` and
  `decode` — every way of building, step by step.  Two of them do not go through
  `TaggedArray.assemble`, and settle the shape by themselves.
* `TaggedArray.fromSource_tagged` and its companions — each of them makes the array that the library
  makes, with the type as a tag; it fails and reports as the library does.
-/

namespace ArrayExchange

/-- A result changed, its events kept. -/
def Logged.map {α β : Type} (f : α → β) (made : Logged α) : Logged β :=
  ⟨f made.result, made.events⟩

/-- What a tagged array is built from. -/
inductive TaggedSource where
  | buffer (block : BlockId)
  | values (items : List Json)
  | elements (type : ElementType) (xs : List type.Value)
  | array (x : TaggedArray)

/-- A source whose array has its type as a tag. -/
def Source.tagged : Source → TaggedSource
  | .buffer block => .buffer block
  | .values items => .values items
  | .elements type xs => .elements type xs
  | .array a => .array a.tagged

/-! ### Storages -/

namespace Storage

/-- New memory with the given bytes. -/
def ofBytes (store : Store) (bytes : Bytes) : Storage × Store :=
  (.memory (store.alloc bytes).1, (store.alloc bytes).2)

/-- The memory of a block, shared or copied. -/
def ofBlock (copy : Bool) (store : Store) (block : BlockId) : Storage × Store :=
  if copy then (.memory (store.copy block).1, (store.copy block).2) else (.memory block, store)

end Storage

namespace TaggedSource

/-- The type of the elements when none is given. -/
def inferredType : TaggedSource → Logged DType
  | buffer _ => ⟨.numeric (.float .double), []⟩
  | values items =>
    if items.all Json.isNumber then ⟨.numeric (.float .double), []⟩ else ⟨.object, [.mixedValues]⟩
  | elements type _ => ⟨.numeric type, []⟩
  | array x => ⟨x.dtype, []⟩

/-- The shape that comes with a source. -/
def shape? : TaggedSource → Option Shape
  | array x => some x.shape
  | _ => none

/-- Storage for the elements of a source as elements of a numeric type.  Memory that does not give
numbers gives no elements. -/
def numericStorage (t : ElementType) (copy : Bool) (store : Store) :
    TaggedSource → Except ArrayError (Storage × Store)
  | buffer block =>
    if (store.bytes block).length % t.width = 0 then .ok (Storage.ofBlock copy store block)
    else .error (.partialElement t.width (store.bytes block).length)
  | values items => .ok (Storage.ofBytes store (t.encode (items.map t.ofJson)))
  | elements s xs => .ok (Storage.ofBytes store (t.encodeAs s xs))
  | array x =>
    match x.storage with
    | .memory block =>
      if x.dtype = .numeric t then .ok (Storage.ofBlock copy store block)
      else .ok (Storage.ofBytes store (t.encode (((x.toBinaries? store).getD []).map t.ofBinary)))
    | .values items => .ok (Storage.ofBytes store (t.encode (items.map t.ofJson)))

/-- Storage for the elements of a source as JSON values. -/
def objectStorage (store : Store) : TaggedSource → Except ArrayError (Storage × Store)
  | buffer _ => .error .objectFromBytes
  | values items => .ok (.values items, store)
  | elements s xs => .ok (.values (xs.map s.toJson), store)
  | array x => .ok (.values (x.toValues store), store)

/-- Storage for the elements of a source, by the routine for the type. -/
def storage (dtype : DType) (copy : Bool) (store : Store) (source : TaggedSource) :
    Except ArrayError (Storage × Store) :=
  match dtype with
  | .numeric t => source.numericStorage t copy store
  | .object => source.objectStorage store

end TaggedSource

/-! ### Ways of building -/

/-- The shape given, or else one axis, whatever it covers. -/
def Shape.lenient (count : Nat) (shape : Option Shape) : Logged Shape :=
  ⟨shape.getD [count], (shape.getD [count]).warnings count⟩

namespace TaggedArray

/-- Puts a tag, a storage and a shape together, if the shape may be kept. -/
def assemble (dtype : DType) (storage : Storage) (shape : Option Shape) (validate : Bool)
    (store : Store) : Logged (Except ArrayError TaggedArray) :=
  let count := storage.count store dtype
  if validate then
    let shape := shape.getD [count]
    match shape.fault? count with
    | none => ⟨.ok ⟨dtype, shape, storage⟩, []⟩
    | some error => ⟨.error error, []⟩
  else (Shape.lenient count shape).map fun shape => .ok ⟨dtype, shape, storage⟩

/-- An array of a given type. -/
def fromSource (dtype : DType) (source : TaggedSource) (options : BuildOptions) (store : Store) :
    Logged (Except ArrayError (TaggedArray × Store)) :=
  match source.storage dtype options.copy store with
  | .error error => ⟨.error error, []⟩
  | .ok (storage, store) =>
    (assemble dtype storage (options.shape.or source.shape?) options.validateShape store).map
      (Except.map fun x => (x, store))

/-- An array of the type in the options, or of the type inferred from the source. -/
def build (source : TaggedSource) (options : BuildOptions) (store : Store) :
    Logged (Except ArrayError (TaggedArray × Store)) :=
  match options.dtype with
  | some dtype => fromSource dtype source options store
  | none =>
    let inferred := source.inferredType
    let made := fromSource inferred.result source options store
    ⟨made.result, inferred.events ++ made.events⟩

/-- An array of the type of the given elements.  Its shape is settled by how many there are, before
they are written. -/
def fromElements (t : ElementType) (xs : List t.Value) (shape : Option Shape) (store : Store) :
    Logged (TaggedArray × Store) :=
  let memory := Storage.ofBytes store (t.encode xs)
  (Shape.lenient xs.length shape).map fun shape => (⟨.numeric t, shape, memory.1⟩, memory.2)

/-- Storage for JSON values, converted to a numeric type or kept. -/
def valuesStorage (dtype : DType) (values : List Json) (store : Store) : Storage × Store :=
  match dtype with
  | .numeric t => Storage.ofBytes store (t.encode (values.map t.ofJson))
  | .object => (.values values, store)

/-- An array of JSON values, or of a numeric type to which they are converted. -/
def fromValues (dtype : DType) (values : List Json) (shape : Option Shape) (store : Store) :
    Logged (TaggedArray × Store) :=
  let made := valuesStorage dtype values store
  (Shape.lenient (made.1.count made.2 dtype) shape).map fun shape => (⟨dtype, shape, made.1⟩, made.2)

/-- An array over the memory of a buffer, shared or copied. -/
def fromBuffer (dtype : DType) (block : BlockId) (shape : Option Shape) (copy : Bool)
    (store : Store) : Logged (Except ArrayError (TaggedArray × Store)) :=
  fromSource dtype (.buffer block) { shape, copy } store

/-- An array with the elements of a view, in row-major order, and the shape of the view. -/
def fromView (t : ElementType) (view : View t.Value) (store : Store) :
    Logged (TaggedArray × Store) :=
  fromElements t view.toList (some view.shape) store

/-- A copy of an array with memory of its own. -/
def copy (x : TaggedArray) (store : Store) : TaggedArray × Store :=
  match x.storage with
  | .memory block => ({ x with storage := .memory (store.copy block).1 }, (store.copy block).2)
  | .values items => ({ x with storage := .values items }, store)

/-- Rebuilds the array that a record describes. -/
def decode (reader : PayloadReader) (r : Record) (store : Store) :
    Logged (Except DecodeError (TaggedArray × Store)) :=
  if r.kind = Record.arrayKind then
    let begun := Event.decoding r.dtype r.shape r.order
    match r.source reader store with
    | .error error => ⟨.error error, [begun]⟩
    | .ok (source, store) =>
      let made := fromSource r.dtype source.tagged { shape := some r.shape } store
      ⟨made.result.mapError .array, begun :: made.events⟩
  else ⟨.error (.unexpectedKind r.kind), []⟩

end TaggedArray

/-! ### What the library makes -/

/-- A new array with its type as a tag, and the store. -/
def NdArray.taggedMade (made : NdArray × Store) : TaggedArray × Store := (made.1.tagged, made.2)

/-- The storage that elements become, and the store. -/
def Backing.storage (backing : Backing) (store : Store) : Storage × Store :=
  ((backing.place store).1.storage, (backing.place store).2)

namespace Backing

/-- Elements are as many as their storage holds of their type. -/
theorem count_storage (backing : Backing) (store : Store) :
    (backing.storage store).1.count (backing.storage store).2 backing.dtype = backing.count store := by
  cases backing with
  | shared type block => rfl
  | values items => rfl
  | fresh type bytes =>
      show ((store.alloc bytes).2.bytes store.next).length / type.width = bytes.length / type.width
      rw [store.bytes_alloc_next]

/-- The array with the given elements has their type as its tag and their storage. -/
theorem tagged_toArray (backing : Backing) (shape : Shape) (store : Store) :
    NdArray.taggedMade (backing.toArray shape store) =
      (⟨backing.dtype, shape, (backing.storage store).1⟩, (backing.storage store).2) := by
  unfold NdArray.taggedMade NdArray.tagged
  rw [backing.toArray_dtype]
  rfl

end Backing

namespace Source

variable {store : Store} {dtype : DType} {copy : Bool}

theorem inferredType_tagged (source : Source) : source.tagged.inferredType = source.inferredType := by
  cases source <;> rfl

theorem shape?_tagged (source : Source) : source.tagged.shape? = source.shape? := by
  cases source <;> rfl

theorem storage_blockBacking (t : ElementType) (copy : Bool) (store : Store) (block : BlockId) :
    (blockBacking t copy store block).storage store = Storage.ofBlock copy store block := by
  cases copy <;> rfl

/-- The routine for numeric types makes memory for elements of just this type.  Where it converts an
array, it does not fall back to an array without elements. -/
theorem numericStorage_tagged (t : ElementType) (copy : Bool) (store : Store) (source : Source) :
    source.tagged.numericStorage t copy store =
      (source.numericBacking t copy store).map fun backing => backing.storage store := by
  cases source with
  | buffer block =>
      simp only [tagged, TaggedSource.numericStorage, numericBacking]
      split
      · rw [Except.map, storage_blockBacking]
      · rfl
  | values items => rfl
  | elements s xs => rfl
  | array a =>
      cases e : a.contents with
      | object items =>
          simp only [tagged, TaggedSource.numericStorage, numericBacking, NdArray.tagged, e]
          rfl
      | numeric s block =>
          simp only [tagged, TaggedSource.numericStorage, numericBacking,
            NdArray.tagged_toBinaries? e]
          simp only [NdArray.tagged_of_numeric e, e, DType.numeric.injEq]
          by_cases h : s = t
          · rw [if_pos h, if_pos h, Except.map, storage_blockBacking]
          · rw [if_neg h, if_neg h, ElementType.encodeAs, if_neg h, Option.getD_some, List.map_map]
            rfl

/-- The routine for JSON values makes a list of them, which is empty for no other reason than that
there are no elements. -/
theorem objectStorage_tagged (store : Store) (source : Source) :
    source.tagged.objectStorage store =
      (source.objectBacking store).map fun backing => backing.storage store := by
  cases source with
  | buffer block => rfl
  | values items => rfl
  | elements s xs => rfl
  | array a =>
      simp only [tagged, TaggedSource.objectStorage, objectBacking, NdArray.tagged_toValues]
      rfl

/-- **The storage of a new array** is that of the elements which the library takes from the source. -/
theorem storage_tagged (dtype : DType) (copy : Bool) (store : Store) (source : Source) :
    source.tagged.storage dtype copy store =
      (source.backing dtype copy store).map fun backing => backing.storage store := by
  cases dtype with
  | numeric t => exact source.numericStorage_tagged t copy store
  | object => exact source.objectStorage_tagged store

end Source

namespace TaggedArray

variable {store : Store}

/-- Elements with their type as a tag, in the shape that the library keeps. -/
theorem assemble_storage (backing : Backing) (shape : Option Shape) (validate : Bool)
    (store : Store) :
    (assemble backing.dtype (backing.storage store).1 shape validate (backing.storage store).2).map
        (Except.map fun x => (x, (backing.storage store).2)) =
      if validate then
        ⟨(NdArray.ofBackingValidated backing shape store).map NdArray.taggedMade, []⟩
      else (NdArray.ofBacking backing shape store).map fun made => .ok (NdArray.taggedMade made) := by
  unfold assemble NdArray.ofBackingValidated NdArray.ofBacking
  rw [backing.count_storage]
  cases validate with
  | false =>
      simp only [Bool.false_eq_true, if_false, Logged.map, Shape.lenient, Except.map,
        backing.tagged_toArray]
  | true =>
      simp only [if_true]
      cases (shape.getD [backing.count store]).fault? (backing.count store) with
      | none => simp only [Logged.map, Except.map, backing.tagged_toArray]
      | some error => rfl

/-- **An array from any source** is the one that the library makes, with its type as a tag. -/
theorem fromSource_tagged (dtype : DType) (source : Source) (options : BuildOptions)
    (store : Store) :
    fromSource dtype source.tagged options store =
      (NdArray.fromSource dtype source options store).map (Except.map NdArray.taggedMade) := by
  unfold fromSource NdArray.fromSource
  rw [source.storage_tagged, source.shape?_tagged]
  cases h : source.backing dtype options.copy store with
  | error error => rfl
  | ok backing =>
      -- the tag is the type asked for, and the elements are of this type
      have htype : backing.dtype = dtype := (Source.backing_memory h).1
      subst htype
      refine (assemble_storage backing _ _ store).trans ?_
      dsimp only
      split <;> rfl

theorem build_tagged (source : Source) (options : BuildOptions) (store : Store) :
    build source.tagged options store =
      (NdArray.build source options store).map (Except.map NdArray.taggedMade) := by
  unfold build NdArray.build
  rw [source.inferredType_tagged]
  cases options.dtype with
  | some dtype => exact fromSource_tagged dtype source options store
  | none =>
      simp only [fromSource_tagged]
      rfl

/-- An array of elements does not go through `assemble`, but its shape is settled by the same number. -/
theorem fromElements_tagged (t : ElementType) (xs : List t.Value) (shape : Option Shape)
    (store : Store) :
    fromElements t xs shape store =
      (NdArray.fromElements t xs shape store).map NdArray.taggedMade := by
  have hcount : (Backing.fresh t (t.encode xs)).count store = xs.length := by
    rw [Backing.count, t.length_encode, Nat.mul_div_cancel _ t.width_pos]
  unfold fromElements NdArray.fromElements NdArray.ofBacking
  rw [hcount]
  simp only [Logged.map, Shape.lenient, Backing.tagged_toArray]
  rfl

/-- Nor does an array of values, whose tag and storage are chosen by the type asked for. -/
theorem fromValues_tagged (dtype : DType) (values : List Json) (shape : Option Shape)
    (store : Store) :
    fromValues dtype values shape store =
      (NdArray.fromValues dtype values shape store).map NdArray.taggedMade := by
  cases dtype with
  | object => rfl
  | numeric t =>
      have hcount := (Backing.fresh t (t.encodeValues values)).count_storage store
      unfold fromValues NdArray.fromValues NdArray.ofBacking
      simp only [Logged.map, Shape.lenient, Backing.tagged_toArray, ← hcount]
      rfl

theorem fromBuffer_tagged (dtype : DType) (block : BlockId) (shape : Option Shape) (copy : Bool)
    (store : Store) :
    fromBuffer dtype block shape copy store =
      (NdArray.fromBuffer dtype block shape copy store).map (Except.map NdArray.taggedMade) :=
  fromSource_tagged dtype (.buffer block) { shape, copy } store

theorem fromView_tagged (t : ElementType) (view : View t.Value) (store : Store) :
    fromView t view store = (NdArray.fromView t view store).map NdArray.taggedMade :=
  fromElements_tagged t view.toList (some view.shape) store

theorem copy_tagged (a : NdArray) (store : Store) :
    a.tagged.copy store = NdArray.taggedMade (a.copy store) := by
  obtain ⟨shape, contents⟩ := a
  cases contents <;> rfl

/-- **An array from a record** is the one that the library makes, with its type as a tag. -/
theorem decode_tagged (reader : PayloadReader) (r : Record) (store : Store) :
    decode reader r store =
      (ArrayExchange.decode reader r store).map (Except.map NdArray.taggedMade) := by
  unfold decode ArrayExchange.decode
  split
  · cases r.source reader store with
    | error error => rfl
    | ok found =>
        simp only [fromSource_tagged, Logged.map]
        cases (NdArray.fromSource r.dtype found.1 { shape := some r.shape } found.2).result <;> rfl
  · rfl

/-! ### Types asked for -/

variable {dtype : DType} {source : TaggedSource} {options : BuildOptions} {made : TaggedArray × Store}

theorem dtype_of_assemble {storage : Storage} {shape : Option Shape} {validate : Bool}
    {x : TaggedArray} (h : (assemble dtype storage shape validate store).result = .ok x) :
    x.dtype = dtype := by
  unfold assemble at h
  cases validate with
  | false => cases h; rfl
  | true =>
      simp only [if_true] at h
      split at h <;> cases h
      rfl

/-- The tag is the type asked for. -/
theorem dtype_of_fromSource (h : (fromSource dtype source options store).result = .ok made) :
    made.1.dtype = dtype := by
  unfold fromSource at h
  cases hs : source.storage dtype options.copy store with
  | error error => rw [hs] at h; cases h
  | ok found =>
      simp only [hs, Logged.map] at h
      cases ha : (assemble dtype found.1 (options.shape.or source.shape?) options.validateShape
          found.2).result with
      | error error => rw [ha] at h; cases h
      | ok x =>
          rw [ha] at h
          cases h
          exact dtype_of_assemble ha

theorem build_result (source : TaggedSource) (options : BuildOptions) (store : Store) :
    (build source options store).result =
      (fromSource (options.dtype.getD source.inferredType.result) source options store).result := by
  unfold build
  cases options.dtype <;> rfl

theorem dtype_of_decode {reader : PayloadReader} {r : Record}
    (h : (decode reader r store).result = .ok made) : made.1.dtype = r.dtype := by
  unfold decode at h
  split at h
  · cases hs : r.source reader store with
    | error error => rw [hs] at h; cases h
    | ok found =>
        simp only [hs] at h
        cases hf : (fromSource r.dtype found.1.tagged { shape := some r.shape } found.2).result with
        | error error => rw [hf] at h; cases h
        | ok made' =>
            rw [hf] at h
            cases h
            exact dtype_of_fromSource hf
  · cases h

theorem dtype_copy (x : TaggedArray) (store : Store) : (x.copy store).1.dtype = x.dtype := by
  unfold copy
  split <;> rfl

end TaggedArray

end ArrayExchange
