import ArrayExchange.Grid.View
import ArrayExchange.NdArray.Basic

/-!
# Building arrays

Arrays are built from raw bytes, from JSON values, from typed elements or from other arrays.
Every way of building goes through the same three steps.

1. The source yields a *backing* for the elements: an existing block to be shared, fresh bytes, or
   JSON values.  Memory is shared exactly when the source has bytes of the requested type already
   and no copy is asked for.
2. The shape is settled: the one given, or else that of a source array, or else one axis.
3. The shape is compared with the number of elements.  Under validation a shape that does not
   cover them is an error, and otherwise it is reported and kept.

* `NdArray.fromSource` builds an array of a given type, `NdArray.build` infers the type.
* `NdArray.fromElements`, `NdArray.fromValues`, `NdArray.fromBuffer` and `NdArray.fromView` build
  from one kind of source; they never validate.
-/

namespace ArrayExchange

/-- What an array is built from. -/
inductive Source where
  /-- Raw bytes, to be read as elements. -/
  | buffer (block : BlockId)
  /-- JSON values. -/
  | values (items : List Json)
  /-- Elements of a numeric type. -/
  | elements (type : ElementType) (xs : List type.Value)
  | array (a : NdArray)

/-- How an array is built. -/
structure BuildOptions where
  /-- The type of the elements; inferred when absent. -/
  dtype : Option DType := none
  /-- The shape; taken from the source when absent. -/
  shape : Option Shape := none
  /-- Whether memory of the source is copied rather than shared. -/
  copy : Bool := false
  /-- Whether a shape that does not cover the elements is an error. -/
  validateShape : Bool := false
  deriving DecidableEq

/-- Elements that are about to become the contents of an array. -/
inductive Backing where
  /-- Elements in a block of memory that exists already. -/
  | shared (type : ElementType) (block : BlockId)
  /-- Elements for which a block has to be made. -/
  | fresh (type : ElementType) (bytes : Bytes)
  | values (items : List Json)

namespace Backing

/-- The number of elements. -/
def count (store : Store) : Backing → Nat
  | shared type block => (store.bytes block).length / type.width
  | fresh type bytes => bytes.length / type.width
  | values items => items.length

/-- The contents that the elements become, and the store after a block was made where one is
called for. -/
def place (store : Store) : Backing → Contents × Store
  | shared type block => (.numeric type block, store)
  | fresh type bytes => (.numeric type (store.alloc bytes).1, (store.alloc bytes).2)
  | values items => (.object items, store)

/-- The array with the given elements and shape. -/
def toArray (backing : Backing) (shape : Shape) (store : Store) : NdArray × Store :=
  (⟨shape, (backing.place store).1⟩, (backing.place store).2)

end Backing

namespace ElementType

/-- The bytes of elements of type `s`, converted to type `t`.  Elements that have the type already
are stored as they are. -/
def encodeAs (t s : ElementType) (xs : List s.Value) : Bytes :=
  if s = t then s.encode xs else t.encode (xs.map fun x => t.ofBinary (s.toBinary x))

/-- The bytes of JSON values, converted to type `t`. -/
def encodeValues (t : ElementType) (values : List Json) : Bytes := t.encode (values.map t.ofJson)

end ElementType

namespace Source

/-- The type of the elements when none is given.  Raw bytes are read as 64-bit floats, and so are
values that are all numbers; other values are kept, which is reported. -/
def inferredType : Source → Logged DType
  | buffer _ => ⟨.numeric (.float .double), []⟩
  | values items =>
    if items.all Json.isNumber then ⟨.numeric (.float .double), []⟩ else ⟨.object, [.mixedValues]⟩
  | elements type _ => ⟨.numeric type, []⟩
  | array a => ⟨a.dtype, []⟩

/-- The shape that comes with a source. -/
def shape? : Source → Option Shape
  | array a => some a.shape
  | _ => none

/-- A block of memory, shared or copied. -/
def blockBacking (t : ElementType) (copy : Bool) (store : Store) (block : BlockId) : Backing :=
  if copy then .fresh t (store.bytes block) else .shared t block

/-- The elements of a source, as elements of a numeric type. -/
def numericBacking (t : ElementType) (copy : Bool) (store : Store) :
    Source → Except ArrayError Backing
  | buffer block =>
    if (store.bytes block).length % t.width = 0 then .ok (blockBacking t copy store block)
    else .error (.partialElement t.width (store.bytes block).length)
  | values items => .ok (.fresh t (t.encodeValues items))
  | elements s xs => .ok (.fresh t (t.encodeAs s xs))
  | array a =>
    match a.contents with
    | .numeric s block =>
      if s = t then .ok (blockBacking t copy store block)
      else .ok (.fresh t (t.encodeAs s (s.decode (store.bytes block))))
    | .object items => .ok (.fresh t (t.encodeValues items))

/-- The elements of a source, as JSON values. -/
def objectBacking (store : Store) : Source → Except ArrayError Backing
  | buffer _ => .error .objectFromBytes
  | values items => .ok (.values items)
  | elements s xs => .ok (.values (xs.map s.toJson))
  | array a => .ok (.values (a.toValues store))

/-- The elements of a source, as elements of any type. -/
def backing (dtype : DType) (copy : Bool) (store : Store) (source : Source) :
    Except ArrayError Backing :=
  match dtype with
  | .numeric t => source.numericBacking t copy store
  | .object => source.objectBacking store

end Source

/-- The error of a validated construction, when the shape does not cover `count` elements. -/
def Shape.fault? (shape : Shape) (count : Nat) : Option ArrayError :=
  match shape.verdict count with
  | .covers => none
  | .mismatch expected => some (.shapeMismatch expected count)
  | .overflow => some .shapeOverflow

namespace NdArray

/-! ### From any source -/

/-- An array with the given elements, whatever its shape covers. -/
def ofBacking (backing : Backing) (shape : Option Shape) (store : Store) :
    Logged (NdArray × Store) :=
  let count := backing.count store
  let shape := shape.getD [count]
  ⟨backing.toArray shape store, shape.warnings count⟩

/-- An array with the given elements, if its shape covers them. -/
def ofBackingValidated (backing : Backing) (shape : Option Shape) (store : Store) :
    Except ArrayError (NdArray × Store) :=
  let count := backing.count store
  let shape := shape.getD [count]
  match shape.fault? count with
  | none => .ok (backing.toArray shape store)
  | some error => .error error

/-- An array of a given type.  The type in the options does not matter here. -/
def fromSource (dtype : DType) (source : Source) (options : BuildOptions) (store : Store) :
    Logged (Except ArrayError (NdArray × Store)) :=
  match source.backing dtype options.copy store with
  | .error error => ⟨.error error, []⟩
  | .ok backing =>
    let shape := options.shape.or source.shape?
    if options.validateShape then ⟨ofBackingValidated backing shape store, []⟩
    else
      let made := ofBacking backing shape store
      ⟨.ok made.result, made.events⟩

/-- An array of the type in the options, or of the type inferred from the source. -/
def build (source : Source) (options : BuildOptions) (store : Store) :
    Logged (Except ArrayError (NdArray × Store)) :=
  match options.dtype with
  | some dtype => fromSource dtype source options store
  | none =>
    let inferred := source.inferredType
    let made := fromSource inferred.result source options store
    ⟨made.result, inferred.events ++ made.events⟩

/-! ### From one kind of source -/

/-- A numeric array with fresh memory for the given elements. -/
def fromElements (t : ElementType) (xs : List t.Value) (shape : Option Shape) (store : Store) :
    Logged (NdArray × Store) :=
  ofBacking (.fresh t (t.encode xs)) shape store

/-- An array of JSON values, or of a numeric type to which they are converted. -/
def fromValues (dtype : DType) (values : List Json) (shape : Option Shape) (store : Store) :
    Logged (NdArray × Store) :=
  match dtype with
  | .numeric t => ofBacking (.fresh t (t.encodeValues values)) shape store
  | .object => ofBacking (.values values) shape store

/-- An array over the memory of a buffer, shared or copied. -/
def fromBuffer (dtype : DType) (block : BlockId) (shape : Option Shape) (copy : Bool)
    (store : Store) : Logged (Except ArrayError (NdArray × Store)) :=
  fromSource dtype (.buffer block) { shape, copy } store

/-- An array with the elements of a view, in row-major order, and the shape of the view. -/
def fromView (t : ElementType) (view : View t.Value) (store : Store) : Logged (NdArray × Store) :=
  fromElements t view.toList (some view.shape) store

/-! ### Copies -/

/-- A copy of an array with memory of its own. -/
def copy (a : NdArray) (store : Store) : NdArray × Store :=
  match a.contents with
  | .numeric type block =>
    (⟨a.shape, .numeric type (store.copy block).1⟩, (store.copy block).2)
  | .object values => (⟨a.shape, .object values⟩, store)

end NdArray

end ArrayExchange
