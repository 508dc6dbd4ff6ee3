import ArrayExchange.Proofs.Memory.Blocks
import ArrayExchange.Record.Exchange

/-!
# The memory of new arrays

Every way of building an array ends in one of three ways: the array gets a block of its own, it
looks at a block that exists already, or it has no memory because its elements are JSON values.
This file says which of the three it is, from the source and the options alone, and that the memory
of the array always holds complete elements.

* `Memory` — one of the three ways, and `Source.memory`, the way for a given source.
* `Memory.Placed` — what the way means for the store.
* `NdArray.Whole` — the memory of an array is there and is as long as its elements are.
* `NdArray.fromSource_ok` — an array from any source has the type asked for, is placed as
  `Source.memory` says and is whole.
* `decode_ok` — so is an array from a record, and its memory is always new.
-/

namespace ArrayExchange

/-! ### Where memory comes from -/

/-- Where the memory of a new thing comes from. -/
inductive Memory (α : Type) where
  /-- The thing has no memory. -/
  | none
  /-- A new block. -/
  | fresh
  /-- The memory of something that exists already. -/
  | of (owner : α)

namespace Memory

variable {α : Type} {find : α → Option BlockId} {store store' : Store} {m : Memory α}
  {block? : Option BlockId}

/-- The block of a new thing, and the store after the thing was made, given where its memory comes
from. -/
inductive Placed (find : α → Option BlockId) (store : Store) :
    Memory α → Option BlockId → Store → Prop
  | none : Placed find store .none .none store
  | fresh (bytes : Bytes) : Placed find store .fresh (some store.next) (store.alloc bytes).2
  | of {owner : α} {block : BlockId} (found : find owner = some block) :
      Placed find store (.of owner) (some block) store

/-- Making a thing leaves every block as it is. -/
theorem Placed.extends (h : Placed find store m block? store') : store.Extends store' := by
  cases h with
  | none => exact .refl store
  | fresh bytes => exact store.extends_alloc bytes
  | of found => exact .refl store

/-- A thing with the memory of another one has the same block, and the store is as it was. -/
theorem Placed.shared {owner : α} (h : (Memory.of owner).Placed find store block? store') :
    block? = find owner ∧ store' = store := by
  cases h with
  | of found => exact ⟨found.symm, rfl⟩

end Memory

/-- Where the memory of an array from a given source comes from.  It is that of the source only if
the source has bytes of the type asked for and no copy is wanted. -/
def Source.memory (dtype : DType) (copy : Bool) : Source → Memory BlockId
  | .buffer block =>
    match dtype with
    | .object => .none
    | .numeric _ => if copy then .fresh else .of block
  | .array a =>
    match dtype, a.contents with
    | .object, _ => .none
    | .numeric t, .numeric s block => if s = t ∧ copy = false then .of block else .fresh
    | .numeric _, .object _ => .fresh
  | _ =>
    match dtype with
    | .object => .none
    | .numeric _ => .fresh

/-! ### Whole elements -/

/-- The memory of a numeric array is there, and is exactly as long as the elements are. -/
def NdArray.Whole (store : Store) (a : NdArray) : Prop :=
  ∀ type block, a.contents = .numeric type block →
    store.Has block ∧ (store.bytes block).length = a.count store * type.width

namespace NdArray

variable {store store' : Store} {a : NdArray}

theorem whole_of_object {shape : Shape} {values : List Json} :
    NdArray.Whole store ⟨shape, .object values⟩ := by
  intro type block h
  cases h

theorem whole_of_dvd {shape : Shape} {t : ElementType} {block : BlockId} (h : store.Has block)
    (hdvd : t.width ∣ (store.bytes block).length) :
    NdArray.Whole store ⟨shape, .numeric t block⟩ := by
  intro type b e
  cases e
  exact ⟨h, (Nat.div_mul_cancel hdvd).symm⟩

theorem Whole.dvd {t : ElementType} {block : BlockId} (h : a.Whole store)
    (e : a.contents = .numeric t block) : t.width ∣ (store.bytes block).length :=
  ⟨a.count store, by rw [(h t block e).2, Nat.mul_comm]⟩

/-- A store that keeps its blocks keeps the number of elements. -/
theorem Whole.count_eq (h : a.Whole store) (hk : store.Keeps store') :
    a.count store' = a.count store := by
  unfold count
  cases e : a.contents with
  | object values => rfl
  | numeric type block => simp only [hk.length block (h type block e).1]

/-- A store that keeps its blocks keeps its arrays whole. -/
theorem Whole.keeps (h : a.Whole store) (hk : store.Keeps store') : a.Whole store' := by
  intro type block e
  obtain ⟨hhas, hlen⟩ := h type block e
  exact ⟨hk.has block hhas, by rw [hk.length block hhas, hlen, h.count_eq hk]⟩

end NdArray

/-- The memory that a source refers to is there and holds complete elements. -/
def Source.Whole (store : Store) : Source → Prop
  | .buffer block => store.Has block
  | .array a => a.Whole store
  | _ => True

/-! ### Backings -/

namespace Backing

variable {store : Store}

/-- The type of the elements. -/
def dtype : Backing → DType
  | shared type _ => .numeric type
  | fresh type _ => .numeric type
  | values _ => .object

/-- Where the memory of the elements comes from. -/
def memory : Backing → Memory BlockId
  | shared _ block => .of block
  | fresh _ _ => .fresh
  | values _ => .none

/-- The bytes are those of complete elements, in a block that is there. -/
def Whole (store : Store) : Backing → Prop
  | shared type block => store.Has block ∧ type.width ∣ (store.bytes block).length
  | fresh type bytes => type.width ∣ bytes.length
  | values _ => True

theorem toArray_dtype (backing : Backing) (shape : Shape) (store : Store) :
    (backing.toArray shape store).1.dtype = backing.dtype := by
  cases backing <;> rfl

theorem toArray_placed (backing : Backing) (shape : Shape) (store : Store) :
    backing.memory.Placed some store (backing.toArray shape store).1.block?
      (backing.toArray shape store).2 := by
  cases backing with
  | shared type block => exact .of rfl
  | fresh type bytes => exact .fresh bytes
  | values items => exact .none

theorem toArray_whole {backing : Backing} (shape : Shape) (h : backing.Whole store) :
    (backing.toArray shape store).1.Whole (backing.toArray shape store).2 := by
  cases backing with
  | shared type block => exact NdArray.whole_of_dvd h.1 h.2
  | fresh type bytes =>
      apply NdArray.whole_of_dvd (store.has_alloc_next bytes)
      show type.width ∣ ((store.alloc bytes).2.bytes store.next).length
      rw [store.bytes_alloc_next bytes]
      exact h
  | values items => exact NdArray.whole_of_object

theorem fresh_encode_whole (t : ElementType) (xs : List t.Value) :
    (Backing.fresh t (t.encode xs)).Whole store :=
  ⟨xs.length, by rw [ElementType.length_encode, Nat.mul_comm]⟩

end Backing

theorem ElementType.width_dvd_encodeAs (t s : ElementType) (xs : List s.Value) :
    t.width ∣ (t.encodeAs s xs).length := by
  unfold encodeAs
  split
  · next e =>
      subst e
      exact ⟨xs.length, by rw [length_encode, Nat.mul_comm]⟩
  · exact ⟨xs.length, by rw [length_encode, List.length_map, Nat.mul_comm]⟩

namespace Source

variable {store : Store} {source : Source} {backing : Backing} {dtype : DType} {copy : Bool}

/-- A block that is shared or copied. -/
theorem blockBacking_memory (t : ElementType) (copy : Bool) (store : Store) (block : BlockId) :
    (blockBacking t copy store block).dtype = .numeric t ∧
      (blockBacking t copy store block).memory = if copy then .fresh else .of block := by
  cases copy <;> exact ⟨rfl, rfl⟩

theorem blockBacking_whole {t : ElementType} {block : BlockId} (copy : Bool) (h : store.Has block)
    (hdvd : t.width ∣ (store.bytes block).length) :
    (blockBacking t copy store block).Whole store := by
  cases copy with
  | true => exact hdvd
  | false => exact ⟨h, hdvd⟩

/-- **A backing is what the source promises**: elements of the type asked for, in memory that comes
from where `Source.memory` says. -/
theorem backing_memory (h : source.backing dtype copy store = .ok backing) :
    backing.dtype = dtype ∧ backing.memory = source.memory dtype copy := by
  cases dtype with
  | object =>
      cases source with
      | buffer block => cases h
      | values items => cases h; exact ⟨rfl, rfl⟩
      | elements s xs => cases h; exact ⟨rfl, rfl⟩
      | array a => cases h; exact ⟨rfl, rfl⟩
  | numeric t =>
      cases source with
      | buffer block =>
          simp only [Source.backing, numericBacking] at h
          split at h
          · cases h
            exact blockBacking_memory t copy store block
          · cases h
      | values items => cases h; exact ⟨rfl, rfl⟩
      | elements s xs => cases h; exact ⟨rfl, rfl⟩
      | array a =>
          obtain ⟨shape, contents⟩ := a
          cases contents with
          | object items => cases h; exact ⟨rfl, rfl⟩
          | numeric s block =>
              simp only [Source.backing, numericBacking] at h
              by_cases hs : s = t
              · rw [if_pos hs] at h
                cases h
                obtain ⟨hd, hm⟩ := blockBacking_memory t copy store block
                refine ⟨hd, hm.trans ?_⟩
                cases copy <;> simp [memory, hs]
              · rw [if_neg hs] at h
                cases h
                exact ⟨rfl, by simp [memory, hs, Backing.memory]⟩

/-- Every backing consists of complete elements: raw bytes are refused otherwise, and all else is
written element by element. -/
theorem backing_whole (hw : source.Whole store) (h : source.backing dtype copy store = .ok backing) :
    backing.Whole store := by
  cases dtype with
  | object =>
      cases source with
      | buffer block => cases h
      | values items => cases h; trivial
      | elements s xs => cases h; trivial
      | array a => cases h; trivial
  | numeric t =>
      cases source with
      | buffer block =>
          simp only [Source.backing, numericBacking] at h
          split at h
          · next hmod =>
              cases h
              exact blockBacking_whole copy hw (Nat.dvd_of_mod_eq_zero hmod)
          · cases h
      | values items => cases h; exact Backing.fresh_encode_whole t _
      | elements s xs => cases h; exact t.width_dvd_encodeAs s xs
      | array a =>
          cases e : a.contents with
          | object items =>
              simp only [Source.backing, numericBacking, e] at h
              cases h
              exact Backing.fresh_encode_whole t _
          | numeric s block =>
              simp only [Source.backing, numericBacking, e] at h
              by_cases hs : s = t
              · subst hs
                rw [if_pos rfl] at h
                cases h
                exact blockBacking_whole copy (hw s block e).1 (NdArray.Whole.dvd hw e)
              · rw [if_neg hs] at h
                cases h
                exact t.width_dvd_encodeAs s _

end Source

/-! ### Arrays -/

namespace NdArray

variable {store : Store} {source : Source} {dtype : DType} {options : BuildOptions}
  {made : NdArray × Store}

/-- Building from a source goes through a backing of it and a shape that is settled beforehand. -/
theorem fromSource_settled (h : (fromSource dtype source options store).result = .ok made) :
    ∃ backing, source.backing dtype options.copy store = .ok backing ∧
      made = backing.toArray ((options.shape.or source.shape?).getD [backing.count store]) store := by
  unfold fromSource at h
  cases hb : source.backing dtype options.copy store with
  | error error => rw [hb] at h; cases h
  | ok backing =>
      rw [hb] at h
      dsimp only at h
      split at h
      · simp only [ofBackingValidated] at h
        split at h
        · cases h
          exact ⟨backing, rfl, rfl⟩
        · cases h
      · cases h
        exact ⟨backing, rfl, rfl⟩

theorem fromSource_eq (h : (fromSource dtype source options store).result = .ok made) :
    ∃ backing shape, source.backing dtype options.copy store = .ok backing ∧
      made = backing.toArray shape store := by
  obtain ⟨backing, hb, hmade⟩ := fromSource_settled h
  exact ⟨backing, _, hb, hmade⟩

/-- **An array from any source** has the type asked for, its memory comes from where the source and
the options say, and its memory holds complete elements. -/
theorem fromSource_ok (h : (fromSource dtype source options store).result = .ok made) :
    made.1.dtype = dtype ∧
      (source.memory dtype options.copy).Placed some store made.1.block? made.2 ∧
      (source.Whole store → made.1.Whole made.2) := by
  obtain ⟨backing, shape, hb, rfl⟩ := fromSource_eq h
  obtain ⟨hd, hm⟩ := Source.backing_memory hb
  refine ⟨(backing.toArray_dtype shape store).trans hd, ?_, ?_⟩
  · rw [← hm]
    exact backing.toArray_placed shape store
  · intro hw
    exact Backing.toArray_whole shape (Source.backing_whole hw hb)

/-- The type that an array is built with. -/
def builtType (source : Source) (options : BuildOptions) : DType :=
  options.dtype.getD source.inferredType.result

theorem build_result (source : Source) (options : BuildOptions) (store : Store) :
    (build source options store).result =
      (fromSource (builtType source options) source options store).result := by
  unfold build builtType
  cases options.dtype <;> rfl

/-- Elements, converted from nothing, lie in new memory. -/
theorem fromElements_ok (t : ElementType) (xs : List t.Value) (shape : Option Shape)
    (store : Store) :
    Memory.fresh.Placed (some : BlockId → Option BlockId) store
        (fromElements t xs shape store).result.1.block?
        (fromElements t xs shape store).result.2 ∧
      (fromElements t xs shape store).result.1.Whole (fromElements t xs shape store).result.2 :=
  ⟨Backing.toArray_placed (.fresh t (t.encode xs)) _ store,
    Backing.toArray_whole _ (Backing.fresh_encode_whole t xs)⟩

/-- Values of a numeric type lie in new memory, and JSON values have none. -/
theorem fromValues_ok (dtype : DType) (values : List Json) (shape : Option Shape) (store : Store) :
    ((Source.values values).memory dtype false).Placed some store
        (fromValues dtype values shape store).result.1.block?
        (fromValues dtype values shape store).result.2 ∧
      (fromValues dtype values shape store).result.1.Whole
        (fromValues dtype values shape store).result.2 := by
  cases dtype with
  | object =>
      exact ⟨Backing.toArray_placed (.values values) _ store,
        @Backing.toArray_whole _ (.values values) _ trivial⟩
  | numeric t => exact fromElements_ok t (values.map t.ofJson) shape store

/-- A copy of an array has new memory, if the array has any. -/
theorem copy_ok (a : NdArray) (store : Store) :
    (match a.block? with
      | some _ => Memory.fresh
      | none => Memory.none).Placed (some : BlockId → Option BlockId) store
        (a.copy store).1.block? (a.copy store).2 ∧
      (a.Whole store → (a.copy store).1.Whole (a.copy store).2) := by
  obtain ⟨shape, contents⟩ := a
  cases contents with
  | object values => exact ⟨.none, fun _ => whole_of_object⟩
  | numeric type block =>
      refine ⟨.fresh (store.bytes block), ?_⟩
      intro hw
      apply whole_of_dvd (store.has_alloc_next _)
      show type.width ∣ ((store.alloc (store.bytes block)).2.bytes store.next).length
      rw [store.bytes_alloc_next]
      exact hw.dvd rfl

end NdArray

/-! ### Records -/

/-- The array of a record is built from the source of the record. -/
theorem decode_eq {reader : PayloadReader} {r : Record} {store : Store} {made : NdArray × Store}
    (h : (decode reader r store).result = .ok made) :
    ∃ source store', r.source reader store = .ok (source, store') ∧
      (NdArray.fromSource r.dtype source { shape := some r.shape } store').result = .ok made := by
  unfold decode at h
  split at h
  · cases hs : r.source reader store with
    | error error => rw [hs] at h; cases h
    | ok found =>
        obtain ⟨source, store'⟩ := found
        rw [hs] at h
        refine ⟨source, store', rfl, ?_⟩
        cases hf : (NdArray.fromSource r.dtype source { shape := some r.shape } store').result with
        | error error => simp only [hf] at h; cases h
        | ok array => simp only [hf] at h; cases h; rfl
  · cases h

/-- **An array from a record** has the type of the record, never shares memory, and its memory holds
complete elements. -/
theorem decode_ok {reader : PayloadReader} {r : Record} {store : Store} {made : NdArray × Store}
    (h : (decode reader r store).result = .ok made) :
    made.1.dtype = r.dtype ∧
      (match r.dtype with
        | .numeric _ => Memory.fresh
        | .object => Memory.none).Placed (some : BlockId → Option BlockId) store
          made.1.block? made.2 ∧
      made.1.Whole made.2 := by
  obtain ⟨source, store', hs, hf⟩ := decode_eq h
  obtain ⟨hd, hp, hw⟩ := NdArray.fromSource_ok hf
  refine ⟨hd, ?_⟩
  unfold Record.source at hs
  cases e : r.dtype with
  | object =>
      rw [e] at hs hp
      cases hv : reader.readValues r.payload with
      | error error => simp only [hv] at hs; cases hs
      | ok values =>
          simp only [hv] at hs
          cases hs
          exact ⟨hp, hw trivial⟩
  | numeric t =>
      rw [e] at hs hp
      cases hv : reader.readBytes r.payload with
      | error error => simp only [hv] at hs; cases hs
      | ok bytes =>
          simp only [hv] at hs
          cases hs
          -- the buffer of the record is new, and the array shares it
          refine ⟨?_, hw (store.has_alloc_next _)⟩
          obtain ⟨hblock, hstore⟩ := hp.shared
          rw [hblock, hstore]
          exact .fresh _

end ArrayExchange
