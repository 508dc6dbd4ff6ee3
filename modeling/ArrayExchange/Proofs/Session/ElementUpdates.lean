import ArrayExchange.Proofs.Memory.Updates
import ArrayExchange.Proofs.Session.Effects

/-!
# Updates of one element

Overwriting an element of an array is checked twice: the type has to be that of the array, and then the
index has to be one of its indices.  If a check fails, the session stays as it is.  If both succeed, the
bytes of one element change and nothing else does, so all that can be seen of the update, through the
array itself or through arrays of other types over the same memory, follows from byte ranges.

* `NdArray.set_of_ne`, `NdArray.set_of_le`, `NdArray.set_of_lt` — the three outcomes on an array.
* `Session.ElementUpdate` — what an update does to a session.
* `Session.set_exact` — the statement over all sessions that were built by commands.
-/

namespace ArrayExchange

namespace NdArray

variable {t u : ElementType} {a b : NdArray} {store store' : Store} {block : BlockId} {index : Nat}

/-! ### Outcomes on an array -/

/-- The type is checked first. -/
theorem set_of_ne (h : a.dtype ≠ .numeric t) (store : Store) (index : Nat) (x : t.Value) :
    a.set t store index x = .error (.wrongElementType a.dtype t) := by
  unfold set
  cases e : a.typedBlock t with
  | error error =>
      rw [(typedBlock_error e).1]
      rfl
  | ok block =>
      apply absurd _ h
      unfold dtype
      rw [typedBlock_eq_ok_iff.mp e]

/-- The index is checked next. -/
theorem set_of_le (h : a.contents = .numeric t block) (hindex : a.count store ≤ index) (x : t.Value) :
    a.set t store index x = .error (.indexOutOfBounds index (a.count store)) := by
  unfold set
  rw [typedBlock_eq_ok_iff.mpr h]
  exact if_neg (Nat.not_lt.mpr hindex)

/-- There is nothing else to check. -/
theorem set_of_lt (h : a.contents = .numeric t block) (hindex : index < a.count store) (x : t.Value) :
    a.set t store index x = .ok (store.write block (index * t.width) (t.write x)) := by
  unfold set
  rw [typedBlock_eq_ok_iff.mpr h]
  exact if_pos hindex

/-! ### Elements after an update -/

/-- The memory of the array is updated where the element lies. -/
theorem Whole.updated (hw : a.Whole store) (h : a.contents = .numeric t block)
    (hindex : index < a.count store) (x : t.Value) :
    store.Updated block (index * t.width) (t.write x)
      (store.write block (index * t.width) (t.write x)) := by
  apply Store.updated_write (hw t block h).1
  rw [t.length_write]
  exact hw.set_fits h hindex

/-- The array has the new element in place of the old one. -/
theorem Whole.toList_write (hw : a.Whole store) (h : a.contents = .numeric t block)
    (hindex : index < a.count store) (x : t.Value) :
    ∃ xs, a.toList t store = .ok xs ∧ index < xs.length ∧
      a.toList t (store.write block (index * t.width) (t.write x)) = .ok (xs.set index x) := by
  have hlt : index < (store.bytes block).length / t.width := by rwa [count_of_numeric h] at hindex
  refine ⟨t.decode (store.bytes block), toList_eq_ok_iff.mpr ⟨block, h, rfl⟩, ?_, ?_⟩
  · rwa [t.length_decode]
  · apply toList_eq_ok_iff.mpr
    refine ⟨block, h, ?_⟩
    rw [Store.write, Store.bytes_replace_self _ (hw t block h).1, ElementType.decode_patch_self hlt]

/-- The elements of `b`, of type `u`, after the bytes of element `index` of another array, of type `t`,
in the same memory were overwritten. -/
structure Follows (b : NdArray) (u t : ElementType) (index : Nat) (block : BlockId)
    (store store' : Store) (ys zs : List u.Value) : Prop where
  before : b.toList u store = .ok ys
  after : b.toList u store' = .ok zs
  length : zs.length = ys.length
  /-- Every element is what its bytes are read as by now. -/
  read : ∀ j < zs.length,
    zs[j]? = some (u.read (((store'.bytes block).drop (j * u.width)).take u.width))
  /-- An element without a byte in common with the one that was written is as it was. -/
  apart : ∀ j, ¬ Bytes.Overlap j u.width index t.width → zs[j]? = ys[j]?

/-- **An array over the same memory follows the update**, whatever its type. -/
theorem Whole.follows (hw : a.Whole store) (h : a.contents = .numeric t block)
    (hindex : index < a.count store) (x : t.Value) (hb : b.contents = .numeric u block) :
    ∃ ys zs, b.Follows u t index block store
      (store.write block (index * t.width) (t.write x)) ys zs := by
  have hlt : index < (store.bytes block).length / t.width := by rwa [count_of_numeric h] at hindex
  have hbytes : (store.write block (index * t.width) (t.write x)).bytes block =
      Store.patch (index * t.width) (t.write x) (store.bytes block) :=
    Store.bytes_replace_self _ (hw t block h).1
  refine ⟨u.decode (store.bytes block),
    u.decode (Store.patch (index * t.width) (t.write x) (store.bytes block)), ?_⟩
  exact {
    before := toList_eq_ok_iff.mpr ⟨block, hb, rfl⟩
    after := toList_eq_ok_iff.mpr ⟨block, hb, by rw [hbytes]⟩
    length := by rw [u.length_decode, u.length_decode, Store.length_patch]
    read := by
      intro j hj
      rw [u.length_decode] at hj
      rw [hbytes, ElementType.getElem?_decode hj]
    apart := fun j apart => ElementType.decode_patch_of_apart hlt x apart }

end NdArray

namespace Session

variable {s : Session} {name : String} {a : NdArray} {t : ElementType} {index : Nat}

/-- What an update of element `index` of the array `a`, whose elements are in `block`, does to a
session. -/
structure ElementUpdate (s : Session) (a : NdArray) (t : ElementType) (index : Nat) (x : t.Value)
    (block : BlockId) (s' : Session) : Prop where
  /-- Nothing but memory changes, and of memory only the bytes of the element. -/
  names : s' = { s with store := s'.store }
  memory : s.store.Updated block (index * t.width) (t.write x) s'.store
  /-- The array has the new element in place of the old one. -/
  own : ∃ xs, a.toList t s.store = .ok xs ∧ index < xs.length ∧
    a.toList t s'.store = .ok (xs.set index x)
  /-- All arrays over the same memory follow. -/
  views : ∀ other b u, s.arrays.get? other = some b → b.contents = .numeric u block →
    ∃ ys zs, b.Follows u t index block s.store s'.store ys zs

/-- Overwriting an element is an operation on the array with the name. -/
theorem exec_set (h : s.arrays.get? name = some a) (t : ElementType) (index : Nat) (x : t.Value) :
    s.exec (.set name t index x) =
      quiet (((a.set t s.store index x).mapError .array).map fun store => { s with store }) := by
  have hfind : s.arrays.find name = .ok a := by
    unfold Names.find
    rw [h]
  show having (s.arrays.find name) _ = _
  rw [hfind]
  rfl

/-- A command that fails leaves the session as it is. -/
theorem step_of_error {c : Command} {failure : Failure} (h : (s.exec c).result = .error failure) :
    s.step c = s := by
  unfold step
  rw [h]

/-- An update that is let through has the effect that is said of it. -/
theorem Sound.set_of_lt (sound : s.Sound) (h : s.arrays.get? name = some a) {block : BlockId}
    (hblock : a.contents = .numeric t block) (hindex : index < a.count s.store) (x : t.Value) :
    ∃ s', s.exec (.set name t index x) = ⟨.ok (.done, s'), []⟩ ∧
      s.ElementUpdate a t index x block s' := by
  have hw : a.Whole s.store := sound.array name a h
  refine ⟨{ s with store := s.store.write block (index * t.width) (t.write x) }, ?_, ?_⟩
  · rw [exec_set h, NdArray.set_of_lt hblock hindex]
    rfl
  · exact {
      names := rfl
      memory := hw.updated hblock hindex x
      own := hw.toList_write hblock hindex x
      views := fun _ _ _ _ hb => hw.follows hblock hindex x hb }

/-- **An update of an element is exact.**  Take an array of a session that was built by commands.  An
update fails if the type is not that of the array, and else if the index is not one of its indices;
whenever it fails the session stays as it is.  Otherwise it succeeds and changes the bytes of the
element and nothing else: the array has the new element in place of the old one, and in every array of
any type over the same memory an element without a byte in common with it is as it was, while every
element is what its bytes are read as by now. -/
theorem set_exact (commands : List Command) (name : String) (a : NdArray)
    (h : (Session.run {} commands).arrays.get? name = some a) (t : ElementType) (index : Nat)
    (x : t.Value) :
    let s := Session.run {} commands
    let update := Command.set name t index x
    (a.dtype ≠ .numeric t →
      s.exec update = ⟨.error (.array (.wrongElementType a.dtype t)), []⟩) ∧
    (a.dtype = .numeric t → a.count s.store ≤ index →
      s.exec update = ⟨.error (.array (.indexOutOfBounds index (a.count s.store))), []⟩) ∧
    (∀ failure, (s.exec update).result = .error failure → s.step update = s) ∧
    (a.dtype = .numeric t → index < a.count s.store →
      ∃ block s', a.contents = .numeric t block ∧ s.exec update = ⟨.ok (.done, s'), []⟩ ∧
        s.ElementUpdate a t index x block s') := by
  intro s update
  have sound : s.Sound := sound_run commands
  refine ⟨?_, ?_, fun failure failed => step_of_error failed, ?_⟩
  · intro hne
    show s.exec (.set name t index x) = _
    rw [exec_set h, NdArray.set_of_ne hne]
    rfl
  · intro htype hindex
    obtain ⟨block, hblock⟩ := NdArray.exists_block htype
    show s.exec (.set name t index x) = _
    rw [exec_set h, NdArray.set_of_le hblock hindex]
    rfl
  · intro htype hindex
    obtain ⟨block, hblock⟩ := NdArray.exists_block htype
    obtain ⟨s', hexec, hupdate⟩ := sound.set_of_lt h hblock hindex x
    exact ⟨block, s', hblock, hexec, hupdate⟩

/-- Two words over four bytes.  An update of the second word by a single byte fails, whatever the index,
and so does one of the third word; one of the second word succeeds, and of the bytes the first two are
as they were. -/
theorem set_exact_words :
    let uint8 := ElementType.integer .uint8
    let uint16 := ElementType.integer .uint16
    let commands : List Command := [.newBuffer [1, 2, 3, 4] "memory",
      .fromBuffer (.numeric (.integer .uint16)) "memory" none false "words",
      .fromBuffer (.numeric (.integer .uint8)) "memory" none false "bytes"]
    let words := NdArray.mk [2] (.numeric (.integer .uint16) ⟨0⟩)
    let bytes := NdArray.mk [4] (.numeric (.integer .uint8) ⟨0⟩)
    let word : IntegerType.uint16.Value := ⟨2571, by decide⟩
    let byte : IntegerType.uint8.Value := ⟨7, by decide⟩
    let s := Session.run {} commands
    s.arrays.get? "words" = some words ∧
      s.exec (.set "words" uint8 9 byte) =
        ⟨.error (.array (.wrongElementType (.numeric uint16) uint8)), []⟩ ∧
      s.exec (.set "words" uint16 2 word) = ⟨.error (.array (.indexOutOfBounds 2 2)), []⟩ ∧
      ∃ s' ys zs, s.exec (.set "words" uint16 1 word) = ⟨.ok (.done, s'), []⟩ ∧
        bytes.toList uint8 s.store = .ok ys ∧ bytes.toList uint8 s'.store = .ok zs ∧
        zs[1]? = ys[1]? := by
  intro uint8 uint16 commands words bytes word byte s
  have h : s.arrays.get? "words" = some words := rfl
  have hbytes : s.arrays.get? "bytes" = some bytes := rfl
  have hcount : words.count s.store = 2 := by decide
  have wrong := (set_exact commands "words" words h uint8 9 byte).1 (by decide)
  have outside := (set_exact commands "words" words h uint16 2 word).2.1 rfl (by decide)
  rw [hcount] at outside
  obtain ⟨block, s', hblock, hexec, hupdate⟩ :=
    (set_exact commands "words" words h uint16 1 word).2.2.2 rfl (by decide)
  cases hblock
  obtain ⟨ys, zs, follows⟩ := hupdate.views "bytes" bytes uint8 hbytes rfl
  refine ⟨h, wrong, outside, s', ys, zs, hexec, follows.before, follows.after, follows.apart 1 ?_⟩
  rintro ⟨p, ⟨-, hp⟩, hp', -⟩
  have hbyte : p < 2 := hp
  have hword : 2 ≤ p := hp'
  omega

end Session

end ArrayExchange
