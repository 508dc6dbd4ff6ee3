import ArrayExchange.Proofs.Session.Tagged

/-!
# Arrays stay whole

In a session that was built by commands, in any order and with any sharing of memory, every array
holds complete elements, and it does so for good: whatever is written later, through whatever handle
and as elements of whatever type, the array keeps its type, its shape and the number of its elements.

This is said of the machine that keeps tag and storage apart, where none of it holds by the form of the
data: a tag could stand beside a storage of the other kind, and memory could have a byte too many.

* `TaggedArray.Accessible` — all that access to tag and storage relies on.
* `NdArray.Whole.accessible` — an array of the library that holds complete elements has it all.
* `Session.arrays_stay_whole` — the statement over all runs.
-/

namespace ArrayExchange

namespace Session

variable {s s' : Session} {c : Command}

/-- Only a command that gives a name to an array changes what the name stands for. -/
theorem Effect.array_eq (h : s.Effect c s') {name : String} (hc : c.target? ≠ some (.array name)) :
    s'.arrays.get? name = s.arrays.get? name := by
  cases h with
  | quiet _ _ _ _ arrays => rw [arrays]
  | buffer _ _ _ => rfl
  | @array target _ a store made _ _ _ =>
      apply Names.get?_put_of_ne
      intro hn
      apply hc
      rw [target?_of_made made, hn]
  | overwrite _ _ _ => rfl

theorem array_run {name : String} (commands : List Command)
    (hc : ∀ c ∈ commands, c.target? ≠ some (.array name)) :
    (s.run commands).arrays.get? name = s.arrays.get? name := by
  induction commands generalizing s with
  | nil => rfl
  | cons c rest ih =>
      rw [run_cons, ih fun d hd => hc d (List.mem_cons_of_mem _ hd)]
      rcases s.step_cases c with ⟨_, _, e⟩ | ⟨_, _, h⟩
      · rw [e]
      · exact h.array_eq (hc c List.mem_cons_self)

end Session

/-! ### Access -/

/-- All that access to tag and storage relies on. -/
structure TaggedArray.Accessible (store : Store) (x : TaggedArray) : Prop where
  /-- The storage is a list of JSON values just when the tag says so. -/
  coherent : x.Coherent
  /-- Memory has a numeric tag beside it, is there, and is exactly as long as the elements. -/
  length : ∀ block, x.storage = .memory block → ∃ t, x.dtype = .numeric t ∧ store.Has block ∧
    (store.bytes block).length = x.count store * t.width
  /-- No byte is left over when memory is cut into elements, and each piece is complete. -/
  pieces : ∀ t block, x.dtype = .numeric t → x.storage = .memory block →
    (Bytes.chunks t.width (store.bytes block)).flatten = store.bytes block ∧
      (Bytes.chunks t.width (store.bytes block)).length = x.count store ∧
      ∀ piece ∈ Bytes.chunks t.width (store.bytes block), piece.length = t.width
  /-- Typed access fails for arrays of another type only, never for want of memory. -/
  typed : ∀ t fault, x.typedBlock t = .error fault →
    fault = .known (.wrongElementType x.dtype t) ∧ x.dtype ≠ .numeric t
  /-- Typed access that does not fail finds every element. -/
  reads : ∀ t xs, x.toList t store = .ok xs → x.dtype = .numeric t ∧ xs.length = x.count store
  /-- Memory gives a number for every element, so conversion never falls back to no elements. -/
  numbers : ∀ block, x.storage = .memory block →
    ∃ numbers, x.toBinaries? store = some numbers ∧ numbers.length = x.count store
  /-- Memory is never said to hold JSON values, and every element is listed. -/
  lists : (∀ block, x.storage = .memory block → x.dtype ≠ .object) ∧
    (x.toValues store).length = x.count store ∧ (x.scalars store).length = x.count store
  /-- The slice for an element that is written is there. -/
  range : ∀ t index (value : t.Value), x.set t store index value ≠ .error .outOfRange
  /-- An element that is written replaces the bytes of one element, and these lie within memory. -/
  writes : ∀ t index (value : t.Value) store', x.set t store index value = .ok store' →
    ∃ block, x.dtype = .numeric t ∧ x.storage = .memory block ∧
      index * t.width + t.width ≤ (store.bytes block).length ∧ (t.write value).length = t.width ∧
      store' = store.replace block ((store.bytes block).take (index * t.width) ++ t.write value ++
        (store.bytes block).drop (index * t.width + t.width))

namespace NdArray

variable {store store' : Store} {a : NdArray}

/-- An array that holds complete elements is accessible. -/
theorem Whole.accessible (h : a.Whole store) : a.tagged.Accessible store where
  coherent := a.tagged_coherent
  length block hstorage := by
    obtain ⟨t, e⟩ := contents_of_memory hstorage
    rw [a.tagged_count store]
    exact ⟨t, by rw [tagged_of_numeric e], h t block e⟩
  pieces t block htype hstorage := by
    have e : a.contents = .numeric t block := contents_of_tagged htype hstorage
    rw [a.tagged_count store, count_of_numeric e]
    exact ⟨Bytes.flatten_chunks_of_dvd (h.dvd e), Bytes.length_chunks _ _,
      fun _ hp => Bytes.length_of_mem_chunks hp⟩
  typed t fault hfault := by
    rw [a.tagged_typedBlock t] at hfault
    obtain ⟨error, herror, rfl⟩ := Fault.of_mapError_error hfault
    obtain ⟨rfl, hne⟩ := typedBlock_error herror
    exact ⟨rfl, hne⟩
  reads t xs hxs := by
    rw [a.tagged_toList t store] at hxs
    have hlist : a.toList t store = .ok xs := Fault.of_mapError_ok hxs
    exact ⟨dtype_of_toList hlist, by rw [a.tagged_count, length_of_toList hlist]⟩
  numbers block hstorage := by
    obtain ⟨t, e⟩ := contents_of_memory hstorage
    refine ⟨_, tagged_toBinaries? e store, ?_⟩
    rw [List.length_map, t.length_decode, a.tagged_count store, count_of_numeric e]
  lists := by
    rw [a.tagged_toValues, a.tagged_scalars, a.tagged_count]
    refine ⟨?_, a.length_toValues store, a.length_scalars store⟩
    intro block hstorage
    obtain ⟨t, e⟩ := contents_of_memory hstorage
    rw [tagged_of_numeric e]
    exact DType.noConfusion
  range t index value hfault := by
    rw [a.tagged_set t store index value] at hfault
    obtain ⟨error, -, herror⟩ := Fault.of_mapError_error hfault
    cases herror
  writes t index value store' hset := by
    rw [a.tagged_set t store index value] at hset
    obtain ⟨block, e, hlt, rfl⟩ := set_ok (Fault.of_mapError_ok hset)
    rw [tagged_of_numeric e]
    exact ⟨block, rfl, rfl, h.set_fits e hlt, t.length_write value, h.write_eq e hlt value⟩

end NdArray

/-! ### Every run -/

/-- What goes by a name is an array of the library with its type as a tag. -/
theorem Session.get?_tagged {s : Session} {name : String} {x : TaggedArray}
    (h : s.tagged.arrays.get? name = some x) :
    ∃ a, s.arrays.get? name = some a ∧ a.tagged = x :=
  Option.map_eq_some_iff.mp h

/-- **Arrays stay whole.**  Take an array of a session that was built by commands, and let the
session go on.  Access to tag and storage finds all that it relies on, the array has as many elements as
before, and its name stands for it, with its type and its shape, until another array gets the name.  No
command ends in a fault that the library does not know, new arrays have the types asked for, and the
whole session is that of the library with types as tags. -/
theorem Session.arrays_stay_whole (before after : List Command) (name : String) (x : TaggedArray)
    (h : (TaggedSession.run {} before).arrays.get? name = some x) :
    let s := TaggedSession.run {} before
    let s' := s.run after
    x.Accessible s'.store ∧ x.count s'.store = x.count s.store ∧
      ((∀ c ∈ after, c.target? ≠ some (.array name)) → s'.arrays.get? name = some x) ∧
      s'.Dependable ∧ s' = ((Session.run {} before).run after).tagged := by
  intro s s'
  have hs : s = (Session.run {} before).tagged := TaggedSession.run_tagged {} before
  have hs' : s' = ((Session.run {} before).run after).tagged := by
    show s.run after = _
    rw [hs, TaggedSession.run_tagged]
  have sound := Session.sound_run before
  have hk := sound.keeps_run after
  replace h : (Session.run {} before).tagged.arrays.get? name = some x := hs ▸ h
  obtain ⟨a, ha, rfl⟩ := Session.get?_tagged h
  have whole : a.Whole (Session.run {} before).store := sound.array name a ha
  rw [hs', hs]
  refine ⟨(whole.keeps hk).accessible, ?_, ?_, TaggedSession.dependable_tagged _, rfl⟩
  · rw [a.tagged_count, a.tagged_count]
    exact whole.count_eq hk
  · intro hc
    show (((Session.run {} before).run after).arrays.get? name).map NdArray.tagged = _
    rw [array_run after hc, ha]
    rfl

/-- Two elements of 16 bits stay two elements while single bytes of theirs are overwritten, through
an array of bytes over the same memory and through the buffer. -/
theorem Session.arrays_stay_whole_views :
    let before : List Command := [.newBuffer [1, 2, 3, 4] "memory",
      .fromBuffer (.numeric (.integer .uint16)) "memory" none false "words"]
    let after : List Command := [.fromBuffer (.numeric (.integer .uint8)) "memory" none false "bytes",
      .set "bytes" (.integer .uint8) 3 (⟨255, by decide⟩ : IntegerType.uint8.Value),
      .writeBuffer "memory" 0 [7]]
    let words := TaggedArray.mk (.numeric (.integer .uint16)) [2] (.memory ⟨0⟩)
    let s := (TaggedSession.run {} before).run after
    (TaggedSession.run {} before).arrays.get? "words" = some words ∧ words.Accessible s.store ∧
      words.count s.store = 2 ∧ s.arrays.get? "words" = some words := by
  intro before after words s
  have h : (TaggedSession.run {} before).arrays.get? "words" = some words := rfl
  obtain ⟨haccess, hcount, hname, -, -⟩ :=
    Session.arrays_stay_whole before after "words" words h
  refine ⟨h, haccess, hcount.trans (by decide), hname ?_⟩
  simp [after, Command.target?]

end ArrayExchange
