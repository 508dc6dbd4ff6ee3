import ArrayExchange.Proofs.Memory.Access
import ArrayExchange.Session.Command

/-!
# What commands do to memory

Of all that a command can do, three things concern memory: it makes a handle, it overwrites bytes
through a handle, or it leaves memory alone.  Which of them a command does, and where the memory of
a new handle comes from, is said here by looking at the command, at the types of arrays and at the
copy flag, never at a block.

* `Handle` and `Session.block?` — the names under which memory is reached, and the block reached.
* `Session.made` — the handle that a command makes, with the origin of its memory.  The commands
  that share memory are those with the origin `Memory.of`.
* `Command.target?` — the handle to which a command gives a name, whatever the session.
* `Command.overwrites`, `Command.overwrite` — the handle through which a command writes, and what it
  makes of the bytes there.
* `Session.Effect` and `Session.exec_effect` — a command that succeeds has exactly the effect that
  these functions say.
* `Session.Sound`, `Session.sound_run` — in a session that was built by commands, every handle has a
  block and every array holds complete elements.
-/

namespace ArrayExchange

/-- A name under which memory can be reached. -/
inductive Handle where
  | buffer (name : String)
  | array (name : String)
  deriving DecidableEq

namespace Session

/-- The block that is reached under a name, unless the name is free or that of an array of JSON
values. -/
def block? (s : Session) : Handle → Option BlockId
  | .buffer name => s.buffers.get? name
  | .array name => (s.arrays.get? name).bind NdArray.block?

/-! ### Handles that are made -/

/-- Where the memory of an array from an origin comes from.  It is shared if the origin is a buffer,
or an array of the type asked for, and no copy is wanted. -/
def originMemory (s : Session) (dtype : DType) (copy : Bool) : Origin → Memory Handle
  | .buffer name =>
    match dtype with
    | .object => .none
    | .numeric _ => if copy then .fresh else .of (.buffer name)
  | .array name =>
    match dtype with
    | .object => .none
    | .numeric t =>
      if (s.arrays.get? name).map NdArray.dtype = some (.numeric t) ∧ copy = false then
        .of (.array name)
      else .fresh
  | _ =>
    match dtype with
    | .object => .none
    | .numeric _ => .fresh

/-- The type that an array from an origin is built with. -/
def builtType (s : Session) (origin : Origin) (options : BuildOptions) : DType :=
  match s.source origin with
  | .ok source => NdArray.builtType source options
  | .error _ => .object

/-- The handle that a command makes if it succeeds, and where the memory of the handle comes
from. -/
def made (s : Session) : Command → Option (Handle × Memory Handle)
  | .newBuffer _ target => some (.buffer target, .fresh)
  | .shareBuffer buffer target => some (.buffer target, .of (.buffer buffer))
  | .copyBuffer _ target => some (.buffer target, .fresh)
  | .bufferOf array target =>
    match s.block? (.array array) with
    | some _ => some (.buffer target, .of (.array array))
    | none => none
  | .build origin options target =>
    some (.array target, s.originMemory (s.builtType origin options) options.copy origin)
  | .fromSource dtype origin options target =>
    some (.array target, s.originMemory dtype options.copy origin)
  | .fromElements _ _ _ target => some (.array target, .fresh)
  | .fromBuffer dtype buffer _ copy target =>
    some (.array target, s.originMemory dtype copy (.buffer buffer))
  | .fromValues dtype values _ target =>
    some (.array target, s.originMemory dtype false (.values values))
  | .fromView _ _ target => some (.array target, .fresh)
  | .shareArray array target =>
    match s.block? (.array array) with
    | some _ => some (.array target, .of (.array array))
    | none => some (.array target, .none)
  | .copyArray array target =>
    match s.block? (.array array) with
    | some _ => some (.array target, .fresh)
    | none => some (.array target, .none)
  | .decode record _ target =>
    match (s.records.get? record).map Record.dtype with
    | some (.numeric _) => some (.array target, .fresh)
    | _ => some (.array target, .none)
  | _ => none

end Session

namespace Command

/-- The handle to which a command gives a name.  A command that fails gives none. -/
def target? : Command → Option Handle
  | .newBuffer _ target | .shareBuffer _ target | .copyBuffer _ target | .bufferOf _ target =>
    some (.buffer target)
  | .build _ _ target | .fromSource _ _ _ target | .fromElements _ _ _ target
  | .fromBuffer _ _ _ _ target | .fromValues _ _ _ target | .fromView _ _ target
  | .shareArray _ target | .copyArray _ target | .decode _ _ target => some (.array target)
  | _ => none

/-! ### Bytes that are overwritten -/

/-- The handle through which a command writes. -/
def overwrites : Command → Option Handle
  | .writeBuffer buffer _ _ => some (.buffer buffer)
  | .fillBuffer buffer _ => some (.buffer buffer)
  | .set array _ _ _ => some (.array array)
  | _ => none

/-- What a command that writes makes of the bytes behind its handle. -/
def overwrite : Command → Bytes → Bytes
  | .writeBuffer _ start bytes, old => Store.patch start bytes old
  | .fillBuffer _ byte, old => List.replicate old.length byte
  | .set _ type index x, old => Store.patch (index * type.width) (type.write x) old
  | _, old => old

/-- Writing never changes how many bytes there are. -/
theorem length_overwrite (c : Command) (old : Bytes) : (c.overwrite old).length = old.length := by
  cases c with
  | writeBuffer buffer start bytes => exact Store.length_patch start bytes old
  | fillBuffer buffer byte => exact List.length_replicate
  | set array type index x => exact Store.length_patch _ _ old
  | _ => rfl

end Command

namespace Session

variable {s s' : Session} {c : Command} {answer : Answer}

/-- The handle that is made is the one that gets the name. -/
theorem target?_of_made {made : Handle × Memory Handle} (h : s.made c = some made) :
    c.target? = some made.1 := by
  cases c with
  | bufferOf array target =>
      simp only [Session.made] at h
      split at h
      · cases h; rfl
      · cases h
  | shareArray array target => simp only [Session.made] at h; split at h <;> cases h <;> rfl
  | copyArray array target => simp only [Session.made] at h; split at h <;> cases h <;> rfl
  | decode record reader target =>
      simp only [Session.made] at h
      split at h <;> cases h <;> rfl
  | _ => cases h <;> rfl

/-! ### Soundness -/

/-- Every buffer has a block, and every array has its memory and holds complete elements. -/
structure Sound (s : Session) : Prop where
  buffer : ∀ name block, s.buffers.get? name = some block → s.store.Has block
  array : ∀ name a, s.arrays.get? name = some a → a.Whole s.store

theorem sound_empty : Sound {} where
  buffer _ _ h := by cases h
  array _ _ h := by cases h

/-- In a sound session every handle has a block. -/
theorem Sound.has (h : s.Sound) {handle : Handle} {block : BlockId}
    (hb : s.block? handle = some block) : s.store.Has block := by
  cases handle with
  | buffer name => exact h.buffer name block hb
  | array name =>
      obtain ⟨a, ha, hblock⟩ := Option.bind_eq_some_iff.mp hb
      unfold NdArray.block? at hblock
      split at hblock
      · next type _ e =>
          cases hblock
          exact (h.array name a ha type block e).1
      · cases hblock

/-- What a command that succeeds does to memory. -/
inductive Effect (s : Session) (c : Command) : Session → Prop
  /-- Memory and the handles on it are left alone. -/
  | quiet {s' : Session} (made : s.made c = none) (overwrites : c.overwrites = none)
      (store : s'.store = s.store) (buffers : s'.buffers = s.buffers)
      (arrays : s'.arrays = s.arrays) : Effect s c s'
  /-- A buffer is made. -/
  | buffer {target : String} {memory : Memory Handle} {block : BlockId} {store : Store}
      (made : s.made c = some (.buffer target, memory)) (overwrites : c.overwrites = none)
      (placed : memory.Placed s.block? s.store (some block) store) :
      Effect s c (s.addBuffer target (block, store))
  /-- An array is made. -/
  | array {target : String} {memory : Memory Handle} {a : NdArray} {store : Store}
      (made : s.made c = some (.array target, memory)) (overwrites : c.overwrites = none)
      (placed : memory.Placed s.block? s.store a.block? store) (whole : s.Sound → a.Whole store) :
      Effect s c (s.addArray target (a, store))
  /-- Bytes are overwritten. -/
  | overwrite {handle : Handle} {block : BlockId} (made : s.made c = none)
      (overwrites : c.overwrites = some handle) (found : s.block? handle = some block) :
      Effect s c { s with store := s.store.replace block (c.overwrite (s.store.bytes block)) }

/-! ### Finding things by name -/

theorem find_ok {α : Type} {names : Names α} {name : String} {thing : α}
    (h : names.find name = .ok thing) : names.get? name = some thing := by
  unfold Names.find at h
  cases e : names.get? name with
  | none => rw [e] at h; cases h
  | some found => rw [e] at h; cases h; rfl

theorem having_ok {α : Type} {found : Except Failure α}
    {act : α → Logged (Except Failure (Answer × Session))} {outcome : Answer × Session}
    (h : (having found act).result = .ok outcome) :
    ∃ thing, found = .ok thing ∧ (act thing).result = .ok outcome := by
  cases found with
  | error failure => cases h
  | ok thing => exact ⟨thing, rfl, h⟩

theorem tryMaking_ok {target : String} {made : Logged (Except ArrayError (NdArray × Store))}
    {outcome : Answer × Session} (h : (s.tryMaking target made).result = .ok outcome) :
    ∃ array, made.result = .ok array ∧ outcome = (.done, s.addArray target array) := by
  obtain ⟨result, events⟩ := made
  cases result with
  | error error => cases h
  | ok array => cases h; exact ⟨array, rfl, rfl⟩

theorem tryDecoding_ok {target : String} {made : Logged (Except DecodeError (NdArray × Store))}
    {outcome : Answer × Session} (h : (s.tryDecoding target made).result = .ok outcome) :
    ∃ array, made.result = .ok array ∧ outcome = (.done, s.addArray target array) := by
  obtain ⟨result, events⟩ := made
  cases result with
  | error error => cases h
  | ok array => cases h; exact ⟨array, rfl, rfl⟩

/-! ### Origins -/

theorem map_find_ok {α β : Type} {names : Names α} {name : String} {f : α → β} {x : β}
    (h : (names.find name).map f = .ok x) : ∃ thing, names.get? name = some thing ∧ f thing = x := by
  cases e : names.find name with
  | error failure => rw [e] at h; cases h
  | ok thing =>
      rw [e] at h
      cases h
      exact ⟨thing, find_ok e, rfl⟩

theorem Sound.source {origin : Origin} {source : Source} (hs : s.Sound)
    (h : s.source origin = .ok source) : source.Whole s.store := by
  cases origin with
  | buffer name =>
      obtain ⟨block, hb, rfl⟩ := map_find_ok h
      exact hs.buffer name block hb
  | array name =>
      obtain ⟨a, ha, rfl⟩ := map_find_ok h
      exact hs.array name a ha
  | values items => cases h; trivial
  | elements type xs => cases h; trivial

/-- What holds of the source of an array holds of its origin. -/
theorem origin_placed {origin : Origin} {source : Source} {dtype : DType} {copy : Bool}
    {block? : Option BlockId} {store : Store} (h : s.source origin = .ok source)
    (hp : (source.memory dtype copy).Placed some s.store block? store) :
    (s.originMemory dtype copy origin).Placed s.block? s.store block? store := by
  cases dtype with
  | object =>
      -- whatever the source, JSON values have no memory
      have hm : source.memory .object copy = .none := by cases source <;> rfl
      have ho : s.originMemory .object copy origin = .none := by cases origin <;> rfl
      rw [hm] at hp
      rw [ho]
      cases hp
      exact .none
  | numeric t =>
      cases origin with
      | buffer name =>
          obtain ⟨block, hb, rfl⟩ := map_find_ok h
          cases copy with
          | true => cases hp; exact .fresh _
          | false =>
              obtain ⟨rfl, rfl⟩ := hp.shared
              exact .of hb
      | array name =>
          obtain ⟨a, ha, rfl⟩ := map_find_ok h
          obtain ⟨shape, contents⟩ := a
          simp only [originMemory, ha, Option.map_some, Option.some.injEq]
          cases contents with
          | object values => cases hp; exact .fresh _
          | numeric type block =>
              simp only [NdArray.dtype, DType.numeric.injEq]
              simp only [Source.memory] at hp
              split
              · next hc =>
                  rw [if_pos hc] at hp
                  obtain ⟨rfl, rfl⟩ := hp.shared
                  exact .of (by simp [Session.block?, ha, NdArray.block?])
              · next hc =>
                  rw [if_neg hc] at hp
                  cases hp
                  exact .fresh _
      | values items => cases h; cases hp; exact .fresh _
      | elements type xs => cases h; cases hp; exact .fresh _

/-! ### The effect of a command -/

/-- A new block is a new block, whatever the names. -/
theorem fresh_placed {α β : Type} {find : α → Option BlockId} {find' : β → Option BlockId}
    {block? : Option BlockId} {store store' : Store}
    (h : Memory.fresh.Placed find store block? store') :
    Memory.fresh.Placed find' store block? store' := by
  cases h
  exact .fresh _

/-- Nothing has no memory, whatever the names. -/
theorem none_placed {α β : Type} {find : α → Option BlockId} {find' : β → Option BlockId}
    {block? : Option BlockId} {store store' : Store}
    (h : Memory.none.Placed find store block? store') :
    Memory.none.Placed find' store block? store' := by
  cases h
  exact .none

theorem array_effect {origin : Origin} {source : Source} {dtype : DType} {options : BuildOptions}
    {target : String} {array : NdArray × Store}
    (hm : s.made c = some (.array target, s.originMemory dtype options.copy origin))
    (ho : c.overwrites = none) (hs : s.source origin = .ok source)
    (h : (NdArray.fromSource dtype source options s.store).result = .ok array) :
    s.Effect c (s.addArray target array) := by
  obtain ⟨-, hp, hw⟩ := NdArray.fromSource_ok h
  exact .array hm ho (origin_placed hs hp) fun sound => hw (sound.source hs)

theorem decode_effect {record target : String} {reader : Option String} {r : Record}
    {payload : PayloadReader} {array : NdArray × Store} (hr : s.records.get? record = some r)
    (h : (ArrayExchange.decode payload r s.store).result = .ok array) :
    s.Effect (.decode record reader target) (s.addArray target array) := by
  obtain ⟨-, hp, hw⟩ := decode_ok h
  cases e : r.dtype with
  | object =>
      rw [e] at hp
      exact .array (by simp [made, hr, e]) rfl (none_placed hp) fun _ => hw
  | numeric t =>
      rw [e] at hp
      exact .array (by simp [made, hr, e]) rfl (fresh_placed hp) fun _ => hw

theorem quiet_ok {result : Except Failure Session} (h : (quiet result).result = .ok (answer, s')) :
    result = .ok s' := by
  cases result with
  | error failure => cases h
  | ok found => cases h; rfl

/-- **A command that succeeds has the effect that is said of it.** -/
theorem exec_effect (h : (s.exec c).result = .ok (answer, s')) : s.Effect c s' := by
  cases c with
  | newBuffer bytes target =>
      cases quiet_ok h
      exact .buffer rfl rfl (.fresh bytes)
  | shareBuffer buffer target =>
      obtain ⟨block, hb, h⟩ := having_ok h
      cases quiet_ok h
      exact .buffer rfl rfl (.of (find_ok hb))
  | copyBuffer buffer target =>
      obtain ⟨block, -, h⟩ := having_ok h
      cases quiet_ok h
      exact .buffer rfl rfl (.fresh _)
  | bufferOf array target =>
      obtain ⟨a, ha, h⟩ := having_ok h
      have hblock : s.block? (.array array) = a.block? := by simp [Session.block?, find_ok ha]
      cases e : a.block? with
      | none =>
          simp only [e] at h
          cases h
          exact .quiet (by simp [made, hblock, e]) rfl rfl rfl rfl
      | some block =>
          simp only [e] at h
          cases quiet_ok h
          exact .buffer (by simp [made, hblock, e]) rfl (.of (hblock.trans e))
  | writeBuffer buffer start bytes =>
      obtain ⟨block, hb, h⟩ := having_ok h
      cases quiet_ok h
      have found : s.block? (.buffer buffer) = some block := find_ok hb
      exact .overwrite rfl rfl found
  | fillBuffer buffer byte =>
      obtain ⟨block, hb, h⟩ := having_ok h
      cases quiet_ok h
      have found : s.block? (.buffer buffer) = some block := find_ok hb
      exact .overwrite rfl rfl found
  | snapshot buffer target =>
      obtain ⟨block, -, h⟩ := having_ok h
      cases quiet_ok h
      exact .quiet rfl rfl rfl rfl rfl
  | build origin options target =>
      obtain ⟨source, hs, h⟩ := having_ok h
      obtain ⟨array, ha, h⟩ := tryMaking_ok h
      cases h
      rw [NdArray.build_result] at ha
      have ht : s.builtType origin options = NdArray.builtType source options := by
        simp [builtType, hs]
      exact array_effect (by simp [made, ht]) rfl hs ha
  | fromSource dtype origin options target =>
      obtain ⟨source, hs, h⟩ := having_ok h
      obtain ⟨array, ha, h⟩ := tryMaking_ok h
      cases h
      exact array_effect rfl rfl hs ha
  | fromElements type xs shape target =>
      cases h
      obtain ⟨hp, hw⟩ := NdArray.fromElements_ok type xs shape s.store
      exact .array rfl rfl (fresh_placed hp) fun _ => hw
  | fromBuffer dtype buffer shape copy target =>
      obtain ⟨block, hb, h⟩ := having_ok h
      obtain ⟨array, ha, h⟩ := tryMaking_ok h
      cases h
      have hs : s.source (.buffer buffer) = .ok (.buffer block) := by simp [Session.source, hb]; rfl
      exact array_effect rfl rfl hs ha
  | fromValues dtype values shape target =>
      cases h
      obtain ⟨hp, hw⟩ := NdArray.fromValues_ok dtype values shape s.store
      have hs : s.source (.values values) = .ok (.values values) := rfl
      exact .array rfl rfl (origin_placed hs hp) fun _ => hw
  | fromView type view target =>
      cases h
      obtain ⟨hp, hw⟩ := NdArray.fromElements_ok type view.toList (some view.shape) s.store
      exact .array rfl rfl (fresh_placed hp) fun _ => hw
  | shareArray array target =>
      obtain ⟨a, ha, h⟩ := having_ok h
      cases quiet_ok h
      have hblock : s.block? (.array array) = a.block? := by simp [Session.block?, find_ok ha]
      have hw : s.Sound → a.Whole s.store := fun sound => sound.array array a (find_ok ha)
      cases e : a.block? with
      | none =>
          have hm : s.made (.shareArray array target) = some (.array target, .none) := by
            simp [made, hblock, e]
          refine .array hm rfl ?_ hw
          rw [e]
          exact .none
      | some block =>
          have hm : s.made (.shareArray array target) =
              some (.array target, .of (.array array)) := by
            simp [made, hblock, e]
          refine .array hm rfl ?_ hw
          rw [e]
          exact .of (hblock.trans e)
  | copyArray array target =>
      obtain ⟨a, ha, h⟩ := having_ok h
      cases quiet_ok h
      have hblock : s.block? (.array array) = a.block? := by simp [Session.block?, find_ok ha]
      obtain ⟨hp, hw⟩ := NdArray.copy_ok a s.store
      have hw' : s.Sound → (a.copy s.store).1.Whole (a.copy s.store).2 :=
        fun sound => hw (sound.array array a (find_ok ha))
      cases e : a.block? with
      | none =>
          rw [e] at hp
          exact .array (by simp [made, hblock, e]) rfl (none_placed hp) hw'
      | some block =>
          rw [e] at hp
          exact .array (by simp [made, hblock, e]) rfl (fresh_placed hp) hw'
  | set array type index x =>
      obtain ⟨a, ha, h⟩ := having_ok h
      have h := quiet_ok h
      cases hset : a.set type s.store index x with
      | error error => rw [hset] at h; cases h
      | ok store =>
          rw [hset] at h
          cases h
          obtain ⟨block, hblock, -, rfl⟩ := NdArray.set_ok hset
          have hfound : s.block? (.array array) = some block := by
            simp [Session.block?, find_ok ha, NdArray.block?_of_numeric hblock]
          exact .overwrite rfl rfl hfound
  | newWriter options target =>
      cases quiet_ok h
      exact .quiet rfl rfl rfl rfl rfl
  | encode array writer target =>
      cases writer with
      | none =>
          obtain ⟨a, -, h⟩ := having_ok h
          cases h
          exact .quiet rfl rfl rfl rfl rfl
      | some writer =>
          obtain ⟨a, -, h⟩ := having_ok h
          obtain ⟨w, -, h⟩ := having_ok h
          cases h
          exact .quiet rfl rfl rfl rfl rfl
  | encodeBuffer buffer writer =>
      obtain ⟨block, -, h⟩ := having_ok h
      obtain ⟨w, -, h⟩ := having_ok h
      cases h
      exact .quiet rfl rfl rfl rfl rfl
  | takeFrames writer target =>
      obtain ⟨w, -, h⟩ := having_ok h
      cases quiet_ok h
      exact .quiet rfl rfl rfl rfl rfl
  | newReader frames extra target =>
      cases frames with
      | none =>
          cases quiet_ok h
          exact .quiet rfl rfl rfl rfl rfl
      | some frames =>
          obtain ⟨found, -, h⟩ := having_ok h
          cases quiet_ok h
          exact .quiet rfl rfl rfl rfl rfl
  | addRecord record target =>
      cases quiet_ok h
      exact .quiet rfl rfl rfl rfl rfl
  | decode record reader target =>
      cases reader with
      | none =>
          obtain ⟨r, hr, h⟩ := having_ok h
          obtain ⟨array, ha, h⟩ := tryDecoding_ok h
          cases h
          exact decode_effect (find_ok hr) ha
      | some reader =>
          obtain ⟨r, hr, h⟩ := having_ok h
          obtain ⟨frames, -, h⟩ := having_ok h
          obtain ⟨array, ha, h⟩ := tryDecoding_ok h
          cases h
          exact decode_effect (find_ok hr) ha

/-! ### After a command -/

/-- Memory grows, if nothing is overwritten. -/
theorem Effect.extends (h : s.Effect c s') (hc : c.overwrites = none) :
    s.store.Extends s'.store := by
  cases h with
  | quiet _ _ store _ _ =>
      rw [store]
      exact .refl _
  | buffer _ _ placed => exact placed.extends
  | array _ _ placed _ => exact placed.extends
  | overwrite _ overwrites _ =>
      rw [hc] at overwrites
      cases overwrites

/-- Blocks stay, and keep their lengths, in any case. -/
theorem Effect.keeps (h : s.Effect c s') (sound : s.Sound) : s.store.Keeps s'.store := by
  cases h with
  | quiet _ _ store _ _ =>
      rw [store]
      exact .refl _
  | buffer _ _ placed => exact placed.extends.keeps
  | array _ _ placed _ => exact placed.extends.keeps
  | overwrite _ _ found => exact Store.keeps_replace (sound.has found) (c.length_overwrite _)

/-- The block of a new thing is there. -/
theorem Sound.has_placed (sound : s.Sound) {m : Memory Handle} {block : BlockId} {store : Store}
    (h : m.Placed s.block? s.store (some block) store) : store.Has block := by
  cases h with
  | fresh bytes => exact s.store.has_alloc_next bytes
  | of found => exact sound.has found

/-- **Soundness is kept** by every command. -/
theorem Effect.sound (h : s.Effect c s') (sound : s.Sound) : s'.Sound := by
  have hk := h.keeps sound
  cases h with
  | quiet _ _ store buffers arrays =>
      constructor
      · intro name block hb
        rw [buffers] at hb
        exact hk.has block (sound.buffer name block hb)
      · intro name a ha
        rw [arrays] at ha
        exact (sound.array name a ha).keeps hk
  | @buffer target _ block store _ _ placed =>
      refine ⟨?_, fun name a ha => (sound.array name a ha).keeps hk⟩
      intro name b hb
      by_cases hn : name = target
      · subst hn
        rw [addBuffer, Names.get?_put_self] at hb
        cases hb
        exact sound.has_placed placed
      · rw [addBuffer, Names.get?_put_of_ne _ _ hn] at hb
        exact hk.has b (sound.buffer name b hb)
  | @array target _ a store _ _ _ whole =>
      refine ⟨fun name b hb => hk.has b (sound.buffer name b hb), ?_⟩
      intro name a' ha
      by_cases hn : name = target
      · subst hn
        rw [addArray, Names.get?_put_self] at ha
        cases ha
        exact whole sound
      · rw [addArray, Names.get?_put_of_ne _ _ hn] at ha
        exact (sound.array name a' ha).keeps hk
  | overwrite _ _ _ =>
      exact ⟨fun name b hb => hk.has b (sound.buffer name b hb),
        fun name a ha => (sound.array name a ha).keeps hk⟩

/-! ### Runs -/

theorem run_cons (s : Session) (c : Command) (rest : List Command) :
    s.run (c :: rest) = (s.step c).run rest := rfl

/-- A command that fails leaves the session as it is, and one that succeeds has its effect. -/
theorem step_cases (s : Session) (c : Command) :
    (∃ failure, (s.exec c).result = .error failure ∧ s.step c = s) ∨
      (∃ answer, (s.exec c).result = .ok (answer, s.step c) ∧ s.Effect c (s.step c)) := by
  unfold step
  cases h : (s.exec c).result with
  | error failure => exact .inl ⟨failure, rfl, rfl⟩
  | ok outcome => exact .inr ⟨outcome.1, rfl, exec_effect h⟩

theorem Sound.step (sound : s.Sound) (c : Command) : (s.step c).Sound := by
  rcases s.step_cases c with ⟨_, _, e⟩ | ⟨_, _, h⟩
  · rw [e]
    exact sound
  · exact h.sound sound

theorem Sound.keeps_step (sound : s.Sound) (c : Command) : s.store.Keeps (s.step c).store := by
  rcases s.step_cases c with ⟨_, _, e⟩ | ⟨_, _, h⟩
  · rw [e]
    exact .refl _
  · exact h.keeps sound

theorem Sound.run (sound : s.Sound) (commands : List Command) : (s.run commands).Sound := by
  induction commands generalizing s with
  | nil => exact sound
  | cons c rest ih => exact ih (sound.step c)

/-- Whatever a session goes through, its blocks stay and keep their lengths. -/
theorem Sound.keeps_run (sound : s.Sound) (commands : List Command) :
    s.store.Keeps (s.run commands).store := by
  induction commands generalizing s with
  | nil => exact .refl _
  | cons c rest ih => exact (sound.keeps_step c).trans (ih (sound.step c))

/-- **Every session that was built by commands is sound.** -/
theorem sound_run (commands : List Command) : (Session.run {} commands).Sound :=
  sound_empty.run commands

end Session

end ArrayExchange
