import ArrayExchange.Proofs.Memory.Updates
import ArrayExchange.Proofs.Session.Effects
import Mathlib.Logic.Relation

/-!
# Who shares memory with whom

A ledger is kept beside a session.  It numbers the handles that commands make, and notes a link
whenever a handle is made to share the memory of another one: `Session.made` tells when that is.
The ledger knows nothing of blocks.  Two handles are *related* if a chain of links joins them,
whether or not the handles in between still have their names.

Main result, `Session.sharing_exact`: at any time in any run

* two handles have the same block exactly when they are related;
* what is written through a handle is seen through the handles related to it, byte by byte as
  `Command.Written` says, and leaves all else as it was;
* commands of any other kind change no byte of any block.

The induction carries `Ledger.Tracks`: some assignment of blocks to all numbers ever given agrees
with the session, and it takes one value on two numbers just when a chain of links joins them.
-/

namespace ArrayExchange

open Relation (EqvGen)

/-! ### The ledger -/

/-- The handles that a run has made, by number, and which of them shares the memory of which. -/
structure Ledger where
  /-- How many handles have been made. -/
  count : Nat := 0
  /-- The number of the handle that goes by a name. -/
  number? : Handle → Option Nat := fun _ => none
  /-- A handle, and one that was made to share its memory. -/
  links : List (Nat × Nat) := []

namespace Ledger

/-- Enters a new handle, whose memory comes from the given place.  A thing without memory only takes
the name. -/
def enter (l : Ledger) (target : Handle) : Memory Handle → Ledger
  | .none => { l with number? := fun x => if x = target then none else l.number? x }
  | .fresh =>
    { l with
      count := l.count + 1
      number? := fun x => if x = target then some l.count else l.number? x }
  | .of owner =>
    { count := l.count + 1
      number? := fun x => if x = target then some l.count else l.number? x
      links :=
        match l.number? owner with
        | some i => (i, l.count) :: l.links
        | none => l.links }

/-- A chain of links joins two numbers. -/
def Linked (l : Ledger) : Nat → Nat → Prop := EqvGen fun i j => (i, j) ∈ l.links

/-- A chain of links joins two handles. -/
def Related (l : Ledger) (x y : Handle) : Prop :=
  ∃ i j, l.number? x = some i ∧ l.number? y = some j ∧ l.Linked i j

end Ledger

namespace Session

/-- The ledger after a command. -/
def note (s : Session) (l : Ledger) (c : Command) : Ledger :=
  match (s.exec c).result, s.made c with
  | .ok _, some (target, memory) => l.enter target memory
  | _, _ => l

/-- The ledger after a list of commands. -/
def ledger (s : Session) (l : Ledger) : List Command → Ledger
  | [] => l
  | c :: rest => ledger (s.step c) (s.note l c) rest

/-- The bytes that are seen through a handle. -/
def view? (s : Session) (x : Handle) : Option Bytes := (s.block? x).map s.store.bytes

end Session

/-! ### Bytes that are written -/

/-- What a command that writes makes of the bytes behind its handle, byte by byte.  A run of bytes that
does not fit into a buffer is not written. -/
def Command.Written : Command → Bytes → Bytes → Prop
  | .writeBuffer _ start part, old, new =>
    if start + part.length ≤ old.length then Bytes.Overwritten start part old new else new = old
  | .fillBuffer _ byte, old, new =>
    new.length = old.length ∧ ∀ p < old.length, new[p]? = some byte
  | .set _ type index x, old, new =>
    (type.write x).length = type.width ∧
      Bytes.Overwritten (index * type.width) (type.write x) old new
  | _, old, new => new = old

/-! ### Blocks behind numbers -/

namespace Ledger

variable {l : Ledger} {s s' : Session} {block : Nat → BlockId}

/-- The blocks behind the numbers of a ledger: they agree with the session, and two of them are the
same just when a chain of links joins the numbers. -/
structure Tracks (l : Ledger) (s : Session) (block : Nat → BlockId) : Prop where
  number : ∀ x i, l.number? x = some i → i < l.count ∧ s.block? x = some (block i)
  nameless : ∀ x, l.number? x = none → s.block? x = none
  has : ∀ i, i < l.count → s.store.Has (block i)
  links : ∀ i j, (i, j) ∈ l.links → i < l.count ∧ j < l.count ∧ block i = block j
  linked : ∀ i j, i < l.count → j < l.count → block i = block j → l.Linked i j

theorem tracks_empty : Tracks {} {} fun _ => ⟨0⟩ where
  number _ _ h := by cases h
  nameless x _ := by cases x <;> rfl
  has _ h := absurd h (Nat.not_lt_zero _)
  links _ _ h := by cases h
  linked _ _ h := absurd h (Nat.not_lt_zero _)

/-- A chain of links does not leave a block. -/
theorem Tracks.eq_of_linked (h : l.Tracks s block) {i j : Nat} (hij : l.Linked i j) :
    block i = block j := by
  induction hij with
  | rel i j hmem => exact (h.links i j hmem).2.2
  | refl i => rfl
  | symm i j _ ih => exact ih.symm
  | trans i j k _ _ ih₁ ih₂ => exact ih₁.trans ih₂

/-- A handle that has a block has a number. -/
theorem Tracks.exists_number (h : l.Tracks s block) {x : Handle} {b : BlockId}
    (hb : s.block? x = some b) : ∃ i, l.number? x = some i ∧ i < l.count ∧ block i = b := by
  cases hx : l.number? x with
  | none =>
      rw [h.nameless x hx] at hb
      cases hb
  | some i =>
      obtain ⟨hlt, hi⟩ := h.number x i hx
      rw [hi] at hb
      exact ⟨i, rfl, hlt, Option.some.inj hb⟩

/-- **Two handles have the same block exactly when they are related.** -/
theorem Tracks.block?_eq_iff (h : l.Tracks s block) {x y : Handle} {b c : BlockId}
    (hx : s.block? x = some b) (hy : s.block? y = some c) : b = c ↔ l.Related x y := by
  obtain ⟨i, hi, hilt, rfl⟩ := h.exists_number hx
  obtain ⟨j, hj, hjlt, rfl⟩ := h.exists_number hy
  constructor
  · intro e
    exact ⟨i, j, hi, hj, h.linked i j hilt hjlt e⟩
  · rintro ⟨i', j', hi', hj', hlinked⟩
    rw [hi] at hi'
    rw [hj] at hj'
    cases hi'
    cases hj'
    exact h.eq_of_linked hlinked

/-- A session with the same handles, and with blocks that are still there, has the same ledger. -/
theorem Tracks.of_block?_eq (h : l.Tracks s block) (hb : ∀ x, s'.block? x = s.block? x)
    (hk : ∀ b, s.store.Has b → s'.store.Has b) : l.Tracks s' block where
  number x i hx := by
    rw [hb x]
    exact h.number x i hx
  nameless x hx := (hb x).trans (h.nameless x hx)
  has i hi := hk _ (h.has i hi)
  links := h.links
  linked := h.linked

/-- More links join no less. -/
theorem Linked.mono {l l' : Ledger} (hsub : ∀ p ∈ l.links, p ∈ l'.links) {i j : Nat}
    (h : l.Linked i j) : l'.Linked i j := by
  induction h with
  | rel i j hmem => exact .rel i j (hsub _ hmem)
  | refl i => exact .refl i
  | symm i j _ ih => exact .symm i j ih
  | trans i j k _ _ ih₁ ih₂ => exact .trans i j k ih₁ ih₂

/-- A new number, with a block and with links to the numbers that have this block already. -/
theorem Tracks.extend (h : l.Tracks s block) {l' : Ledger} (target : Handle) {b : BlockId}
    (hcount : l'.count = l.count + 1)
    (hnumber : ∀ x, l'.number? x = if x = target then some l.count else l.number? x)
    (hold : ∀ p ∈ l.links, p ∈ l'.links)
    (hnew : ∀ i j, (i, j) ∈ l'.links →
      (i, j) ∈ l.links ∨ i < l.count ∧ j = l.count ∧ block i = b)
    (hjoin : ∀ i, i < l.count → block i = b → l'.Linked i l.count)
    (htarget : s'.block? target = some b) (hother : ∀ x, x ≠ target → s'.block? x = s.block? x)
    (hk : ∀ c, s.store.Has c → s'.store.Has c) (hhas : s'.store.Has b) :
    l'.Tracks s' fun i => if i = l.count then b else block i where
  number x i hx := by
    rw [hnumber] at hx
    by_cases ht : x = target
    · rw [if_pos ht] at hx
      cases hx
      exact ⟨by omega, by rw [if_pos rfl, ht, htarget]⟩
    · rw [if_neg ht] at hx
      obtain ⟨hlt, hi⟩ := h.number x i hx
      exact ⟨by omega, by rw [if_neg (Nat.ne_of_lt hlt), hother x ht, hi]⟩
  nameless x hx := by
    rw [hnumber] at hx
    by_cases ht : x = target
    · rw [if_pos ht] at hx
      cases hx
    · rw [if_neg ht] at hx
      rw [hother x ht, h.nameless x hx]
  has i hi := by
    split
    · exact hhas
    · exact hk _ (h.has i (by omega))
  links i j hmem := by
    rcases hnew i j hmem with hmem | ⟨hi, rfl, hb⟩
    · obtain ⟨hi, hj, hb⟩ := h.links i j hmem
      rw [if_neg (Nat.ne_of_lt hi), if_neg (Nat.ne_of_lt hj)]
      exact ⟨by omega, by omega, hb⟩
    · rw [if_neg (Nat.ne_of_lt hi), if_pos rfl]
      exact ⟨by omega, by omega, hb⟩
  linked i j hi hj hb := by
    by_cases hin : i = l.count
    · by_cases hjn : j = l.count
      · rw [hin, hjn]
        exact .refl _
      · rw [if_pos hin, if_neg hjn] at hb
        rw [hin]
        exact .symm _ _ (hjoin j (by omega) hb.symm)
    · by_cases hjn : j = l.count
      · rw [if_neg hin, if_pos hjn] at hb
        rw [hjn]
        exact hjoin i (by omega) hb
      · rw [if_neg hin, if_neg hjn] at hb
        exact (h.linked i j (by omega) (by omega) hb).mono hold

/-- **Entering a handle** keeps the ledger in step with the session. -/
theorem Tracks.enter (h : l.Tracks s block) {target : Handle} {m : Memory Handle}
    {block? : Option BlockId} {store : Store} (hp : m.Placed s.block? s.store block? store)
    (hstore : s'.store = store) (htarget : s'.block? target = block?)
    (hother : ∀ x, x ≠ target → s'.block? x = s.block? x) :
    ∃ block', (l.enter target m).Tracks s' block' := by
  have hk : ∀ c, s.store.Has c → s'.store.Has c := by
    rw [hstore]
    exact hp.extends.has
  cases hp with
  | none =>
      refine ⟨block, ?_, ?_, fun i hi => hk _ (h.has i hi), h.links, h.linked⟩
      · intro x i hx
        simp only [Ledger.enter] at hx
        by_cases ht : x = target
        · rw [if_pos ht] at hx
          cases hx
        · rw [if_neg ht] at hx
          rw [hother x ht]
          exact h.number x i hx
      · intro x hx
        simp only [Ledger.enter] at hx
        by_cases ht : x = target
        · rw [ht, htarget]
        · rw [if_neg ht] at hx
          rw [hother x ht, h.nameless x hx]
  | fresh bytes =>
      have hhas : s'.store.Has s.store.next := by
        rw [hstore]
        exact s.store.has_alloc_next bytes
      -- no number that was given before has the new block
      have hjoin : ∀ i, i < l.count → block i = s.store.next →
          (l.enter target .fresh).Linked i l.count := by
        intro i hi e
        exact absurd e (h.has i hi).ne_next
      exact ⟨_, h.extend target rfl (fun _ => rfl) (fun _ hp => hp) (fun _ _ hp => .inl hp) hjoin
        htarget hother hk hhas⟩
  | @of owner b found =>
      obtain ⟨k, hnum, hklt, rfl⟩ := h.exists_number found
      have hlinks : (l.enter target (.of owner)).links = (k, l.count) :: l.links := by
        simp only [Ledger.enter, hnum]
      have hold : ∀ p ∈ l.links, p ∈ (l.enter target (.of owner)).links := by
        intro p hp
        rw [hlinks]
        exact List.mem_cons_of_mem _ hp
      have hnew : ∀ i j, (i, j) ∈ (l.enter target (.of owner)).links →
          (i, j) ∈ l.links ∨ i < l.count ∧ j = l.count ∧ block i = block k := by
        intro i j hp
        rw [hlinks] at hp
        rcases List.mem_cons.mp hp with e | hp
        · cases e
          exact .inr ⟨hklt, rfl, rfl⟩
        · exact .inl hp
      -- from any number with this block to the owner, and over the new link
      have hjoin : ∀ i, i < l.count → block i = block k →
          (l.enter target (.of owner)).Linked i l.count := by
        intro i hi e
        have howner : (l.enter target (.of owner)).Linked i k := (h.linked i k hi hklt e).mono hold
        have hlink : (k, l.count) ∈ (l.enter target (.of owner)).links := by
          rw [hlinks]
          exact List.mem_cons_self
        exact .trans _ k _ howner (.rel k _ hlink)
      exact ⟨_, h.extend target rfl (fun _ => rfl) hold hnew hjoin htarget hother hk
        (hk _ (h.has k hklt))⟩

end Ledger

namespace Session

variable {s s' : Session} {l : Ledger} {block : Nat → BlockId} {c : Command}

/-! ### Handles after a command -/

theorem block?_addBuffer_self (s : Session) (target : String) (made : BlockId × Store) :
    (s.addBuffer target made).block? (.buffer target) = some made.1 :=
  Names.get?_put_self _ _ _

theorem block?_addBuffer_of_ne (s : Session) {target : String} (made : BlockId × Store) {x : Handle}
    (h : x ≠ .buffer target) : (s.addBuffer target made).block? x = s.block? x := by
  cases x with
  | array name => rfl
  | buffer name => exact Names.get?_put_of_ne _ _ fun e => h (by rw [e])

theorem block?_addArray_self (s : Session) (target : String) (made : NdArray × Store) :
    (s.addArray target made).block? (.array target) = made.1.block? := by
  simp only [Session.block?, addArray, Names.get?_put_self, Option.bind_some]

theorem block?_addArray_of_ne (s : Session) {target : String} (made : NdArray × Store) {x : Handle}
    (h : x ≠ .array target) : (s.addArray target made).block? x = s.block? x := by
  cases x with
  | buffer name => rfl
  | array name =>
      have hn : name ≠ target := fun e => h (by rw [e])
      simp only [Session.block?, addArray, Names.get?_put_of_ne _ _ hn]

theorem block?_congr (hb : s'.buffers = s.buffers) (ha : s'.arrays = s.arrays) (x : Handle) :
    s'.block? x = s.block? x := by
  cases x <;> simp only [Session.block?, hb, ha]

/-! ### The ledger after a command -/

theorem note_of_made {answer : Answer} {target : Handle} {m : Memory Handle}
    (h : (s.exec c).result = .ok (answer, s')) (hm : s.made c = some (target, m)) :
    s.note l c = l.enter target m := by
  simp only [note, h, hm]

theorem note_of_none (hm : s.made c = none) : s.note l c = l := by
  unfold note
  rw [hm]
  split
  · next e => cases e
  · rfl

/-- **The ledger keeps in step** with the session at every command. -/
theorem tracks_step (h : l.Tracks s block) (c : Command) :
    ∃ block', (s.note l c).Tracks (s.step c) block' := by
  rcases s.step_cases c with ⟨failure, hfail, e⟩ | ⟨answer, hok, heffect⟩
  · have hnote : s.note l c = l := by simp only [note, hfail]
    rw [e, hnote]
    exact ⟨block, h⟩
  · generalize s.step c = s' at hok heffect ⊢
    cases heffect with
    | quiet made _ store buffers arrays =>
        rw [note_of_none made]
        exact ⟨block, h.of_block?_eq (block?_congr buffers arrays) (by rw [store]; exact fun _ => id)⟩
    | buffer made _ placed =>
        rw [note_of_made hok made]
        exact h.enter placed rfl (block?_addBuffer_self s _ _)
          fun x hx => block?_addBuffer_of_ne s _ hx
    | array made _ placed _ =>
        rw [note_of_made hok made]
        exact h.enter placed rfl (block?_addArray_self s _ _)
          fun x hx => block?_addArray_of_ne s _ hx
    | overwrite made _ _ =>
        rw [note_of_none made]
        exact ⟨block, h.of_block?_eq (fun x => by cases x <;> rfl)
          fun _ hb => Store.has_replace.mpr hb⟩

theorem tracks_ledger (h : l.Tracks s block) (commands : List Command) :
    ∃ block', (s.ledger l commands).Tracks (s.run commands) block' := by
  induction commands generalizing s l block with
  | nil => exact ⟨block, h⟩
  | cons c rest ih =>
      obtain ⟨block', h'⟩ := tracks_step h c
      exact ih h'

/-! ### Writes and all other commands -/

theorem view?_eq_some_iff {x : Handle} {bytes : Bytes} :
    s.view? x = some bytes ↔ ∃ b, s.block? x = some b ∧ s.store.bytes b = bytes := by
  simp [view?, Option.map_eq_some_iff]

/-- Only a command that gives a name to a handle changes the block behind the name. -/
theorem Effect.block?_eq (h : s.Effect c s') {x : Handle} (hx : c.target? ≠ some x) :
    s'.block? x = s.block? x := by
  cases h with
  | quiet _ _ _ buffers arrays => exact block?_congr buffers arrays x
  | buffer made _ _ =>
      apply block?_addBuffer_of_ne
      intro e
      apply hx
      rw [target?_of_made made, e]
  | array made _ _ _ =>
      apply block?_addArray_of_ne
      intro e
      apply hx
      rw [target?_of_made made, e]
  | overwrite _ _ _ => cases x <;> rfl

/-- A command that writes through a handle replaces the bytes of the block behind it, and changes
nothing else. -/
theorem Effect.of_overwrites (h : s.Effect c s') {x : Handle} (hc : c.overwrites = some x) :
    ∃ b, s.block? x = some b ∧
      s' = { s with store := s.store.replace b (c.overwrite (s.store.bytes b)) } := by
  cases h with
  | quiet _ overwrites _ _ _ => rw [hc] at overwrites; cases overwrites
  | buffer _ overwrites _ => rw [hc] at overwrites; cases overwrites
  | array _ overwrites _ _ => rw [hc] at overwrites; cases overwrites
  | @overwrite handle b _ overwrites found =>
      rw [hc] at overwrites
      cases overwrites
      exact ⟨b, found, rfl⟩

/-- **What is written through a handle** is seen through the handles related to it only. -/
theorem Effect.view?_eq (h : s.Effect c s') (sound : s.Sound) (tracks : l.Tracks s block)
    {x y : Handle} (hc : c.overwrites = some x) {bytes : Bytes} (hy : s.view? y = some bytes) :
    (l.Related x y → s'.view? y = some (c.overwrite bytes)) ∧
      (¬ l.Related x y → s'.view? y = some bytes) := by
  obtain ⟨b, hb, rfl⟩ := h.of_overwrites hc
  obtain ⟨b', hb', rfl⟩ := view?_eq_some_iff.mp hy
  have hrelated : b = b' ↔ l.Related x y := tracks.block?_eq_iff hb hb'
  have hafter (new : Bytes) : ({ s with store := s.store.replace b new } : Session).view? y =
      some (if b' = b then new else s.store.bytes b') := by
    rw [view?_eq_some_iff]
    refine ⟨b', ?_, Store.bytes_replace new (sound.has hb)⟩
    rw [← hb']
    exact block?_congr rfl rfl y
  constructor
  · intro hr
    rw [hafter, if_pos (hrelated.mpr hr).symm, hrelated.mpr hr]
  · intro hr
    have hne : b' ≠ b := fun e => hr (hrelated.mp e.symm)
    rw [hafter, if_neg hne]

/-- **A command writes the bytes it is given**, where it is told to.  An element of an array always
fits into the memory of the array. -/
theorem Sound.written (sound : s.Sound) {x : Handle} {answer : Answer} {bytes : Bytes}
    (hc : c.overwrites = some x) (h : (s.exec c).result = .ok (answer, s'))
    (hx : s.view? x = some bytes) : c.Written bytes (c.overwrite bytes) := by
  cases c with
  | writeBuffer buffer start part =>
      show if start + part.length ≤ bytes.length then _ else _
      split
      · next hfits => exact Store.overwritten_patch hfits
      · next hfits => exact if_neg hfits
  | fillBuffer buffer byte =>
      refine ⟨List.length_replicate, ?_⟩
      intro p hp
      show (List.replicate bytes.length byte)[p]? = some byte
      rw [List.getElem?_replicate, if_pos hp]
  | set array type index value =>
      cases hc
      obtain ⟨a, ha, h⟩ := having_ok h
      have hname : s.arrays.get? array = some a := find_ok ha
      cases hset : a.set type s.store index value with
      | error error => simp only [hset] at h; cases h
      | ok store =>
          obtain ⟨block, hblock, hlt, -⟩ := NdArray.set_ok hset
          have hfits := (sound.array array a hname).set_fits hblock hlt
          have hbytes : s.store.bytes block = bytes := by
            simpa [view?, Session.block?, hname, NdArray.block?_of_numeric hblock] using hx
          rw [hbytes] at hfits
          have hlength := type.length_write value
          exact ⟨hlength, Store.overwritten_patch (by rwa [hlength])⟩
  | _ => cases hc

/-- **Sharing is exact** at one moment: what has happened so far, and what a command would do. -/
structure SharesExactly (s : Session) (l : Ledger) : Prop where
  /-- The ledger numbers just the handles on memory. -/
  live : ∀ x, (l.number? x).isSome ↔ (s.block? x).isSome
  /-- Two handles have the same block exactly when a chain of sharing commands joins them. -/
  same : ∀ x y b c, s.block? x = some b → s.block? y = some c → (b = c ↔ l.Related x y)
  /-- What is written through a handle is seen through the handles related to it, and through no
  other one. -/
  seen : ∀ c x answer s', c.overwrites = some x → (s.exec c).result = .ok (answer, s') →
    (s.view? x).isSome ∧ ∀ y bytes, s.view? y = some bytes →
      (l.Related x y → s'.view? y = some (c.overwrite bytes)) ∧
      (¬ l.Related x y → s'.view? y = some bytes)
  /-- What is written is what the command says, byte by byte, through whatever handle it is seen. -/
  written : ∀ c x answer s', c.overwrites = some x → (s.exec c).result = .ok (answer, s') →
    ∀ y bytes, s.view? y = some bytes → l.Related x y →
      ∃ new, s'.view? y = some new ∧ c.Written bytes new
  /-- A write leaves all but memory as it was: the names and the arrays, buffers, snapshots, frames
  and records behind them. -/
  apart : ∀ c x answer s', c.overwrites = some x → (s.exec c).result = .ok (answer, s') →
    s' = { s with store := s'.store }
  /-- Any other command leaves every block as it was, and every handle but the one that it gives a
  name. -/
  kept : ∀ c answer s', c.overwrites = none → (s.exec c).result = .ok (answer, s') →
    (∀ b, s.store.Has b → s'.store.Has b ∧ s'.store.bytes b = s.store.bytes b) ∧
    ∀ x, c.target? ≠ some x → s'.block? x = s.block? x
  /-- A command that fails changes nothing. -/
  failed : ∀ c failure, (s.exec c).result = .error failure → s.step c = s

/-- What the ledger says of blocks is all that is needed. -/
theorem Sound.sharesExactly (sound : s.Sound) (tracks : l.Tracks s block) : s.SharesExactly l where
  live x := by
    cases hx : l.number? x with
    | none => rw [tracks.nameless x hx]; rfl
    | some i => rw [(tracks.number x i hx).2]; rfl
  same x y b c hx hy := tracks.block?_eq_iff hx hy
  seen c x answer s' hc h := by
    have heffect := exec_effect h
    refine ⟨?_, fun y bytes hy => heffect.view?_eq sound tracks hc hy⟩
    obtain ⟨b, hb, -⟩ := heffect.of_overwrites hc
    rw [view?, hb]
    rfl
  written c x answer s' hc h y bytes hy hr := by
    have heffect := exec_effect h
    refine ⟨c.overwrite bytes, (heffect.view?_eq sound tracks hc hy).1 hr, sound.written hc h ?_⟩
    -- both handles have one block, so the same bytes are seen through them
    obtain ⟨b, hb, -⟩ := heffect.of_overwrites hc
    obtain ⟨b', hb', hbytes⟩ := view?_eq_some_iff.mp hy
    have hsame : b = b' := (tracks.block?_eq_iff hb hb').mpr hr
    exact view?_eq_some_iff.mpr ⟨b, hb, by rw [hsame, hbytes]⟩
  apart c x answer s' hc h := by
    obtain ⟨b, -, rfl⟩ := (exec_effect h).of_overwrites hc
    rfl
  kept c answer s' hc h := by
    have heffect := exec_effect h
    have hextends := heffect.extends hc
    exact ⟨fun b hb => ⟨hextends.has b hb, hextends.bytes b hb⟩, fun x hx => heffect.block?_eq hx⟩
  failed c failure h := by
    unfold Session.step
    rw [h]

/-- **Sharing is exact at any time in any run.** -/
theorem sharing_exact (commands : List Command) :
    (Session.run {} commands).SharesExactly (Session.ledger {} {} commands) := by
  obtain ⟨block, tracks⟩ := tracks_ledger Ledger.tracks_empty commands
  exact (sound_run commands).sharesExactly tracks

/-- A chain of an alias, an array over the alias, an array over the array and the memory of the latter
joins two buffers, but not a copy.  Bytes that are written through one end of the chain are seen at the
other end, and not through the copy. -/
theorem sharing_exact_chain :
    let words := DType.numeric (.integer .uint16)
    let commands : List Command := [.newBuffer [1, 2, 3, 4] "memory", .shareBuffer "memory" "alias",
      .fromBuffer words "alias" none false "words", .fromSource words (.array "words") {} "more words",
      .bufferOf "more words" "bytes", .copyBuffer "memory" "copy"]
    let s := Session.run {} commands
    let l := Session.ledger {} {} commands
    let write := Command.writeBuffer "bytes" 1 [9, 8]
    l.Related (.buffer "bytes") (.buffer "memory") ∧ ¬ l.Related (.buffer "bytes") (.buffer "copy") ∧
      (s.step write).view? (.buffer "memory") = some [1, 9, 8, 4] ∧
      (s.step write).view? (.buffer "copy") = some [1, 2, 3, 4] ∧
      write.Written [1, 2, 3, 4] [1, 9, 8, 4] := by
  intro words commands s l write
  have sharing : s.SharesExactly l := sharing_exact commands
  have hbytes : s.block? (.buffer "bytes") = some ⟨0⟩ := rfl
  have hmemory : s.block? (.buffer "memory") = some ⟨0⟩ := rfl
  have hcopy : s.block? (.buffer "copy") = some ⟨1⟩ := rfl
  have hview : s.view? (.buffer "memory") = some [1, 2, 3, 4] := rfl
  have hother : s.view? (.buffer "copy") = some [1, 2, 3, 4] := rfl
  have joined : l.Related (.buffer "bytes") (.buffer "memory") :=
    (sharing.same _ _ _ _ hbytes hmemory).mp rfl
  have separate : ¬ l.Related (.buffer "bytes") (.buffer "copy") := by
    intro h
    have hblock : (⟨0⟩ : BlockId) = ⟨1⟩ := (sharing.same _ _ _ _ hbytes hcopy).mpr h
    cases hblock
  have hexec : (s.exec write).result = .ok (.done, s.step write) := rfl
  obtain ⟨-, hseen⟩ := sharing.seen write (.buffer "bytes") .done (s.step write) rfl hexec
  have hafter := (hseen _ _ hview).1 joined
  obtain ⟨new, hnew, hwritten⟩ :=
    sharing.written write (.buffer "bytes") .done (s.step write) rfl hexec _ _ hview joined
  rw [hafter] at hnew
  cases hnew
  exact ⟨joined, separate, hafter, (hseen _ _ hother).2 separate, hwritten⟩

end Session

end ArrayExchange
