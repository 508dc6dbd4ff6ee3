import ArrayExchange.Proofs.Record.Payloads
import ArrayExchange.Proofs.Session.Effects

/-!
# What writers have issued

Beside a session a list is kept of all records that a named writer has issued so far, each with a
picture of its array at the very moment of encoding.  Other commands of any sort may come in between;
among them are writes to the memory of the arrays, other writers, and encoding that adds frames to
the same writer.

Main result, `Session.issues_restored`: with the frames that the writer has in the end, every record
that it has issued decodes to an array that looks as in the picture, in any order, any number of
times, and with memory of its own.

The induction carries `Session.Faithful`: the frames of the writer are numbered, and with them every
record on the list shows its picture.
-/

namespace ArrayExchange

namespace Session

/-! ### The list -/

/-- The records that the named writer has issued, after one more command.  A new writer of the name
starts anew. -/
def log (s : Session) (name : String) (issues : List Issue) (c : Command) : List Issue :=
  match (s.exec c).result, c with
  | .ok _, .newWriter _ target => if target = name then [] else issues
  | .ok (_, s'), .encode array (some writer) target =>
    match s.arrays.get? array, s'.records.get? target with
    | some a, some record =>
      if writer = name then issues ++ [⟨record, a.picture s.store⟩] else issues
    | _, _ => issues
  | _, _ => issues

/-- The records that the named writer has issued, after some more commands. -/
def issues (s : Session) (name : String) (before : List Issue) : List Command → List Issue
  | [] => before
  | c :: rest => issues (s.step c) name (s.log name before c) rest

/-! ### What commands do to writers -/

variable {s s' : Session} {c : Command} {answer : Answer} {name : String} {before : List Issue}

/-- What a command that succeeds does to the writers, and to the list of one of them. -/
inductive WriterEffect (s : Session) (name : String) (before : List Issue) :
    Command → Session → Prop
  /-- All writers are left alone. -/
  | kept {c : Command} {s' : Session} (writers : s'.writers = s.writers)
      (log : s.log name before c = before) : WriterEffect s name before c s'
  /-- A writer is made. -/
  | made {options : WriterOptions} {target : String} {s' : Session}
      (writers : s'.writers = s.writers.put target { options }) :
      WriterEffect s name before (.newWriter options target) s'
  /-- A writer issues a record. -/
  | issued {array writer target : String} {a : NdArray} {w : JsonWriter} {s' : Session}
      (looked : s.arrays.get? array = some a) (found : s.writers.get? writer = some w)
      (writers : s'.writers = s.writers.put writer (w.encode s.store a).result.2)
      (log : s.log name before (.encode array (some writer) target) =
        if writer = name then before ++ [⟨(w.encode s.store a).result.1, a.picture s.store⟩]
        else before) :
      WriterEffect s name before (.encode array (some writer) target) s'
  /-- A writer writes a payload that goes into no record. -/
  | wrote {buffer writer : String} {elements : Elements} {w : JsonWriter} {s' : Session}
      (found : s.writers.get? writer = some w)
      (writers : s'.writers = s.writers.put writer (w.write s.store elements).2)
      (log : s.log name before (.encodeBuffer buffer writer) = before) :
      WriterEffect s name before (.encodeBuffer buffer writer) s'
  /-- A writer is used up. -/
  | taken {writer target : String} {s' : Session} (writers : s'.writers = s.writers.erase writer)
      (log : s.log name before (.takeFrames writer target) = before) :
      WriterEffect s name before (.takeFrames writer target) s'

/-- Commands on memory leave writers alone. -/
theorem Effect.writers_eq (h : s.Effect c s') (hc : s.made c ≠ none ∨ c.overwrites ≠ none) :
    s'.writers = s.writers := by
  cases h with
  | quiet made overwrites _ _ _ => exact absurd hc (by simp [made, overwrites])
  | buffer _ _ _ => rfl
  | array _ _ _ _ => rfl
  | overwrite _ _ _ => rfl

theorem exec_writers (name : String) (before : List Issue)
    (h : (s.exec c).result = .ok (answer, s')) : s.WriterEffect name before c s' := by
  have heffect := exec_effect h
  cases c with
  | bufferOf array target =>
      refine .kept ?_ (by simp only [log, h])
      obtain ⟨a, -, h⟩ := having_ok h
      cases e : a.block? with
      | none => simp only [e] at h; cases h; rfl
      | some block => simp only [e] at h; cases quiet_ok h; rfl
  | snapshot buffer target =>
      refine .kept ?_ (by simp only [log, h])
      obtain ⟨block, -, h⟩ := having_ok h
      cases quiet_ok h
      rfl
  | newWriter options target =>
      cases quiet_ok h
      exact .made rfl
  | encode array writer target =>
      cases writer with
      | none =>
          refine .kept ?_ (by simp only [log, h])
          obtain ⟨a, -, h⟩ := having_ok h
          cases h
          rfl
      | some writer =>
          have hlog := h
          obtain ⟨a, ha, h⟩ := having_ok h
          obtain ⟨w, hw, h⟩ := having_ok h
          cases h
          refine .issued (find_ok ha) (find_ok hw) rfl ?_
          simp only [log, hlog, find_ok ha, Names.get?_put_self]
  | encodeBuffer buffer writer =>
      have hlog : s.log name before (.encodeBuffer buffer writer) = before := by simp only [log, h]
      obtain ⟨block, -, h⟩ := having_ok h
      obtain ⟨w, hw, h⟩ := having_ok h
      cases h
      exact .wrote (find_ok hw) rfl hlog
  | takeFrames writer target =>
      have hlog : s.log name before (.takeFrames writer target) = before := by simp only [log, h]
      obtain ⟨w, -, h⟩ := having_ok h
      cases quiet_ok h
      exact .taken rfl hlog
  | newReader frames extra target =>
      refine .kept ?_ (by simp only [log, h])
      cases frames with
      | none => cases quiet_ok h; rfl
      | some frames =>
          obtain ⟨found, -, h⟩ := having_ok h
          cases quiet_ok h
          rfl
  | addRecord record target =>
      refine .kept ?_ (by simp only [log, h])
      cases quiet_ok h
      rfl
  | shareArray array target =>
      refine .kept (heffect.writers_eq (.inl ?_)) (by simp only [log, h])
      simp only [made]
      split <;> exact Option.some_ne_none _
  | copyArray array target =>
      refine .kept (heffect.writers_eq (.inl ?_)) (by simp only [log, h])
      simp only [made]
      split <;> exact Option.some_ne_none _
  | decode record reader target =>
      refine .kept (heffect.writers_eq (.inl ?_)) (by simp only [log, h])
      simp only [made]
      split <;> exact Option.some_ne_none _
  | writeBuffer | fillBuffer | set =>
      exact .kept (heffect.writers_eq (.inr (Option.some_ne_none _))) (by simp only [log, h])
  | _ => exact .kept (heffect.writers_eq (.inl (Option.some_ne_none _))) (by simp only [log, h])

/-! ### Faithful writers -/

/-- The frames of the named writer are numbered, and with them every record on the list shows its
picture. -/
def Faithful (s : Session) (name : String) (issues : List Issue) : Prop :=
  ∀ w, s.writers.get? name = some w →
    Frames.Numbered w.frames ∧ ∀ i ∈ issues, Frames.Shows w.frames i.record i.picture

theorem faithful_empty (name : String) : Faithful {} name [] := by
  intro w h
  cases h

/-- A writer that has written keeps showing what it showed. -/
theorem Faithful.written {w : JsonWriter} (h : s.Faithful name before)
    (found : s.writers.get? name = some w) (store : Store) (elements : Elements) :
    Frames.Numbered (w.write store elements).2.frames ∧
      ∀ i ∈ before, Frames.Shows (w.write store elements).2.frames i.record i.picture := by
  obtain ⟨numbered, shows⟩ := h w found
  obtain ⟨more, hmore⟩ := w.write_frames store elements
  refine ⟨JsonWriter.write_numbered numbered elements, ?_⟩
  intro i hi
  rw [hmore]
  exact (shows i hi).append more

theorem WriterEffect.faithful (heffect : s.WriterEffect name before c s') (sound : s.Sound)
    (h : s.Faithful name before) : s'.Faithful name (s.log name before c) := by
  cases heffect with
  | kept writers log =>
      rw [log]
      intro w hw
      rw [writers] at hw
      exact h w hw
  | @made options target _ writers =>
      intro w hw
      rw [writers] at hw
      by_cases hn : name = target
      · -- a new writer of this name has no frames and has issued nothing
        subst hn
        rw [Names.get?_put_self] at hw
        cases hw
        have hlog : s.log name before (.newWriter options name) = [] := if_pos rfl
        rw [hlog]
        exact ⟨Frames.numbered_nil, fun i hi => by cases hi⟩
      · rw [Names.get?_put_of_ne _ _ hn] at hw
        have hlog : s.log name before (.newWriter options target) = before :=
          if_neg fun e => hn e.symm
        rw [hlog]
        exact h w hw
  | @issued array writer target a w _ looked found writers log =>
      rw [log]
      intro w' hw
      rw [writers] at hw
      by_cases hn : writer = name
      · subst hn
        rw [Names.get?_put_self] at hw
        cases hw
        rw [if_pos rfl]
        obtain ⟨numbered, shows⟩ := h.written found s.store a.elements
        refine ⟨numbered, ?_⟩
        intro i hi
        rcases List.mem_append.mp hi with hi | hi
        · exact shows i hi
        · cases List.mem_singleton.mp hi
          exact Frames.shows_encode w (sound.array array a looked)
      · rw [Names.get?_put_of_ne _ _ fun e => hn e.symm] at hw
        rw [if_neg hn]
        exact h w' hw
  | @wrote buffer writer elements w _ found writers log =>
      rw [log]
      intro w' hw
      rw [writers] at hw
      by_cases hn : writer = name
      · subst hn
        rw [Names.get?_put_self] at hw
        cases hw
        exact h.written found s.store elements
      · rw [Names.get?_put_of_ne _ _ fun e => hn e.symm] at hw
        exact h w' hw
  | @taken writer target _ writers log =>
      rw [log]
      intro w hw
      rw [writers] at hw
      by_cases hn : name = writer
      · subst hn
        rw [Names.get?_erase_self] at hw
        cases hw
      · rw [Names.get?_erase_of_ne _ hn] at hw
        exact h w hw

/-- **Writers stay faithful** at every command. -/
theorem Faithful.step (h : s.Faithful name before) (sound : s.Sound) (c : Command) :
    (s.step c).Faithful name (s.log name before c) := by
  cases e : (s.exec c).result with
  | error failure =>
      have hstep : s.step c = s := by simp only [Session.step, e]
      have hlog : s.log name before c = before := by simp only [log, e]
      rw [hstep, hlog]
      exact h
  | ok outcome =>
      have hstep : s.step c = outcome.2 := by simp only [Session.step, e]
      rw [hstep]
      exact (exec_writers name before e).faithful sound h

theorem Faithful.run (h : s.Faithful name before) (sound : s.Sound) (commands : List Command) :
    (s.run commands).Faithful name (s.issues name before commands) := by
  induction commands generalizing s before with
  | nil => exact h
  | cons c rest ih => exact ih (h.step sound c) (sound.step c)

/-! ### Every run -/

/-- **Whatever a writer has issued decodes to what was encoded.**  Take a writer of a session that was
built by commands.  Its frames have distinct identifiers.  Once they are taken, all records that the
writer has issued decode with them, in any order and any number of times, in whatever store: the
arrays look as those that were encoded did at that time, and have memory of their own. -/
theorem issues_restored (commands : List Command) (name : String) (w : JsonWriter)
    (h : (Session.run {} commands).writers.get? name = some w) :
    (w.frames.map Frame.id).Nodup ∧
      (∀ target, ((Session.run {} commands).step (.takeFrames name target)).frames.get? target =
        some w.frames) ∧
      ∀ picks : List Issue, (∀ i ∈ picks, i ∈ Session.issues {} name [] commands) → ∀ store,
        ∃ arrays store',
          decodeAll (Frames.payloadReader w.frames) (picks.map Issue.record) store =
            .ok (arrays, store') ∧
          arrays.map (NdArray.picture store') = picks.map Issue.picture ∧ store.Extends store' ∧
          (arrays.filterMap NdArray.block?).Nodup ∧
          ∀ b ∈ arrays.filterMap NdArray.block?, ¬ store.Has b ∧ store'.Has b := by
  obtain ⟨numbered, shows⟩ := (faithful_empty name).run sound_empty commands w h
  refine ⟨numbered.nodup, ?_, ?_⟩
  · intro target
    have hfind : (Session.run {} commands).writers.find name = .ok w := by
      rw [Names.find, h]
    simp only [Session.step, exec, having, hfind, quiet, Except.map, Names.get?_put_self]
  · intro picks hpicks store
    exact Frames.decodeAll_of_shows numbered picks (fun i hi => shows i (hpicks i hi)) store

/-- One array is encoded twice, and its memory is overwritten in between.  Its two records decode to
what it was each time, here in the other order. -/
theorem issues_restored_overwritten :
    let commands : List Command := [.newBuffer [1, 2, 3, 4] "memory",
      .fromBuffer (.numeric (.integer .uint16)) "memory" none false "words",
      .newWriter { binary := true } "writer", .encode "words" (some "writer") "first",
      .writeBuffer "memory" 0 [9], .encode "words" (some "writer") "second"]
    let frames : Frames := [⟨"0", [1, 2, 3, 4]⟩, ⟨"1", [9, 2, 3, 4]⟩]
    let words (bytes : Bytes) : Picture := ⟨[2], .bytes (.integer .uint16) bytes⟩
    let issues := Session.issues {} "writer" [] commands
    (Session.run {} commands).writers.get? "writer" = some ⟨{ binary := true }, frames⟩ ∧
      ∀ store, ∃ arrays store',
        decodeAll frames.payloadReader (issues.reverse.map Issue.record) store =
          .ok (arrays, store') ∧
        arrays.map (NdArray.picture store') = [words [9, 2, 3, 4], words [1, 2, 3, 4]] := by
  intro commands frames words issues
  have h : (Session.run {} commands).writers.get? "writer" = some ⟨{ binary := true }, frames⟩ := rfl
  refine ⟨h, ?_⟩
  intro store
  obtain ⟨-, -, hdecode⟩ := issues_restored commands "writer" _ h
  obtain ⟨arrays, store', hall, hpictures, -⟩ :=
    hdecode issues.reverse (fun i hi => List.mem_reverse.mp hi) store
  exact ⟨arrays, store', hall, hpictures⟩

end Session

end ArrayExchange
