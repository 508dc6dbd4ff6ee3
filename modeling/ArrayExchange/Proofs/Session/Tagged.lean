import ArrayExchange.Proofs.Memory.TaggedConstruction
import ArrayExchange.Proofs.Session.Effects

/-!
# Sessions of tagged arrays

The session machine with arrays whose types are tags: a command that makes, reads or overwrites an array
does so on tag and storage, and all other commands act as they do in any session.

* `TaggedSession` and `TaggedSession.exec` — the machine.  Its commands can end in a `Fault` that no
  session knows.
* `Session.tagged` — a session with the types of its arrays as tags.
* `TaggedSession.exec_tagged`, `TaggedSession.run_tagged` — a command on a session in this form does
  what it does on the session itself, and so does any run.
* `TaggedSession.known_of_error`, `TaggedSession.made_as_requested` — no run ends in a fault that
  sessions do not know, and a new array has the type asked for.
-/

namespace ArrayExchange

namespace Names

variable {α β : Type}

/-- The same names for things that were changed. -/
def map (f : α → β) (names : Names α) : Names β := fun name => (names name).map f

theorem get?_map (f : α → β) (names : Names α) (name : String) :
    (names.map f).get? name = (names.get? name).map f := rfl

theorem find_map (f : α → β) (names : Names α) (name : String) :
    (names.map f).find name = (names.find name).map f := by
  unfold find
  rw [get?_map]
  cases names.get? name <;> rfl

theorem map_put (f : α → β) (names : Names α) (name : String) (thing : α) :
    (names.put name thing).map f = (names.map f).put name (f thing) := by
  funext other
  simp only [map, put]
  split <;> rfl

end Names

/-! ### The machine -/

/-- A session in which arrays have their types as tags. -/
structure TaggedSession where
  /-- Everything else.  The names for arrays in here play no part. -/
  rest : Session := {}
  arrays : Names TaggedArray := Names.empty

namespace TaggedSession

def store (s : TaggedSession) : Store := s.rest.store

/-- What a command comes to. -/
abbrev Outcome := Logged (Except (Fault Failure) (Answer × TaggedSession))

/-- The source that an origin names. -/
def source (s : TaggedSession) : Origin → Except Failure TaggedSource
  | .buffer name => (s.rest.buffers.find name).map .buffer
  | .values items => .ok (.values items)
  | .elements type xs => .ok (.elements type xs)
  | .array name => (s.arrays.find name).map .array

/-- The session with another store. -/
def setStore (s : TaggedSession) (store : Store) : TaggedSession :=
  { s with rest := { s.rest with store } }

/-- The session with a new array and the store that it lies in. -/
def addArray (s : TaggedSession) (target : String) (made : TaggedArray × Store) : TaggedSession :=
  { s.setStore made.2 with arrays := s.arrays.put target made.1 }

/-- Carries on with a thing that has a name, or fails. -/
def having {α : Type} (found : Except Failure α) (act : α → Outcome) : Outcome :=
  match found with
  | .ok thing => act thing
  | .error failure => ⟨.error (.known failure), []⟩

/-- The outcome of a command that makes an array. -/
def making (s : TaggedSession) (target : String) (made : Logged (TaggedArray × Store)) : Outcome :=
  made.map fun made => .ok (.done, s.addArray target made)

/-- The outcome of a command that makes an array or fails. -/
def tryMaking {ε : Type} (s : TaggedSession) (failure : ε → Failure) (target : String)
    (made : Logged (Except ε (TaggedArray × Store))) : Outcome :=
  made.map fun result =>
    (result.mapError fun error => .known (failure error)).map fun made =>
      (.done, s.addArray target made)

/-- The outcome of a command that does not touch arrays. -/
def passing (s : TaggedSession) (made : Logged (Except Failure (Answer × Session))) : Outcome :=
  made.map fun result =>
    (result.mapError .known).map fun outcome => (outcome.1, { s with rest := outcome.2 })

/-- Carries out a command. -/
def exec (s : TaggedSession) : Command → Outcome
  | .bufferOf array target =>
    having (s.arrays.find array) fun x =>
      match x.block? with
      | some block => ⟨.ok (.done, { s with rest := s.rest.addBuffer target (block, s.store) }), []⟩
      | none => ⟨.ok (.noBuffer, s), []⟩
  | .build origin options target =>
    having (s.source origin) fun source =>
      s.tryMaking .array target (TaggedArray.build source options s.store)
  | .fromSource dtype origin options target =>
    having (s.source origin) fun source =>
      s.tryMaking .array target (TaggedArray.fromSource dtype source options s.store)
  | .fromElements type xs shape target =>
    s.making target (TaggedArray.fromElements type xs shape s.store)
  | .fromBuffer dtype buffer shape copy target =>
    having (s.rest.buffers.find buffer) fun block =>
      s.tryMaking .array target (TaggedArray.fromBuffer dtype block shape copy s.store)
  | .fromValues dtype values shape target =>
    s.making target (TaggedArray.fromValues dtype values shape s.store)
  | .fromView type view target => s.making target (TaggedArray.fromView type view s.store)
  | .shareArray array target =>
    having (s.arrays.find array) fun x => ⟨.ok (.done, s.addArray target (x, s.store)), []⟩
  | .copyArray array target =>
    having (s.arrays.find array) fun x => ⟨.ok (.done, s.addArray target (x.copy s.store)), []⟩
  | .set array type index value =>
    having (s.arrays.find array) fun x =>
      ⟨((x.set type s.store index value).mapError (Fault.map .array)).map fun store =>
        (.done, s.setStore store), []⟩
  | .encode array none target =>
    having (s.arrays.find array) fun x =>
      (x.encode {} s.store).map fun made =>
        .ok (.done, { s with rest := { s.rest with records := s.rest.records.put target made.1 } })
  | .encode array (some writer) target =>
    having (s.arrays.find array) fun x =>
      having (s.rest.writers.find writer) fun w =>
        (x.encode w s.store).map fun made =>
          .ok (.done,
            { s with
              rest := { s.rest with
                records := s.rest.records.put target made.1
                writers := s.rest.writers.put writer made.2 } })
  | .decode record none target =>
    having (s.rest.records.find record) fun r =>
      s.tryMaking .decode target (TaggedArray.decode (Frames.payloadReader []) r s.store)
  | .decode record (some reader) target =>
    having (s.rest.records.find record) fun r =>
      having (s.rest.readers.find reader) fun frames =>
        s.tryMaking .decode target (TaggedArray.decode (Frames.payloadReader frames) r s.store)
  | c => s.passing (s.rest.exec c)

/-- The session after a command; the same one if the command fails. -/
def step (s : TaggedSession) (c : Command) : TaggedSession :=
  match (s.exec c).result with
  | .ok (_, s) => s
  | .error _ => s

/-- The session after a list of commands. -/
def run (s : TaggedSession) (commands : List Command) : TaggedSession := commands.foldl step s

end TaggedSession

/-! ### Sessions with types as tags -/

namespace Session

/-- A session with the types of its arrays as tags. -/
def tagged (s : Session) : TaggedSession where
  rest := { s with arrays := Names.empty }
  arrays := s.arrays.map NdArray.tagged

/-- What a command comes to, with the types of arrays as tags. -/
def taggedOutcome (made : Logged (Except Failure (Answer × Session))) : TaggedSession.Outcome :=
  made.map fun result =>
    (result.mapError .known).map fun outcome => (outcome.1, outcome.2.tagged)

theorem tagged_addArray (s : Session) (target : String) (made : NdArray × Store) :
    (s.addArray target made).tagged = s.tagged.addArray target (NdArray.taggedMade made) := by
  simp only [tagged, addArray, Names.map_put, TaggedSession.addArray, TaggedSession.setStore,
    NdArray.taggedMade]

end Session

namespace TaggedSession

variable {s : Session} {target : String}

/-! ### Outcomes -/

theorem having_tagged {α : Type} (found : Except Failure α)
    {act : α → Logged (Except Failure (Answer × Session))} {act' : α → Outcome}
    (h : ∀ thing, act' thing = Session.taggedOutcome (act thing)) :
    having found act' = Session.taggedOutcome (Session.having found act) := by
  cases found with
  | error failure => rfl
  | ok thing => exact h thing

/-- Carrying on with a thing that has the same name in another form. -/
theorem having_map {α β : Type} (found : Except Failure α) (f : α → β) (act : β → Outcome) :
    having (found.map f) act = having found fun thing => act (f thing) := by
  cases found <;> rfl

theorem source_tagged (s : Session) (origin : Origin) :
    s.tagged.source origin = (s.source origin).map Source.tagged := by
  cases origin with
  | buffer name =>
      simp only [source, Session.source, Session.tagged]
      cases s.buffers.find name <;> rfl
  | values items => rfl
  | elements type xs => rfl
  | array name =>
      simp only [source, Session.source, Session.tagged, Names.find_map]
      cases s.arrays.find name <;> rfl

/-- A command that made an array made it with its type as a tag. -/
theorem addArray_tagged (s : Session) (target : String) (made : NdArray × Store)
    (events : List Event) :
    (⟨.ok (.done, s.tagged.addArray target (NdArray.taggedMade made)), events⟩ : Outcome) =
      Session.taggedOutcome ⟨.ok (.done, s.addArray target made), events⟩ := by
  rw [← Session.tagged_addArray]
  rfl

theorem making_tagged (made : Logged (NdArray × Store)) :
    s.tagged.making target (made.map NdArray.taggedMade) =
      Session.taggedOutcome (s.making target made) :=
  addArray_tagged s target made.result made.events

theorem tryMaking_tagged (made : Logged (Except ArrayError (NdArray × Store))) :
    s.tagged.tryMaking .array target (made.map (Except.map NdArray.taggedMade)) =
      Session.taggedOutcome (s.tryMaking target made) := by
  obtain ⟨result, events⟩ := made
  cases result with
  | error error => rfl
  | ok array => exact addArray_tagged s target array events

theorem tryDecoding_tagged (made : Logged (Except DecodeError (NdArray × Store))) :
    s.tagged.tryMaking .decode target (made.map (Except.map NdArray.taggedMade)) =
      Session.taggedOutcome (s.tryDecoding target made) := by
  obtain ⟨result, events⟩ := made
  cases result with
  | error error => rfl
  | ok array => exact addArray_tagged s target array events

/-- A command that does not touch arrays carries on with the same thing. -/
theorem passing_having {α : Type} (found : Except Failure α)
    {act act' : α → Logged (Except Failure (Answer × Session))}
    (h : ∀ thing, s.tagged.passing (act' thing) = Session.taggedOutcome (act thing)) :
    s.tagged.passing (Session.having found act') =
      Session.taggedOutcome (Session.having found act) := by
  cases found with
  | error failure => rfl
  | ok thing => exact h thing

/-! ### Commands -/

/-- **A command does the same** to a session and to the session with types as tags. -/
theorem exec_tagged (s : Session) (c : Command) :
    s.tagged.exec c = Session.taggedOutcome (s.exec c) := by
  have harrays (name : String) :
      s.tagged.arrays.find name = (s.arrays.find name).map NdArray.tagged := s.arrays.find_map _ name
  cases c with
  | bufferOf array target =>
      simp only [exec, Session.exec, harrays, having_map, NdArray.tagged_block?]
      apply having_tagged
      intro a
      cases a.block? <;> rfl
  | build origin options target =>
      simp only [exec, Session.exec, source_tagged, having_map, TaggedArray.build_tagged]
      exact having_tagged _ fun source => tryMaking_tagged _
  | fromSource dtype origin options target =>
      simp only [exec, Session.exec, source_tagged, having_map, TaggedArray.fromSource_tagged]
      exact having_tagged _ fun source => tryMaking_tagged _
  | fromElements type xs shape target =>
      simp only [exec, Session.exec, TaggedArray.fromElements_tagged]
      exact making_tagged _
  | fromBuffer dtype buffer shape copy target =>
      simp only [exec, Session.exec, TaggedArray.fromBuffer_tagged]
      exact having_tagged _ fun block => tryMaking_tagged _
  | fromValues dtype values shape target =>
      simp only [exec, Session.exec, TaggedArray.fromValues_tagged]
      exact making_tagged _
  | fromView type view target =>
      simp only [exec, Session.exec, TaggedArray.fromView_tagged]
      exact making_tagged _
  | shareArray array target =>
      simp only [exec, Session.exec, harrays, having_map]
      exact having_tagged _ fun a => addArray_tagged s target (a, s.store) []
  | copyArray array target =>
      simp only [exec, Session.exec, harrays, having_map, TaggedArray.copy_tagged]
      exact having_tagged _ fun a => addArray_tagged s target (a.copy s.store) []
  | set array type index value =>
      simp only [exec, Session.exec, harrays, having_map, NdArray.tagged_set]
      apply having_tagged
      intro a
      show (⟨((((a.set type s.store index value).mapError Fault.known).mapError _).map _), []⟩ :
        Outcome) = _
      cases a.set type s.store index value <;> rfl
  | encode array writer target =>
      cases writer with
      | none =>
          simp only [exec, Session.exec, harrays, having_map, NdArray.tagged_encode]
          exact having_tagged _ fun a => rfl
      | some writer =>
          simp only [exec, Session.exec, harrays, having_map, NdArray.tagged_encode]
          exact having_tagged _ fun a => having_tagged _ fun w => rfl
  | decode record reader target =>
      cases reader with
      | none =>
          simp only [exec, Session.exec, TaggedArray.decode_tagged]
          exact having_tagged _ fun r => tryDecoding_tagged _
      | some reader =>
          simp only [exec, Session.exec, TaggedArray.decode_tagged]
          exact having_tagged _ fun r => having_tagged _ fun frames => tryDecoding_tagged _
  | newBuffer bytes target => rfl
  | newWriter options target => rfl
  | addRecord record target => rfl
  | shareBuffer buffer target => exact passing_having (s.buffers.find buffer) fun _ => rfl
  | copyBuffer buffer target => exact passing_having (s.buffers.find buffer) fun _ => rfl
  | writeBuffer buffer start bytes => exact passing_having (s.buffers.find buffer) fun _ => rfl
  | fillBuffer buffer byte => exact passing_having (s.buffers.find buffer) fun _ => rfl
  | snapshot buffer target => exact passing_having (s.buffers.find buffer) fun _ => rfl
  | encodeBuffer buffer writer =>
      exact passing_having (s.buffers.find buffer) fun _ =>
        passing_having (s.writers.find writer) fun _ => rfl
  | takeFrames writer target => exact passing_having (s.writers.find writer) fun _ => rfl
  | newReader frames extra target =>
      cases frames with
      | none => rfl
      | some frames => exact passing_having (s.frames.find frames) fun _ => rfl

theorem step_tagged (s : Session) (c : Command) : s.tagged.step c = (s.step c).tagged := by
  unfold step Session.step
  rw [exec_tagged, Session.taggedOutcome, Logged.map]
  cases (s.exec c).result <;> rfl

theorem run_tagged (s : Session) (commands : List Command) :
    s.tagged.run commands = (s.run commands).tagged := by
  induction commands generalizing s with
  | nil => rfl
  | cons c rest ih =>
      show (s.tagged.step c).run rest = ((s.step c).run rest).tagged
      rw [step_tagged, ih]

/-! ### What can be relied on -/

/-- The name of the array that a command makes, and the type asked for. -/
def request? (s : TaggedSession) : Command → Option (String × DType)
  | .build origin options target =>
    match s.source origin with
    | .ok source => some (target, options.dtype.getD source.inferredType.result)
    | .error _ => none
  | .fromSource dtype _ _ target | .fromBuffer dtype _ _ _ target | .fromValues dtype _ _ target =>
    some (target, dtype)
  | .fromElements type _ _ target | .fromView type _ target => some (target, .numeric type)
  | .shareArray array target | .copyArray array target =>
    (s.arrays.get? array).map fun x => (target, x.dtype)
  | .decode record _ target => (s.rest.records.get? record).map fun r => (target, r.dtype)
  | _ => none

/-- What every command on a session can be relied on for. -/
structure Dependable (s : TaggedSession) : Prop where
  /-- A command that fails does so with an error that the library knows: typed access never finds a
  type without its storage, and no slice of memory is missing. -/
  known : ∀ c fault, (s.exec c).result = .error fault → ∃ failure, fault = .known failure
  /-- A new array has the type asked for. -/
  requested : ∀ c answer s' target dtype, (s.exec c).result = .ok (answer, s') →
    s.request? c = some (target, dtype) → ∃ x, s'.arrays.get? target = some x ∧ x.dtype = dtype

theorem known_of_error {c : Command} {fault : Fault Failure}
    (h : (s.tagged.exec c).result = .error fault) : ∃ failure, fault = .known failure := by
  rw [exec_tagged, Session.taggedOutcome, Logged.map] at h
  cases e : (s.exec c).result with
  | error failure =>
      rw [e] at h
      cases h
      exact ⟨failure, rfl⟩
  | ok outcome =>
      rw [e] at h
      cases h

section Requests

variable {s s' : TaggedSession} {c : Command} {answer : Answer} {dtype : DType}

theorem having_ok {α : Type} {found : Except Failure α} {act : α → Outcome}
    {outcome : Answer × TaggedSession} (h : (having found act).result = .ok outcome) :
    ∃ thing, found = .ok thing ∧ (act thing).result = .ok outcome := by
  cases found with
  | error failure => cases h
  | ok thing => exact ⟨thing, rfl, h⟩

theorem get?_addArray (s : TaggedSession) (target : String) (made : TaggedArray × Store) :
    (s.addArray target made).arrays.get? target = some made.1 :=
  Names.get?_put_self _ _ _

/-- An array that is made goes by the name given for it. -/
theorem tryMaking_ok {ε : Type} {failure : ε → Failure} {target : String}
    {made : Logged (Except ε (TaggedArray × Store))}
    (h : (s.tryMaking failure target made).result = .ok (answer, s')) :
    ∃ array, made.result = .ok array ∧ s'.arrays.get? target = some array.1 := by
  obtain ⟨result, events⟩ := made
  cases result with
  | error error => cases h
  | ok array =>
      cases h
      exact ⟨array, rfl, s.get?_addArray target array⟩

/-- **A new array has the type asked for.** -/
theorem made_as_requested {target : String} (h : (s.exec c).result = .ok (answer, s'))
    (hc : s.request? c = some (target, dtype)) :
    ∃ x, s'.arrays.get? target = some x ∧ x.dtype = dtype := by
  cases c with
  | build origin options target =>
      obtain ⟨source, hs, h⟩ := having_ok h
      obtain ⟨array, ha, hname⟩ := tryMaking_ok h
      simp only [request?, hs] at hc
      cases hc
      rw [TaggedArray.build_result] at ha
      exact ⟨array.1, hname, TaggedArray.dtype_of_fromSource ha⟩
  | fromSource dtype origin options target =>
      obtain ⟨source, -, h⟩ := having_ok h
      obtain ⟨array, ha, hname⟩ := tryMaking_ok h
      cases hc
      exact ⟨array.1, hname, TaggedArray.dtype_of_fromSource ha⟩
  | fromBuffer dtype buffer shape copy target =>
      obtain ⟨block, -, h⟩ := having_ok h
      obtain ⟨array, ha, hname⟩ := tryMaking_ok h
      cases hc
      exact ⟨array.1, hname, TaggedArray.dtype_of_fromSource ha⟩
  | fromElements type xs shape target =>
      cases h
      cases hc
      exact ⟨_, s.get?_addArray _ _, rfl⟩
  | fromValues dtype values shape target =>
      cases h
      cases hc
      exact ⟨_, s.get?_addArray _ _, rfl⟩
  | fromView type view target =>
      cases h
      cases hc
      exact ⟨_, s.get?_addArray _ _, rfl⟩
  | shareArray array target =>
      obtain ⟨x, hx, h⟩ := having_ok h
      cases h
      simp only [request?, Session.find_ok hx, Option.map_some, Option.some.injEq] at hc
      cases hc
      exact ⟨_, s.get?_addArray _ _, rfl⟩
  | copyArray array target =>
      obtain ⟨x, hx, h⟩ := having_ok h
      cases h
      simp only [request?, Session.find_ok hx, Option.map_some, Option.some.injEq] at hc
      cases hc
      exact ⟨_, s.get?_addArray _ _, x.dtype_copy s.store⟩
  | decode record reader target =>
      cases reader with
      | none =>
          obtain ⟨r, hr, h⟩ := having_ok h
          obtain ⟨array, ha, hname⟩ := tryMaking_ok h
          simp only [request?, Session.find_ok hr, Option.map_some, Option.some.injEq] at hc
          cases hc
          exact ⟨array.1, hname, TaggedArray.dtype_of_decode ha⟩
      | some reader =>
          obtain ⟨r, hr, h⟩ := having_ok h
          obtain ⟨frames, -, h⟩ := having_ok h
          obtain ⟨array, ha, hname⟩ := tryMaking_ok h
          simp only [request?, Session.find_ok hr, Option.map_some, Option.some.injEq] at hc
          cases hc
          exact ⟨array.1, hname, TaggedArray.dtype_of_decode ha⟩
  | _ => cases hc

end Requests

/-- **Commands on a session of the library** can be relied on when types are tags. -/
theorem dependable_tagged (s : Session) : s.tagged.Dependable where
  known _ _ h := known_of_error h
  requested _ _ _ _ _ h hc := made_as_requested h hc

end TaggedSession

end ArrayExchange
