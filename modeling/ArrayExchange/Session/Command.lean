import ArrayExchange.Session.Basic

/-!
# Commands

A command acts on a session by names.  Most commands make a thing and give it the name `target`;
the others change the contents of a block, or the frames of a writer.  A command that fails leaves
the session as it was.

* `Session.exec` carries out one command, `Session.run` a list of them.
-/

namespace ArrayExchange

/-- The source of an array, by name. -/
inductive Origin where
  | buffer (name : String)
  | values (items : List Json)
  | elements (type : ElementType) (xs : List type.Value)
  | array (name : String)

/-- What can be done in a session. -/
inductive Command where
  /-- A new block of memory with the given contents. -/
  | newBuffer (bytes : Bytes) (target : String)
  /-- Another handle on the memory of a buffer. -/
  | shareBuffer (buffer target : String)
  /-- A new block with the contents of a buffer. -/
  | copyBuffer (buffer target : String)
  /-- A handle on the memory of an array. -/
  | bufferOf (array target : String)
  | writeBuffer (buffer : String) (start : Nat) (bytes : Bytes)
  | fillBuffer (buffer : String) (byte : UInt8)
  /-- The contents of a buffer as they are now. -/
  | snapshot (buffer target : String)
  /-- An array of the type in the options, or of the inferred one. -/
  | build (origin : Origin) (options : BuildOptions) (target : String)
  | fromSource (dtype : DType) (origin : Origin) (options : BuildOptions) (target : String)
  | fromElements (type : ElementType) (xs : List type.Value) (shape : Option Shape)
    (target : String)
  | fromBuffer (dtype : DType) (buffer : String) (shape : Option Shape) (copy : Bool)
    (target : String)
  | fromValues (dtype : DType) (values : List Json) (shape : Option Shape) (target : String)
  | fromView (type : ElementType) (view : View type.Value) (target : String)
  /-- Another array over the same memory. -/
  | shareArray (array target : String)
  /-- An array with memory of its own and the same elements. -/
  | copyArray (array target : String)
  /-- Overwrites one element of an array. -/
  | set (array : String) (type : ElementType) (index : Nat) (x : type.Value)
  | newWriter (options : WriterOptions) (target : String)
  /-- The record of an array, its payload written by the named writer or by a fresh one. -/
  | encode (array : String) (writer : Option String) (target : String)
  /-- The payload of a buffer, written by the named writer. -/
  | encodeBuffer (buffer writer : String)
  /-- The frames of a writer, which is used up. -/
  | takeFrames (writer target : String)
  /-- A reader with the named frames and some more behind them. -/
  | newReader (frames : Option String) (extra : Frames) (target : String)
  | addRecord (record : Record) (target : String)
  /-- The array of a record, its payload read by the named reader or by one without frames. -/
  | decode (record : String) (reader : Option String) (target : String)

/-- What a command answers, apart from what it leaves in the session. -/
inductive Answer where
  | done
  /-- The array has no memory. -/
  | noBuffer
  | payload (value : Json)

namespace Session

/-- The source that an origin names. -/
def source (s : Session) : Origin → Except Failure Source
  | .buffer name => (s.buffers.find name).map .buffer
  | .values items => .ok (.values items)
  | .elements type xs => .ok (.elements type xs)
  | .array name => (s.arrays.find name).map .array

/-- The session with a new array and the store that it lies in. -/
def addArray (s : Session) (target : String) (made : NdArray × Store) : Session :=
  { s with store := made.2, arrays := s.arrays.put target made.1 }

/-- The session with a new buffer and the store that it lies in. -/
def addBuffer (s : Session) (target : String) (made : BlockId × Store) : Session :=
  { s with store := made.2, buffers := s.buffers.put target made.1 }

/-- The outcome of a command that reports nothing. -/
def quiet (result : Except Failure Session) : Logged (Except Failure (Answer × Session)) :=
  ⟨result.map fun s => (.done, s), []⟩

/-- The outcome of a command that makes an array. -/
def making (s : Session) (target : String) (made : Logged (NdArray × Store)) :
    Logged (Except Failure (Answer × Session)) :=
  ⟨.ok (.done, s.addArray target made.result), made.events⟩

/-- The outcome of a command that makes an array or fails. -/
def tryMaking (s : Session) (target : String) (made : Logged (Except ArrayError (NdArray × Store))) :
    Logged (Except Failure (Answer × Session)) :=
  ⟨(made.result.mapError .array).map fun made => (.done, s.addArray target made), made.events⟩

/-- The outcome of a command that decodes an array or fails. -/
def tryDecoding (s : Session) (target : String)
    (made : Logged (Except DecodeError (NdArray × Store))) :
    Logged (Except Failure (Answer × Session)) :=
  ⟨(made.result.mapError .decode).map fun made => (.done, s.addArray target made), made.events⟩

/-- Carries on with a thing that has a name, or fails. -/
def having {α : Type} (found : Except Failure α)
    (act : α → Logged (Except Failure (Answer × Session))) :
    Logged (Except Failure (Answer × Session)) :=
  match found with
  | .ok thing => act thing
  | .error failure => ⟨.error failure, []⟩

/-- Carries out a command. -/
def exec (s : Session) : Command → Logged (Except Failure (Answer × Session))
  | .newBuffer bytes target => quiet (.ok (s.addBuffer target (s.store.alloc bytes)))
  | .shareBuffer buffer target =>
    having (s.buffers.find buffer) fun block => quiet (.ok (s.addBuffer target (block, s.store)))
  | .copyBuffer buffer target =>
    having (s.buffers.find buffer) fun block =>
      quiet (.ok (s.addBuffer target (s.store.copy block)))
  | .bufferOf array target =>
    having (s.arrays.find array) fun a =>
      match a.block? with
      | some block => quiet (.ok (s.addBuffer target (block, s.store)))
      | none => ⟨.ok (.noBuffer, s), []⟩
  | .writeBuffer buffer start bytes =>
    having (s.buffers.find buffer) fun block =>
      quiet (.ok { s with store := s.store.write block start bytes })
  | .fillBuffer buffer byte =>
    having (s.buffers.find buffer) fun block =>
      quiet (.ok { s with store := s.store.fill block byte })
  | .snapshot buffer target =>
    having (s.buffers.find buffer) fun block =>
      quiet (.ok { s with snapshots := s.snapshots.put target (s.store.bytes block) })
  | .build origin options target =>
    having (s.source origin) fun source =>
      s.tryMaking target (NdArray.build source options s.store)
  | .fromSource dtype origin options target =>
    having (s.source origin) fun source =>
      s.tryMaking target (NdArray.fromSource dtype source options s.store)
  | .fromElements type xs shape target =>
    s.making target (NdArray.fromElements type xs shape s.store)
  | .fromBuffer dtype buffer shape copy target =>
    having (s.buffers.find buffer) fun block =>
      s.tryMaking target (NdArray.fromBuffer dtype block shape copy s.store)
  | .fromValues dtype values shape target =>
    s.making target (NdArray.fromValues dtype values shape s.store)
  | .fromView type view target => s.making target (NdArray.fromView type view s.store)
  | .shareArray array target =>
    having (s.arrays.find array) fun a => quiet (.ok (s.addArray target (a, s.store)))
  | .copyArray array target =>
    having (s.arrays.find array) fun a => quiet (.ok (s.addArray target (a.copy s.store)))
  | .set array type index x =>
    having (s.arrays.find array) fun a =>
      quiet (((a.set type s.store index x).mapError .array).map fun store => { s with store })
  | .newWriter options target =>
    quiet (.ok { s with writers := s.writers.put target { options } })
  | .encode array none target =>
    having (s.arrays.find array) fun a =>
      let made := JsonWriter.encode {} s.store a
      ⟨.ok (.done, { s with records := s.records.put target made.result.1 }), made.events⟩
  | .encode array (some writer) target =>
    having (s.arrays.find array) fun a =>
      having (s.writers.find writer) fun w =>
        let made := w.encode s.store a
        ⟨.ok (.done,
          { s with
            records := s.records.put target made.result.1
            writers := s.writers.put writer made.result.2 }), made.events⟩
  | .encodeBuffer buffer writer =>
    having (s.buffers.find buffer) fun block =>
      having (s.writers.find writer) fun w =>
        let made := w.write s.store (.buffer block)
        ⟨.ok (.payload made.1, { s with writers := s.writers.put writer made.2 }), []⟩
  | .takeFrames writer target =>
    having (s.writers.find writer) fun w =>
      quiet (.ok
        { s with writers := s.writers.erase writer, frames := s.frames.put target w.frames })
  | .newReader none extra target => quiet (.ok { s with readers := s.readers.put target extra })
  | .newReader (some frames) extra target =>
    having (s.frames.find frames) fun frames =>
      quiet (.ok { s with readers := s.readers.put target (frames ++ extra) })
  | .addRecord record target => quiet (.ok { s with records := s.records.put target record })
  | .decode record none target =>
    having (s.records.find record) fun r =>
      s.tryDecoding target (ArrayExchange.decode (Frames.payloadReader []) r s.store)
  | .decode record (some reader) target =>
    having (s.records.find record) fun r =>
      having (s.readers.find reader) fun frames =>
        s.tryDecoding target (ArrayExchange.decode (Frames.payloadReader frames) r s.store)

/-- The session after a command; the same one if the command fails. -/
def step (s : Session) (c : Command) : Session :=
  match (s.exec c).result with
  | .ok (_, s) => s
  | .error _ => s

/-- The session after a list of commands. -/
def run (s : Session) (commands : List Command) : Session := commands.foldl step s

end Session

end ArrayExchange
