import ArrayExchange.NdArray.Construction
import ArrayExchange.Record.Exchange

/-!
# Sessions

A session is a store together with named handles into it: buffers and arrays that look at its
blocks, and snapshots, frames and records that hold bytes or values of their own.  Each sort of
thing has names of its own.

* `Names` is a partial map from names; `Names.put` and `Names.erase` change it at one name.
* `Session` is the state, `Failure` why a command on it fails.
-/

namespace ArrayExchange

/-- Things of one sort by their names. -/
def Names (α : Type) : Type := String → Option α

namespace Names

variable {α : Type}

/-- No names. -/
def empty : Names α := fun _ => none

/-- The thing with a given name. -/
def get? (names : Names α) (name : String) : Option α := names name

/-- Gives a name to a thing; what had the name before loses it. -/
def put (names : Names α) (name : String) (thing : α) : Names α :=
  fun other => if other = name then some thing else names other

/-- Frees a name. -/
def erase (names : Names α) (name : String) : Names α :=
  fun other => if other = name then none else names other

theorem get?_put_self (names : Names α) (name : String) (thing : α) :
    (names.put name thing).get? name = some thing := by
  simp [get?, put]

theorem get?_put_of_ne (names : Names α) {name other : String} (thing : α) (h : other ≠ name) :
    (names.put name thing).get? other = names.get? other := by
  simp [get?, put, h]

theorem get?_erase_self (names : Names α) (name : String) :
    (names.erase name).get? name = none := by
  simp [get?, erase]

theorem get?_erase_of_ne (names : Names α) {name other : String} (h : other ≠ name) :
    (names.erase name).get? other = names.get? other := by
  simp [get?, erase, h]

end Names

/-- A store and everything that has a name. -/
structure Session where
  store : Store := Store.empty
  buffers : Names BlockId := Names.empty
  /-- Contents of buffers, as they were at some time. -/
  snapshots : Names Bytes := Names.empty
  arrays : Names NdArray := Names.empty
  /-- Writers of JSON payloads, each with its frames so far. -/
  writers : Names JsonWriter := Names.empty
  /-- Frames that were taken out of a writer. -/
  frames : Names Frames := Names.empty
  /-- Readers of JSON payloads, each given by the frames it has at hand. -/
  readers : Names Frames := Names.empty
  records : Names Record := Names.empty

/-- Why a command fails. -/
inductive Failure where
  /-- Nothing of the sort that is called for has this name. -/
  | unknown (name : String)
  | array (error : ArrayError)
  | decode (error : DecodeError)
  deriving DecidableEq

/-- The thing with a given name. -/
def Names.find {α : Type} (names : Names α) (name : String) : Except Failure α :=
  match names.get? name with
  | some thing => .ok thing
  | none => .error (.unknown name)

end ArrayExchange
