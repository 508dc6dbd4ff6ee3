import ArrayExchange.Bytes.LittleEndian

/-!
# Shared memory

The bytes of numeric arrays live in blocks of a store.  A buffer is a handle on a block, and so is
the storage of a numeric array: whoever holds the same handle reads and writes the same bytes.
The length of a block never changes, and a block is never removed.

* `Store.bytes` is the contents of a block, `Store.alloc` makes a new block.
* `Store.write` and `Store.fill` change the contents of one block.
-/

namespace ArrayExchange

/-- A handle on a block of bytes. -/
structure BlockId where
  index : Nat
  deriving DecidableEq

/-- All blocks of bytes, in the order of their creation. -/
structure Store where
  blocks : List Bytes

namespace Store

/-- The store without blocks. -/
def empty : Store := ⟨[]⟩

/-- The contents of a block. -/
def bytes (store : Store) (block : BlockId) : Bytes := store.blocks.getD block.index []

/-- The handle that the next block will get. -/
def next (store : Store) : BlockId := ⟨store.blocks.length⟩

/-- A new block that holds the given bytes. -/
def alloc (store : Store) (bytes : Bytes) : BlockId × Store :=
  (store.next, ⟨store.blocks ++ [bytes]⟩)

/-- Replaces the contents of a block. -/
def replace (store : Store) (block : BlockId) (bytes : Bytes) : Store :=
  ⟨store.blocks.set block.index bytes⟩

/-- A byte string with the bytes from `start` on overwritten; a patch that does not fit into the
byte string is not applied. -/
def patch (start : Nat) (new old : Bytes) : Bytes :=
  if start + new.length ≤ old.length then old.take start ++ new ++ old.drop (start + new.length)
  else old

/-- Overwrites the bytes of a block from `start` on. -/
def write (store : Store) (block : BlockId) (start : Nat) (new : Bytes) : Store :=
  store.replace block (patch start new (store.bytes block))

/-- Sets every byte of a block. -/
def fill (store : Store) (block : BlockId) (byte : UInt8) : Store :=
  store.replace block (List.replicate (store.bytes block).length byte)

/-- A new block with the contents of another one. -/
def copy (store : Store) (block : BlockId) : BlockId × Store := store.alloc (store.bytes block)

/-- A one-line description of a buffer. -/
def describe (store : Store) (block : BlockId) : String :=
  "ArrayBuffer \x7b byte_len: " ++ (store.bytes block).length.repr ++ " \x7d"

/-! ### Contents after each operation -/

theorem bytes_alloc_next (store : Store) (new : Bytes) :
    (store.alloc new).2.bytes store.next = new := by
  simp [alloc, next, bytes]

theorem bytes_alloc_of_lt {store : Store} {block : BlockId} (new : Bytes)
    (h : block.index < store.blocks.length) :
    (store.alloc new).2.bytes block = store.bytes block := by
  simp [alloc, bytes, List.getElem?_append_left h]

@[simp] theorem length_patch (start : Nat) (new old : Bytes) :
    (patch start new old).length = old.length := by
  unfold patch
  split
  · simp only [List.length_append, List.length_take, List.length_drop]
    omega
  · rfl

theorem bytes_replace_self {store : Store} {block : BlockId} (new : Bytes)
    (h : block.index < store.blocks.length) : (store.replace block new).bytes block = new := by
  simp [replace, bytes, h]

theorem bytes_replace_of_ne {store : Store} {block other : BlockId} (new : Bytes)
    (h : other ≠ block) : (store.replace block new).bytes other = store.bytes other := by
  have hi : block.index ≠ other.index := by
    intro e
    exact h (by cases block; cases other; cases e; rfl)
  simp [replace, bytes, List.getElem?_set_ne hi]

end Store

end ArrayExchange
