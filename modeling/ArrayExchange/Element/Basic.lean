import ArrayExchange.Bytes.Order
import ArrayExchange.Element.Type
import ArrayExchange.Binary.Basic

/-!
# Elements and their bytes

`ElementType.Value t` is the type of the elements of a numeric array.  An element has a *code*, a
number below `256 ^ t.width`: a truth value is `0` or `1`, an integer is reduced modulo the size
of its range, a floating-point number is its word.  The bytes of an element are its code in the
byte order of the host.

* `ElementType.write` and `ElementType.read` store one element, `ElementType.encode` and
  `ElementType.decode` a list of them.
* Reading accepts every byte string; in particular, any code but `0` reads as a true truth value.
-/

namespace ArrayExchange

/-! ### Integers of a range -/

namespace IntegerType

/-- An integer within the range. -/
abbrev Value (k : IntegerType) := { n : Int // k.lo ≤ n ∧ n ≤ k.hi }

theorem size_pos (k : IntegerType) : 0 < k.size := by cases k <;> decide

theorem lo_nonpos (k : IntegerType) : k.lo ≤ 0 := by cases k <;> decide

theorem hi_nonneg (k : IntegerType) : 0 ≤ k.hi := by cases k <;> decide

/-- Every range fits in 64 bits. -/
theorem wide_of_mem {k : IntegerType} {n : Int} (h : k.lo ≤ n ∧ n ≤ k.hi) :
    -0x8000000000000000 ≤ n ∧ n < 0x10000000000000000 := by
  have lower : -0x8000000000000000 ≤ k.lo := by cases k <;> decide
  have upper : k.hi < 0x10000000000000000 := by cases k <;> decide
  omega

/-- The code of an integer: the number below the size of the range that differs from it by a
multiple of that size. -/
def code {k : IntegerType} (n : k.Value) : Nat := (n.val % k.size).toNat

/-- The integer of the range that differs from a code by a multiple of the size of the range. -/
def ofCode (k : IntegerType) (code : Nat) : k.Value :=
  ⟨k.lo + ((code : Int) - k.lo) % k.size, by
    have pos : (0 : Int) < k.size := Int.natCast_pos.mpr k.size_pos
    have nonneg := Int.emod_nonneg ((code : Int) - k.lo) (Int.ne_of_gt pos)
    have lt := Int.emod_lt_of_pos ((code : Int) - k.lo) pos
    unfold hi
    omega⟩

end IntegerType

/-! ### Elements -/

namespace ElementType

/-- One element of a numeric array. -/
def Value : ElementType → Type
  | bool => Bool
  | integer range => range.Value
  | float format => Binary format

instance : (t : ElementType) → DecidableEq t.Value
  | bool => inferInstanceAs (DecidableEq Bool)
  | integer range => inferInstanceAs (DecidableEq range.Value)
  | float format => inferInstanceAs (DecidableEq (Binary format))

/-- The number that is stored for an element. -/
def code : (t : ElementType) → t.Value → Nat
  | bool, b => Bool.toNat b
  | integer _, n => IntegerType.code n
  | float _, x => Binary.toBits x

/-- The element that a stored number stands for. -/
def ofCode : (t : ElementType) → Nat → t.Value
  | bool, code => code != 0
  | integer range, code => range.ofCode code
  | float format, code => Binary.ofBits format code

/-- The bytes of an element. -/
def write (t : ElementType) (x : t.Value) : Bytes := Bytes.ofNat t.width (t.code x)

/-- The element that a run of bytes stands for. -/
def read (t : ElementType) (bytes : Bytes) : t.Value := t.ofCode (Bytes.toNat bytes)

/-- The bytes of a list of elements. -/
def encode (t : ElementType) (xs : List t.Value) : Bytes := xs.flatMap t.write

/-- The elements that a byte string holds; bytes past the last complete element do not count. -/
def decode (t : ElementType) (bytes : Bytes) : List t.Value :=
  (Bytes.chunks t.width bytes).map t.read

theorem length_write (t : ElementType) (x : t.Value) : (t.write x).length = t.width :=
  Bytes.length_ofNat ..

theorem length_encode (t : ElementType) (xs : List t.Value) :
    (t.encode xs).length = xs.length * t.width := by
  induction xs with
  | nil => simp [encode]
  | cons x rest ih =>
    have ih' : (rest.flatMap t.write).length = rest.length * t.width := ih
    simp only [encode, List.flatMap_cons, List.length_append, length_write, ih', List.length_cons]
    rw [Nat.succ_mul, Nat.add_comm]

theorem length_decode (t : ElementType) (bytes : Bytes) :
    (t.decode bytes).length = bytes.length / t.width := by
  simp [decode]

end ElementType

end ArrayExchange
