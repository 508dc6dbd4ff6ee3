/-!
# Words as little-endian bytes

A number below `256 ^ width` is stored as `width` bytes, the least significant one first.  This is
the byte order of the host throughout the library.

* `Bytes.ofNat` writes the low `width` bytes of a number, `Bytes.toNat` reads any byte string.
-/

namespace ArrayExchange

/-- A byte string. -/
abbrev Bytes := List UInt8

namespace Bytes

/-- The `width` low bytes of a number, least significant first. -/
def ofNat : Nat → Nat → Bytes
  | 0, _ => []
  | width + 1, n => UInt8.ofNat (n % 256) :: ofNat width (n / 256)

/-- The number that a byte string spells, least significant byte first. -/
def toNat : Bytes → Nat
  | [] => 0
  | b :: rest => b.toNat + 256 * toNat rest

@[simp] theorem length_ofNat (width n : Nat) : (ofNat width n).length = width := by
  induction width generalizing n with
  | zero => rfl
  | succ width ih => simp only [ofNat, List.length_cons, ih]

theorem toNat_ofNat (width n : Nat) : toNat (ofNat width n) = n % Nat.pow 256 width := by
  induction width generalizing n with
  | zero => simp [ofNat, toNat, Nat.mod_one]
  | succ width ih =>
    have hb : (UInt8.ofNat (n % 256)).toNat = n % 256 := by simp
    have hp : Nat.pow 256 (width + 1) = 256 * Nat.pow 256 width := Nat.mul_comm ..
    rw [ofNat, toNat, ih, hb, hp, Nat.mod_mul]

theorem ofNat_toNat (bytes : Bytes) : ofNat bytes.length (toNat bytes) = bytes := by
  induction bytes with
  | nil => rfl
  | cons b rest ih =>
    have hb : b.toNat < 256 := b.toNat_lt
    have hmod : (b.toNat + 256 * toNat rest) % 256 = b.toNat := by omega
    have hdiv : (b.toNat + 256 * toNat rest) / 256 = toNat rest := by omega
    simp only [List.length_cons, ofNat, toNat, hmod, hdiv, ih, UInt8.ofNat_toNat]

end Bytes

end ArrayExchange
