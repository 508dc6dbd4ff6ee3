import ArrayExchange.Bytes.LittleEndian

/-!
# Base64

Three bytes are written as four symbols of six bits each; one or two bytes left over at the end
are written as two or three symbols and filled up with `=`.  Reading is canonical: padding is
required, and bits of the last symbol that stand for no byte must be zero, so that each byte
string has exactly one text.

* `Base64.encode` and `Base64.decode`, with `Base64.Error` for the texts that are not accepted.
* `Base64.Error.message` words an error.
-/

namespace ArrayExchange

namespace Base64

/-! ### Symbols -/

/-- The symbol for six bits. -/
def symbol (value : Nat) : Char :=
  if value < 26 then Char.ofNat (value + 65)
  else if value < 52 then Char.ofNat (value - 26 + 97)
  else if value < 62 then Char.ofNat (value - 52 + 48)
  else if value = 62 then '+'
  else '/'

/-- The six bits of a symbol, given as the byte of its character. -/
def value? (byte : UInt8) : Option Nat :=
  let n := byte.toNat
  if 65 ≤ n ∧ n ≤ 90 then some (n - 65)
  else if 97 ≤ n ∧ n ≤ 122 then some (n - 97 + 26)
  else if 48 ≤ n ∧ n ≤ 57 then some (n - 48 + 52)
  else if n = 43 then some 62
  else if n = 47 then some 63
  else none

/-- The byte of the padding character `=`. -/
def pad : UInt8 := 61

/-! ### Writing -/

/-- The base64 text of a byte string. -/
def encode : Bytes → List Char
  | a :: b :: c :: rest =>
    symbol (a.toNat / 4) :: symbol (a.toNat % 4 * 16 + b.toNat / 16) ::
      symbol (b.toNat % 16 * 4 + c.toNat / 64) :: symbol (c.toNat % 64) :: encode rest
  | [a, b] =>
    [symbol (a.toNat / 4), symbol (a.toNat % 4 * 16 + b.toNat / 16), symbol (b.toNat % 16 * 4), '=']
  | [a] => [symbol (a.toNat / 4), symbol (a.toNat % 4 * 16), '=', '=']
  | [] => []

/-! ### Reading -/

/-- Why a text is not base64.  Offsets count the bytes of the text. -/
inductive Error where
  /-- A byte that is no symbol, or padding where none may stand. -/
  | invalidSymbol (byte : UInt8) (offset : Nat)
  /-- A last group of one symbol, which spells no byte. -/
  | invalidLength (length : Nat)
  /-- A last group that is not filled up to four characters. -/
  | invalidPadding
  /-- A last symbol with bits that belong to no byte. -/
  | invalidLastSymbol (byte : UInt8) (offset : Nat)
  deriving DecidableEq

/-- The wording of an error. -/
def Error.message : Error → String
  | .invalidSymbol byte offset => s!"Invalid symbol {byte.toNat}, offset {offset}."
  | .invalidLength length => s!"Invalid input length: {length}"
  | .invalidPadding => "Invalid padding"
  | .invalidLastSymbol byte offset => s!"Invalid last symbol {byte.toNat}, offset {offset}."

/-- The six bits of the symbol that stands at `offset`. -/
def valueAt (offset : Nat) (byte : UInt8) : Except Error Nat :=
  match value? byte with
  | some value => .ok value
  | none => .error (.invalidSymbol byte offset)

/-- The six bits of each symbol of a run that starts at `offset`. -/
def valuesFrom (offset : Nat) : Bytes → Except Error (List Nat)
  | [] => .ok []
  | byte :: rest => do
    let value ← valueAt offset byte
    let values ← valuesFrom (offset + 1) rest
    return value :: values

/-- The three bytes of a full group of four symbols. -/
def groupBytes (x y z w : Nat) : Bytes :=
  [UInt8.ofNat (x * 4 + y / 16), UInt8.ofNat (y % 16 * 16 + z / 4), UInt8.ofNat (z % 4 * 64 + w)]

/-- The bytes of the last group, whose symbols have the given values.  `last` is the byte of its
last symbol, which is reported at `offset` if bits of it are left over. -/
def lastBytes (last : UInt8) (offset : Nat) : List Nat → Except Error Bytes
  | [x, y] =>
    if y % 16 = 0 then .ok [UInt8.ofNat (x * 4 + y / 16)]
    else .error (.invalidLastSymbol last offset)
  | [x, y, z] =>
    if z % 4 = 0 then .ok [UInt8.ofNat (x * 4 + y / 16), UInt8.ofNat (y % 16 * 16 + z / 4)]
    else .error (.invalidLastSymbol last offset)
  | [x, y, z, w] => .ok (groupBytes x y z w)
  | _ => .ok []

/-- Reads the last group, complete or not, which starts at `offset`: symbols first, then padding,
four characters together. -/
def decodeLast (offset : Nat) (group : Bytes) : Except Error Bytes := do
  let symbols := group.takeWhile (· ≠ pad)
  let padding := group.dropWhile (· ≠ pad)
  let values ← valuesFrom offset symbols
  if padding ≠ [] ∧ (symbols.length < 2 ∨ ¬ padding.all (· = pad)) then
    throw (.invalidSymbol pad (offset + symbols.length))
  else if group = [] then
    return []
  else if symbols.length < 2 then
    throw (.invalidLength (offset + symbols.length))
  else if symbols.length + padding.length ≠ 4 then
    throw .invalidPadding
  else
    lastBytes (symbols.getLastD pad) (offset + symbols.length - 1) values

/-- Reads the groups from `offset` on: all but the last one consist of symbols only. -/
def decodeFrom (offset : Nat) : Bytes → Except Error Bytes
  | a :: b :: c :: d :: e :: rest => do
    let x ← valueAt offset a
    let y ← valueAt (offset + 1) b
    let z ← valueAt (offset + 2) c
    let w ← valueAt (offset + 3) d
    let bytes ← decodeFrom (offset + 4) (e :: rest)
    return groupBytes x y z w ++ bytes
  | group => decodeLast offset group

/-- The byte string that a text spells, the text given by its bytes.  A stray byte that alone
makes the text one too long for whole groups is reported before all else. -/
def decode (text : Bytes) : Except Error Bytes :=
  match text.getLast? with
  | some last =>
    if text.length % 4 = 1 ∧ last ≠ pad ∧ value? last = none then
      .error (.invalidSymbol last (text.length - 1))
    else decodeFrom 0 text
  | none => .ok []

end Base64

end ArrayExchange
