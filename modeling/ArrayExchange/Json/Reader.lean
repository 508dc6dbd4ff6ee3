import ArrayExchange.Json.Basic
import ArrayExchange.Json.Numeral

/-!
# Reading JSON text

One value with blanks around it and nothing else: no comments, no trailing commas, no raw controls
in strings, no escape that is half of a surrogate pair.  Objects keep their fields in the order of
the text, repeated keys included.

A number or a word (`null`, `true`, `false`) must end in front of a blank, a mark, a null character
or the end of the text.  What follows it up to the next token does not count: behind a null
character there may be anything, and a number too long for the registers may end anywhere.

* `Json.readNumber`, `Json.readString` and `Json.readValue` take one item off the front of a text
  and return what follows it.
* `Json.ofText?` reads a whole text exactly, and `Json.ofText64?` with numbers in registers.
-/

namespace ArrayExchange

namespace Json

/-- How the value of a number is counted. -/
inductive Arithmetic where
  /-- Without limits. -/
  | exact
  /-- In registers, for a text of `size` bytes. -/
  | registers (size : Nat)
  deriving DecidableEq

/-- The characters that may stand between the parts of a value. -/
def isBlank (c : Char) : Bool := c = ' ' || c = '\t' || c = '\n' || c = '\r'

/-- The characters that hold the parts of a value together. -/
def isMark (c : Char) : Bool :=
  c = ',' || c = ':' || c = '[' || c = ']' || c = '\x7b' || c = '\x7d'

/-- A text without the blanks at its front. -/
def skipBlanks (cs : List Char) : List Char := cs.dropWhile isBlank

/-- Whether a number or a word may end in front of a text. -/
def endsToken : List Char → Bool
  | [] => true
  | c :: _ => isBlank c || isMark c || c = '\x00'

/-- A text from its first blank, mark or quote on.  A backslash hides a quote, and another
backslash, behind it. -/
def skipRun : List Char → List Char
  | [] => []
  | '\\' :: '"' :: cs => skipRun cs
  | '\\' :: '\\' :: cs => skipRun cs
  | c :: cs => if isBlank c || isMark c || c = '"' then c :: cs else skipRun cs

/-- An item that has been read, and what follows it, if it may end there. -/
def endToken {α : Type} (item : α) (cs : List Char) : Option (α × List Char) :=
  if endsToken cs then some (item, skipRun cs) else none

/-! ### Numbers -/

/-- A run of digits at the front, at least one. -/
def readDigits (cs : List Char) : Option (List Char × List Char) :=
  match cs.takeWhile Char.isDigit with
  | [] => none
  | digits => some (digits, cs.dropWhile Char.isDigit)

/-- The digits before the point: a single zero, or digits that do not start with one. -/
def readWhole (cs : List Char) : Option (List Char × List Char) := do
  let (digits, rest) ← readDigits cs
  if digits.head? = some '0' ∧ digits.length ≠ 1 then none else some (digits, rest)

/-- The digits after the point, if there is one. -/
def readFraction : List Char → Option (Option (List Char) × List Char)
  | '.' :: cs => (readDigits cs).map fun (digits, rest) => (some digits, rest)
  | cs => some (none, cs)

/-- The digits of an exponent, with its sign if there is one. -/
def readSignedDigits : List Char → Option ((Bool × List Char) × List Char)
  | '-' :: cs => (readDigits cs).map fun (digits, rest) => ((true, digits), rest)
  | '+' :: cs => (readDigits cs).map fun (digits, rest) => ((false, digits), rest)
  | cs => (readDigits cs).map fun (digits, rest) => ((false, digits), rest)

/-- The exponent, if there is one. -/
def readExponent : List Char → Option (Option (Bool × List Char) × List Char)
  | 'e' :: cs => (readSignedDigits cs).map fun (exponent, rest) => (some exponent, rest)
  | 'E' :: cs => (readSignedDigits cs).map fun (exponent, rest) => (some exponent, rest)
  | cs => some (none, cs)

/-- The numeral at the front of a text, behind its sign. -/
def readUnsigned (negative : Bool) (cs : List Char) : Option (Numeral × List Char) := do
  let (whole, cs) ← readWhole cs
  let (fraction, cs) ← readFraction cs
  let (exponent, cs) ← readExponent cs
  some (⟨negative, whole, fraction, exponent⟩, cs)

/-- The size of a text in bytes. -/
def byteCount (cs : List Char) : Nat := (String.ofList cs).utf8ByteSize

/-- A text from the first character on that is neither a zero nor a point. -/
def skipZeros (cs : List Char) : List Char := cs.dropWhile fun c => c = '0' || c = '.'

/-- The number at the front of a text, behind its sign. -/
def readMagnitude (arithmetic : Arithmetic) (negative : Bool) (cs : List Char) :
    Option (Number × List Char) := do
  let (numeral, rest) ← readUnsigned negative cs
  match arithmetic with
  | .exact => endToken (← numeral.inFull?) rest
  | .registers size =>
    if numeral.isLong fun _ => size - byteCount (skipZeros cs) then
      some (← numeral.inRegisters? true, skipRun rest)
    else endToken (← numeral.inRegisters? false) rest

/-- The number at the front of a text. -/
def readNumber (arithmetic : Arithmetic) : List Char → Option (Number × List Char)
  | '-' :: cs => readMagnitude arithmetic true cs
  | cs => readMagnitude arithmetic false cs

/-! ### Strings -/

/-- The value of a hexadecimal digit. -/
def hexDigit? (c : Char) : Option Nat :=
  if '0' ≤ c ∧ c ≤ '9' then some (c.toNat - 48)
  else if 'a' ≤ c ∧ c ≤ 'f' then some (c.toNat - 87)
  else if 'A' ≤ c ∧ c ≤ 'F' then some (c.toNat - 55)
  else none

/-- The number that four hexadecimal digits spell. -/
def hexUnit? (a b c d : Char) : Option Nat := do
  let a ← hexDigit? a
  let b ← hexDigit? b
  let c ← hexDigit? c
  let d ← hexDigit? d
  some (((a * 16 + b) * 16 + c) * 16 + d)

/-- The character that a letter stands for behind a backslash. -/
def escape? : Char → Option Char
  | '"' => some '"'
  | '\\' => some '\\'
  | '/' => some '/'
  | 'b' => some '\x08'
  | 'f' => some '\x0c'
  | 'n' => some '\n'
  | 'r' => some '\r'
  | 't' => some '\t'
  | _ => none

/-- Puts a character in front of a string that has been read. -/
def prepend (c : Char) : Option (List Char × List Char) → Option (List Char × List Char)
  | some (s, rest) => some (c :: s, rest)
  | none => none

/-- The characters of a string up to its closing quote, the opening one already taken. -/
def readString : List Char → Option (List Char × List Char)
  | [] => none
  | '"' :: rest => some ([], rest)
  | '\\' :: 'u' :: a :: b :: c :: d :: rest =>
    match hexUnit? a b c d with
    | none => none
    | some unit =>
      if 0xd800 ≤ unit ∧ unit < 0xdc00 then
        match rest with
        | '\\' :: 'u' :: e :: f :: g :: h :: rest =>
          match hexUnit? e f g h with
          | none => none
          | some low =>
            if 0xdc00 ≤ low ∧ low < 0xe000 then
              prepend (Char.ofNat (0x10000 + (unit - 0xd800) * 0x400 + (low - 0xdc00)))
                (readString rest)
            else none
        | _ => none
      else if 0xdc00 ≤ unit ∧ unit < 0xe000 then none
      else prepend (Char.ofNat unit) (readString rest)
  | '\\' :: c :: rest =>
    match escape? c with
    | none => none
    | some c => prepend c (readString rest)
  | c :: rest => if c.toNat < 32 then none else prepend c (readString rest)

/-! ### Values -/

mutual

/-- The value at the front of a text, blanks before it skipped.  The first argument bounds the
work; twice the length of the text is always enough. -/
def readValue (arithmetic : Arithmetic) : Nat → List Char → Option (Json × List Char)
  | 0, _ => none
  | fuel + 1, cs =>
    match skipBlanks cs with
    | 'n' :: 'u' :: 'l' :: 'l' :: rest => endToken null rest
    | 't' :: 'r' :: 'u' :: 'e' :: rest => endToken (bool true) rest
    | 'f' :: 'a' :: 'l' :: 's' :: 'e' :: rest => endToken (bool false) rest
    | '"' :: rest => (readString rest).map fun (s, rest) => (string (String.ofList s), rest)
    | '[' :: rest =>
      match skipBlanks rest with
      | ']' :: rest => some (array [], rest)
      | rest => (readItems arithmetic fuel rest).map fun (items, rest) => (array items, rest)
    | '\x7b' :: rest =>
      match skipBlanks rest with
      | '\x7d' :: rest => some (object [], rest)
      | rest => (readFields arithmetic fuel rest).map fun (fields, rest) => (object fields, rest)
    | cs => (readNumber arithmetic cs).map fun (n, rest) => (number n, rest)

/-- The items of an array from the next one on, up to the closing bracket. -/
def readItems (arithmetic : Arithmetic) : Nat → List Char → Option (List Json × List Char)
  | 0, _ => none
  | fuel + 1, cs =>
    match readValue arithmetic fuel cs with
    | none => none
    | some (item, rest) =>
      match skipBlanks rest with
      | ',' :: rest => (readItems arithmetic fuel rest).map fun (items, rest) => (item :: items, rest)
      | ']' :: rest => some ([item], rest)
      | _ => none

/-- The fields of an object from the next one on, up to the closing brace. -/
def readFields (arithmetic : Arithmetic) : Nat → List Char → Option (List (String × Json) × List Char)
  | 0, _ => none
  | fuel + 1, cs =>
    match skipBlanks cs with
    | '"' :: rest =>
      match readString rest with
      | none => none
      | some (key, rest) =>
        match skipBlanks rest with
        | ':' :: rest =>
          match readValue arithmetic fuel rest with
          | none => none
          | some (value, rest) =>
            match skipBlanks rest with
            | ',' :: rest =>
              (readFields arithmetic fuel rest).map fun (fields, rest) =>
                ((String.ofList key, value) :: fields, rest)
            | '\x7d' :: rest => some ([(String.ofList key, value)], rest)
            | _ => none
        | _ => none
    | _ => none

end

/-- The value that a whole text spells, numbers counted in the given way. -/
def readText (arithmetic : Arithmetic) (text : String) : Option Json :=
  let cs := text.toList
  match readValue arithmetic (2 * cs.length + 2) cs with
  | some (value, rest) => if skipBlanks rest = [] then some value else none
  | none => none

/-- The value that a whole text spells. -/
def ofText? (text : String) : Option Json := readText .exact text

/-- The value that a whole text spells, its numbers counted in registers. -/
def ofText64? (text : String) : Option Json := readText (.registers text.utf8ByteSize) text

end Json

end ArrayExchange
