import ArrayExchange.Json.Basic

/-!
# JSON text

The compact text of a value, without blanks.  Of the characters of a string only the quote, the
backslash and the controls below U+0020 are escaped; all others stand as they are.

* `Json.chars` and `Json.text` give the text of a value, `Json.stringChars` that of a string.
-/

namespace ArrayExchange

namespace Json

/-- A character of a string, escaped where it has to be. -/
def escapedChar (c : Char) : List Char :=
  match c with
  | '"' => ['\\', '"']
  | '\\' => ['\\', '\\']
  | '\x08' => ['\\', 'b']
  | '\t' => ['\\', 't']
  | '\n' => ['\\', 'n']
  | '\x0c' => ['\\', 'f']
  | '\r' => ['\\', 'r']
  | c =>
    if c.toNat < 32 then
      ['\\', 'u', '0', '0', Nat.digitChar (c.toNat / 16), Nat.digitChar (c.toNat % 16)]
    else [c]

/-- A string between its quotes. -/
def stringChars (s : String) : List Char := '"' :: (s.toList.flatMap escapedChar ++ ['"'])

mutual

/-- The text of a value. -/
def chars : Json → List Char
  | null => ['n', 'u', 'l', 'l']
  | bool true => ['t', 'r', 'u', 'e']
  | bool false => ['f', 'a', 'l', 's', 'e']
  | number n => n.chars
  | string s => stringChars s
  | array [] => ['[', ']']
  | array (item :: rest) => '[' :: (chars item ++ itemChars rest)
  | object [] => ['\x7b', '\x7d']
  | object ((key, value) :: rest) =>
    '\x7b' :: (stringChars key ++ ':' :: (chars value ++ fieldChars rest))

/-- The items after the first one, and the end of the array. -/
def itemChars : List Json → List Char
  | [] => [']']
  | item :: rest => ',' :: (chars item ++ itemChars rest)

/-- The fields after the first one, and the end of the object. -/
def fieldChars : List (String × Json) → List Char
  | [] => ['\x7d']
  | (key, value) :: rest =>
    ',' :: (stringChars key ++ ':' :: (chars value ++ fieldChars rest))

end

/-- The text of a value. -/
def text (value : Json) : String := String.ofList value.chars

end Json

end ArrayExchange
