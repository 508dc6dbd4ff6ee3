import ArrayExchange.Text.Unprintable
import ArrayExchange.Text.Extending

/-!
# Quoted text in messages

Error messages show a text between double quotes.  Quotes and backslashes are escaped, as are the
common controls; any other character that cannot stand alone in print is given by its code point
in hexadecimal.
-/

namespace ArrayExchange

namespace Text

/-- A code point in braces, as in `\u{7f}`. -/
def codePoint (c : Char) : List Char :=
  ['\\', 'u', '\x7b'] ++ Nat.toDigits 16 c.toNat ++ ['\x7d']

/-- A character as it stands between quotes. -/
def quotedChar (c : Char) : List Char :=
  match c with
  | '\x00' => ['\\', '0']
  | '\t' => ['\\', 't']
  | '\r' => ['\\', 'r']
  | '\n' => ['\\', 'n']
  | '"' => ['\\', '"']
  | '\\' => ['\\', '\\']
  | c => if isExtending c || isUnprintable c then codePoint c else [c]

/-- A text between double quotes. -/
def quoted (s : String) : String :=
  String.ofList ('"' :: s.toList.flatMap quotedChar ++ ['"'])

end Text

end ArrayExchange
