import ArrayExchange.Json.Printer
import ArrayExchange.Text.Quoted

/-!
# Misread values

Tags, options and records are read from JSON values.  `ReadError` tells what is wrong with a value
that does not have the form asked for.  There are two wordings: `ReadError.message` describes the
value that was found, while `ReadError.terse` only names what was asked for, as the reader of whole
record texts reports it.
-/

namespace ArrayExchange

/-- What a place in a value calls for. -/
inductive Wanted where
  /-- One of a set of names: a string, or an object with the name as its only key. -/
  | name
  /-- The value beside a name, which must be null. -/
  | nothing
  | text
  | flag
  | sequence
  /-- An extent: an unsigned integer. -/
  | extent
  /-- A structure with named fields. -/
  | fields (title : String)
  deriving DecidableEq

/-- Why a value is not read. -/
inductive ReadError where
  /-- A value of another kind than the one asked for. -/
  | unexpected (found : Json) (wanted : Wanted)
  /-- An object without keys, or with several, in the place of a name. -/
  | notSingleKey
  /-- A negative integer in the place of an extent. -/
  | negative (n : Int)
  /-- A name that is none of the known ones. -/
  | unknownName (name : String) (known : List String)
  | missingField (name : String)
  | duplicateField (name : String)
  /-- A list that stops before the last field of a structure. -/
  | tooShort (length : Nat) (wanted : String) (fields : Nat)
  /-- A list that goes on after the last field of a structure. -/
  | tooLong (length : Nat)

namespace Wanted

def message : Wanted → String
  | name => "string or map"
  | nothing => "unit"
  | text => "a string"
  | flag => "a boolean"
  | sequence => "a sequence"
  | extent => "usize"
  | fields title => "struct " ++ title

def terse : Wanted → String
  | name => "ExpectedEnum"
  | nothing => "ExpectedNull"
  | text => "ExpectedString"
  | flag => "ExpectedBoolean"
  | sequence => "ExpectedArray"
  | extent => "ExpectedUnsigned"
  | fields _ => "ExpectedMap"

end Wanted

/-- A value as error messages mention it. -/
def Json.mention : Json → String
  | null => "null"
  | bool true => "boolean `true`"
  | bool false => "boolean `false`"
  | number (.int n) => "integer `" ++ String.ofList (Number.intChars n.val) ++ "`"
  | number (.float x) => "floating point `" ++ String.ofList (Number.floatChars x.val) ++ "`"
  | string s => "string " ++ Text.quoted s
  | array _ => "sequence"
  | object _ => "map"

namespace ReadError

/-- The wording that describes the value found. -/
def message : ReadError → String
  | unexpected found wanted => s!"invalid type: {found.mention}, expected {wanted.message}"
  | notSingleKey => "invalid value: map, expected map with a single key"
  | negative n => s!"invalid value: integer `{n}`, expected {Wanted.extent.message}"
  | unknownName name known =>
    s!"unknown variant `{name}`, expected " ++ " or ".intercalate (known.map fun k => s!"`{k}`")
  | missingField name => s!"missing field `{name}`"
  | duplicateField name => s!"duplicate field `{name}`"
  | tooShort length wanted fields =>
    s!"invalid length {length}, expected struct {wanted} with {fields} elements"
  | tooLong length => s!"invalid length {length}, expected fewer elements in array"

/-- The wording that names what was asked for.  Faults of names and fields keep their message. -/
def terse : ReadError → String
  | unexpected _ wanted => wanted.terse ++ " at character 0"
  | notSingleKey => Wanted.name.terse ++ " at character 0"
  | negative _ => Wanted.extent.terse ++ " at character 0"
  | error => "Serde(" ++ Text.quoted error.message ++ ") at character 0"

end ReadError

end ArrayExchange
