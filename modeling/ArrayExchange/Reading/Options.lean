import ArrayExchange.NdArray.Construction
import ArrayExchange.Reading.Basic
import ArrayExchange.Record.Basic
import ArrayExchange.Record.JsonPayload

/-!
# Options as JSON

Options are given by an object or by a list of their fields in order.  Fields that are left out
have their defaults, and fields with unknown names do not count.  The fields of an object are read
in the order in which it has them, and the first fault is reported.

* `readBuildOptions`, `readWriterOptions` and the texts `BuildOptions.text`, `WriterOptions.text`.
-/

namespace ArrayExchange

/-- Reads a structure of optional fields.  `known` are the names of its fields in order, and `put`
sets the field of a given name. -/
def readFields {α : Type} (title : String) (known : List String)
    (put : String → Json → α → Read α) (start : α) : Json → Read α
  | .object fields => ofFields [] start fields
  | .array items => do
    let options ← (known.zip items).foldlM (fun options (name, value) => put name value options) start
    if known.length < items.length then throw (.tooLong items.length) else return options
  | value => .error (.unexpected value (.fields title))
where
  /-- Reads the fields of an object; `seen` are the names that have been read already. -/
  ofFields (seen : List String) (options : α) : List (String × Json) → Read α
    | [] => .ok options
    | (name, value) :: rest =>
      if name ∈ known then
        if name ∈ seen then .error (.duplicateField name)
        else do ofFields (name :: seen) (← put name value options) rest
      else ofFields seen options rest

/-! ### Build options -/

/-- Sets the field of the build options with the given name. -/
def BuildOptions.put (name : String) (value : Json) (options : BuildOptions) :
    Read BuildOptions :=
  match name with
  | "dtype" => return { options with dtype := ← readOptional readDType value }
  | "shape" => return { options with shape := ← readOptional readShape value }
  | "copy" => return { options with copy := ← readFlag value }
  | "validate_shape" => return { options with validateShape := ← readFlag value }
  | _ => return options

/-- Reads build options. -/
def readBuildOptions : Json → Read BuildOptions :=
  readFields "ArrayOptions" ["dtype", "shape", "copy", "validate_shape"] BuildOptions.put {}

/-- The JSON text of a flag. -/
def flagChars (b : Bool) : List Char := (Json.bool b).chars

/-- The JSON text of a value that may be absent. -/
def optionalChars {α : Type} (chars : α → List Char) (value : Option α) : List Char :=
  match value with
  | some x => chars x
  | none => Json.null.chars

/-- The JSON text of build options. -/
def BuildOptions.text (options : BuildOptions) : String :=
  String.ofList <| Json.objectText
    [Json.fieldText "dtype" (optionalChars (fun d => Json.stringChars d.tag) options.dtype),
      Json.fieldText "shape" (optionalChars Shape.chars options.shape),
      Json.fieldText "copy" (flagChars options.copy),
      Json.fieldText "validate_shape" (flagChars options.validateShape)]

/-! ### Writer options -/

/-- Sets the field of the writer options with the given name. -/
def WriterOptions.put (name : String) (value : Json) (options : WriterOptions) :
    Read WriterOptions :=
  match name with
  | "binary" => return { options with binary := ← readFlag value }
  | _ => return options

/-- Reads writer options. -/
def readWriterOptions : Json → Read WriterOptions :=
  readFields "SerializerOptions" ["binary"] WriterOptions.put {}

/-- The JSON text of writer options. -/
def WriterOptions.text (options : WriterOptions) : String :=
  String.ofList (Json.objectText [Json.fieldText "binary" (flagChars options.binary)])

end ArrayExchange
