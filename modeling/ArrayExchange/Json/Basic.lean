import ArrayExchange.Json.Number

/-!
# JSON values

A value keeps the fields of an object as a list.  A value is *canonical* when the keys of each of
its objects are strictly ascending, by code point; an object is then the same thing as a finite
map.  `Json.normalize` makes a value canonical, the last of several fields with one key winning.

* `Json.same` is equality of values, up to the sign of a float zero.
* `Json.Canonical` and `Json.normalize`.
-/

namespace ArrayExchange

/-- A JSON value. -/
inductive Json where
  | null
  | bool (b : Bool)
  | number (n : Json.Number)
  | string (s : String)
  | array (items : List Json)
  | object (fields : List (String × Json))

namespace Json

/-- The value under a key of an object. -/
def field? : Json → String → Option Json
  | object fields, key => fields.lookup key
  | _, _ => none

/-- The text of a string value. -/
def text? : Json → Option String
  | string s => some s
  | _ => none

def isNumber : Json → Bool
  | number _ => true
  | _ => false

/-! ### Equality -/

mutual

/-- Equality of JSON values: numbers by `Number.same`, all else by form. -/
def same : Json → Json → Bool
  | null, null => true
  | bool a, bool b => a == b
  | number a, number b => a.same b
  | string a, string b => a == b
  | array a, array b => sameItems a b
  | object a, object b => sameFields a b
  | _, _ => false

/-- Equality of two lists of values, position by position. -/
def sameItems : List Json → List Json → Bool
  | [], [] => true
  | a :: as, b :: bs => same a b && sameItems as bs
  | _, _ => false

/-- Equality of two lists of fields, position by position. -/
def sameFields : List (String × Json) → List (String × Json) → Bool
  | [], [] => true
  | (k, a) :: as, (l, b) :: bs => k == l && same a b && sameFields as bs
  | _, _ => false

end

/-! ### Canonical values -/

mutual

/-- Every object within the value has strictly ascending keys. -/
def Canonical : Json → Prop
  | array items => CanonicalItems items
  | object fields => (fields.map Prod.fst).Pairwise (· < ·) ∧ CanonicalFields fields
  | _ => True

/-- Every item is canonical. -/
def CanonicalItems : List Json → Prop
  | [] => True
  | item :: rest => Canonical item ∧ CanonicalItems rest

/-- The value of every field is canonical. -/
def CanonicalFields : List (String × Json) → Prop
  | [] => True
  | (_, value) :: rest => Canonical value ∧ CanonicalFields rest

end

/-- Puts a field into its place among fields with ascending keys, unless the key is taken. -/
def insertField (key : String) (value : Json) : List (String × Json) → List (String × Json)
  | [] => [(key, value)]
  | (k, v) :: rest =>
    if key < k then (key, value) :: (k, v) :: rest
    else if key = k then (k, v) :: rest
    else (k, v) :: insertField key value rest

mutual

/-- The canonical form of a value.  Of several fields with one key the last is kept. -/
def normalize : Json → Json
  | array items => array (normalizeItems items)
  | object fields => object (normalizeFields fields)
  | null => null
  | bool b => bool b
  | number n => number n
  | string s => string s

/-- The canonical form of each item. -/
def normalizeItems : List Json → List Json
  | [] => []
  | item :: rest => normalize item :: normalizeItems rest

/-- The canonical form of the fields of an object: inserted from the last to the first. -/
def normalizeFields : List (String × Json) → List (String × Json)
  | [] => []
  | (key, value) :: rest => insertField key (normalize value) (normalizeFields rest)

end

end Json

end ArrayExchange
