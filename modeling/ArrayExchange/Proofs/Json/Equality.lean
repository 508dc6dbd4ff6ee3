import ArrayExchange.Json.Basic
import ArrayExchange.Proofs.Binary.Comparison

/-!
# Equality of JSON values

Two JSON values are the same when they are equal up to the signs of float zeros.  So the values with
all these signs removed decide.

* `Json.Number.unsigned`, `Json.unsigned` — a number, and a value, without the signs of zeros.
* `Json.Number.same_iff`, `Json.same_iff` — these decide.
* `Json.same_refl`, `Json.same_comm`.
-/

namespace ArrayExchange

namespace Json

/-- A number with the sign of a float zero removed. -/
def Number.unsigned : Number → Number
  | .int n => .int n
  | .float x => .float ⟨x.val.unsignedZero, Binary.isFinite_unsignedZero x.property⟩

/-- **Numbers are the same** if they differ in the sign of a float zero at most. -/
theorem Number.same_iff (m n : Number) : m.same n = true ↔ m.unsigned = n.unsigned := by
  cases m with
  | int m =>
      cases n with
      | int n => simp [same, unsigned]
      | float y => simp [same, unsigned]
  | float x =>
      cases n with
      | int n => simp [same, unsigned]
      | float y =>
          have hx := Binary.isNaN_of_isFinite x.property
          have hy := Binary.isNaN_of_isFinite y.property
          simp [same, unsigned, Binary.numEq_iff_unsignedZero hx hy]

mutual

/-- A value with the signs of all float zeros removed. -/
def unsigned : Json → Json
  | number n => number n.unsigned
  | array items => array (unsignedItems items)
  | object fields => object (unsignedFields fields)
  | null => null
  | bool b => bool b
  | string s => string s

/-- Each item with the signs of its zeros removed. -/
def unsignedItems : List Json → List Json
  | [] => []
  | item :: rest => unsigned item :: unsignedItems rest

/-- Each field with the signs of its zeros removed. -/
def unsignedFields : List (String × Json) → List (String × Json)
  | [] => []
  | (key, value) :: rest => (key, unsigned value) :: unsignedFields rest

end

mutual

/-- **Values are the same** if they differ in the signs of float zeros at most. -/
theorem same_iff (a b : Json) : a.same b = true ↔ a.unsigned = b.unsigned := by
  match a with
  | .null => cases b <;> simp [same, unsigned]
  | .bool _ => cases b <;> simp [same, unsigned]
  | .number m => cases b <;> simp [same, unsigned, Number.same_iff]
  | .string _ => cases b <;> simp [same, unsigned]
  | .array as =>
      match b with
      | .array bs => rw [same, sameItems_iff as bs, unsigned, unsigned, array.injEq]
      | .null | .bool _ | .number _ | .string _ | .object _ => simp [same, unsigned]
  | .object as =>
      match b with
      | .object bs => rw [same, sameFields_iff as bs, unsigned, unsigned, object.injEq]
      | .null | .bool _ | .number _ | .string _ | .array _ => simp [same, unsigned]

theorem sameItems_iff (as bs : List Json) :
    sameItems as bs = true ↔ unsignedItems as = unsignedItems bs := by
  match as, bs with
  | [], [] => simp [sameItems]
  | [], _ :: _ => simp [sameItems, unsignedItems]
  | _ :: _, [] => simp [sameItems, unsignedItems]
  | a :: as, b :: bs =>
      rw [sameItems, Bool.and_eq_true, same_iff a b, sameItems_iff as bs, unsignedItems, unsignedItems,
        List.cons.injEq]

theorem sameFields_iff (as bs : List (String × Json)) :
    sameFields as bs = true ↔ unsignedFields as = unsignedFields bs := by
  match as, bs with
  | [], [] => simp [sameFields]
  | [], (_, _) :: _ => simp [sameFields, unsignedFields]
  | (_, _) :: _, [] => simp [sameFields, unsignedFields]
  | (k, a) :: as, (l, b) :: bs =>
      rw [sameFields, Bool.and_eq_true, Bool.and_eq_true, beq_iff_eq, same_iff a b,
        sameFields_iff as bs, unsignedFields, unsignedFields, List.cons.injEq, Prod.mk.injEq]

end

theorem same_refl (a : Json) : a.same a = true := (same_iff a a).mpr rfl

theorem same_comm (a b : Json) : a.same b = b.same a := by
  rw [Bool.eq_iff_iff, same_iff, same_iff, eq_comm]

end Json

end ArrayExchange
