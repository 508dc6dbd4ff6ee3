import ArrayExchange.Proofs.Binary.Conversion
import ArrayExchange.Proofs.Element.Coding
import ArrayExchange.Proofs.Element.Exact

/-!
# Conversion of elements, direct and by way of JSON

An element becomes one of another type by way of a 64-bit number.  It may also become a JSON value
first and be read from that.  A number is found again behind its JSON value, be it a numeral or a
string, but for the one thing that a string does not tell: which of the NaNs it was.

So elements are compared up to the bits of their NaNs, the sign bit among them, and so are the bytes of
lists of elements.  Conversion to the type that an element has already changes no more than that.

* `ElementType.Alike`, `ElementType.SameBytes` — the same elements and the same bytes, one NaN being as
  good as another.
* `ElementType.toBinary_toJson` — the number behind a JSON value.
* `ElementType.alike_ofBinary_toBinary` — conversion to the same type.
* `ElementType.encodeAs_sameBytes`, `ElementType.encodeValues_sameBytes` — the bytes of converted
  elements, direct and by way of JSON.
-/

namespace ArrayExchange

/-! ### One NaN for another -/

namespace Binary

variable {f : Format}

/-- The same datum, or the quiet NaN for any NaN. -/
def quiet (x : Binary f) : Binary f := if x.isNaN = true then nan else x

theorem quiet_of_isNaN {x : Binary f} (h : x.isNaN = true) : x.quiet = nan := if_pos h

theorem quiet_of_not_isNaN {x : Binary f} (h : x.isNaN = false) : x.quiet = x :=
  if_neg (ne_true_of_eq_false h)

end Binary

namespace ElementType

variable {s t : ElementType}

/-- Whether an element is a NaN. -/
def isNaN : (t : ElementType) → t.Value → Bool
  | bool, _ => false
  | integer _, _ => false
  | float _, x => Binary.isNaN x

/-- The same element, or a NaN and a NaN. -/
def Alike (t : ElementType) (x y : t.Value) : Prop := x = y ∨ (t.isNaN x = true ∧ t.isNaN y = true)

/-- The bytes of an element; those of a NaN do not count. -/
def telling (t : ElementType) (piece : Bytes) : Option Bytes :=
  if t.isNaN (t.read piece) = true then none else some piece

/-- The same bytes, but that one NaN is as good as another. -/
def SameBytes (t : ElementType) (bytes bytes' : Bytes) : Prop :=
  (Bytes.chunks t.width bytes).map t.telling = (Bytes.chunks t.width bytes').map t.telling ∧
    Bytes.remainder t.width bytes = Bytes.remainder t.width bytes'

theorem SameBytes.symm {bytes bytes' : Bytes} (h : t.SameBytes bytes bytes') :
    t.SameBytes bytes' bytes := ⟨h.1.symm, h.2.symm⟩

theorem SameBytes.trans {bytes bytes' bytes'' : Bytes} (h : t.SameBytes bytes bytes')
    (h' : t.SameBytes bytes' bytes'') : t.SameBytes bytes bytes'' := ⟨h.1.trans h'.1, h.2.trans h'.2⟩

theorem telling_of_not_isNaN {piece : Bytes} (h : t.isNaN (t.read piece) = false) :
    t.telling piece = some piece := if_neg (ne_true_of_eq_false h)

theorem eq_of_telling {p q : Bytes} (h : t.telling q = some p) : q = p := by
  unfold telling at h
  split at h
  · cases h
  · exact Option.some.inj h

theorem eq_of_map_telling {ps qs : List Bytes} (h : qs.map t.telling = ps.map some) : qs = ps := by
  induction ps generalizing qs with
  | nil => exact List.map_eq_nil_iff.mp h
  | cons p ps ih =>
      cases qs with
      | nil => cases h
      | cons q qs =>
          obtain ⟨hhead, htail⟩ := List.cons.inj h
          rw [eq_of_telling hhead, ih htail]

/-- Where there is no NaN, the bytes are the same without exception. -/
theorem SameBytes.eq {bytes bytes' : Bytes} (h : t.SameBytes bytes bytes')
    (hnan : ∀ x ∈ t.decode bytes, t.isNaN x = false) : bytes' = bytes := by
  have htelling : (Bytes.chunks t.width bytes).map t.telling =
      (Bytes.chunks t.width bytes).map some := by
    apply List.map_congr_left
    intro p hp
    exact telling_of_not_isNaN (hnan _ (List.mem_map_of_mem hp))
  have hchunks := eq_of_map_telling (h.1.symm.trans htelling)
  rw [← Bytes.flatten_chunks t.width bytes', ← Bytes.flatten_chunks t.width bytes, hchunks, h.2]

theorem telling_write {x y : t.Value} (h : t.Alike x y) : t.telling (t.write x) = t.telling (t.write y) := by
  rcases h with rfl | ⟨hx, hy⟩
  · rfl
  · rw [telling, telling, t.read_write, t.read_write, hx, hy]
    rfl

/-- Lists of elements that are alike one by one have the same bytes. -/
theorem sameBytes_encode {α : Type} {xs : List α} {f g : α → t.Value} (h : ∀ x, t.Alike (f x) (g x)) :
    t.SameBytes (t.encode (xs.map f)) (t.encode (xs.map g)) := by
  constructor
  · rw [chunks_encode, chunks_encode, List.map_map, List.map_map, List.map_map, List.map_map]
    exact List.map_congr_left fun x _ => telling_write (h x)
  · rw [remainder_encode, remainder_encode]

end ElementType

/-! ### Numbers behind JSON values -/

/-- A number that is not finite is found behind its string, all NaNs having the same one. -/
theorem nonFinite?_nonFiniteText {x : Binary64} (h : ¬ x.isFinite = true) :
    nonFinite? (nonFiniteText x) = some x.quiet := by
  cases hnan : x.isNaN with
  | true =>
      rw [Binary.quiet_of_isNaN hnan, nonFiniteText, hnan]
      rfl
  | false =>
      have hinf := (Binary.isInfinite_or_isFinite hnan).resolve_right h
      rw [Binary.quiet_of_not_isNaN hnan, nonFiniteText, hnan, Binary.eq_infinity hinf]
      cases x.negative <;> rfl

/-- **A number is found behind its JSON value**, all NaNs being written alike. -/
theorem Json.toBinary_ofBinary (x : Binary64) : (Json.ofBinary x).toBinary = x.quiet := by
  -- a numeral holds the number itself, and each of the three strings is read as what it stands for
  unfold Json.ofBinary
  split
  · next hfin => exact (Binary.quiet_of_not_isNaN (Binary.isNaN_of_isFinite hfin)).symm
  · next hfin =>
      show (nonFinite? (nonFiniteText x)).getD Binary.nan = x.quiet
      rw [nonFinite?_nonFiniteText hfin]
      rfl

namespace ElementType

variable {s t : ElementType}

theorem isNaN_toBinary (s : ElementType) (x : s.Value) : (s.toBinary x).isNaN = s.isNaN x := by
  cases s with
  | bool => exact Binary.isNaN_of_isFinite (Binary.isFinite_of_exact (Binary.exact_ofBool x))
  | integer k =>
      have hexact := exact_toBinary (integer k) x
      exact Binary.isNaN_of_isFinite (Binary.isFinite_of_exact hexact)
  | float f => exact Binary.isNaN_widen x

/-- The number behind the JSON value of an element is that of the element. -/
theorem toBinary_toJson (s : ElementType) (x : s.Value) :
    (s.toJson x).toBinary = (s.toBinary x).quiet := by
  cases s with
  | bool => exact (Binary.quiet_of_not_isNaN (isNaN_toBinary bool x)).symm
  | integer k => exact (Binary.quiet_of_not_isNaN (isNaN_toBinary (integer k) x)).symm
  | float f => exact Json.toBinary_ofBinary x.widen

/-! ### Conversion -/

/-- Only a NaN is converted to a NaN. -/
theorem isNaN_ofBinary {t : ElementType} {y : Binary64} (h : y.isNaN = false) :
    t.isNaN (t.ofBinary y) = false := by
  cases t with
  | bool | integer => rfl
  | float f => exact (Binary.isNaN_narrow f y).trans h

theorem ofBinary_bool_of_isNaN {y : Binary64} (h : y.isNaN = true) :
    bool.ofBinary y = (false : Bool) := by
  rw [ofBinary, h]
  rfl

theorem ofBinary_integer_of_isNaN {k : IntegerType} {y : Binary64} (h : y.isNaN = true) :
    (integer k).ofBinary y = (⟨0, k.lo_nonpos, k.hi_nonneg⟩ : k.Value) :=
  Subtype.ext (if_pos h)

/-- One NaN is converted as another. -/
theorem alike_ofBinary_of_isNaN (t : ElementType) {x y : Binary64} (hx : x.isNaN = true)
    (hy : y.isNaN = true) : t.Alike (t.ofBinary x) (t.ofBinary y) := by
  cases t with
  | bool => exact .inl ((ofBinary_bool_of_isNaN hx).trans (ofBinary_bool_of_isNaN hy).symm)
  | integer k => exact .inl ((ofBinary_integer_of_isNaN hx).trans (ofBinary_integer_of_isNaN hy).symm)
  | float f => exact .inr ⟨(Binary.isNaN_narrow f x).trans hx, (Binary.isNaN_narrow f y).trans hy⟩

theorem ofBinary_toBinary_bool (b : Bool) :
    (!(Binary.ofInt b.toNat : Binary64).isNaN && (Binary.ofInt b.toNat : Binary64).code != 0) = b := by
  cases b <;> decide +kernel

theorem ofBinary_integer_of_exact {k : IntegerType} {n : k.Value} {y : Binary64}
    (h : y.exact = .finite n.val) : (integer k).ofBinary y = n :=
  Subtype.ext (Binary.truncateWithin_of_exact h n.property.1 n.property.2)

/-- **Conversion to the same type** changes nothing but NaNs. -/
theorem alike_ofBinary_toBinary (t : ElementType) (x : t.Value) :
    t.Alike x (t.ofBinary (t.toBinary x)) := by
  cases t with
  | bool => exact .inl (ofBinary_toBinary_bool x).symm
  | integer k => exact .inl (ofBinary_integer_of_exact (exact_toBinary (integer k) x)).symm
  | float f =>
      cases hnan : Binary.isNaN x with
      | false => exact .inl (Binary.narrow_widen hnan).symm
      | true =>
          -- a NaN comes back as a NaN, and a 32-bit one as the quiet one
          have hwiden := Binary.isNaN_widen x
          have hnarrow := Binary.isNaN_narrow f (Binary.widen x)
          exact .inr ⟨hnan, hnarrow.trans (hwiden.trans hnan)⟩

/-- **An element that was a JSON value in between** is converted as one that was not. -/
theorem alike_ofJson_toJson (t s : ElementType) (x : s.Value) :
    t.Alike (t.ofJson (s.toJson x)) (t.ofBinary (s.toBinary x)) := by
  rw [ofJson, s.toBinary_toJson]
  cases hnan : (s.toBinary x).isNaN with
  | true =>
      rw [Binary.quiet_of_isNaN hnan]
      exact t.alike_ofBinary_of_isNaN rfl hnan
  | false =>
      rw [Binary.quiet_of_not_isNaN hnan]
      exact .inl rfl

/-! ### Bytes of converted elements -/

/-- The elements of type `t` that elements of type `s` are converted to. -/
def convert (t s : ElementType) (xs : List s.Value) : List t.Value :=
  xs.map fun x => t.ofBinary (s.toBinary x)

theorem isNaN_of_mem_convert {xs : List s.Value} (h : ∀ x ∈ xs, s.isNaN x = false) {y : t.Value}
    (hy : y ∈ t.convert s xs) : t.isNaN y = false := by
  obtain ⟨x, hx, rfl⟩ := List.mem_map.mp hy
  exact isNaN_ofBinary ((s.isNaN_toBinary x).trans (h x hx))

/-- **Direct conversion**, by which elements that have the type already are stored as they are. -/
theorem encodeAs_sameBytes (t s : ElementType) (xs : List s.Value) :
    t.SameBytes (t.encodeAs s xs) (t.encode (t.convert s xs)) := by
  unfold encodeAs
  split
  · next e =>
      subst e
      have hsame : s.SameBytes (s.encode (xs.map fun x => x)) (s.encode (s.convert s xs)) :=
        sameBytes_encode s.alike_ofBinary_toBinary
      rwa [List.map_id'] at hsame
  · exact ⟨rfl, rfl⟩

/-- **Conversion by way of JSON**. -/
theorem encodeValues_sameBytes (t s : ElementType) (xs : List s.Value) :
    t.SameBytes (t.encodeValues (xs.map s.toJson)) (t.encode (t.convert s xs)) := by
  rw [encodeValues, List.map_map]
  exact sameBytes_encode (t.alike_ofJson_toJson s)

end ElementType

end ArrayExchange
