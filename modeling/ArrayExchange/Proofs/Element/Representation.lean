import ArrayExchange.Proofs.Element.Conversion

/-!
# Numbers that a type can represent

A type represents a number if one of its elements stands for it.  An element that is converted to another
type stands for the same number afterwards just when the other type represents this number.  So a
conversion changes a number only where there is no element for it, and where it does not, the way back
finds the number again.

What makes this work is that a conversion does not look beyond numbers: data of one number become elements
of one number, although the two zeros are different data and so are the NaNs.

* `ElementType.exact_of_alike` — elements that are alike stand for one number.
* `Binary.eq_or_zeros_of_exact` — when two data have the same number.
* `ElementType.exact_ofBinary_congr` — conversion of data that have the same number.
* `ElementType.Represents` — a type has an element for a number.
* `ElementType.exact_ofBinary_iff` — when a conversion keeps the number.
-/

namespace ArrayExchange

/-- Elements that are related one by one have the same values. -/
theorem map_eq_of_forall₂ {α β γ : Type} {related : α → β → Prop} {f : α → γ} {g : β → γ}
    {xs : List α} {ys : List β} (h : List.Forall₂ related xs ys)
    (hvalue : ∀ x y, related x y → g y = f x) : ys.map g = xs.map f := by
  rw [← List.forall₂_eq_eq_eq, List.forall₂_map_left_iff, List.forall₂_map_right_iff]
  exact h.flip.imp fun y x hxy => hvalue x y hxy

/-! ### One NaN for another -/

namespace ElementType

variable {t : ElementType} {x y z : t.Value}

theorem Alike.refl (x : t.Value) : t.Alike x x := .inl rfl

theorem Alike.symm (h : t.Alike x y) : t.Alike y x := by
  rcases h with rfl | ⟨hx, hy⟩
  · exact .inl rfl
  · exact .inr ⟨hy, hx⟩

theorem Alike.trans (hxy : t.Alike x y) (hyz : t.Alike y z) : t.Alike x z := by
  rcases hxy with rfl | ⟨hx, hy⟩
  · exact hyz
  · rcases hyz with rfl | ⟨-, hz⟩
    · exact .inr ⟨hx, hy⟩
    · exact .inr ⟨hx, hz⟩

/-- Elements that are alike stand for the same number. -/
theorem exact_of_alike (h : t.Alike x y) : t.exact x = t.exact y := by
  rcases h with rfl | ⟨hx, hy⟩
  · rfl
  · cases t with
    | bool => cases hx
    | integer k => cases hx
    | float f => exact (Binary.exact_of_isNaN hx).trans (Binary.exact_of_isNaN hy).symm

theorem exacts_of_alike {xs ys : List t.Value} (h : List.Forall₂ t.Alike xs ys) :
    ys.map t.exact = xs.map t.exact :=
  map_eq_of_forall₂ h fun _ _ halike => (exact_of_alike halike).symm

end ElementType

/-! ### Data of one number -/

namespace Binary

variable {f : Format} {x y : Binary f}

theorem eq_zero_of_code (h : x.code = 0) : x = zero x.negative := eq_of_code_eq rfl h

/-- Data of one number are equal, or they are zeros. -/
theorem eq_or_zeros_of_exact (hx : x.isNaN = false) (hy : y.isNaN = false) (h : x.exact = y.exact) :
    x = y ∨ ∃ negative negative', x = zero negative ∧ y = zero negative' := by
  rw [← rank_eq_iff_exact hx hy, rank_eq_iff] at h
  unfold unsignedZero at h
  by_cases hxzero : x.code = 0
  · rw [if_pos hxzero] at h
    have hyzero : y.code = 0 := by
      by_contra hne
      rw [if_neg hne] at h
      exact hne (congrArg code h).symm
    exact .inr ⟨_, _, eq_zero_of_code hxzero, eq_zero_of_code hyzero⟩
  · rw [if_neg hxzero] at h
    by_cases hyzero : y.code = 0
    · rw [if_pos hyzero] at h
      exact absurd (congrArg code h) hxzero
    · rw [if_neg hyzero] at h
      exact .inl h

theorem isNaN_iff_exact : x.isNaN = true ↔ x.exact = .nan := by
  constructor
  · exact exact_of_isNaN
  · intro h
    by_contra hx
    exact exact_ne_nan (Bool.eq_false_of_not_eq_true hx) h

theorem isNaN_congr (h : x.exact = y.exact) : x.isNaN = y.isNaN := by
  rw [Bool.eq_iff_iff, isNaN_iff_exact, isNaN_iff_exact, h]

theorem exact_quiet (x : Binary f) : x.quiet.exact = x.exact := by
  cases hx : x.isNaN with
  | true =>
      rw [quiet_of_isNaN hx, exact_of_isNaN hx]
      exact exact_of_isNaN (decide_eq_true f.infinity_lt_quietNaN)
  | false => rw [quiet_of_not_isNaN hx]

end Binary

/-! ### Representation -/

namespace ElementType

variable {s t : ElementType}

/-- A zero of either sign becomes an element that stands for zero. -/
theorem exact_ofBinary_zero (t : ElementType) (negative : Bool) :
    t.exact (t.ofBinary (.zero negative)) = .finite 0 := by
  cases t with
  | bool => cases negative <;> rfl
  | integer k => cases k <;> cases negative <;> decide +kernel
  | float f => cases f <;> cases negative <;> decide +kernel

/-- **A conversion does not look beyond the number** of a datum. -/
theorem exact_ofBinary_congr {x y : Binary64} (h : x.exact = y.exact) :
    t.exact (t.ofBinary x) = t.exact (t.ofBinary y) := by
  have hclass := Binary.isNaN_congr h
  cases hx : x.isNaN with
  | true => exact exact_of_alike (t.alike_ofBinary_of_isNaN hx (hclass.symm.trans hx))
  | false =>
      rcases Binary.eq_or_zeros_of_exact hx (hclass.symm.trans hx) h with rfl | ⟨p, n, rfl, rfl⟩
      · rfl
      · rw [exact_ofBinary_zero, exact_ofBinary_zero]

/-- A type has an element that stands for a number. -/
def Represents (t : ElementType) (number : ExactNumber) : Prop := ∃ y : t.Value, t.exact y = number

/-- Data of 64 bits represent the elements of all types. -/
theorem double_represents (s : ElementType) (x : s.Value) :
    (float .double).Represents (s.exact x) := ⟨s.toBinary x, s.exact_toBinary x⟩

/-- **A conversion keeps the number** of an element just when the other type represents it. -/
theorem exact_ofBinary_iff (t : ElementType) (x : s.Value) :
    t.exact (t.ofBinary (s.toBinary x)) = s.exact x ↔ t.Represents (s.exact x) := by
  constructor
  · intro h
    exact ⟨_, h⟩
  · rintro ⟨y, hy⟩
    -- the datum of `x` is as good as that of `y`, which is found again
    have hdata : (s.toBinary x).exact = (t.toBinary y).exact := by
      rw [s.exact_toBinary, t.exact_toBinary, hy]
    calc t.exact (t.ofBinary (s.toBinary x))
        = t.exact (t.ofBinary (t.toBinary y)) := exact_ofBinary_congr hdata
      _ = t.exact y := (exact_of_alike (t.alike_ofBinary_toBinary y)).symm
      _ = s.exact x := hy

end ElementType

end ArrayExchange
