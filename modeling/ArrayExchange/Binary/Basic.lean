import ArrayExchange.Binary.Format

/-!
# Binary floating-point data

`Binary f` is one datum of format `f`: a sign and a magnitude code.  Every bit pattern is a
datum, the NaNs with all their payloads included, so `Binary.ofBits` and `Binary.toBits` lose
nothing.

* `Binary.isNaN`, `Binary.isInfinite`, `Binary.isFinite` split the data into three classes.
* `Binary.signedUnits` is the value of a finite datum, counted in units.
* `Binary.rank` orders all data that are not NaNs, infinities included.
-/

namespace ArrayExchange

/-- A datum of the format `f`. -/
structure Binary (f : Format) where
  /-- The sign bit. -/
  negative : Bool
  /-- Exponent field and fraction field, read as one number. -/
  code : Nat
  code_lt : code < f.signBit
  deriving DecidableEq

/-- A 32-bit datum. -/
abbrev Binary32 := Binary .single

/-- A 64-bit datum. -/
abbrev Binary64 := Binary .double

namespace Binary

variable {f : Format}

/-! ### Bit patterns -/

/-- The word of a datum. -/
def toBits (x : Binary f) : Nat := (if x.negative then f.signBit else 0) + x.code

/-- The datum of a word; bits above the sign are ignored. -/
def ofBits (f : Format) (word : Nat) : Binary f :=
  ⟨word / f.signBit % 2 = 1, word % f.signBit, Nat.mod_lt _ f.signBit_pos⟩

/-! ### Classes -/

def isNaN (x : Binary f) : Bool := f.infinity < x.code

def isInfinite (x : Binary f) : Bool := x.code = f.infinity

def isFinite (x : Binary f) : Bool := x.code < f.infinity

/-- The zero with the given sign. -/
def zero (negative : Bool) : Binary f := ⟨negative, 0, f.signBit_pos⟩

/-- The infinity with the given sign. -/
def infinity (negative : Bool) : Binary f := ⟨negative, f.infinity, f.infinity_lt⟩

/-- The quiet NaN: no sign, and of the fraction only the leading bit. -/
def nan : Binary f := ⟨false, f.quietNaN, f.quietNaN_lt⟩

/-! ### Values and order -/

/-- The value of a finite datum, counted in units; both zeros have the value `0`. -/
def signedUnits (x : Binary f) : Int :=
  if x.negative then -(f.units x.code : Int) else f.units x.code

/-- The place of a datum in the order of the numbers, for all data but the NaNs. -/
def rank (x : Binary f) : Int := if x.negative then -(x.code : Int) else x.code

/-- Equality of numbers: the zeros are equal, and a NaN equals nothing, itself included. -/
def numEq (x y : Binary f) : Bool := !x.isNaN && !y.isNaN && x.rank = y.rank

/-- Order of numbers; a NaN is comparable with nothing. -/
def numLe (x y : Binary f) : Bool := !x.isNaN && !y.isNaN && x.rank ≤ y.rank

end Binary

end ArrayExchange
