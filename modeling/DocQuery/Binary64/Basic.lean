/-! Binary floating-point numbers of 64 bits, held as a sign and the 63-bit pattern below it.

The upper eleven bits of the pattern are the exponent field and the lower 52 the fraction, so the
patterns of the finite numbers are in the order of their sizes.
-/

set_option autoImplicit false

namespace DocQuery

structure Binary64 where
  negative : Bool
  magnitude : Nat
  magnitude_lt : magnitude < 0x8000000000000000
  deriving DecidableEq

namespace Binary64

def fractionCount : Nat := 0x10000000000000

/-- The pattern of infinity; greater patterns are not numbers. -/
def infiniteMagnitude : Nat := 0x7ff0000000000000

def zero (negative : Bool) : Binary64 := ⟨negative, 0, by decide⟩

def infinity (negative : Bool) : Binary64 := ⟨negative, infiniteMagnitude, by decide⟩

def nan : Binary64 := ⟨false, 0x7ff8000000000000, by decide⟩

def isNaN (x : Binary64) : Bool := decide (infiniteMagnitude < x.magnitude)

def isInfinite (x : Binary64) : Bool := decide (x.magnitude = infiniteMagnitude)

def isFinite (x : Binary64) : Bool := decide (x.magnitude < infiniteMagnitude)

/-- Numbers are ordered as their keys are; both zeros have the same. -/
def key (x : Binary64) : Int :=
  if x.negative then -(x.magnitude : Int) else x.magnitude

def compare? (x y : Binary64) : Option Ordering :=
  if x.isNaN || y.isNaN then none else some (compare x.key y.key)

-- The zeros are equal, and what is not a number equals nothing.
def equal (x y : Binary64) : Bool :=
  x.compare? y == some .eq

/-- The size of a finite number in units of the least positive one, `2 ^ -1074`. -/
def units (x : Binary64) : Nat :=
  let exponent := x.magnitude / fractionCount
  let fraction := x.magnitude % fractionCount
  if exponent = 0 then fraction else (fractionCount + fraction) * Nat.pow 2 (exponent - 1)

def unitsPerOne : Nat := Nat.pow 2 1074

def signedUnits (x : Binary64) : Int :=
  if x.negative then -(x.units : Int) else x.units

def integer? (x : Binary64) : Option Int :=
  if x.isFinite && x.units % unitsPerOne == 0 then
    let size : Int := (x.units / unitsPerOne : Nat)
    some (if x.negative then -size else size)
  else
    none

theorem isFinite_iff (x : Binary64) :
    x.isFinite = true ↔ x.isNaN = false ∧ x.isInfinite = false := by
  simp only [isFinite, isNaN, isInfinite, decide_eq_true_eq, decide_eq_false_iff_not]
  omega

theorem compare?_eq_none_iff (x y : Binary64) :
    x.compare? y = none ↔ x.isNaN = true ∨ y.isNaN = true := by
  cases h : x.isNaN <;> simp [compare?, h]

end Binary64

end DocQuery
