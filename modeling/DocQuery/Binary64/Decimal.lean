import DocQuery.Binary64.Rounding

/-! Decimal numerals and the 64-bit numbers nearest to them.

The shortest numeral of a number is the one of fewest digits that is nearest to it among those
that read back as the number.
-/

set_option autoImplicit false

namespace DocQuery

structure Decimal where
  digits : Nat
  exponent : Int
  deriving DecidableEq, Repr

namespace Decimal

def natural (value : Nat) : List Char :=
  Nat.toDigits 10 value

def integer (value : Int) : List Char :=
  if value < 0 then '-' :: natural value.natAbs else natural value.natAbs

/-- The pattern of the number nearest to a numeral. Numerals far beyond the range of finite numbers
are settled by their length, without computing their powers of ten. -/
def nearestMagnitude (numeral : Decimal) : Nat :=
  let position := numeral.exponent + (natural numeral.digits).length
  if numeral.digits = 0 ∨ position < -400 then 0
  else if 400 < position then Binary64.infiniteMagnitude
  else if 0 ≤ numeral.exponent then
    Binary64.nearestMagnitude (numeral.digits * Nat.pow 10 numeral.exponent.toNat) 1
  else
    Binary64.nearestMagnitude numeral.digits (Nat.pow 10 (-numeral.exponent).toNat)

theorem nearestMagnitude_lt (numeral : Decimal) :
    numeral.nearestMagnitude < 0x8000000000000000 := by
  unfold nearestMagnitude
  dsimp only
  split
  · decide
  split
  · decide
  split <;> exact Binary64.nearestMagnitude_lt _ _

def nearest (negative : Bool) (numeral : Decimal) : Binary64 :=
  ⟨negative, numeral.nearestMagnitude, numeral.nearestMagnitude_lt⟩

end Decimal

namespace Binary64

def scaledBy (x : Binary64) (exponent : Int) : Nat × Nat :=
  if 0 ≤ exponent then (x.units, unitsPerOne * Nat.pow 10 exponent.toNat)
  else (x.units * Nat.pow 10 (-exponent).toNat, unitsPerOne)

/-- The two numerals with a given exponent around the size of a number, the nearer one first and of
two equally near ones the even one. -/
def neighbours (x : Binary64) (exponent : Int) : List Decimal :=
  let (numerator, denominator) := x.scaledBy exponent
  let below := numerator / denominator
  if nearestInteger numerator denominator = below then
    [⟨below, exponent⟩, ⟨below + 1, exponent⟩]
  else
    [⟨below + 1, exponent⟩, ⟨below, exponent⟩]

def leadingExponent (x : Binary64) : Int :=
  (Decimal.natural (x.units * Nat.pow 10 400 / unitsPerOne)).length - 401

def exactDecimal (x : Binary64) : Decimal :=
  ⟨x.units * Nat.pow 5 1074, -1074⟩

def shortestDecimal (x : Binary64) : Decimal :=
  let hit := (List.range 17).findSome? fun (further : Nat) =>
    (x.neighbours (x.leadingExponent - further)).find? (·.nearestMagnitude == x.magnitude)
  hit.getD x.exactDecimal

end Binary64

end DocQuery
