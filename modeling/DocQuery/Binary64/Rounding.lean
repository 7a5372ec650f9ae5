import DocQuery.Binary64.Basic

/-! Rounding to the nearest 64-bit number, a half going to the even neighbour. -/

set_option autoImplicit false

namespace DocQuery.Binary64

/-- The integer nearest to a quotient; a half goes to the even neighbour. -/
def nearestInteger (numerator denominator : Nat) : Nat :=
  let below := numerator / denominator
  let rest := numerator % denominator
  if 2 * rest < denominator then below
  else if denominator < 2 * rest then below + 1
  else below + below % 2

/-- The pattern of the number nearest to a quotient. A quotient of `b` bits in units, `b` over 53,
keeps its upper 53 bits; a carry out of them lands in the exponent field, which is right. -/
def nearestMagnitude (numerator denominator : Nat) : Nat :=
  let scaled := numerator * unitsPerOne
  let shift := (scaled / denominator).log2 - 52
  min (shift * fractionCount + nearestInteger scaled (denominator * Nat.pow 2 shift))
    infiniteMagnitude

theorem nearestMagnitude_lt (numerator denominator : Nat) :
    nearestMagnitude numerator denominator < 0x8000000000000000 :=
  Nat.lt_of_le_of_lt (Nat.min_le_right _ _) (by decide)

def ofRatio (negative : Bool) (numerator denominator : Nat) : Binary64 :=
  ⟨negative, nearestMagnitude numerator denominator, nearestMagnitude_lt _ _⟩

def ofInt (value : Int) : Binary64 :=
  ofRatio (decide (value < 0)) value.natAbs 1

/-- The number nearest to the exact sum. A sum of nothing is a positive zero, unless both are
negative zeros. -/
def add (x y : Binary64) : Binary64 :=
  if x.isNaN || y.isNaN then nan
  else if x.isInfinite then
    if y.isInfinite && x.negative != y.negative then nan else x
  else if y.isInfinite then y
  else
    let sum := x.signedUnits + y.signedUnits
    if sum = 0 then zero (x.negative && y.negative)
    else ofRatio (decide (sum < 0)) sum.natAbs unitsPerOne

instance : Add Binary64 := ⟨add⟩

-- Each step is rounded.
def sum (values : List Binary64) : Binary64 :=
  values.foldl add (zero false)

end DocQuery.Binary64
