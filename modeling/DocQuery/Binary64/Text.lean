import DocQuery.Binary64.Decimal

/-! The written form of 64-bit numbers: the shortest numeral, positional for sizes from `0.00001` up
to but excluding `10 ^ 16` and scientific beyond.
-/

set_option autoImplicit false

namespace DocQuery

namespace Decimal

def significant (numeral : Decimal) : List Char :=
  ((natural numeral.digits).reverse.dropWhile (· = '0')).reverse

def scientificExponent (numeral : Decimal) : Int :=
  numeral.exponent + (natural numeral.digits).length - 1

-- At least one digit stands after the point.
def positional (digits : List Char) (exponent : Int) : List Char :=
  if 0 ≤ exponent then
    let whole := exponent.toNat + 1
    let fraction := digits.drop whole
    digits.take whole ++ List.replicate (whole - digits.length) '0' ++
      '.' :: (if fraction.isEmpty then ['0'] else fraction)
  else
    '0' :: '.' :: List.replicate (-exponent - 1).toNat '0' ++ digits

def scientific (digits : List Char) (exponent : Int) : List Char :=
  let fraction := digits.drop 1
  digits.take 1 ++ (if fraction.isEmpty then [] else '.' :: fraction) ++
    'e' :: (if exponent < 0 then '-' else '+') :: natural exponent.natAbs

def leastPositional : Int := -5

def greatestPositional : Int := 15

def written (numeral : Decimal) : List Char :=
  let exponent := numeral.scientificExponent
  if leastPositional ≤ exponent ∧ exponent ≤ greatestPositional then
    positional numeral.significant exponent
  else
    scientific numeral.significant exponent

end Decimal

namespace Binary64

def written (x : Binary64) : List Char :=
  if x.isNaN then ['N', 'a', 'N']
  else
    let size :=
      if x.isInfinite then ['i', 'n', 'f']
      else if x.magnitude = 0 then ['0', '.', '0']
      else x.shortestDecimal.written
    if x.negative then '-' :: size else size

def text (x : Binary64) : String := String.ofList x.written

end Binary64

end DocQuery
