import DocQuery.Binary64.Decimal
import DocQuery.Json.Basic

/-! Reading the numerals of JSON.

A numeral without fraction and exponent is an integer if 64 bits can hold it. Any other is the
nearest binary number, and so is `-0`, which no integer can be.
-/

set_option autoImplicit false

namespace DocQuery.Json

def digitsValue (digits : List Char) : Nat :=
  digits.foldl (fun value digit => 10 * value + (digit.toNat - '0'.toNat)) 0

structure Numeral where
  negative : Bool
  whole : List Char
  fraction : Option (List Char)
  exponent : Option (Bool × List Char)

namespace Numeral

def digits (letters : List Char) : Option (List Char × List Char) :=
  match letters.takeWhile Char.isDigit with
  | [] => none
  | found => some (found, letters.dropWhile Char.isDigit)

-- A leading zero stands alone.
def whole? (letters : List Char) : Option (List Char × List Char) := do
  let (found, rest) ← digits letters
  if found.head? = some '0' ∧ 1 < found.length then none else some (found, rest)

def fraction? : List Char → Option (Option (List Char) × List Char)
  | '.' :: letters => do
    let (found, rest) ← digits letters
    some (some found, rest)
  | letters => some (none, letters)

-- The exponent ends the numeral.
def exponent? : List Char → Option (Option (Bool × List Char))
  | [] => some none
  | mark :: letters =>
    if mark = 'e' ∨ mark = 'E' then
      let (negative, letters) := match letters with
        | '-' :: rest => (true, rest)
        | '+' :: rest => (false, rest)
        | rest => (false, rest)
      match digits letters with
      | some (found, []) => some (some (negative, found))
      | _ => none
    else
      none

def ofLetters? (letters : List Char) : Option Numeral := do
  let (negative, letters) := match letters with
    | '-' :: rest => (true, rest)
    | rest => (false, rest)
  let (whole, letters) ← whole? letters
  let (fraction, letters) ← fraction? letters
  let exponent ← exponent? letters
  some ⟨negative, whole, fraction, exponent⟩

def decimal (numeral : Numeral) : Decimal :=
  let fraction := numeral.fraction.getD []
  let shift : Int := match numeral.exponent with
    | none => 0
    | some (negative, found) => if negative then -(digitsValue found : Int) else digitsValue found
  ⟨digitsValue (numeral.whole ++ fraction), shift - fraction.length⟩

/-- The integer a numeral is written as, unless it is `-0`. -/
def integer? (numeral : Numeral) : Option Int :=
  if numeral.fraction.isSome || numeral.exponent.isSome then none
  else
    let size : Int := digitsValue numeral.whole
    if numeral.negative then
      if size = 0 then none else some (-size)
    else
      some size

def number? (numeral : Numeral) : Option Number :=
  (numeral.integer?.bind Number.ofInt?).or
    (Number.ofBinary64? (numeral.decimal.nearest numeral.negative))

end Numeral

def Number.ofLetters? (letters : List Char) : Option Number :=
  (Numeral.ofLetters? letters).bind Numeral.number?

end DocQuery.Json
