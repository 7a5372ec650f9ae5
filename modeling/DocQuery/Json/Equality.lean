import DocQuery.Json.Basic

/-! Two equalities of JSON values, which differ in when two numbers are equal.

Both compare the members of objects by name, in whatever order they stand.
-/

set_option autoImplicit false

namespace DocQuery.Json

namespace Raw

mutual

def equalBy (numbers : Number → Number → Bool) : Raw → Raw → Bool
  | .null, .null => true
  | .boolean x, .boolean y => x == y
  | .number x, .number y => numbers x y
  | .string x, .string y => x == y
  | .array xs, .array ys => xs.length == ys.length && elementsEqualBy numbers xs ys
  | .object xs, .object ys => xs.length == ys.length && membersEqualBy numbers xs ys
  | _, _ => false
termination_by structural value => value

def elementsEqualBy (numbers : Number → Number → Bool) : List Raw → List Raw → Bool
  | x :: xs, y :: ys => equalBy numbers x y && elementsEqualBy numbers xs ys
  | _, _ => true
termination_by structural elements => elements

def membersEqualBy (numbers : Number → Number → Bool) :
    List (String × Raw) → List (String × Raw) → Bool
  | [], _ => true
  | (name, x) :: rest, ys =>
    (match ys.lookup name with
      | some y => equalBy numbers x y
      | none => false) &&
    membersEqualBy numbers rest ys
termination_by structural members => members

end

end Raw

/-- Equality as written, which tells `1` from `1.0`. -/
def sameForm (x y : Json) : Bool := x.raw.equalBy Number.sameForm y.raw

/-- Equality in value, in which `1` equals `1.0`. -/
def sameValue (x y : Json) : Bool := x.raw.equalBy Number.sameValue y.raw

end DocQuery.Json
