import DocQuery.Json.Text

/-! The data that hashes are computed from, and those of JSON values.

Every variant is marked and every list preceded by its length. The members of an object come in the
order of their names, and a number as its text.
-/

set_option autoImplicit false

namespace DocQuery

inductive Datum where
  /-- Which variant of a type follows, or a truth value, which is written in the same way. -/
  | variant (position : Nat)
  | length (size : Nat)
  | integer (value : Int64)
  | text (value : String)
  deriving DecidableEq, Repr

def Datum.bound : Option Int64 → List Datum
  | none => [.variant 0]
  | some value => [.variant 1, .integer value]

namespace Json

-- The member goes before those whose names are not less.
def insertSorted {α : Type} (name : String) (value : α) :
    List (String × α) → List (String × α)
  | [] => [(name, value)]
  | (first, other) :: rest =>
    if first < name then (first, other) :: insertSorted name value rest
    else (name, value) :: (first, other) :: rest

namespace Raw

mutual

def fingerprint : Raw → List Datum
  | .null => [.variant 0]
  | .boolean value => [.variant 1, .variant value.toNat]
  | .number value => [.variant 2, .text (String.ofList value.written)]
  | .string value => [.variant 3, .text value]
  | .array elements => .variant 4 :: .length elements.length :: elementFingerprints elements
  | .object members =>
    .variant 5 :: .length members.length ::
      (memberFingerprints members).flatMap fun member => .text member.1 :: member.2
termination_by structural value => value

def elementFingerprints : List Raw → List Datum
  | [] => []
  | element :: rest => element.fingerprint ++ elementFingerprints rest
termination_by structural elements => elements

def memberFingerprints : List (String × Raw) → List (String × List Datum)
  | [] => []
  | (name, value) :: rest => insertSorted name value.fingerprint (memberFingerprints rest)
termination_by structural members => members

end

end Raw

def fingerprint (value : Json) : List Datum := value.raw.fingerprint

end Json

end DocQuery
