import DocQuery.Binary64.Rounding

/-! The numbers of JSON, which keep integers apart from binary numbers. -/

set_option autoImplicit false

namespace DocQuery

/-- An integer of up to 64 bits, signed or not, or a finite binary number. -/
inductive Json.Number where
  | integer (value : Int) (lower : -0x8000000000000000 ≤ value)
    (upper : value < 0x10000000000000000)
  | double (value : Binary64) (finite : value.isFinite = true)
  deriving DecidableEq

namespace Json.Number

def ofInt? (value : Int) : Option Number :=
  if h : -0x8000000000000000 ≤ value ∧ value < 0x10000000000000000 then
    some (.integer value h.1 h.2)
  else
    none

def ofBinary64? (value : Binary64) : Option Number :=
  if h : value.isFinite then some (.double value h) else none

def toBinary64 : Number → Binary64
  | .integer value _ _ => .ofInt value
  | .double value _ => value

def greatestExact : Int := 0x20000000000000

/-- The integer a binary number is, up to `greatestExact`, or else the binary number itself. -/
def ofValue? (value : Binary64) : Option Number :=
  match value.integer? with
  | some whole =>
    if -greatestExact ≤ whole ∧ whole ≤ greatestExact then ofInt? whole else ofBinary64? value
  | none => ofBinary64? value

-- An integer never equals a binary number.
def sameForm : Number → Number → Bool
  | .integer x _ _, .integer y _ _ => x == y
  | .double x _, .double y _ => x.equal y
  | _, _ => false

-- Exact between integers, and rounded if either is a binary number.
def sameValue : Number → Number → Bool
  | .integer x _ _, .integer y _ _ => x == y
  | x, y => x.toBinary64.equal y.toBinary64

end Json.Number

end DocQuery
