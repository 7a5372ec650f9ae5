import DocQuery.Json.Numeral

/-! Reading JSON text, first into tokens and then, with a stack of open containers, into a value. -/

set_option autoImplicit false

namespace DocQuery.Json

inductive Token where
  | openArray
  | closeArray
  | openObject
  | closeObject
  | comma
  | colon
  | text (value : String)
  | scalar (value : Json)

namespace Token

/-- Where a scanner stands. Letters of an unfinished token are kept latest first; `high` is the
first half of a character that is written as two codes. -/
inductive Scanning where
  | between
  | word (letters : List Char)
  | text (letters : List Char) (high : Option Nat)
  | escape (letters : List Char) (high : Option Nat)
  | code (letters : List Char) (high : Option Nat) (missing value : Nat)

-- The tokens found so far, latest first, and what comes next.
structure Scanner where
  found : List Token
  scanning : Scanning

def punctuation? : Char → Option Token
  | '[' => some .openArray
  | ']' => some .closeArray
  | '\x7b' => some .openObject
  | '\x7d' => some .closeObject
  | ',' => some .comma
  | ':' => some .colon
  | _ => none

def ofWord? (letters : List Char) : Option Token :=
  if letters = ['n', 'u', 'l', 'l'] then some (.scalar null)
  else if letters = ['t', 'r', 'u', 'e'] then some (.scalar (boolean true))
  else if letters = ['f', 'a', 'l', 's', 'e'] then some (.scalar (boolean false))
  else (Number.ofLetters? letters).map fun found => .scalar (number found)

def hexDigit? (c : Char) : Option Nat :=
  if c.isDigit then some (c.toNat - '0'.toNat)
  else if 'a' ≤ c ∧ c ≤ 'f' then some (c.toNat - 'a'.toNat + 10)
  else if 'A' ≤ c ∧ c ≤ 'F' then some (c.toNat - 'A'.toNat + 10)
  else none

def escaped? : Char → Option Char
  | '"' => some '"'
  | '\\' => some '\\'
  | '/' => some '/'
  | 'b' => some '\x08'
  | 'f' => some '\x0c'
  | 'n' => some '\n'
  | 'r' => some '\r'
  | 't' => some '\t'
  | _ => none

def isBlank (c : Char) : Bool :=
  c == ' ' || c == '\t' || c == '\n' || c == '\r'

def scanBetween (found : List Token) (c : Char) : Scanner :=
  if isBlank c then ⟨found, .between⟩
  else if c = '"' then ⟨found, .text [] none⟩
  else match punctuation? c with
    | some token => ⟨token :: found, .between⟩
    | none => ⟨found, .word [c]⟩

-- The code is that of a character, or of one half of it.
def scanCode (found : List Token) (letters : List Char) (high : Option Nat) (value : Nat) :
    Option Scanner :=
  match high with
  | some first =>
    if 0xdc00 ≤ value ∧ value < 0xe000 then
      let c := Char.ofNat (0x10000 + (first - 0xd800) * 0x400 + (value - 0xdc00))
      some ⟨found, .text (c :: letters) none⟩
    else
      none
  | none =>
    if 0xd800 ≤ value ∧ value < 0xdc00 then some ⟨found, .text letters (some value)⟩
    else if 0xdc00 ≤ value ∧ value < 0xe000 then none
    else some ⟨found, .text (Char.ofNat value :: letters) none⟩

def Scanner.step (scanner : Scanner) (c : Char) : Option Scanner :=
  let found := scanner.found
  match scanner.scanning with
  | .between => some (scanBetween found c)
  | .word letters =>
    if isBlank c || c == '"' || (punctuation? c).isSome then do
      let token ← ofWord? letters.reverse
      some (scanBetween (token :: found) c)
    else
      some ⟨found, .word (c :: letters)⟩
  | .text letters high =>
    if c = '\\' then some ⟨found, .escape letters high⟩
    else if high.isSome || c.toNat < 0x20 then none
    else if c = '"' then
      some ⟨.text (String.ofList letters.reverse) :: found, .between⟩
    else
      some ⟨found, .text (c :: letters) none⟩
  | .escape letters high =>
    if c = 'u' then some ⟨found, .code letters high 4 0⟩
    else if high.isSome then none
    else do
      let meant ← escaped? c
      some ⟨found, .text (meant :: letters) none⟩
  | .code letters high missing value => do
    let digit ← hexDigit? c
    let value := 16 * value + digit
    if missing ≤ 1 then scanCode found letters high value
    else some ⟨found, .code letters high (missing - 1) value⟩

def Scanner.finish? (scanner : Scanner) : Option (List Token) :=
  match scanner.scanning with
  | .between => some scanner.found.reverse
  | .word letters => do
    let token ← ofWord? letters.reverse
    some (token :: scanner.found).reverse
  | _ => none

def ofLetters? (letters : List Char) : Option (List Token) :=
  (letters.foldlM Scanner.step ⟨[], .between⟩).bind Scanner.finish?

end Token

-- An unfinished array or object, its parts latest first.
inductive Container where
  | array (elements : List Json)
  | object (members : List (String × Json)) (name : String)

inductive Expected where
  | value
  | firstElement
  | firstName
  | name
  | colon
  | next
  | nothing (value : Json)

-- The containers around the next token, the innermost first.
structure Reader where
  containers : List Container
  expected : Expected

namespace Reader

def complete (value : Json) : List Container → Reader
  | [] => ⟨[], .nothing value⟩
  | .array elements :: rest => ⟨.array (value :: elements) :: rest, .next⟩
  | .object members name :: rest => ⟨.object ((name, value) :: members) name :: rest, .next⟩

def beginValue (containers : List Container) : Token → Option Reader
  | .openArray => some ⟨.array [] :: containers, .firstElement⟩
  | .openObject => some ⟨.object [] "" :: containers, .firstName⟩
  | .text value => some (complete (string value) containers)
  | .scalar value => some (complete value containers)
  | _ => none

def step (reader : Reader) (token : Token) : Option Reader :=
  match reader.expected, token, reader.containers with
  | .value, token, containers => beginValue containers token
  | .firstElement, .closeArray, .array _ :: rest => some (complete (array []) rest)
  | .firstElement, token, containers => beginValue containers token
  | .firstName, .closeObject, .object _ _ :: rest => some (complete (ofMembers []) rest)
  | .firstName, .text name, .object members _ :: rest =>
    some ⟨.object members name :: rest, .colon⟩
  | .name, .text name, .object members _ :: rest =>
    some ⟨.object members name :: rest, .colon⟩
  | .colon, .colon, containers => some ⟨containers, .value⟩
  | .next, .comma, .array elements :: rest => some ⟨.array elements :: rest, .value⟩
  | .next, .closeArray, .array elements :: rest =>
    some (complete (array elements.reverse) rest)
  | .next, .comma, .object members name :: rest => some ⟨.object members name :: rest, .name⟩
  | .next, .closeObject, .object members _ :: rest =>
    some (complete (ofMembers members.reverse) rest)
  | _, _, _ => none

def finish? (reader : Reader) : Option Json :=
  match reader.expected with
  | .nothing value => some value
  | _ => none

end Reader

def ofText? (text : String) : Option Json := do
  let tokens ← Token.ofLetters? text.toList
  let reader ← tokens.foldlM Reader.step ⟨[], .value⟩
  reader.finish?

end DocQuery.Json
