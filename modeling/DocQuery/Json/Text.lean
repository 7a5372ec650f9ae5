import DocQuery.Binary64.Text
import DocQuery.Json.Basic

/-! The compact written form of JSON, without blanks. -/

set_option autoImplicit false

namespace DocQuery.Json

def Number.written : Number → List Char
  | .integer value _ _ => Decimal.integer value
  | .double value _ => value.written

def escape (c : Char) : List Char :=
  if c = '"' then ['\\', '"']
  else if c = '\\' then ['\\', '\\']
  else if c = '\n' then ['\\', 'n']
  else if c = '\r' then ['\\', 'r']
  else if c = '\t' then ['\\', 't']
  else if c = '\x08' then ['\\', 'b']
  else if c = '\x0c' then ['\\', 'f']
  else if c.toNat < 0x20 then
    ['\\', 'u', '0', '0', Nat.digitChar (c.toNat / 16), Nat.digitChar (c.toNat % 16)]
  else [c]

def quoted (text : String) : List Char :=
  '"' :: text.toList.flatMap escape ++ ['"']

namespace Raw

mutual

def written : Raw → List Char
  | .null => ['n', 'u', 'l', 'l']
  | .boolean true => ['t', 'r', 'u', 'e']
  | .boolean false => ['f', 'a', 'l', 's', 'e']
  | .number value => value.written
  | .string text => quoted text
  | .array elements => '[' :: List.intercalate [','] (writtenElements elements) ++ [']']
  | .object members => '\x7b' :: List.intercalate [','] (writtenMembers members) ++ ['\x7d']
termination_by structural value => value

def writtenElements : List Raw → List (List Char)
  | [] => []
  | element :: rest => written element :: writtenElements rest
termination_by structural elements => elements

def writtenMembers : List (String × Raw) → List (List Char)
  | [] => []
  | (name, value) :: rest => (quoted name ++ ':' :: written value) :: writtenMembers rest
termination_by structural members => members

end

end Raw

def written (value : Json) : List Char := value.raw.written

def text (value : Json) : String := String.ofList value.written

end DocQuery.Json
