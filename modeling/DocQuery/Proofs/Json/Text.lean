import DocQuery.Json.Binding
import DocQuery.Proofs.Json.Structure
import DocQuery.Proofs.Json.Written
import DocQuery.Proofs.Text.Quoted

/-! The text of a JSON value tells the value and where the text ends.

Only a number needs something after it that is no letter of a numeral. The first character tells
what kind of value a text stands for.
-/

set_option autoImplicit false

namespace DocQuery.Json

open DocQuery.Text

def controlCode (c : Char) : List Char :=
  ['0', '0', Nat.digitChar (c.toNat / 16), Nat.digitChar (c.toNat % 16)]

theorem digitChar_inj {first second : Nat} (small : first < 16) (small' : second < 16)
    (same : Nat.digitChar first = Nat.digitChar second) : first = second := by
  apply Option.some.inj
  rw [← hexDigit?_digitChar small, same, hexDigit?_digitChar small']

theorem controlCode_unique {c c' : Char} {rest rest' : List Char} (control : c.toNat < 0x20)
    (control' : c'.toNat < 0x20) (same : controlCode c ++ rest = controlCode c' ++ rest') :
    c = c' ∧ rest = rest' := by
  simp only [controlCode, List.cons_append, List.nil_append, List.cons.injEq, true_and] at same
  obtain ⟨upper, lower, rests⟩ := same
  have uppers := digitChar_inj (by omega) (by omega) upper
  have lowers := digitChar_inj (by omega) (by omega) lower
  exact ⟨Char.toNat_inj.1 (by omega), rests⟩

theorem escaped_escape (c : Char) :
    Escaped Token.escaped? (·.toNat < 0x20) controlCode c (escape c) := by
  unfold escape
  split_ifs with quote backslash newline carriage tab backspace feed control
  · exact .letter (congrArg some quote.symm)
  · exact .letter (congrArg some backslash.symm)
  · exact .letter (congrArg some newline.symm)
  · exact .letter (congrArg some carriage.symm)
  · exact .letter (congrArg some tab.symm)
  · exact .letter (congrArg some backspace.symm)
  · exact .letter (congrArg some feed.symm)
  · exact .code control
  · exact .plain quote backslash

theorem legible_quoted (text : String) : Legible nothing quoted text :=
  legible_between_quotes escaped_escape
    (legible_escape escaped_escape rfl controlCode_unique) text

theorem written_array (elements : List Json) :
    (array elements).written = '[' :: List.intercalate [','] (elements.map written) ++ [']'] := by
  have texts : Raw.writtenElements (elements.map raw) = elements.map written := by
    induction elements with
    | nil => rfl
    | cons element rest ih => exact congrArg (element.written :: ·) ih
  rw [← texts]
  rfl

def memberWritten (member : String × Json) : List Char :=
  quoted member.1 ++ ':' :: member.2.written

theorem written_object (members : List (String × Json))
    (distinct : (members.map Prod.fst).Nodup) :
    (object members distinct).written =
      '\x7b' :: List.intercalate [','] (members.map memberWritten) ++ ['\x7d'] := by
  have texts : Raw.writtenMembers (members.map fun member => (member.1, member.2.raw)) =
      members.map memberWritten := by
    clear distinct
    induction members with
    | nil => rfl
    | cons member rest ih => exact congrArg (memberWritten member :: ·) ih
  rw [← texts]
  rfl

def kindOfText? (first : Char) : Option Kind :=
  match first with
  | 'n' => some .null
  | 't' => some .boolean
  | 'f' => some .boolean
  | '"' => some .string
  | '[' => some .array
  | '\x7b' => some .object
  | _ => if Numeral.isLetter first then some .number else none

theorem kindOfText?_of_isLetter {first : Char} (letter : Numeral.isLetter first = true) :
    kindOfText? first = some .number := by
  unfold kindOfText?
  split <;> first | cases letter | exact if_pos letter

theorem written_opens (value : Json) :
    ∃ first rest, value.written = first :: rest ∧ kindOfText? first = some value.kind := by
  cases value using shapes with
  | null => exact ⟨'n', _, rfl, rfl⟩
  | boolean flag => cases flag with
    | true => exact ⟨'t', _, rfl, rfl⟩
    | false => exact ⟨'f', _, rfl, rfl⟩
  | number found =>
    obtain ⟨first, rest, opens, letter⟩ := found.written_opens
    exact ⟨first, rest, opens, kindOfText?_of_isLetter letter⟩
  | string text => exact ⟨'"', _, rfl, rfl⟩
  | array elements => exact ⟨'[', _, rfl, rfl⟩
  | object members distinct => exact ⟨'\x7b', _, rfl, rfl⟩

theorem written_opens_element (value : Json) :
    ∃ first rest, value.written = first :: rest ∧ first ≠ ']' := by
  obtain ⟨first, rest, opens, kind⟩ := value.written_opens
  refine ⟨first, rest, opens, ?_⟩
  rintro rfl
  cases kind

theorem kind_eq_of_append {first second : Json} {rest rest' : List Char}
    (same : first.written ++ rest = second.written ++ rest') : first.kind = second.kind := by
  obtain ⟨c, text, opens, kind⟩ := first.written_opens
  obtain ⟨c', text', opens', kind'⟩ := second.written_opens
  rw [opens, opens'] at same
  cases (List.cons.inj same).1
  exact Option.some.inj (kind.symm.trans kind')

theorem legible_memberWritten {member : String × Json}
    (legible : Legible Numeral.isLetter written member.2) :
    Legible Numeral.isLetter memberWritten member := by
  intro other rest rest' interrupts interrupts' same
  simp only [memberWritten, List.append_assoc] at same
  obtain ⟨names, values⟩ := legible_quoted member.1 (interrupts_nothing _) (interrupts_nothing _)
    same
  obtain ⟨values, rests⟩ := legible interrupts interrupts' (List.cons.inj values).2
  exact ⟨Prod.ext names values, rests⟩

theorem legible_written (value : Json) : Legible Numeral.isLetter written value := by
  induction value using contentInduction with
  | step value elements members =>
    intro other rest rest' interrupts interrupts' same
    have sameKind := kind_eq_of_append same
    cases value using shapes with
    | null => cases other using shapes with
      | null => exact ⟨rfl, List.append_cancel_left same⟩
      | _ => cases sameKind
    | boolean flag => cases other using shapes with
      | boolean flag' =>
        cases flag <;> cases flag' <;> cases same <;> exact ⟨rfl, rfl⟩
      | _ => cases sameKind
    | number found => cases other using shapes with
      | number found' =>
        obtain ⟨letters, rests⟩ := word_unique (fun _ => Number.isLetter_of_mem_written) interrupts
          (fun _ => Number.isLetter_of_mem_written) interrupts' same
        exact ⟨congrArg number (Number.written_injective letters), rests⟩
      | _ => cases sameKind
    | string text => cases other using shapes with
      | string text' =>
        obtain ⟨texts, rests⟩ := legible_quoted text (interrupts_nothing rest)
          (interrupts_nothing rest') same
        exact ⟨congrArg string texts, rests⟩
      | _ => cases sameKind
    | array items => cases other using shapes with
      | array items' =>
        rw [written_array, written_array, enclosed_append, enclosed_append] at same
        rw [elements_array] at elements
        obtain ⟨rfl, rests⟩ := separated_unique rfl rfl (by decide) elements written_opens_element
          (List.cons.inj same).2
        exact ⟨rfl, rests⟩
      | _ => cases sameKind
    | object entries distinct => cases other using shapes with
      | object entries' distinct' =>
        rw [written_object, written_object, enclosed_append, enclosed_append] at same
        rw [members_object] at members
        obtain ⟨rfl, rests⟩ := separated_unique rfl rfl (by decide)
          (fun member inside => legible_memberWritten (members member inside))
          (fun member => ⟨'"', _, rfl, by decide⟩) (List.cons.inj same).2
        exact ⟨rfl, rests⟩
      | _ => cases sameKind

end DocQuery.Json
