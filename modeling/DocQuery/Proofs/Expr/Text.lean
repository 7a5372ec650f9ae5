import DocQuery.Expr.Text
import DocQuery.Proofs.Expr.Equality
import DocQuery.Proofs.Json.Equality
import DocQuery.Proofs.Json.Text

/-! The text of an expression tells the expression and where the text ends.

The name of the form, up to its bracket, tells how the text goes on. Names are quoted and literals
tell their own end, so that a comma or a closing bracket outside them is one of the form.
-/

set_option autoImplicit false

namespace DocQuery.Expr

open DocQuery.Text
open DocQuery.Json.Numeral (isLetter isLetter_of_mem_integer integer_injective integer_ne_nil)

def Form.opening : Form → List Char
  | .current => ['@']
  | .literal => ['\x60']
  | form => form.name.toList ++ ['(']

theorem Form.around_append (form : Form) (parts : List (List Char)) (rest : List Char) :
    form.around parts ++ rest =
      form.name.toList ++ ['('] ++ (commaSeparated parts ++ ')' :: rest) := by
  simp [Form.around]

theorem Form.around_opens (form : Form) (parts : List (List Char)) :
    ∃ rest, form.around parts = form.name.toList ++ ['('] ++ rest := by
  refine ⟨commaSeparated parts ++ [')'], ?_⟩
  rw [← form.around_append, List.append_nil]

theorem written_opens (expression : Expr) :
    ∃ rest, expression.written = expression.form.opening ++ rest := by
  cases expression with
  | current => exact ⟨_, rfl⟩
  | literal value => exact ⟨_, rfl⟩
  | _ => exact Form.around_opens _ _

/-- No opening begins with that of another form. -/
theorem Form.eq_of_prefix {first second : Form}
    (leads : first.opening.isPrefixOf second.opening = true) : first = second := by
  revert leads
  cases first <;> cases second <;> decide

theorem form_eq_of_append {first second : Expr} {rest rest' : List Char}
    (same : first.written ++ rest = second.written ++ rest') : first.form = second.form := by
  obtain ⟨inner, opens⟩ := first.written_opens
  obtain ⟨inner', opens'⟩ := second.written_opens
  rw [opens, opens', List.append_assoc, List.append_assoc] at same
  have leads : first.form.opening <+: first.form.opening ++ (inner ++ rest) := List.prefix_append ..
  have leads' : second.form.opening <+: first.form.opening ++ (inner ++ rest) :=
    same ▸ List.prefix_append ..
  rcases List.prefix_or_prefix_of_prefix leads leads' with shorter | longer
  · exact Form.eq_of_prefix (List.isPrefixOf_iff_prefix.2 shorter)
  · exact (Form.eq_of_prefix (List.isPrefixOf_iff_prefix.2 longer)).symm

theorem legible_position (position : Int64) :
    Legible isLetter (fun position : Int64 => Decimal.integer position.toInt) position :=
  legible_word (fun _ _ => isLetter_of_mem_integer)
    (fun _ same => Int64.toInt_inj.1 (integer_injective same))

theorem legible_bound (value : Option Int64) : Legible isLetter bound value := by
  apply legible_word
  · intro value c member
    cases value with
    | none => cases member
    | some value => exact isLetter_of_mem_integer member
  · intro other same
    cases value with
    | none => cases other with
      | none => rfl
      | some value' => exact absurd same.symm (integer_ne_nil value'.toInt)
    | some value => cases other with
      | none => exact absurd same (integer_ne_nil value.toInt)
      | some value' => rw [Int64.toInt_inj.1 (integer_injective same)]

def boundsWritten (limits : Option Int64 × Option Int64 × Option Int64) : List Char :=
  bounds limits.1 limits.2.1 limits.2.2

theorem legible_bounds (limits : Option Int64 × Option Int64 × Option Int64) :
    Legible isLetter boundsWritten limits := by
  obtain ⟨start, stop, step⟩ := limits
  rintro ⟨start', stop', step'⟩ rest rest' interrupts interrupts' same
  simp only [boundsWritten, bounds, List.append_assoc, List.cons_append] at same
  have colon (text : List Char) : Interrupts isLetter (':' :: text) := interrupts_cons rfl text
  obtain ⟨rfl, later⟩ := legible_bound start (colon _) (colon _) same
  obtain ⟨rfl, last⟩ := legible_bound stop (colon _) (colon _) (List.cons.inj later).2
  obtain ⟨rfl, rests⟩ := legible_bound step interrupts interrupts' (List.cons.inj last).2
  exact ⟨rfl, rests⟩

def isSymbol (c : Char) : Bool :=
  c == '=' || c == '!' || c == '<' || c == '>'

theorem legible_symbol (operator : Comparator) :
    Legible isSymbol (fun operator : Comparator => operator.symbol.toList) operator := by
  apply legible_word
  · intro operator
    cases operator <;> exact List.all_eq_true.1 rfl
  · intro other same
    apply Option.some.inj
    rw [← Comparator.ofSymbol?_symbol operator, String.toList_inj.1 same,
      Comparator.ofSymbol?_symbol]

theorem writtenAll_eq (items : List Expr) : writtenAll items = items.map written := by
  induction items with
  | nil => rfl
  | cons item rest ih => exact congrArg (item.written :: ·) ih

def entryWritten (entry : String × Expr) : List Char :=
  quoted entry.1 ++ ':' :: ' ' :: entry.2.written

theorem writtenEntries_eq (entries : List (String × Expr)) :
    writtenEntries entries = entries.map entryWritten := by
  induction entries with
  | nil => rfl
  | cons entry rest ih => exact congrArg (entryWritten entry :: ·) ih

theorem legible_entryWritten {entry : String × Expr} (legible : Legible nothing written entry.2) :
    Legible nothing entryWritten entry := by
  intro other rest rest' interrupts interrupts' same
  simp only [entryWritten, List.append_assoc] at same
  obtain ⟨keys, values⟩ := legible_quoted entry.1 (interrupts_nothing _) (interrupts_nothing _) same
  obtain ⟨values, rests⟩ := legible interrupts interrupts'
    (List.cons.inj (List.cons.inj values).2).2
  exact ⟨Prod.ext keys values, rests⟩

theorem written_opens_part (expression : Expr) :
    ∃ first rest, expression.written = first :: rest ∧ first ≠ ')' := by
  obtain ⟨inner, opens⟩ := expression.written_opens
  have leads : ∀ form : Form, ∃ first rest, form.opening = first :: rest ∧ first ≠ ')' := by
    intro form
    cases form <;> exact ⟨_, _, rfl, by decide⟩
  obtain ⟨first, rest, opening, other⟩ := leads expression.form
  exact ⟨first, rest ++ inner, by rw [opens, opening, List.cons_append], other⟩

section

variable {items : List Expr} (legible : ∀ item ∈ items, Legible nothing written item)
  (items' : List Expr) {form : Form} {rest rest' : List Char}

include legible

theorem parts_unique
    (same : form.around (items.map written) ++ rest = form.around (items'.map written) ++ rest') :
    items = items' ∧ rest = rest' := by
  rw [form.around_append, form.around_append] at same
  exact separated_unique rfl rfl (by decide) legible written_opens_part
    (List.append_cancel_left same)

-- The letters of the constant are of a kind that does not include the marks.
theorem constant_unique {α : Type} {kind : Char → Bool} {write : α → List Char} {constant : α}
    (readable : Legible kind write constant) (constant' : α) (comma : kind ',' = false)
    (closes : kind ')' = false)
    (same : form.around (write constant :: items.map written) ++ rest =
      form.around (write constant' :: items'.map written) ++ rest') :
    constant = constant' ∧ items = items' ∧ rest = rest' := by
  rw [form.around_append, form.around_append] at same
  have texts := List.append_cancel_left same
  simp only [commaSeparated, intercalate_cons, List.append_assoc] at texts
  obtain ⟨rfl, later⟩ := readable (interrupts_preceded comma closes _ rest)
    (interrupts_preceded comma closes _ rest') texts
  obtain ⟨rfl, rests⟩ := preceded_unique rfl rfl (by decide) legible later
  exact ⟨rfl, rfl, rests⟩

end

theorem literalText_unique {value value' : Json} {rest rest' : List Char}
    (same : literalText value ++ rest = literalText value' ++ rest') :
    value = value' ∧ rest = rest' := by
  simp only [literalText, enclosed_append] at same
  obtain ⟨rfl, later⟩ := value.legible_written (interrupts_cons rfl rest)
    (interrupts_cons rfl rest') (List.cons.inj same).2
  exact ⟨rfl, (List.cons.inj later).2⟩

-- The texts begin alike, so the forms are the same, and what is left are constants and parts.
theorem legible_written (expression : Expr) : Legible nothing written expression := by
  induction expression using childInduction with
  | step expression children =>
    intro other rest rest' _ _ same
    have sameForm := form_eq_of_append same
    cases expression with
    | current => cases other with
      | current => exact ⟨rfl, (List.cons.inj same).2⟩
      | _ => cases sameForm
    | identity => cases other with
      | identity => exact ⟨rfl, List.append_cancel_left same⟩
      | _ => cases sameForm
    | literal value => cases other with
      | literal value' =>
        obtain ⟨rfl, rests⟩ := literalText_unique same
        exact ⟨rfl, rests⟩
      | _ => cases sameForm
    | field source name => cases other with
      | field source' name' =>
        obtain ⟨constants, parts, rests⟩ := constant_unique children [source']
          (legible_quoted name) name' rfl rfl same
        cases constants
        cases parts
        exact ⟨rfl, rests⟩
      | _ => cases sameForm
    | index source position => cases other with
      | index source' position' =>
        obtain ⟨constants, parts, rests⟩ := constant_unique children [source']
          (legible_position position) position' rfl rfl same
        cases constants
        cases parts
        exact ⟨rfl, rests⟩
      | _ => cases sameForm
    | slice source start stop step => cases other with
      | slice source' start' stop' step' =>
        obtain ⟨constants, parts, rests⟩ := constant_unique children [source']
          (legible_bounds (start, stop, step)) (start', stop', step') rfl rfl same
        cases constants
        cases parts
        exact ⟨rfl, rests⟩
      | _ => cases sameForm
    | flattenList source => cases other with
      | flattenList source' =>
        obtain ⟨parts, rests⟩ := parts_unique children [source'] same
        cases parts
        exact ⟨rfl, rests⟩
      | _ => cases sameForm
    | pipe left right => cases other with
      | pipe left' right' =>
        obtain ⟨parts, rests⟩ := parts_unique children [left', right'] same
        cases parts
        exact ⟨rfl, rests⟩
      | _ => cases sameForm
    | sub left right => cases other with
      | sub left' right' =>
        obtain ⟨parts, rests⟩ := parts_unique children [left', right'] same
        cases parts
        exact ⟨rfl, rests⟩
      | _ => cases sameForm
    | listProjection source body => cases other with
      | listProjection source' body' =>
        obtain ⟨parts, rests⟩ := parts_unique children [source', body'] same
        cases parts
        exact ⟨rfl, rests⟩
      | _ => cases sameForm
    | objectProjection source body => cases other with
      | objectProjection source' body' =>
        obtain ⟨parts, rests⟩ := parts_unique children [source', body'] same
        cases parts
        exact ⟨rfl, rests⟩
      | _ => cases sameForm
    | flattenProjection source body => cases other with
      | flattenProjection source' body' =>
        obtain ⟨parts, rests⟩ := parts_unique children [source', body'] same
        cases parts
        exact ⟨rfl, rests⟩
      | _ => cases sameForm
    | multiSelectList items => cases other with
      | multiSelectList items' =>
        simp only [written, writtenAll_eq] at same
        obtain ⟨rfl, rests⟩ := parts_unique children items' same
        exact ⟨rfl, rests⟩
      | _ => cases sameForm
    | multiSelectHash entries => cases other with
      | multiSelectHash entries' =>
        simp only [written, writtenEntries_eq, Form.around_append] at same
        have legible : ∀ entry ∈ entries, Legible nothing entryWritten entry :=
          fun entry member => legible_entryWritten (children entry.2 (List.mem_map_of_mem member))
        obtain ⟨rfl, rests⟩ := separated_unique rfl rfl (by decide) legible
          (fun entry => ⟨'"', _, rfl, by decide⟩) (List.append_cancel_left same)
        exact ⟨rfl, rests⟩
      | _ => cases sameForm
    | filter source predicate => cases other with
      | filter source' predicate' =>
        obtain ⟨parts, rests⟩ := parts_unique children [source', predicate'] same
        cases parts
        exact ⟨rfl, rests⟩
      | _ => cases sameForm
    | comparison operator left right => cases other with
      | comparison operator' left' right' =>
        obtain ⟨constants, parts, rests⟩ := constant_unique children [left', right']
          (legible_symbol operator) operator' rfl rfl same
        cases constants
        cases parts
        exact ⟨rfl, rests⟩
      | _ => cases sameForm
    | and left right => cases other with
      | and left' right' =>
        obtain ⟨parts, rests⟩ := parts_unique children [left', right'] same
        cases parts
        exact ⟨rfl, rests⟩
      | _ => cases sameForm
    | or left right => cases other with
      | or left' right' =>
        obtain ⟨parts, rests⟩ := parts_unique children [left', right'] same
        cases parts
        exact ⟨rfl, rests⟩
      | _ => cases sameForm
    | not operand => cases other with
      | not operand' =>
        obtain ⟨parts, rests⟩ := parts_unique children [operand'] same
        cases parts
        exact ⟨rfl, rests⟩
      | _ => cases sameForm
    | call name arguments => cases other with
      | call name' arguments' =>
        simp only [written, writtenAll_eq] at same
        obtain ⟨rfl, rfl, rests⟩ := constant_unique children arguments'
          (legible_quoted name) name' rfl rfl same
        exact ⟨rfl, rests⟩
      | _ => cases sameForm
    | reference expression => cases other with
      | reference expression' =>
        obtain ⟨parts, rests⟩ := parts_unique children [expression'] same
        cases parts
        exact ⟨rfl, rests⟩
      | _ => cases sameForm

theorem text_injective {first second : Expr} (same : first.text = second.text) :
    first = second := by
  have letters : first.written ++ [] = second.written ++ [] :=
    congrArg (· ++ []) (String.ofList_inj.1 same)
  exact (first.legible_written (interrupts_nothing []) (interrupts_nothing []) letters).1

/-- Expressions with one text are equal. -/
theorem same_of_text_eq {first second : Expr} (sameText : first.text = second.text) :
    first.same second = true := by
  rw [text_injective sameText]
  exact sameBy_self (Json.equalBy_self Json.Number.sameForm_self) second

theorem same_of_text_eq_marks :
    let name := "\"\\\x60,)\x01"
    let twice := Json.ofMembers [(name, .null), (name, .string name)]
    let once := Json.object [(name, .string name)] (by simp)
    (sub (field current name) (literal twice)).text =
        (sub (field current name) (literal once)).text ∧
      (sub (field current name) (literal twice)).same
        (sub (field current name) (literal once)) = true := by
  intro name twice once
  have sameText : (sub (field current name) (literal twice)).text =
      (sub (field current name) (literal once)).text := rfl
  exact ⟨sameText, same_of_text_eq sameText⟩

end DocQuery.Expr
