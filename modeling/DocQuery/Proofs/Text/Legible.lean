/-! Texts that can be told apart when more text follows.

Where a longer text begins with the text of one of several items, it tells which item that is and
where its text ends. Some texts tell their own end. A word does not, and has to be followed by
something that is no part of a word.
-/

set_option autoImplicit false

namespace DocQuery.Text

variable {α : Type} {kind : Char → Bool} {write : α → List Char}

/-- A text does not go on with a character of a kind. -/
def Interrupts (kind : Char → Bool) (text : List Char) : Prop :=
  ∀ c ∈ text.head?, kind c = false

theorem interrupts_nil : Interrupts kind [] :=
  nofun

theorem interrupts_cons {c : Char} (other : kind c = false) (text : List Char) :
    Interrupts kind (c :: text) := by
  rintro _ ⟨⟩
  exact other

def nothing (_ : Char) : Bool := false

theorem interrupts_nothing (text : List Char) : Interrupts nothing text :=
  fun _ _ => rfl

/-- The text of an item, followed by text that interrupts a kind, is not the text of another item
followed by such text. -/
def Legible (kind : Char → Bool) (write : α → List Char) (item : α) : Prop :=
  ∀ ⦃other : α⦄ ⦃rest rest' : List Char⦄, Interrupts kind rest → Interrupts kind rest' →
    write item ++ rest = write other ++ rest' → item = other ∧ rest = rest'

theorem Legible.prepend {item : α} (legible : Legible kind write item) (lead : List Char) :
    Legible kind (fun item => lead ++ write item) item := by
  intro other rest rest' interrupts interrupts' same
  rw [List.append_assoc, List.append_assoc, List.append_right_inj] at same
  exact legible interrupts interrupts' same

section

variable {word word' rest rest' : List Char} (letters : ∀ c ∈ word, kind c = true)
  (interrupts : Interrupts kind rest)

include letters interrupts

theorem takeWhile_word : (word ++ rest).takeWhile kind = word := by
  rw [List.takeWhile_append_of_pos letters]
  cases rest with
  | nil => exact List.append_nil word
  | cons c rest =>
    rw [List.takeWhile_cons_of_neg (by simp [interrupts c rfl]), List.append_nil]

theorem dropWhile_word : (word ++ rest).dropWhile kind = rest := by
  have parts := List.takeWhile_append_dropWhile (p := kind) (l := word ++ rest)
  rw [takeWhile_word letters interrupts] at parts
  exact List.append_cancel_left parts

/-- Words end where something else than a letter follows. -/
theorem word_unique (letters' : ∀ c ∈ word', kind c = true) (interrupts' : Interrupts kind rest')
    (same : word ++ rest = word' ++ rest') : word = word' ∧ rest = rest' := by
  constructor
  · rw [← takeWhile_word letters interrupts, same, takeWhile_word letters' interrupts']
  · rw [← dropWhile_word letters interrupts, same, dropWhile_word letters' interrupts']

end

theorem legible_word {item : α} (letters : ∀ item, ∀ c ∈ write item, kind c = true)
    (injective : ∀ other, write item = write other → item = other) :
    Legible kind write item := by
  intro other rest rest' interrupts interrupts' same
  obtain ⟨words, rests⟩ := word_unique (letters item) interrupts (letters other) interrupts' same
  exact ⟨injective other words, rests⟩

theorem enclosed_append (first last : Char) (body rest : List Char) :
    first :: body ++ [last] ++ rest = first :: (body ++ last :: rest) := by
  simp

section

variable {close : Char} (closes : kind close = false) {items items' : List α}
  (legible : ∀ item ∈ items, Legible kind write item) {rest rest' : List Char}

include closes legible

theorem pieces_unique
    (marked : ∀ item, ∃ mark text, write item = mark :: text ∧ mark ≠ close ∧ kind mark = false)
    (same : items.flatMap write ++ close :: rest = items'.flatMap write ++ close :: rest') :
    items = items' ∧ rest = rest' := by
  have interrupts (items : List α) (rest : List Char) :
      Interrupts kind (items.flatMap write ++ close :: rest) := by
    cases items with
    | nil => exact interrupts_cons closes rest
    | cons item items =>
      obtain ⟨mark, text, written, -, other⟩ := marked item
      rw [List.flatMap_cons, written]
      exact interrupts_cons other _
  have unlike (item : α) (items : List α) (rest rest' : List Char) :
      (item :: items).flatMap write ++ rest ≠ close :: rest' := by
    obtain ⟨mark, text, written, different, -⟩ := marked item
    rw [List.flatMap_cons, written]
    exact fun same => different (List.cons.inj same).1
  induction items generalizing items' with
  | nil => cases items' with
    | nil => exact ⟨rfl, (List.cons.inj same).2⟩
    | cons item' items' => exact absurd same.symm (unlike item' items' _ _)
  | cons item items ih => cases items' with
    | nil => exact absurd same (unlike item items _ _)
    | cons item' items' =>
      rw [List.flatMap_cons, List.flatMap_cons, List.append_assoc, List.append_assoc] at same
      obtain ⟨rfl, later⟩ := legible item List.mem_cons_self (interrupts items rest)
        (interrupts items' rest') same
      obtain ⟨rfl, rests⟩ := ih (fun item member => legible item (.tail _ member)) later
      exact ⟨rfl, rests⟩

end

-- A separator stands before every piece but the first.
theorem intercalate_cons (separator piece : List Char) (pieces : List (List Char)) :
    List.intercalate separator (piece :: pieces) = piece ++ pieces.flatMap (separator ++ ·) := by
  induction pieces generalizing piece with
  | nil => simp
  | cons next pieces ih =>
    rw [List.intercalate_cons_cons, ih, List.flatMap_cons, List.append_assoc, List.append_assoc]

theorem interrupts_preceded {mark close : Char} {gap : List Char} (marks : kind mark = false)
    (closes : kind close = false) (pieces : List (List Char)) (rest : List Char) :
    Interrupts kind (pieces.flatMap (mark :: gap ++ ·) ++ close :: rest) := by
  cases pieces with
  | nil => exact interrupts_cons closes rest
  | cons piece pieces => exact interrupts_cons marks _

section

variable {mark close : Char} {gap : List Char} (marks : kind mark = false)
  (closes : kind close = false) (different : mark ≠ close) {items items' : List α}
  (legible : ∀ item ∈ items, Legible kind write item) {rest rest' : List Char}

include marks closes different legible

theorem preceded_unique
    (same : (items.map write).flatMap (mark :: gap ++ ·) ++ close :: rest =
      (items'.map write).flatMap (mark :: gap ++ ·) ++ close :: rest') :
    items = items' ∧ rest = rest' := by
  rw [List.flatMap_map, List.flatMap_map] at same
  refine pieces_unique closes (fun item member => (legible item member).prepend (mark :: gap)) ?_
    same
  exact fun item => ⟨mark, gap ++ write item, rfl, different, marks⟩

theorem separated_unique
    (opens : ∀ item, ∃ first text, write item = first :: text ∧ first ≠ close)
    (same : List.intercalate (mark :: gap) (items.map write) ++ close :: rest =
      List.intercalate (mark :: gap) (items'.map write) ++ close :: rest') :
    items = items' ∧ rest = rest' := by
  have unlike (item : α) (items : List α) (rest rest' : List Char) :
      List.intercalate (mark :: gap) ((item :: items).map write) ++ rest ≠ close :: rest' := by
    obtain ⟨first, text, written, other⟩ := opens item
    rw [List.map_cons, intercalate_cons, written]
    exact fun same => other (List.cons.inj same).1
  cases items with
  | nil => cases items' with
    | nil => exact ⟨rfl, (List.cons.inj same).2⟩
    | cons item' items' => exact absurd same.symm (unlike item' items' _ _)
  | cons item items => cases items' with
    | nil => exact absurd same (unlike item items _ _)
    | cons item' items' =>
      rw [List.map_cons, List.map_cons, intercalate_cons, intercalate_cons, List.append_assoc,
        List.append_assoc] at same
      obtain ⟨rfl, later⟩ := legible item List.mem_cons_self
        (interrupts_preceded marks closes _ rest) (interrupts_preceded marks closes _ rest') same
      obtain ⟨rfl, rests⟩ := preceded_unique marks closes different
        (fun item member => legible item (.tail _ member)) later
      exact ⟨rfl, rests⟩

end

end DocQuery.Text
