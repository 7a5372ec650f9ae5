import DocQuery.Json.Numeral
import DocQuery.Proofs.Text.Legible

/-! Numerals are read as the parts they are written from. -/

set_option autoImplicit false

namespace DocQuery.Json.Numeral

open DocQuery.Text (Interrupts interrupts_nil interrupts_cons takeWhile_word dropWhile_word)

def fractionLetters : Option (List Char) → List Char
  | none => []
  | some found => '.' :: found

def exponentLetters : Option (Bool × List Char) → List Char
  | none => []
  | some (negative, found) => 'e' :: (if negative then '-' else '+') :: found

@[simp] theorem fractionLetters_none : fractionLetters none = [] := rfl

@[simp] theorem fractionLetters_some (found : List Char) :
    fractionLetters (some found) = '.' :: found := rfl

@[simp] theorem exponentLetters_none : exponentLetters none = [] := rfl

@[simp] theorem exponentLetters_some (negative : Bool) (found : List Char) :
    exponentLetters (some (negative, found)) =
      'e' :: (if negative then '-' else '+') :: found := rfl

@[simp] def tailLetters (numeral : Numeral) : List Char :=
  fractionLetters numeral.fraction ++ exponentLetters numeral.exponent

@[simp] def sizeLetters (numeral : Numeral) : List Char :=
  numeral.whole ++ numeral.tailLetters

def letters (numeral : Numeral) : List Char :=
  if numeral.negative then '-' :: numeral.sizeLetters else numeral.sizeLetters

def AreDigits (found : List Char) : Prop :=
  found ≠ [] ∧ ∀ c ∈ found, c.isDigit = true

/-- Every part has digits, and a leading zero stands alone. -/
structure Proper (numeral : Numeral) : Prop where
  whole : AreDigits numeral.whole
  leading : ¬(numeral.whole.head? = some '0' ∧ 1 < numeral.whole.length)
  fraction : ∀ found ∈ numeral.fraction, AreDigits found
  exponent : ∀ found ∈ numeral.exponent, AreDigits found.2

theorem digits_append {found rest : List Char} (areDigits : AreDigits found)
    (interrupts : Interrupts Char.isDigit rest) :
    digits (found ++ rest) = some (found, rest) := by
  unfold digits
  rw [takeWhile_word areDigits.2 interrupts, dropWhile_word areDigits.2 interrupts]
  cases found with
  | nil => exact absurd rfl areDigits.1
  | cons c found => rfl

theorem interrupts_exponentLetters (exponent : Option (Bool × List Char)) :
    Interrupts Char.isDigit (exponentLetters exponent) := by
  cases exponent with
  | none => exact interrupts_nil
  | some found => exact interrupts_cons rfl _

theorem exponent?_letters {exponent : Option (Bool × List Char)}
    (proper : ∀ found ∈ exponent, AreDigits found.2) :
    exponent? (exponentLetters exponent) = some exponent := by
  cases exponent with
  | none => rfl
  | some found =>
    obtain ⟨negative, found⟩ := found
    have read := digits_append (proper _ rfl) interrupts_nil
    rw [List.append_nil] at read
    cases negative <;> simp [exponent?, read]

theorem fraction?_letters {fraction : Option (List Char)}
    (proper : ∀ found ∈ fraction, AreDigits found) (exponent : Option (Bool × List Char)) :
    fraction? (fractionLetters fraction ++ exponentLetters exponent) =
      some (fraction, exponentLetters exponent) := by
  cases fraction with
  | none => cases exponent <;> rfl
  | some found =>
    have read := digits_append (proper found rfl) (interrupts_exponentLetters exponent)
    simp [fraction?, read]

theorem interrupts_tailLetters (numeral : Numeral) :
    Interrupts Char.isDigit numeral.tailLetters := by
  unfold tailLetters
  cases numeral.fraction with
  | none => exact interrupts_exponentLetters numeral.exponent
  | some found => exact interrupts_cons rfl _

theorem whole?_sizeLetters {numeral : Numeral} (proper : numeral.Proper) :
    whole? numeral.sizeLetters = some (numeral.whole, numeral.tailLetters) := by
  have read := digits_append proper.whole numeral.interrupts_tailLetters
  unfold whole? sizeLetters
  rw [read]
  exact if_neg proper.leading

theorem sizeLetters_opens {numeral : Numeral} (proper : numeral.Proper) :
    ∃ c rest, numeral.sizeLetters = c :: rest ∧ c.isDigit = true := by
  unfold sizeLetters
  obtain ⟨nonempty, digits⟩ := proper.whole
  cases letters : numeral.whole with
  | nil => exact absurd letters nonempty
  | cons c rest => exact ⟨c, _, rfl, digits c (letters ▸ List.mem_cons_self)⟩

/-- A proper numeral is read as its parts. -/
theorem ofLetters?_letters {numeral : Numeral} (proper : numeral.Proper) :
    ofLetters? numeral.letters = some numeral := by
  have parts : (whole? numeral.sizeLetters).bind (fun read =>
      (fraction? read.2).bind fun read' => (exponent? read'.2).bind fun exponent =>
        some (Numeral.mk numeral.negative read.1 read'.1 exponent)) = some numeral := by
    rw [whole?_sizeLetters proper]
    simp only [tailLetters, Option.bind_some, fraction?_letters proper.fraction,
      exponent?_letters proper.exponent]
  unfold letters
  cases sign : numeral.negative with
  | true =>
    rw [sign] at parts
    exact parts
  | false =>
    obtain ⟨c, rest, opens, digit⟩ := sizeLetters_opens proper
    rw [sign, opens] at parts
    rw [if_neg Bool.false_ne_true, opens]
    unfold ofLetters?
    split
    next unsigned =>
      split at unsigned
      · next letters =>
        cases letters
        cases digit
      · cases unsigned
        exact parts

def isLetter (c : Char) : Bool :=
  c.isDigit || c == '-' || c == '+' || c == '.' || c == 'e'

theorem isLetter_of_isDigit {c : Char} (digit : c.isDigit = true) : isLetter c = true := by
  simp [isLetter, digit]

theorem isLetter_of_mem {numeral : Numeral} (proper : numeral.Proper) {c : Char}
    (member : c ∈ numeral.letters) : isLetter c = true := by
  have size : ∀ c ∈ numeral.sizeLetters, isLetter c = true := by
    intro c member
    simp only [sizeLetters, tailLetters, List.mem_append] at member
    rcases member with whole | fraction | exponent
    · exact isLetter_of_isDigit (proper.whole.2 c whole)
    · cases found : numeral.fraction with
      | none =>
        rw [found] at fraction
        cases fraction
      | some digits =>
        rw [found] at fraction
        rcases List.mem_cons.1 fraction with rfl | digit
        · rfl
        · exact isLetter_of_isDigit ((proper.fraction digits found).2 c digit)
    · cases found : numeral.exponent with
      | none =>
        rw [found] at exponent
        cases exponent
      | some signed =>
        obtain ⟨negative, digits⟩ := signed
        rw [found] at exponent
        rcases List.mem_cons.1 exponent with rfl | later
        · rfl
        · rcases List.mem_cons.1 later with rfl | digit
          · cases negative <;> rfl
          · exact isLetter_of_isDigit ((proper.exponent _ found).2 c digit)
  unfold letters at member
  split at member
  · rcases List.mem_cons.1 member with rfl | later
    · rfl
    · exact size c later
  · exact size c member

theorem letters_opens {numeral : Numeral} (proper : numeral.Proper) :
    ∃ c rest, numeral.letters = c :: rest ∧ isLetter c = true := by
  obtain ⟨c, rest, opens, digit⟩ := sizeLetters_opens proper
  unfold letters
  split
  · exact ⟨'-', _, rfl, rfl⟩
  · exact ⟨c, rest, opens, isLetter_of_isDigit digit⟩

end DocQuery.Json.Numeral
