import Mathlib.Tactic.SplitIfs
import DocQuery.Json.Reader
import DocQuery.Proofs.Text.Legible
import DocQuery.Text.Quoted

/-! Quoted texts tell what they quote and where they end.

The quote that ends such a text is told from a quoted one by the backslash before the latter, and
what follows a backslash tells how far it extends.
-/

set_option autoImplicit false

namespace DocQuery.Text

open DocQuery.Json.Token (hexDigit?)

theorem hexDigit?_digitChar {digit : Nat} (small : digit < 16) :
    hexDigit? (Nat.digitChar digit) = some digit := by
  revert digit
  decide

theorem hexDigit?_of_mem_toDigits {code : Nat} {c : Char} (member : c ∈ Nat.toDigits 16 code) :
    (hexDigit? c).isSome = true := by
  induction code using Nat.strongRecOn with
  | ind code ih =>
    rw [Nat.toDigits_eq_if (by decide)] at member
    split at member
    · next small =>
      rw [List.mem_singleton.1 member, hexDigit?_digitChar small]
      rfl
    · rcases List.mem_append.1 member with leading | last
      · exact ih (code / 16) (by omega) leading
      · rw [List.mem_singleton.1 last, hexDigit?_digitChar (Nat.mod_lt code (by decide))]
        rfl

def hexValue (digits : List Char) : Nat :=
  digits.foldl (fun value digit => 16 * value + (hexDigit? digit).getD 0) 0

theorem hexValue_toDigits (code : Nat) : hexValue (Nat.toDigits 16 code) = code := by
  induction code using Nat.strongRecOn with
  | ind code ih =>
    rw [Nat.toDigits_eq_if (by decide)]
    split
    · next small => simp [hexValue, hexDigit?_digitChar small]
    · have leading := ih (code / 16) (by omega)
      have last := hexDigit?_digitChar (Nat.mod_lt code (by decide : 0 < 16))
      rw [hexValue, List.foldl_append, ← hexValue, leading, List.foldl_cons, List.foldl_nil, last]
      exact Nat.div_add_mod code 16

/-- A character in quoted text stands as it is, or as a backslash and a letter that means it, or as
a backslash, `u` and its code. -/
inductive Escaped (meant? : Char → Option Char) (coded : Char → Prop) (code : Char → List Char)
    (c : Char) : List Char → Prop where
  | plain : c ≠ '"' → c ≠ '\\' → Escaped meant? coded code c [c]
  | letter {letter : Char} : meant? letter = some c → Escaped meant? coded code c ['\\', letter]
  | code : coded c → Escaped meant? coded code c ('\\' :: 'u' :: code c)

section

variable {meant? : Char → Option Char} {coded : Char → Prop} {code escape : Char → List Char}

theorem Escaped.opens {c : Char} {text : List Char} (escaped : Escaped meant? coded code c text) :
    ∃ first rest, text = first :: rest ∧ first ≠ '"' ∧ nothing first = false := by
  cases escaped with
  | plain unquoted _ => exact ⟨c, [], rfl, unquoted, rfl⟩
  | letter _ => exact ⟨'\\', _, rfl, by decide, rfl⟩
  | code _ => exact ⟨'\\', _, rfl, by decide, rfl⟩

/-- Escaped characters can be told apart, if `u` is no letter with a meaning and the codes can. -/
theorem legible_escape (escaped : ∀ c, Escaped meant? coded code c (escape c))
    (free : meant? 'u' = none)
    (codes : ∀ {c c' rest rest'}, coded c → coded c' → code c ++ rest = code c' ++ rest' →
      c = c' ∧ rest = rest') (c : Char) : Legible nothing escape c := by
  intro c' rest rest' _ _ same
  have first := escaped c
  have second := escaped c'
  generalize escape c = text at first same
  generalize escape c' = text' at second same
  cases first with
  | plain _ unescaped => cases second with
    | plain _ _ =>
      cases same
      exact ⟨rfl, rfl⟩
    | letter _ => exact absurd (List.cons.inj same).1 unescaped
    | code _ => exact absurd (List.cons.inj same).1 unescaped
  | letter meaning => cases second with
    | plain _ unescaped => exact absurd (List.cons.inj same).1.symm unescaped
    | letter meaning' =>
      cases same
      exact ⟨Option.some.inj (meaning.symm.trans meaning'), rfl⟩
    | code _ =>
      cases same
      exact nomatch free.symm.trans meaning
  | code isCoded => cases second with
    | plain _ unescaped => exact absurd (List.cons.inj same).1.symm unescaped
    | letter meaning' =>
      cases same
      exact nomatch free.symm.trans meaning'
    | code isCoded' =>
      exact codes isCoded isCoded' (List.cons.inj (List.cons.inj same).2).2

theorem legible_between_quotes (escaped : ∀ c, Escaped meant? coded code c (escape c))
    (legible : ∀ c, Legible nothing escape c) (text : String) :
    Legible nothing (fun text : String => '"' :: text.toList.flatMap escape ++ ['"']) text := by
  intro other rest rest' _ _ same
  simp only [enclosed_append] at same
  obtain ⟨letters, rests⟩ := pieces_unique rfl (fun c _ => legible c)
    (fun c => (escaped c).opens) (List.cons.inj same).2
  exact ⟨String.toList_inj.1 letters, rests⟩

end

def meant? : Char → Option Char
  | '"' => some '"'
  | '\\' => some '\\'
  | 'n' => some '\n'
  | 'r' => some '\r'
  | 't' => some '\t'
  | '0' => some '\x00'
  | _ => none

def bracedCode (c : Char) : List Char :=
  '\x7b' :: Nat.toDigits 16 c.toNat ++ ['\x7d']

theorem bracedCode_unique {c c' : Char} {rest rest' : List Char}
    (same : bracedCode c ++ rest = bracedCode c' ++ rest') : c = c' ∧ rest = rest' := by
  rw [bracedCode, bracedCode, enclosed_append, enclosed_append] at same
  obtain ⟨digits, closing⟩ := word_unique (fun _ => hexDigit?_of_mem_toDigits)
    (interrupts_cons rfl rest) (fun _ => hexDigit?_of_mem_toDigits) (interrupts_cons rfl rest')
    (List.cons.inj same).2
  have codes : c.toNat = c'.toNat := by
    rw [← hexValue_toDigits c.toNat, digits, hexValue_toDigits]
  exact ⟨Char.toNat_inj.1 codes, (List.cons.inj closing).2⟩

theorem escaped_escape (c : Char) :
    Escaped meant? (fun _ => True) bracedCode c (escape c) := by
  unfold escape
  split_ifs with quote backslash newline carriage tab null unprintable
  · exact .letter (congrArg some quote.symm)
  · exact .letter (congrArg some backslash.symm)
  · exact .letter (congrArg some newline.symm)
  · exact .letter (congrArg some carriage.symm)
  · exact .letter (congrArg some tab.symm)
  · exact .letter (congrArg some null.symm)
  · exact .code trivial
  · exact .plain quote backslash

theorem legible_quoted (text : String) : Legible nothing quoted text :=
  legible_between_quotes escaped_escape
    (legible_escape escaped_escape rfl fun _ _ => bracedCode_unique) text

end DocQuery.Text
