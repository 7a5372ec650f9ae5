import Mathlib.Data.List.TakeWhile
import DocQuery.Binary64.Text
import DocQuery.Json.Text
import DocQuery.Proofs.Binary64.Decimal
import DocQuery.Proofs.Json.Numeral

/-! Numbers are read as the numbers they are written for.

An integer is written with all its digits. Of a binary number the significant digits of the shortest
numeral are written, with the point or the exponent where the value of the numeral is kept; and the
number nearest to that value is the one that was written.
-/

set_option autoImplicit false

namespace DocQuery

namespace Decimal

theorem isDigit_of_mem_natural {value : Nat} {c : Char} (member : c ∈ natural value) :
    c.isDigit = true :=
  Nat.isDigit_of_mem_toDigits (by decide) (by decide) member

theorem areDigits_natural (value : Nat) : Json.Numeral.AreDigits (natural value) :=
  ⟨Nat.toDigits_ne_nil, fun _ => isDigit_of_mem_natural⟩

theorem natural_opens {value : Nat} (positive : 0 < value) :
    ∃ lead further, natural value = lead :: further ∧ lead ≠ '0' := by
  unfold natural
  induction value using Nat.strongRecOn with
  | ind value ih =>
    rw [Nat.toDigits_eq_if (by decide)]
    split
    · refine ⟨_, _, rfl, fun zero => ?_⟩
      have digit := Nat.digitChar_eq_zero.1 zero
      omega
    · obtain ⟨lead, further, opens, nonzero⟩ := ih (value / 10) (by omega) (by omega)
      exact ⟨lead, further ++ _, by rw [opens, List.cons_append], nonzero⟩

-- Only zeros follow the significant digits.
theorem significant_append (numeral : Decimal) :
    ∃ zeros, natural numeral.digits = numeral.significant ++ List.replicate zeros '0' := by
  have zeros : ∀ c ∈ (natural numeral.digits).reverse.takeWhile (· = '0'), c = '0' := by
    intro c member
    have zero := List.mem_takeWhile_imp member
    exact of_decide_eq_true zero
  refine ⟨((natural numeral.digits).reverse.takeWhile (· = '0')).length, ?_⟩
  rw [significant, ← List.reverse_replicate, ← List.eq_replicate_of_mem zeros,
    ← List.reverse_append, List.takeWhile_append_dropWhile, List.reverse_reverse]

theorem significant_opens {numeral : Decimal} (nonzero : numeral.digits ≠ 0) :
    ∃ lead further, numeral.significant = lead :: further ∧ lead ≠ '0' := by
  obtain ⟨lead, rest, opens, leads⟩ := natural_opens (Nat.pos_of_ne_zero nonzero)
  obtain ⟨zeros, parts⟩ := numeral.significant_append
  rw [opens] at parts
  cases digits : numeral.significant with
  | nil =>
    rw [digits, List.nil_append] at parts
    have zero := List.eq_of_mem_replicate (parts ▸ List.mem_cons_self)
    exact absurd zero leads
  | cons first further =>
    rw [digits] at parts
    cases parts
    exact ⟨lead, further, rfl, leads⟩

theorem isDigit_of_mem_significant {numeral : Decimal} {c : Char}
    (member : c ∈ numeral.significant) : c.isDigit = true := by
  obtain ⟨zeros, parts⟩ := numeral.significant_append
  exact isDigit_of_mem_natural (parts ▸ List.mem_append_left _ member)

end Decimal

namespace Json

theorem digitsValue_eq (digits : List Char) : digitsValue digits = Nat.ofDigitChars 10 digits 0 :=
  Nat.ofDigitChars_eq_foldl.symm

theorem digitsValue_natural (value : Nat) : digitsValue (Decimal.natural value) = value := by
  rw [digitsValue_eq]
  exact Nat.ofDigitChars_ten_toDigits

theorem digitsValue_append_zeros (digits : List Char) (zeros : Nat) :
    digitsValue (digits ++ List.replicate zeros '0') = digitsValue digits * Nat.pow 10 zeros := by
  rw [digitsValue_eq, digitsValue_eq, Nat.ofDigitChars_append, Nat.ofDigitChars_replicate_zero,
    Nat.mul_comm]
  rfl

theorem digitsValue_zeros_append (zeros : Nat) (digits : List Char) :
    digitsValue (List.replicate zeros '0' ++ digits) = digitsValue digits := by
  rw [digitsValue_eq, digitsValue_eq, Nat.ofDigitChars_append, Nat.ofDigitChars_replicate_zero,
    Nat.mul_zero]

/-- What is written of a numeral, its significant digits and the exponent of the first of them,
settles the nearest number. -/
theorem nearestMagnitude_significant {numeral : Decimal} :
    numeral.nearestMagnitude = Decimal.nearestMagnitude
      ⟨digitsValue numeral.significant,
        numeral.scientificExponent + 1 - numeral.significant.length⟩ := by
  obtain ⟨zeros, parts⟩ := numeral.significant_append
  have digits : numeral.digits = digitsValue numeral.significant * Nat.pow 10 zeros := by
    rw [← digitsValue_append_zeros, ← parts, digitsValue_natural]
  have exponent : numeral.exponent + zeros =
      numeral.scientificExponent + 1 - numeral.significant.length := by
    rw [Decimal.scientificExponent, parts, List.length_append, List.length_replicate]
    omega
  rw [← exponent, ← Decimal.nearestMagnitude_mul_pow, ← digits]

namespace Numeral

def ofInt (value : Int) : Numeral :=
  ⟨decide (value < 0), Decimal.natural value.natAbs, none, none⟩

theorem proper_ofInt (value : Int) : (ofInt value).Proper := by
  refine ⟨Decimal.areDigits_natural value.natAbs, ?_, nofun, nofun⟩
  rintro ⟨zero, long⟩
  rcases Nat.eq_zero_or_pos value.natAbs with none | positive
  · have long : 1 < (Decimal.natural value.natAbs).length := long
    rw [none] at long
    exact absurd long (by decide)
  · obtain ⟨lead, further, opens, leads⟩ := Decimal.natural_opens positive
    rw [ofInt, opens] at zero
    exact leads (Option.some.inj zero)

theorem letters_ofInt (value : Int) : (ofInt value).letters = Decimal.integer value := by
  simp [ofInt, Decimal.integer, letters]

theorem integer?_ofInt (value : Int) : (ofInt value).integer? = some value := by
  simp only [ofInt, integer?, digitsValue_natural]
  rw [if_neg (by decide)]
  by_cases negative : value < 0
  · have size : -(value.natAbs : Int) = value := by omega
    rw [if_pos (decide_eq_true negative), if_neg (by omega), size]
  · have size : (value.natAbs : Int) = value := by omega
    rw [if_neg (by simpa using negative), size]

theorem integer_injective {first second : Int}
    (same : Decimal.integer first = Decimal.integer second) : first = second := by
  have read (value : Int) :
      (ofLetters? (Decimal.integer value)).bind integer? = some value := by
    rw [← letters_ofInt, ofLetters?_letters (proper_ofInt value), Option.bind_some,
      integer?_ofInt]
  apply Option.some.inj
  rw [← read first, same, read second]

theorem isLetter_of_mem_integer {value : Int} {c : Char} (member : c ∈ Decimal.integer value) :
    isLetter c = true :=
  isLetter_of_mem (proper_ofInt value) (letters_ofInt value ▸ member)

theorem integer_ne_nil (value : Int) : Decimal.integer value ≠ [] := by
  obtain ⟨c, rest, opens, -⟩ := letters_opens (proper_ofInt value)
  rw [← letters_ofInt, opens]
  exact nofun

end Numeral

/-- A numeral with a fraction or an exponent has given letters, and the value that its significant
digits have when the first of them stands for a given power of ten. -/
structure Numeral.Renders (numeral : Numeral) (digits : List Char) (exponent : Int)
    (letters : List Char) : Prop where
  proper : numeral.Proper
  fractional : numeral.integer? = none
  letters : numeral.sizeLetters = letters
  magnitude : numeral.decimal.nearestMagnitude =
    Decimal.nearestMagnitude ⟨digitsValue digits, exponent + 1 - digits.length⟩

section

variable {lead : Char} {further : List Char} {exponent : Int}
  (areDigits : ∀ c ∈ lead :: further, c.isDigit = true) (leads : lead ≠ '0') (negative : Bool)

include areDigits

/-- The digits begin behind the point. -/
theorem exists_renders_small (small : exponent < 0) :
    ∃ numeral : Numeral, numeral.negative = negative ∧
      numeral.Renders (lead :: further) exponent
        (Decimal.positional (lead :: further) exponent) := by
  refine ⟨⟨negative, ['0'], some (List.replicate (-exponent - 1).toNat '0' ++ lead :: further),
    none⟩, rfl, ⟨⟨by simp, by simp⟩, by simp, ?_, nofun⟩, rfl, ?_, ?_⟩
  · rintro _ ⟨⟩
    refine ⟨by simp, fun c member => ?_⟩
    rcases List.mem_append.1 member with zero | digit
    · rw [List.eq_of_mem_replicate zero]
      rfl
    · exact areDigits c digit
  · rw [Decimal.positional, if_neg (by omega)]
    simp
  · have value : digitsValue (['0'] ++ (List.replicate (-exponent - 1).toNat '0' ++
        lead :: further)) = digitsValue (lead :: further) :=
      digitsValue_zeros_append ((-exponent - 1).toNat + 1) (lead :: further)
    have shift : (0 : Int) - (List.replicate (-exponent - 1).toNat '0' ++ lead :: further).length =
        exponent + 1 - (lead :: further).length := by
      rw [List.length_append, List.length_replicate]
      omega
    rw [← value, ← shift]
    rfl

include leads

/-- The digits go on behind the point. -/
theorem exists_renders_split (whole : 0 ≤ exponent) (long : exponent.toNat < further.length) :
    ∃ numeral : Numeral, numeral.negative = negative ∧
      numeral.Renders (lead :: further) exponent
        (Decimal.positional (lead :: further) exponent) := by
  have fraction : further.drop exponent.toNat ≠ [] := by
    rw [ne_eq, List.drop_eq_nil_iff]
    omega
  refine ⟨⟨negative, lead :: further.take exponent.toNat, some (further.drop exponent.toNat), none⟩,
    rfl, ⟨⟨by simp, fun c member => ?_⟩, fun zero => leads (Option.some.inj zero.1), ?_, nofun⟩,
    rfl, ?_, ?_⟩
  · exact areDigits c (List.mem_of_mem_take (i := exponent.toNat + 1) member)
  · rintro _ ⟨⟩
    exact ⟨fraction, fun c member => areDigits c (.tail _ (List.mem_of_mem_drop member))⟩
  · have none : exponent.toNat + 1 - (further.length + 1) = 0 := by omega
    simp [Decimal.positional, whole, none, fraction]
  · have shift : (0 : Int) - (further.drop exponent.toNat).length =
        exponent + 1 - (lead :: further).length := by
      rw [List.length_drop, List.length_cons]
      omega
    have value : lead :: further.take exponent.toNat ++ further.drop exponent.toNat =
        lead :: further :=
      congrArg (lead :: ·) (further.take_append_drop exponent.toNat)
    rw [← shift, ← congrArg digitsValue value]
    rfl

/-- Zeros follow the digits up to the point and behind it. -/
theorem exists_renders_padded (whole : 0 ≤ exponent) (short : further.length ≤ exponent.toNat) :
    ∃ numeral : Numeral, numeral.negative = negative ∧
      numeral.Renders (lead :: further) exponent
        (Decimal.positional (lead :: further) exponent) := by
  refine ⟨⟨negative, lead :: further ++ List.replicate (exponent.toNat - further.length) '0',
    some ['0'], none⟩, rfl, ⟨⟨by simp, fun c member => ?_⟩,
    fun zero => leads (Option.some.inj zero.1), ?_, nofun⟩, rfl, ?_, ?_⟩
  · rcases List.mem_append.1 member with digit | zero
    · exact areDigits c digit
    · rw [List.eq_of_mem_replicate zero]
      rfl
  · rintro _ ⟨⟩
    simp [Numeral.AreDigits]
  · simp [Decimal.positional, whole, List.take_of_length_le short, List.drop_eq_nil_of_le short]
  · have value : digitsValue (lead :: further ++
        List.replicate (exponent.toNat - further.length) '0' ++ ['0']) =
        digitsValue (lead :: further) * Nat.pow 10 (exponent.toNat - further.length + 1) := by
      rw [List.append_assoc, ← List.replicate_succ', digitsValue_append_zeros]
    have shift : (-1 : Int) + (exponent.toNat - further.length + 1 : Nat) =
        exponent + 1 - (lead :: further).length := by
      rw [List.length_cons]
      omega
    rw [← shift, ← Decimal.nearestMagnitude_mul_pow, ← value]
    rfl

omit leads in
/-- The first digit stands before the point, and the others behind it if there are any. -/
theorem exists_renders_scientific : ∃ numeral : Numeral, numeral.negative = negative ∧
    numeral.Renders (lead :: further) exponent
      (Decimal.scientific (lead :: further) exponent) := by
  obtain ⟨fraction, digits, letters, proper⟩ : ∃ fraction : Option (List Char),
      fraction.getD [] = further ∧ Numeral.fractionLetters fraction =
        (if further.isEmpty then [] else '.' :: further) ∧
        ∀ found ∈ fraction, Numeral.AreDigits found := by
    cases further with
    | nil => exact ⟨none, rfl, rfl, nofun⟩
    | cons next rest =>
      refine ⟨some (next :: rest), rfl, rfl, ?_⟩
      rintro _ ⟨⟩
      exact ⟨nofun, fun c member => areDigits c (.tail _ member)⟩
  have size : (if decide (exponent < 0) = true then
        -(digitsValue (Decimal.natural exponent.natAbs) : Int)
      else digitsValue (Decimal.natural exponent.natAbs)) = exponent := by
    rw [digitsValue_natural]
    simp only [decide_eq_true_eq]
    omega
  refine ⟨⟨negative, [lead], fraction, some (decide (exponent < 0),
    Decimal.natural exponent.natAbs)⟩, rfl, ⟨⟨nofun, fun c member => ?_⟩, by simp, proper, ?_⟩,
    ?_, ?_, ?_⟩
  · rw [List.mem_singleton.1 member]
    exact areDigits lead List.mem_cons_self
  · rintro _ ⟨⟩
    exact Decimal.areDigits_natural exponent.natAbs
  · simp [Numeral.integer?]
  · simp [letters, Decimal.scientific]
  · have shift : exponent - further.length = exponent + 1 - (lead :: further).length := by
      rw [List.length_cons]
      omega
    simp only [Numeral.decimal, digits, size, shift]
    rfl

end

theorem exists_renders {decimal : Decimal} (nonzero : decimal.digits ≠ 0) (negative : Bool) :
    ∃ numeral : Numeral, numeral.negative = negative ∧
      numeral.Renders decimal.significant decimal.scientificExponent decimal.written := by
  obtain ⟨lead, further, opens, leads⟩ := Decimal.significant_opens nonzero
  have areDigits : ∀ c ∈ lead :: further, c.isDigit = true :=
    fun c member => Decimal.isDigit_of_mem_significant (opens ▸ member)
  unfold Decimal.written
  rw [opens]
  dsimp only
  generalize decimal.scientificExponent = exponent
  split
  · rcases Int.lt_or_le exponent 0 with small | whole
    · exact exists_renders_small areDigits negative small
    · rcases Nat.lt_or_ge exponent.toNat further.length with long | short
      · exact exists_renders_split areDigits leads negative whole long
      · exact exists_renders_padded areDigits leads negative whole short
  · exact exists_renders_scientific areDigits negative

/-- A number has the letters of a numeral, which is read as the number. -/
structure Numeral.Writes (numeral : Numeral) (number : Number) : Prop where
  proper : numeral.Proper
  letters : number.written = numeral.letters
  number : numeral.number? = some number

theorem exists_writes_integer {value : Int} (lower : -0x8000000000000000 ≤ value)
    (upper : value < 0x10000000000000000) :
    ∃ numeral : Numeral, numeral.Writes (.integer value lower upper) := by
  refine ⟨Numeral.ofInt value, Numeral.proper_ofInt value, (Numeral.letters_ofInt value).symm, ?_⟩
  have held : Number.ofInt? value = some (.integer value lower upper) := dif_pos ⟨lower, upper⟩
  rw [Numeral.number?, Numeral.integer?_ofInt, Option.bind_some, held]
  rfl

theorem number?_of_fractional {numeral : Numeral} {value : Binary64}
    (finite : value.isFinite = true) (fractional : numeral.integer? = none)
    (sign : numeral.negative = value.negative)
    (magnitude : numeral.decimal.nearestMagnitude = value.magnitude) :
    numeral.number? = some (.double value finite) := by
  have nearest : numeral.decimal.nearest numeral.negative = value := by
    obtain ⟨negative, pattern, bound⟩ := value
    cases sign
    cases magnitude
    rfl
  have held : Number.ofBinary64? value = some (.double value finite) := dif_pos finite
  rw [Numeral.number?, fractional, nearest, held]
  rfl

theorem exists_writes_double {value : Binary64} (finite : value.isFinite = true) :
    ∃ numeral : Numeral, numeral.Writes (.double value finite) := by
  obtain ⟨number, finity⟩ := (Binary64.isFinite_iff value).1 finite
  by_cases zero : value.magnitude = 0
  · have digits : Numeral.AreDigits ['0'] := ⟨nofun, List.all_eq_true.1 rfl⟩
    have alone : ¬(['0'].head? = some '0' ∧ 1 < ['0'].length) := by decide
    refine ⟨⟨value.negative, ['0'], some ['0'], none⟩, ⟨digits, alone, ?_, nofun⟩, ?_,
      number?_of_fractional finite rfl rfl ?_⟩
    · rintro _ ⟨⟩
      exact digits
    · simp [Number.written, Binary64.written, number, finity, zero, Numeral.letters]
    · rw [zero, Decimal.nearestMagnitude_eq]
      exact if_pos (.inl rfl)
  · have reads := Binary64.nearestMagnitude_shortestDecimal finite zero
    have nonzero : value.shortestDecimal.digits ≠ 0 := by
      intro none
      simp [Decimal.nearestMagnitude_eq, none] at reads
      exact zero reads.symm
    obtain ⟨numeral, sign, renders⟩ := exists_renders nonzero value.negative
    refine ⟨numeral, renders.proper, ?_, number?_of_fractional finite renders.fractional sign ?_⟩
    · simp [Number.written, Binary64.written, number, finity, zero, Numeral.letters, sign,
        ← renders.letters]
    · rw [renders.magnitude, ← nearestMagnitude_significant, reads]

theorem exists_writes (number : Number) : ∃ numeral : Numeral, numeral.Writes number := by
  cases number with
  | integer value lower upper => exact exists_writes_integer lower upper
  | double value finite => exact exists_writes_double finite

theorem Number.ofLetters?_written (number : Number) : ofLetters? number.written = some number := by
  obtain ⟨numeral, proper, letters, read⟩ := exists_writes number
  rw [Number.ofLetters?, letters, Numeral.ofLetters?_letters proper, Option.bind_some, read]

theorem Number.written_injective {first second : Number} (same : first.written = second.written) :
    first = second := by
  apply Option.some.inj
  rw [← ofLetters?_written first, same, ofLetters?_written second]

theorem Number.isLetter_of_mem_written {number : Number} {c : Char} (member : c ∈ number.written) :
    Numeral.isLetter c = true := by
  obtain ⟨numeral, proper, letters, -⟩ := exists_writes number
  exact Numeral.isLetter_of_mem proper (letters ▸ member)

theorem Number.written_opens (number : Number) :
    ∃ c rest, number.written = c :: rest ∧ Numeral.isLetter c = true := by
  obtain ⟨numeral, proper, letters, -⟩ := exists_writes number
  rw [letters]
  exact Numeral.letters_opens proper

end Json

end DocQuery
