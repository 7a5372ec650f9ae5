/-! Positions in sequences, counted from the end if negative, and slices over steps of any size. -/

set_option autoImplicit false

namespace DocQuery.Slice

def checkedAdd? (x y : Int64) : Option Int64 :=
  let sum := x.toInt + y.toInt
  if Int64.minValue.toInt ≤ sum ∧ sum ≤ Int64.maxValue.toInt then some (Int64.ofInt sum) else none

/-- The sum of two words, or else the nearest word to it. -/
def saturatingAdd (x y : Int64) : Int64 :=
  (checkedAdd? x y).getD (if x < 0 then Int64.minValue else Int64.maxValue)

def word? (length : Nat) : Option Int64 :=
  if length < 0x8000000000000000 then some (Int64.ofNat length) else none

def fromStart? (index length : Int64) : Option Int64 :=
  if index < 0 then checkedAdd? length index else some index

def resolveIndex (index : Int64) (length : Nat) : Option Nat := do
  let length ← word? length
  let position ← fromStart? index length
  if 0 ≤ position ∧ position < length then some position.toInt.toNat else none

/-- A given bound, moved to where a walk with this step can begin or end. -/
def clamp (length bound step : Int64) : Int64 :=
  if bound < 0 then
    let fromEnd := saturatingAdd bound length
    if 0 ≤ fromEnd then fromEnd else if step < 0 then -1 else 0
  else if length ≤ bound then
    if step < 0 then length - 1 else length
  else
    bound

def firstPosition (length : Int64) (start : Option Int64) (step : Int64) : Int64 :=
  match start with
  | some bound => clamp length bound step
  | none => if step < 0 then length - 1 else 0

def limit (length : Int64) (stop : Option Int64) (step : Int64) : Int64 :=
  match stop with
  | some bound => clamp length bound step
  | none => if step < 0 then -1 else length

def Before (position limit step : Int64) : Prop :=
  (0 < step ∧ position < limit) ∨ (step < 0 ∧ limit < position)

instance (position limit step : Int64) : Decidable (Before position limit step) :=
  inferInstanceAs (Decidable (_ ∨ _))

def distance (position limit step : Int64) : Nat :=
  if 0 < step then (limit.toInt - position.toInt).toNat else (position.toInt - limit.toInt).toNat

theorem toInt_of_checkedAdd? {x y sum : Int64} (some_sum : checkedAdd? x y = some sum) :
    sum.toInt = x.toInt + y.toInt := by
  unfold checkedAdd? at some_sum
  dsimp only at some_sum
  split at some_sum
  · next within =>
    cases some_sum
    exact Int64.toInt_ofInt_of_le within.1 (by
      have := within.2
      rw [Int64.toInt_maxValue] at this
      omega)
  · cases some_sum

theorem distance_lt {position limit step next : Int64} (before : Before position limit step)
    (advance : checkedAdd? position step = some next) :
    distance next limit step < distance position limit step := by
  have sum := toInt_of_checkedAdd? advance
  rcases before with ⟨forward, less⟩ | ⟨backward, less⟩
  · simp only [distance, forward, if_true]
    rw [Int64.lt_iff_toInt_lt] at forward less
    simp only [Int64.toInt_zero] at forward
    omega
  · have notForward : ¬ 0 < step := by
      rw [Int64.lt_iff_toInt_lt] at backward ⊢
      simp only [Int64.toInt_zero] at backward ⊢
      omega
    simp only [distance, notForward, if_false]
    rw [Int64.lt_iff_toInt_lt] at backward less
    simp only [Int64.toInt_zero] at backward
    omega

/-- The positions of a walk. It also ends where another step would leave the words. -/
def walk (position limit step : Int64) : List Int64 :=
  if _before : Before position limit step then
    position ::
      match _advance : checkedAdd? position step with
      | some next => walk next limit step
      | none => []
  else
    []
termination_by distance position limit step
decreasing_by exact distance_lt _before _advance

def lengthWord (length : Nat) : Int64 :=
  (word? length).getD Int64.maxValue

-- The step is not zero, for evaluation fails on such a slice.
def positions (length : Nat) (start stop : Option Int64) (step : Int64) : List Int64 :=
  let length := lengthWord length
  walk (firstPosition length start step) (limit length stop step) step

def select {α : Type} (elements : List α) (start stop : Option Int64) (step : Int64) : List α :=
  (positions elements.length start stop step).filterMap fun position =>
    elements[position.toInt.toNat]?

end DocQuery.Slice
