import DocQuery.Doc.Binding
import DocQuery.Proofs.Binding.Transitivity
import DocQuery.Proofs.Comparison

/-! Equality and order of documents with dates.

Equality is transitive, though dates are compared in two ways, and fits the order wherever there is
one. Dates with a text alone have no order, and are equal by their texts.
-/

set_option autoImplicit false

namespace DocQuery

namespace Doc

/-- A number that is one, a record that repeats no name, or any other value that is not sealed. -/
def IsPlain : Doc → Prop
  | .number value => value.isNaN = false
  | .record members => (members.map Prod.fst).Nodup
  | .sealed _ => False
  | _ => True

/-- Two numbers, or two dates with seconds. -/
inductive Ordered : Doc → Doc → Prop where
  | numbers {x y : Binary64} : x.isNaN = false → y.isNaN = false → Ordered (.number x) (.number y)
  | dates (seconds seconds' : Int64) : Ordered (.date seconds) (.date seconds')

/-- Two dates, at least one of which has a text alone. -/
inductive Unordered : Doc → Doc → Prop where
  | texts (text text' : String) : Unordered (.dateText text) (.dateText text')
  | first (text : String) (seconds : Int64) : Unordered (.dateText text) (.date seconds)
  | second (seconds : Int64) (text : String) : Unordered (.date seconds) (.dateText text)

theorem datesByNumber : accessors.DatesByNumber := by
  intro value number isDate found
  cases value with
  | date seconds =>
    cases found
    exact ⟨Binary64.isNaN_ofInt seconds.toInt, rfl⟩
  | number value => cases isDate
  | _ => cases found

theorem IsPlain.hasDistinctNames {value : Doc} (plain : value.IsPlain) :
    accessors.HasDistinctNames value := by
  cases value with
  | record members => exact fun _ => plain
  | _ => exact hasDistinctNames_iff.2 List.nodup_nil

theorem IsPlain.hasDate {value : Doc} (plain : value.IsPlain) : accessors.HasDate value := by
  cases value with
  | date seconds => exact fun _ => .inl nofun
  | dateText text => exact fun _ => .inr nofun
  | sealed kind => exact plain.elim
  | _ => exact nofun

theorem equals_trans {first middle last : Doc} (plain : accessors.Throughout IsPlain middle)
    (same : binding.equals first middle = true) (same' : binding.equals middle last = true) :
    binding.equals first last = true := by
  apply Accessors.deepEquals_trans datesByNumber _ _ same same'
  · exact fun part inside => (plain part inside).hasDistinctNames
  · exact fun part inside => (plain part inside).hasDate

variable {first second : Doc}

-- Numbers and dates are the kinds of which equality asks for the order, too.
theorem equals_of_order? {order : Ordering} (found : binding.order? first second = some order) :
    binding.equals first second = (order == .eq) := by
  simp only [Binding.order?] at found
  split at found
  · next comparable =>
    obtain ⟨kinds, number | date⟩ := comparable
    · refine (Accessors.deepEquals_number number (kinds ▸ number)).trans ?_
      rw [show accessors.compare? first second = some order from found]
      rfl
    · refine (Accessors.deepEquals_date date (kinds ▸ date)).trans ?_
      rw [show accessors.compare? first second = some order from found]
      rfl
  · cases found

theorem equals_number (x y : Binary64) : binding.equals (.number x) (.number y) = x.equal y :=
  Accessors.deepEquals_number rfl rfl

theorem order?_number (x y : Binary64) :
    binding.order? (.number x) (.number y) = x.compare? y := rfl

theorem order?_date (seconds seconds' : Int64) :
    binding.order? (.date seconds) (.date seconds') =
      (Binary64.ofInt seconds.toInt).compare? (.ofInt seconds'.toInt) := by
  -- Both sides are the same by computation, but that would round the seconds to binary numbers.
  have date (seconds : Int64) : accessors.kindOf (.date seconds) = .date := rfl
  have found (seconds : Int64) :
      accessors.number? (.date seconds) = some (.ofInt seconds.toInt) := rfl
  calc binding.order? (.date seconds) (.date seconds')
    _ = accessors.compare? (.date seconds) (.date seconds') := by
      rw [Binding.order?]
      exact if_pos ⟨(date seconds).trans (date seconds').symm, .inr (date seconds)⟩
    _ = (Binary64.ofInt seconds.toInt).compare? (.ofInt seconds'.toInt) :=
      Accessors.compare?_dates (date seconds) (date seconds') (found seconds) (found seconds')

theorem Ordered.order?_ne_none (ordered : Ordered first second) :
    binding.order? first second ≠ none := by
  cases ordered with
  | numbers number number' =>
    rw [order?_number, ne_eq, Binary64.compare?_eq_none_iff]
    simp [number, number']
  | dates seconds seconds' =>
    rw [order?_date, ne_eq, Binary64.compare?_eq_none_iff]
    simp [Binary64.isNaN_ofInt]

theorem Ordered.coherent (ordered : Ordered first second) :
    Comparator.Coherent
      (Comparator.Holds (binding.equals first second) (binding.order? first second)) := by
  obtain ⟨order, found⟩ := Option.ne_none_iff_exists'.1 ordered.order?_ne_none
  rw [equals_of_order? found, found]
  exact Comparator.coherent_of_agreement order

theorem Unordered.order?_eq_none (unordered : Unordered first second) :
    binding.order? first second = none := by
  cases unordered <;> rfl

theorem Unordered.equals_iff (unordered : Unordered first second) :
    binding.equals first second = true ↔
      ∃ text, first = .dateText text ∧ second = .dateText text := by
  have dates : first.kind = .date ∧ second.kind = .date := by
    cases unordered <;> exact ⟨rfl, rfl⟩
  refine (Accessors.deepEquals_date_iff datesByNumber dates.1 dates.2).trans ?_
  cases unordered with
  | texts text text' =>
    have symm : text = text' ↔ text' = text := eq_comm
    simpa [Accessors.SameDate, accessors, number?, string?] using symm
  | first text seconds => simp [Accessors.SameDate, accessors, number?, string?]
  | second seconds text => simp [Accessors.SameDate, accessors, number?, string?]

def noon (reversed negative : Bool) : Doc :=
  .record (if reversed then [("zero", .number (.zero negative)), ("at", .dateText "noon")]
    else [("at", .dateText "noon"), ("zero", .number (.zero negative))])

theorem propertyNames_noon (reversed negative : Bool) :
    accessors.propertyNames (noon reversed negative) =
      if reversed then ["zero", "at"] else ["at", "zero"] := by
  cases reversed <;> rfl

theorem equals_noon (reversed negative negative' : Bool) :
    binding.equals (noon reversed negative) (noon (!reversed) negative') = true := by
  have known (name : String) (member : name ∈ accessors.propertyNames (noon reversed negative)) :
      name = "at" ∨ name = "zero" := by
    rw [propertyNames_noon] at member
    cases reversed with
    | false => simpa using member
    | true => simpa [or_comm] using member
  refine (Accessors.deepEquals_object rfl rfl).2 ⟨?_, fun name member => ?_⟩
  · rw [propertyNames_noon, propertyNames_noon]
    cases reversed <;> decide
  · rw [propertyNames_noon]
    obtain rfl | rfl := known name member
    · have text : binding.equals (.dateText "noon") (.dateText "noon") = true :=
        (Unordered.texts "noon" "noon").equals_iff.2 ⟨"noon", rfl, rfl⟩
      cases reversed <;> exact ⟨by decide, text⟩
    · have zero : binding.equals (.number (.zero negative)) (.number (.zero negative')) =
          true := by
        rw [equals_number]
        cases negative <;> cases negative' <;> decide
      cases reversed <;> exact ⟨by decide, zero⟩

end Doc

namespace Expr

open Doc (environment Ordered Unordered IsPlain noon equals_noon)

/-- Equality is transitive if the value in the middle is plain. The operators fit together on
numbers, and on dates with seconds. On dates of which one has a text alone, those that ask for an
order are null, and equality is that of the texts. -/
theorem doc_equality_fits_order (functions : Option (Registry Doc)) :
    (∀ first middle last, Doc.accessors.Throughout IsPlain middle →
      Doc.binding.equals first middle = true → Doc.binding.equals middle last = true →
      Doc.binding.equals first last = true) ∧
    ∀ focus left right first second,
      (left.evaluate (environment functions) focus).outcome = .ok first →
      (right.evaluate (environment functions) focus).outcome = .ok second →
      (Ordered first second →
        Comparator.Coherent (ComparesTrue (environment functions) focus left right)) ∧
      (Unordered first second →
        (∀ operator ∈ Comparator.orderings,
          ((comparison operator left right).evaluate (environment functions) focus).outcome =
            .ok .null) ∧
        (ComparesTrue (environment functions) focus left right .equal ↔
          ∃ text, first = .dateText text ∧ second = .dateText text)) := by
  refine ⟨fun first middle last plain => Doc.equals_trans plain, ?_⟩
  intro focus left right first second leftValue rightValue
  have different : (environment functions).boolean false ≠ (environment functions).boolean true :=
    nofun
  have present : (environment functions).null ≠ (environment functions).boolean true := nofun
  have holds (operator : Comparator) :=
    comparesTrue_iff_holds different present leftValue rightValue operator
  constructor
  · intro ordered
    have same : ComparesTrue (environment functions) focus left right = Comparator.Holds _ _ :=
      funext fun operator => propext (holds operator)
    rw [same]
    exact ordered.coherent
  · intro unordered
    constructor
    · intro operator asks
      have none : operator.verdict? ((environment functions).equals first second)
          ((environment functions).order? first second) = none :=
        (Comparator.verdict?_eq_none_iff ..).2 ⟨asks, unordered.order?_eq_none⟩
      rw [outcome_comparison leftValue rightValue, Binding.compared, none]
      rfl
    · rw [holds, Comparator.Holds, Comparator.verdict?, Option.some.injEq]
      exact unordered.equals_iff

theorem doc_equality_fits_order_noon :
    let dates : Doc := .list [.date 5, .date 7, .dateText "noon"]
    Doc.binding.equals (noon false false) (noon false true) = true ∧
      Comparator.Coherent
        (ComparesTrue (environment none) dates (index current 0) (index current 1)) ∧
      ((comparison .less (index current 0) (index current 2)).evaluate (environment none)
        dates).outcome = .ok .null ∧
      ComparesTrue (environment none) dates (index current 2) (index current (-1)) .equal := by
  intro dates
  obtain ⟨trans, compared⟩ := doc_equality_fits_order none
  have plain : Doc.accessors.Throughout IsPlain (noon true false) := by
    have unlisted : (Doc.dateText "noon").kind ≠ .array := nofun
    have unnamed : (Doc.dateText "noon").kind ≠ .object := nofun
    have text : Doc.accessors.Throughout IsPlain (.dateText "noon") :=
      (Doc.throughout_atom unlisted unnamed).2 trivial
    have zero : (Binary64.zero false).isNaN = false := by decide
    simp [noon, Doc.throughout_record, Doc.throughout_number, IsPlain, List.lookup_cons, text, zero]
  have first : ((index current 0).evaluate (environment none) dates).outcome = .ok (.date 5) := rfl
  have second : ((index current 1).evaluate (environment none) dates).outcome =
      .ok (.date 7) := rfl
  have third : ((index current 2).evaluate (environment none) dates).outcome =
      .ok (.dateText "noon") := rfl
  have last : ((index current (-1)).evaluate (environment none) dates).outcome =
      .ok (.dateText "noon") := rfl
  refine ⟨?_, ?_, ?_, ?_⟩
  · exact trans _ _ _ plain (equals_noon false false false) (equals_noon true false true)
  · exact (compared _ _ _ _ _ first second).1 (.dates 5 7)
  · exact ((compared _ _ _ _ _ first third).2 (.second 5 "noon")).1 .less (by decide)
  · exact ((compared _ _ _ _ _ third last).2 (.texts "noon" "noon")).2.2 ⟨"noon", rfl, rfl⟩

end Expr

end DocQuery
