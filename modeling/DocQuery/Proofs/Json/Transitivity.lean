import DocQuery.Json.Binding
import DocQuery.Proofs.Json.Equality
import DocQuery.Proofs.Json.Exact

/-! How far the equality of JSON documents is an equivalence.

It is reflexive and symmetric. Integers are compared exactly and all else as binary numbers, so one
binary number may equal two integers that differ. Where none stands between such integers, equality
is transitive, too.
-/

set_option autoImplicit false

namespace DocQuery.Json

/-- In one place of three values, a binary number stands between two conflated integers. -/
inductive Bridged : Json → Json → Json → Prop where
  | numbers {first last : Number} {value : Binary64} {finite : value.isFinite = true} :
      first.Conflated last → Bridged (number first) (number (.double value finite)) (number last)
  | element {x y z x' y' z' : Json} (position : Nat) : x.elements[position]? = some x' →
      y.elements[position]? = some y' → z.elements[position]? = some z' → Bridged x' y' z' →
      Bridged x y z
  | member {x y z x' y' z' : Json} (name : String) : x.members.lookup name = some x' →
      y.members.lookup name = some y' → z.members.lookup name = some z' → Bridged x' y' z' →
      Bridged x y z

theorem Bridged.sameValue_eq_false {x y z : Json} (bridged : Bridged x y z) :
    x.sameValue z = false := by
  rw [Bool.eq_false_iff]
  induction bridged with
  | numbers conflated =>
    obtain ⟨different, -⟩ := conflated
    exact fun same => different (eq_of_beq same)
  | element position found _ found' _ ih =>
    intro same
    have related := forall₂_getElem? (descendsTo_equalBy.elements same) position
    rw [found, found', Option.rel_some_some] at related
    exact ih related
  | member name found _ found' _ ih =>
    intro same
    have related := descendsTo_equalBy.members same name
    rw [found, found', Option.rel_some_some] at related
    exact ih related

-- Only integers beyond the size up to which all are binary numbers can be bridged.
theorem IsExact.not_bridged {x y z : Json} (unrounded : x.IsExact) (unrounded' : z.IsExact) :
    ¬ Bridged x y z := by
  intro bridged
  induction bridged with
  | numbers conflated =>
    exact (hasNumbers_number.1 unrounded).not_conflated (hasNumbers_number.1 unrounded') conflated
  | element position found _ found' _ ih =>
    exact ih ((hasNumbers_iff.1 unrounded).2.1 _ (List.mem_of_getElem? found))
      ((hasNumbers_iff.1 unrounded').2.1 _ (List.mem_of_getElem? found'))
  | member name found _ found' _ ih =>
    exact ih ((hasNumbers_iff.1 unrounded).2.2 _ (mem_of_lookup found))
      ((hasNumbers_iff.1 unrounded').2.2 _ (mem_of_lookup found'))

/-- Both values equal a third, and nothing between them is bridged. -/
def Linked (x z : Json) : Prop :=
  ∃ y : Json, x.sameValue y = true ∧ y.sameValue z = true ∧ ¬ Bridged x y z

theorem forall₂_linked {x z : Json} (linked : Linked x z) :
    List.Forall₂ Linked x.elements z.elements := by
  obtain ⟨y, same, same', unbridged⟩ := linked
  obtain ⟨length, related⟩ := List.forall₂_iff_get.1 (descendsTo_equalBy.elements same)
  obtain ⟨length', related'⟩ := List.forall₂_iff_get.1 (descendsTo_equalBy.elements same')
  refine List.forall₂_iff_get.2 ⟨length.trans length', fun position bound bound' => ?_⟩
  have between : position < y.elements.length := length ▸ bound
  refine ⟨y.elements.get ⟨position, between⟩, related _ _ _, related' _ _ _, fun bridged => ?_⟩
  exact unbridged (.element position (List.getElem?_eq_getElem bound)
    (List.getElem?_eq_getElem between) (List.getElem?_eq_getElem bound') bridged)

-- A bridge under one name would be a bridge of the whole.
theorem lookup_linked {x z : Json} (linked : Linked x z) (name : String) :
    Option.Rel Linked (x.members.lookup name) (z.members.lookup name) := by
  obtain ⟨y, same, same', unbridged⟩ := linked
  have related := descendsTo_equalBy.members same name
  have related' := descendsTo_equalBy.members same' name
  have unbridgedAt {x' y' z' : Json} (found : x.members.lookup name = some x')
      (found' : y.members.lookup name = some y') (found'' : z.members.lookup name = some z') :
      ¬ Bridged x' y' z' :=
    fun bridged => unbridged (.member name found found' found'' bridged)
  generalize x.members.lookup name = first, y.members.lookup name = middle,
    z.members.lookup name = last at related related' unbridgedAt
  cases related with
  | none =>
    cases related'
    exact .none
  | some head =>
    cases related' with
    | some tail => exact .some ⟨_, head, tail, unbridgedAt rfl rfl rfl⟩

theorem descendsTo_linked : DescendsTo Number.sameValue Linked where
  kind := fun ⟨_, same, same', _⟩ => (kind_of_equalBy same).trans (kind_of_equalBy same')
  boolean := by
    rintro flag flag' ⟨y, same, same', -⟩
    cases y using shapes with
    | boolean middle => exact (eq_of_beq same).trans (eq_of_beq same')
    | _ => cases same
  number := by
    rintro first last ⟨y, same, same', unbridged⟩
    cases y using shapes with
    | number middle =>
      obtain ⟨transitive, between⟩ := Number.sameValue_trans_iff same same'
      refine transitive.2 fun conflated => ?_
      obtain ⟨value, finite, rfl⟩ := between conflated
      exact unbridged (.numbers conflated)
    | _ => cases same
  string := by
    rintro text text' ⟨y, same, same', -⟩
    cases y using shapes with
    | string middle => exact (eq_of_beq same).trans (eq_of_beq same')
    | _ => cases same
  elements := forall₂_linked
  members := lookup_linked

/-- Equality is reflexive and symmetric, and values that equal a third are equal unless in one place
the third has a binary number between different integers. These are not both within `2 ^ 53` in
size. -/
theorem equals_transitive_iff :
    (∀ x, binding.equals x x = true) ∧
    (∀ x y, binding.equals x y = binding.equals y x) ∧
    (∀ x y z, binding.equals x y = true → binding.equals y z = true →
      (binding.equals x z = true ↔ ¬ Bridged x y z)) ∧
    (∀ x y z, x.IsExact → z.IsExact → ¬ Bridged x y z) := by
  refine ⟨equalBy_self fun value => Number.sameValue_of_sameForm value.sameForm_self,
    equalBy_comm Number.sameValue_comm, ?_, fun x y z => IsExact.not_bridged⟩
  intro x y z same same'
  constructor
  · intro equal bridged
    exact Bool.false_ne_true (bridged.sameValue_eq_false.symm.trans equal)
  · intro unbridged
    exact descendsTo_linked.equalBy ⟨y, same, same', unbridged⟩

def Number.lastExactDouble : Number := .double (.ofInt 0x20000000000000) (by decide +kernel)

def nested (first second : Number) : Json := .array [number first, .array [number second]]

theorem isExact_nested {first second : Number} (unrounded : first.IsExact)
    (unrounded' : second.IsExact) : (nested first second).IsExact := by
  simpa [nested, IsExact, hasNumbers_array, hasNumbers_number] using ⟨unrounded, unrounded'⟩

theorem equals_transitive_iff_nested :
    binding.equals (nested (.double (.zero true) rfl) .lastExact)
      (nested (.integer 0 (by decide) (by decide)) .lastExact) = true := by
  have first : binding.equals (nested (.double (.zero true) rfl) .lastExact)
      (nested (.double (.zero false) rfl) .lastExactDouble) = true := by
    decide +kernel
  have second : binding.equals (nested (.double (.zero false) rfl) .lastExactDouble)
      (nested (.integer 0 (by decide) (by decide)) .lastExact) = true := by
    decide +kernel
  apply (equals_transitive_iff.2.2.1 _ _ _ first second).2
  apply equals_transitive_iff.2.2.2
  · exact isExact_nested trivial ⟨by decide, by decide⟩
  · exact isExact_nested ⟨by decide, by decide⟩ ⟨by decide, by decide⟩

/-- `2 ^ 53 + 1` equals a binary number that equals `2 ^ 53`. -/
theorem equals_not_transitive : ¬ Equivalence fun x y => binding.equals x y = true := by
  intro equivalence
  have below : binding.equals (number .firstInexact) (number .lastExactDouble) = true := by
    decide +kernel
  have above : binding.equals (number .lastExactDouble) (number .lastExact) = true := by
    decide +kernel
  cases equivalence.trans below above

end DocQuery.Json
