import DocQuery.Doc.Binding
import DocQuery.Json.Binding
import DocQuery.Proofs.Doc.Conversion
import DocQuery.Proofs.Eval.Congruence
import DocQuery.Proofs.Simulation.Evaluation

/-! A query on a JSON document and on the document that it is converted to.

Objects are built in different ways: in JSON a later member replaces an earlier one of its name, and
elsewhere both are kept. Integers are compared in different ways, too. Where neither makes a
difference, the query may as well be evaluated first and its result converted.
-/

set_option autoImplicit false

namespace DocQuery

open Classical in
/-- The environment in which null stands for objects of repeated names and for constants with
integers that are rounded. -/
noncomputable def Environment.guarded {V : Type} (environment : Environment V) : Environment V :=
  environment.replace
    (fun members =>
      if (members.map Prod.fst).Nodup then environment.object members else environment.null)
    (fun constant => if constant.IsExact then environment.ofJson constant else environment.null)
    environment.functions

namespace Expr

/-- If the expression builds an object, it does not repeat a key. -/
def HasDistinctKeys : Expr → Prop
  | .multiSelectHash entries => (entries.map Prod.fst).Nodup
  | _ => True

/-- If the expression is a constant, no integer in it is rounded. -/
def HasExactConstant : Expr → Prop
  | .literal value => value.IsExact
  | _ => True

variable {V : Type} {environment : Environment V} {expression : Expr}

theorem evaluate_guarded (uncallable : ∀ name, environment.function? name = none)
    (keys : expression.Throughout HasDistinctKeys)
    (literals : expression.Throughout HasExactConstant) (focus : V) :
    expression.evaluate environment.guarded focus = expression.evaluate environment focus := by
  apply evaluate_replace
  · intro value within
    exact if_pos (literals _ within)
  · intro entries within members names
    exact if_pos (names ▸ keys _ within)
  · intro name arguments _ focus given _ _
    rw [Environment.apply_of_unknown (uncallable name)]
    exact Environment.apply_of_unknown (uncallable name)

end Expr

-- A JSON value without integers that are rounded, and what it is converted to.
def Converts (value : Json) (converted : Doc) : Prop :=
  value.IsExact ∧ Doc.binding.ofJson value = converted

namespace Converts

variable {value value' : Json} {converted converted' : Doc}

theorem ofJson (unrounded : value.IsExact) : Converts value (Doc.binding.ofJson value) :=
  ⟨unrounded, rfl⟩

theorem null : Converts .null .null := ofJson Json.hasNumbers_null

theorem forall₂_iff {values : List Json} {values' : List Doc} :
    List.Forall₂ Converts values values' ↔
      (∀ value ∈ values, value.IsExact) ∧ values.map Doc.binding.ofJson = values' :=
  forall₂_image_iff

theorem forall₂_members_iff {members : List (String × Json)} {members' : List (String × Doc)} :
    List.Forall₂ (MemberRelated Converts) members members' ↔
      (∀ member ∈ members, member.2.IsExact) ∧
        members.map (fun member => (member.1, Doc.binding.ofJson member.2)) = members' := by
  rw [← forall₂_image_iff]
  apply forall₂_congr_of_mem
  rintro ⟨name, value⟩ _ ⟨name', value'⟩ _
  rw [MemberRelated, Converts, Prod.mk.injEq]
  exact and_left_comm

theorem elements (converts : Converts value converted) :
    List.Forall₂ Converts value.elements converted.elements := by
  obtain ⟨unrounded, rfl⟩ := converts
  exact forall₂_iff.2 ⟨(Json.hasNumbers_iff.1 unrounded).2.1, (Doc.elements_ofJson value).symm⟩

theorem propertyValues (converts : Converts value converted) :
    List.Forall₂ Converts (Json.binding.propertyValues value)
      (Doc.binding.propertyValues converted) := by
  obtain ⟨unrounded, rfl⟩ := converts
  refine forall₂_iff.2 ⟨?_, (Doc.propertyValues_ofJson value).symm⟩
  exact List.forall_mem_map.2 (Json.hasNumbers_iff.1 unrounded).2.2

theorem getD {found : Option Json} {found' : Option Doc}
    (related : Option.Rel Converts found found') :
    Converts (found.getD .null) (found'.getD .null) := by
  cases related with
  | none => exact null
  | some converts => exact converts

theorem property (converts : Converts value converted) (name : String) :
    Converts (value.property name) (converted.property name) := by
  obtain ⟨unrounded, rfl⟩ := converts
  rw [Doc.property_ofJson]
  apply ofJson
  rw [Json.property]
  cases found : value.members.lookup name with
  | none => exact Json.hasNumbers_null
  | some part => exact (Json.hasNumbers_iff.1 unrounded).2.2 _ (mem_of_lookup found)

theorem kind (converts : Converts value converted) : value.kind = converted.kind := by
  obtain ⟨-, rfl⟩ := converts
  exact (Doc.kind_ofJson value).symm

theorem array {values : List Json} {values' : List Doc}
    (related : List.Forall₂ Converts values values') :
    Converts (.array values) (.list values') := by
  obtain ⟨unrounded, rfl⟩ := forall₂_iff.1 related
  exact ⟨Json.hasNumbers_array.2 unrounded, Doc.constructors.ofJson_array values⟩

theorem object {members : List (String × Json)} {members' : List (String × Doc)}
    (related : List.Forall₂ (MemberRelated Converts) members members')
    (distinct : (members.map Prod.fst).Nodup) :
    Converts (.ofMembers members) (.record members') := by
  obtain ⟨unrounded, rfl⟩ := forall₂_members_iff.1 related
  rw [Json.ofMembers_of_nodup distinct]
  exact ⟨Json.hasNumbers_object.2 unrounded, Doc.constructors.ofJson_object members distinct⟩

end Converts

theorem similar_guarded (functions : Option (Registry Doc)) :
    Binding.Similar Converts Json.plainEnvironment.guarded.toBinding
      (Doc.environment functions).guarded.toBinding where
  kindOf := Converts.kind
  elements := Converts.elements
  property := Converts.property
  null := .null
  boolean flag := .ofJson (Json.hasNumbers_boolean flag)
  array := .array
  object {members members'} related := by
    change Converts (if (members.map Prod.fst).Nodup then _ else _)
      (if (members'.map Prod.fst).Nodup then _ else _)
    rw [← names_of_forall₂ related]
    split
    · next distinct => exact .object related distinct
    · exact .null
  equals first second := by
    obtain ⟨unrounded, rfl⟩ := first
    obtain ⟨unrounded', rfl⟩ := second
    exact (Doc.equals_ofJson unrounded unrounded').symm
  isArray converts := congrArg (· == .array) converts.kind
  isObject converts := congrArg (· == .object) converts.kind
  isNull converts := congrArg (· == .null) converts.kind
  kindName converts := congrArg Kind.name converts.kind
  arrayLength converts := (Json.arrayLength_eq _).trans converts.elements.length_eq
  isTruthy converts := by
    obtain ⟨-, rfl⟩ := converts
    exact (Doc.isTruthy_ofJson _).symm
  elementAt {value _} converts position := by
    change Converts ((value.get? position).getD Json.null) _
    rw [Json.get?_eq]
    exact .getD (forall₂_getElem? converts.elements position)
  compare? first second := by
    obtain ⟨-, rfl⟩ := first
    obtain ⟨-, rfl⟩ := second
    exact (Doc.compare?_ofJson _ _).symm

theorem converts_constant (functions : Option (Registry Doc)) (constant : Json) :
    Converts (Json.plainEnvironment.guarded.ofJson constant)
      ((Doc.environment functions).guarded.ofJson constant) := by
  simp only [Environment.guarded, Environment.replace]
  split
  · next unrounded => exact .ofJson unrounded
  · exact .null

namespace Expr

variable {functions : Option (Registry Doc)} {expression : Expr} {document : Json}

/-- A document may be converted before a query or after it, if the query repeats no key in an object
that it builds, neither has an integer that is rounded, and no function can be called. -/
theorem evaluate_ofJson (unregistered : functions = none ∨ functions = some .empty)
    (keys : expression.Throughout HasDistinctKeys)
    (literals : expression.Throughout HasExactConstant) (unrounded : document.IsExact) :
    (expression.evaluate (Doc.environment functions) (Doc.binding.ofJson document)).outcome =
      Doc.binding.ofJson <$> (expression.evaluate Json.plainEnvironment document).outcome := by
  have uncallable (name : String) : (Doc.environment functions).function? name = none := by
    obtain rfl | rfl := unregistered <;> rfl
  have layered : Layered Eq Eq := layered_eq fun _ => rfl
  have simulated : expression.Simulated Converts Json.plainEnvironment.guarded
      (Doc.environment functions).guarded expression := by
    apply layered.simulated (similar_guarded functions) ?_ rfl (.inr Converts.propertyValues)
    · intro name arguments _
      have unknown : (Doc.environment functions).guarded.function? name = none := uncallable name
      rw [Environment.SimilarAt, unknown]
      exact .none
    · rintro constant _ rfl
      exact converts_constant functions constant
  have agree := simulated document (Doc.binding.ofJson document) (.ofJson unrounded)
  rw [evaluate_guarded (fun _ => rfl) keys literals, evaluate_guarded uncallable keys literals]
    at agree
  generalize (expression.evaluate Json.plainEnvironment document).outcome = first,
    (expression.evaluate (Doc.environment functions) (Doc.binding.ofJson document)).outcome = second
    at agree ⊢
  cases agree with
  | ok converts => exact congrArg Except.ok converts.2.symm
  | error error => rfl

def summary : Expr :=
  listProjection (field current "items") (multiSelectHash
    [("last", comparison .equal (field current "number") (literal (.number .lastExact))),
      ("first", index (field current "labels") 0)])

def labelled : Json :=
  .object [("items", .array [
    .object [("number", .number (.integer (-1) (by decide) (by decide))),
      ("labels", .array [.string "a", .string "b"])] (by decide),
    .object [("number", .number .lastExact), ("labels", .array [])] (by decide)])] (by decide)

theorem evaluate_ofJson_summary :
    (summary.evaluate (Doc.environment none) (Doc.binding.ofJson labelled)).outcome =
      .ok (.list [.record [("last", .boolean false), ("first", .string "a")],
        .record [("last", .boolean true), ("first", .null)]]) := by
  rw [evaluate_ofJson (.inl rfl)]
  · rfl
  · simp [summary, throughout_iff, children, HasDistinctKeys]
  · simp [summary, throughout_iff, children, HasExactConstant, Json.IsExact,
      Json.hasNumbers_number, Json.Number.IsExact, Json.Number.lastExact,
      Json.Number.greatestExact]
  · simp [labelled, Json.IsExact, Json.hasNumbers_object, Json.hasNumbers_array,
      Json.hasNumbers_number, Json.hasNumbers_string, Json.Number.IsExact, Json.Number.lastExact,
      Json.Number.greatestExact]

end Expr

end DocQuery
