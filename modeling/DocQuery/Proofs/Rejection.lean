import DocQuery.Json.Binding
import DocQuery.Proofs.Signature
import DocQuery.Proofs.Text.Legible

/-! What a rejected argument is reported to be, and what it is reported to have to be.

The first word of either text tells what kind of thing it is about. Where both are about arrays they
go on with lists of kinds, which can be read back from the text. So the texts could only be the same
if the parameter accepted the argument.
-/

set_option autoImplicit false

namespace DocQuery

open DocQuery.Text

variable {V : Type}

namespace Kind

def arrayText (kinds : List Kind) : String :=
  "array[" ++ alternatives kinds ++ "]"

/-- A text says of an array that a kind is among the kinds of its elements. -/
def NamedIn (text : String) (kind : Kind) : Prop :=
  ∃ kinds, text = arrayText kinds ∧ kind ∈ kinds

theorem name_injective {first second : Kind} (same : first.name = second.name) :
    first = second := by
  apply Option.some.inj
  rw [← ofName?_name first, same, ofName?_name]

theorem isLower_of_mem_name (kind : Kind) : ∀ c ∈ kind.name.toList, c.isLower = true := by
  cases kind <;> exact List.all_eq_true.1 rfl

theorem toList_name_ne_nil (kind : Kind) : kind.name.toList ≠ [] := by
  cases kind <;> decide

theorem toList_name_ne_expression (kind : Kind) : kind.name.toList ≠ "expression".toList := by
  cases kind <;> decide

theorem legible_name (kind : Kind) :
    Legible Char.isLower (fun kind : Kind => kind.name.toList) kind :=
  legible_word isLower_of_mem_name fun _ same => name_injective (String.toList_inj.1 same)

theorem name_opens (kind : Kind) :
    ∃ first rest, kind.name.toList = first :: rest ∧ first ≠ ']' := by
  cases kind <;> exact ⟨_, _, rfl, by decide⟩

theorem toList_alternatives (kinds : List Kind) :
    (alternatives kinds).toList =
      List.intercalate (' ' :: ['o', 'r', ' ']) (kinds.map fun kind => kind.name.toList) := by
  rw [alternatives, String.toList_intercalate, List.map_map]
  rfl

theorem toList_arrayText (kinds : List Kind) :
    (arrayText kinds).toList =
      "array[".toList ++ ((alternatives kinds).toList ++ ']' :: []) := by
  rw [arrayText, String.toList_append, String.toList_append, List.append_assoc]
  rfl

/-- The kinds that a text names can be read back, with their order and their repetitions. -/
theorem arrayText_injective {kinds kinds' : List Kind} (same : arrayText kinds = arrayText kinds') :
    kinds = kinds' := by
  have letters := congrArg String.toList same
  rw [toList_arrayText, toList_arrayText, List.append_right_inj, toList_alternatives,
    toList_alternatives] at letters
  have space : Char.isLower ' ' = false := rfl
  have bracket : Char.isLower ']' = false := rfl
  exact (separated_unique space bracket (by decide) (fun kind _ => legible_name kind) name_opens
    letters).1

theorem namedIn_arrayText_iff {kinds : List Kind} {kind : Kind} :
    NamedIn (arrayText kinds) kind ↔ kind ∈ kinds := by
  constructor
  · rintro ⟨kinds', same, member⟩
    rwa [arrayText_injective same]
  · exact fun member => ⟨kinds, rfl, member⟩

theorem distinct_congr {kinds kinds' : List Kind} (same : ∀ kind, kind ∈ kinds ↔ kind ∈ kinds') :
    distinct kinds = distinct kinds' := by
  rw [distinct_eq_filter, distinct_eq_filter]
  apply List.filter_congr
  intro kind _
  rw [Bool.eq_iff_iff, List.contains_iff_mem, List.contains_iff_mem, same]

end Kind

def leadingWord (text : String) : List Char :=
  text.toList.takeWhile Char.isLower

theorem leadingWord_name_append (kind : Kind) {rest : String}
    (interrupts : Interrupts Char.isLower rest.toList) :
    leadingWord (kind.name ++ rest) = kind.name.toList := by
  rw [leadingWord, String.toList_append]
  exact takeWhile_word kind.isLower_of_mem_name interrupts

theorem leadingWord_name (kind : Kind) : leadingWord kind.name = kind.name.toList := by
  have ends : Interrupts Char.isLower "".toList := interrupts_nil
  have alone := leadingWord_name_append kind ends
  rwa [String.append_empty] at alone

theorem leadingWord_arrayText (kinds : List Kind) :
    leadingWord (Kind.arrayText kinds) = Kind.array.name.toList := by
  have opens : Kind.arrayText kinds =
      Kind.array.name ++ ("[" ++ Kind.alternatives kinds ++ "]") := by
    rw [Kind.arrayText, String.append_assoc, ← String.append_assoc]
    rfl
  rw [opens]
  apply leadingWord_name_append
  rw [String.append_assoc, String.toList_append]
  exact interrupts_cons rfl _

theorem leadingWord_alternatives (kind : Kind) (rest : List Kind) :
    leadingWord (Kind.alternatives (kind :: rest)) = kind.name.toList := by
  rw [leadingWord, Kind.toList_alternatives, List.map_cons, intercalate_cons]
  apply takeWhile_word kind.isLower_of_mem_name
  cases rest with
  | nil => exact interrupts_nil
  | cons next rest => exact interrupts_cons rfl _

def Accessors.HasElement (accessors : Accessors V) (array : V) (kind : Kind) : Prop :=
  ∃ element ∈ accessors.elements array, accessors.kindOf element = kind

/-- A text says of an array which kinds of elements it has: each of them once, in the order of
kinds. -/
structure Accessors.ReportedAs (accessors : Accessors V) (array : V) (text : String) : Prop where
  empty : accessors.elements array = [] → text = "array"
  listed : accessors.elements array ≠ [] →
    ∃ kinds, text = Kind.arrayText kinds ∧
      kinds.Pairwise (fun first second => first.rank < second.rank) ∧
      ∀ kind, kind ∈ kinds ↔ accessors.HasElement array kind

section

variable {binding : Binding V} {value : V} (isArray : binding.isArray = binding.toAccessors.isArray)

include isArray

namespace Argument

theorem description_of_array (kind : binding.kindOf value = .array) :
    (Argument.value value).description binding =
      match Kind.distinct ((binding.elements value).map binding.kindOf) with
      | [] => "array"
      | found => Kind.arrayText found := by
  rw [description, isArray, Accessors.isArray, kind]
  rfl

theorem description_of_empty (kind : binding.kindOf value = .array)
    (empty : binding.elements value = []) :
    (Argument.value value).description binding = "array" := by
  rw [description_of_array isArray kind, empty, Kind.distinct_eq_filter]
  rfl

theorem description_of_elements (kind : binding.kindOf value = .array)
    (inhabited : binding.elements value ≠ []) :
    (Argument.value value).description binding =
      Kind.arrayText (Kind.distinct ((binding.elements value).map binding.kindOf)) := by
  have found : Kind.distinct ((binding.elements value).map binding.kindOf) ≠ [] := by
    obtain ⟨first, rest, elements⟩ := List.exists_cons_of_ne_nil inhabited
    refine List.ne_nil_of_mem (a := binding.kindOf first) ?_
    rw [Kind.mem_distinct, elements]
    exact List.mem_cons_self
  rw [description_of_array isArray kind]
  split
  · next none => exact absurd none found
  · rfl

theorem reportedAs_description (kind : binding.kindOf value = .array) :
    binding.ReportedAs value ((Argument.value value).description binding) := by
  refine ⟨description_of_empty isArray kind, fun inhabited => ?_⟩
  refine ⟨_, description_of_elements isArray kind inhabited, Kind.ascending_distinct _, ?_⟩
  intro kind
  rw [Kind.mem_distinct, List.mem_map]
  rfl

theorem description_congr {other : V} (kind : binding.kindOf value = .array)
    (kind' : binding.kindOf other = .array)
    (same : ∀ kind, binding.HasElement other kind ↔ binding.HasElement value kind) :
    (Argument.value other).description binding = (Argument.value value).description binding := by
  have kinds : Kind.distinct ((binding.elements other).map binding.kindOf) =
      Kind.distinct ((binding.elements value).map binding.kindOf) := by
    apply Kind.distinct_congr
    intro kind
    rw [List.mem_map, List.mem_map]
    exact same kind
  rw [description_of_array isArray kind, description_of_array isArray kind', kinds]

variable (kindName : binding.kindName = binding.toAccessors.kindName)

include kindName

theorem description_of_kind_ne (kind : binding.kindOf value ≠ .array) :
    (Argument.value value).description binding = (binding.kindOf value).name := by
  rw [description, isArray, Accessors.isArray, beq_false_of_ne kind, kindName]
  rfl

theorem leadingWord_description (value : V) :
    leadingWord ((Argument.value value).description binding) =
      (binding.kindOf value).name.toList := by
  by_cases kind : binding.kindOf value = .array
  · rw [kind]
    by_cases empty : binding.elements value = []
    · rw [description_of_empty isArray kind empty]
      exact leadingWord_name .array
    · rw [description_of_elements isArray kind empty]
      exact leadingWord_arrayText _
  · rw [description_of_kind_ne isArray kindName kind]
    exact leadingWord_name _

end Argument

namespace Parameter

theorem exists_element_of_rejected {accepted : List Kind} (kind : binding.kindOf value = .array)
    (rejected : (arrayOf accepted).accepts binding (.value value) = false) :
    ∃ element ∈ binding.elements value, binding.kindOf element ∉ accepted := by
  rw [accepts, isArray, Accessors.isArray, kind, BEq.rfl, Bool.true_and,
    List.all_eq_false] at rejected
  simpa using rejected

theorem exists_named_of_rejected {accepted : List Kind} (kind : binding.kindOf value = .array)
    (rejected : (arrayOf accepted).accepts binding (.value value) = false) :
    ∃ kind, Kind.NamedIn ((Argument.value value).description binding) kind ∧
      ¬ Kind.NamedIn (arrayOf accepted).text kind := by
  obtain ⟨element, member, other⟩ := exists_element_of_rejected isArray kind rejected
  refine ⟨binding.kindOf element, ?_, fun named => other (Kind.namedIn_arrayText_iff.1 named)⟩
  rw [Argument.description_of_elements isArray kind (List.ne_nil_of_mem member),
    Kind.namedIn_arrayText_iff, Kind.mem_distinct]
  exact List.mem_map_of_mem member

variable (kindName : binding.kindName = binding.toAccessors.kindName)

include kindName

/-- What is rejected is not described as what is asked for. -/
theorem text_ne_description {parameter : Parameter} {argument : Argument V}
    (rejected : parameter.accepts binding argument = false) :
    parameter.text ≠ argument.description binding := by
  intro same
  have words := congrArg leadingWord same
  cases argument with
  | expression given =>
    have word : leadingWord "expression" = "expression".toList := rfl
    rw [Argument.description, word] at words
    cases parameter with
    | any => cases words
    | kinds accepted => cases accepted with
      | nil => cases words
      | cons kind rest =>
        exact kind.toList_name_ne_expression ((leadingWord_alternatives kind rest).symm.trans words)
    | arrayOf accepted =>
      exact Kind.array.toList_name_ne_expression ((leadingWord_arrayText accepted).symm.trans words)
    | expression => cases rejected
  | value given =>
    rw [Argument.leadingWord_description isArray kindName] at words
    cases parameter with
    | any => cases rejected
    | kinds accepted => cases accepted with
      | nil => exact absurd words.symm (Kind.toList_name_ne_nil _)
      | cons kind rest =>
        rw [text, leadingWord_alternatives, String.toList_inj] at words
        rw [accepts, ← Kind.name_injective words] at rejected
        simp at rejected
    | arrayOf accepted =>
      rw [text] at words
      have kind := Kind.name_injective (String.toList_inj.1
        ((leadingWord_arrayText accepted).symm.trans words))
      obtain ⟨named, present, missing⟩ := exists_named_of_rejected isArray kind.symm rejected
      exact missing (same ▸ present)
    | expression => exact Kind.toList_name_ne_expression _ words.symm

end Parameter

end

namespace Signature

/-- The text of what was expected is not that of what was there. An array is reported by the kinds
of its elements, each once and in order, and the kinds alone decide the report. If the parameter
asks for an array of certain kinds, the report of an array names another one. -/
theorem validate_reports_difference {binding : Binding V}
    (isArray : binding.isArray = binding.toAccessors.isArray)
    (kindName : binding.kindName = binding.toAccessors.kindName) {signature : Signature}
    {name reported : String} {arguments : List (Argument V)} {position : Nat}
    {expected actual : String}
    (failure : signature.validate name binding arguments =
      .error (.invalidArgument reported position expected actual)) :
    expected ≠ actual ∧
      ∃ index parameter argument, position = index + 1 ∧ arguments[index]? = some argument ∧
        signature.parameter? index = some parameter ∧
        parameter.accepts binding argument = false ∧
        ∀ array, argument = .value array → binding.kindOf array = .array →
          binding.ReportedAs array actual ∧
          (∀ other, binding.kindOf other = .array →
            (∀ kind, binding.HasElement other kind ↔ binding.HasElement array kind) →
            (Argument.value other).description binding = actual) ∧
          ∀ accepted, parameter = .arrayOf accepted →
            ∃ kind, Kind.NamedIn actual kind ∧ ¬ Kind.NamedIn expected kind := by
  rcases validate_error failure with ⟨-, same⟩ | ⟨index, parameter, argument, present, asked,
    rejected, same⟩
  · cases same
  cases same
  rw [Nat.zero_add] at asked ⊢
  refine ⟨Parameter.text_ne_description isArray kindName rejected, index, parameter, argument, rfl,
    present, asked, rejected, ?_⟩
  rintro array rfl kind
  refine ⟨Argument.reportedAs_description isArray kind, ?_, ?_⟩
  · exact fun other kind' same => Argument.description_congr isArray kind kind' same
  · rintro accepted rfl
    exact Parameter.exists_named_of_rejected isArray kind rejected

theorem validate_reports_difference_mixed :
    let given := [Argument.value (Json.array [.string "b", .null, .ofNat 1, .string "a"])]
    (Signature.exact [.arrayOf [.null, .number, .null]]).validate "total" Json.binding given =
        .error (.invalidArgument "total" 1 "array[null or number or null]"
          "array[number or string or null]") ∧
      "array[null or number or null]" ≠ "array[number or string or null]" ∧
      ∃ kind, Kind.NamedIn "array[number or string or null]" kind ∧
        ¬ Kind.NamedIn "array[null or number or null]" kind := by
  intro given
  have described : (Argument.value (Json.array [.string "b", .null, .ofNat 1,
      .string "a"])).description Json.binding = "array[number or string or null]" := by
    rw [Argument.description_of_array rfl rfl, Kind.distinct_eq_filter]
    rfl
  have failure : (Signature.exact [.arrayOf [.null, .number, .null]]).validate "total" Json.binding
      given = .error (.invalidArgument "total" 1 "array[null or number or null]"
        "array[number or string or null]") := by
    rw [← described]
    rfl
  obtain ⟨different, index, parameter, argument, position, present, asked, -, report⟩ :=
    validate_reports_difference rfl rfl failure
  cases position
  cases present
  cases asked
  exact ⟨failure, different, (report _ rfl rfl).2.2 _ rfl⟩

end Signature

end DocQuery
