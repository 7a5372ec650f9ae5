import Mathlib.Data.List.Forall2
import DocQuery.Json.Binding
import DocQuery.Proofs.Signature

/-! Which lists of arguments a declared signature accepts.

There are three ways to declare a signature. Whichever it is, there is a parameter for every
argument of an admitted number, unless any number of any arguments is admitted, so that no argument
goes unchecked.
-/

set_option autoImplicit false

namespace DocQuery.Signature

variable {V : Type}

inductive Declared : Signature → Prop where
  | exact (parameters : List Parameter) : Declared (.exact parameters)
  | variadic (parameters : List Parameter) : Declared (.variadic parameters)
  | withOptional (parameters : List Parameter) (required : Nat) :
      Declared (.withOptional parameters required)

/-- The number of arguments is between the least and the greatest. -/
def Counts (signature : Signature) (count : Nat) : Prop :=
  signature.minArity ≤ count ∧ ∀ greatest, signature.maxArity = some greatest → count ≤ greatest

inductive AcceptsAt (signature : Signature) (binding : Binding V) (position : Nat)
    (argument : Argument V) : Prop where
  | listed {parameter : Parameter} : signature.parameters[position]? = some parameter →
      parameter.accepts binding argument = true → AcceptsAt signature binding position argument
  /-- The last parameter stands for all further ones. -/
  | further {parameter : Parameter} : signature.maxArity = none →
      signature.parameters.length ≤ position → signature.parameters.getLast? = some parameter →
      parameter.accepts binding argument = true → AcceptsAt signature binding position argument
  /-- Nothing is asked without a limit and without parameters. -/
  | anything : signature.maxArity = none → signature.parameters = [] →
      AcceptsAt signature binding position argument

/-- An argument that is not accepted, where all before it are. -/
structure FirstRejected (signature : Signature) (binding : Binding V)
    (arguments : List (Argument V)) (index : Nat) (argument : Argument V) : Prop where
  present : arguments[index]? = some argument
  rejected : ¬ signature.AcceptsAt binding index argument
  accepted : ∀ earlier < index, ∀ other, arguments[earlier]? = some other →
    signature.AcceptsAt binding earlier other

variable {signature : Signature} {name : String} {binding : Binding V}
  {arguments : List (Argument V)} {argument : Argument V}

theorem admitsCount_iff {count : Nat} :
    signature.admitsCount count = true ↔ signature.Counts count := by
  rw [admitsCount, Counts, Bool.and_eq_true, decide_eq_true_iff]
  cases signature.maxArity with
  | none => simp
  | some greatest => simp

theorem parameter?_of_listed {position : Nat} {parameter : Parameter}
    (listed : signature.parameters[position]? = some parameter) :
    signature.parameter? position = some parameter := by
  rw [parameter?, listed]

theorem parameter?_of_length_le {position : Nat}
    (beyond : signature.parameters.length ≤ position) :
    signature.parameter? position =
      if signature.maxArity.isNone then signature.parameters.getLast? else none := by
  rw [parameter?, List.getElem?_eq_none beyond]

theorem acceptsAt_iff_of_parameter {position : Nat} {parameter : Parameter}
    (expected : signature.parameter? position = some parameter) :
    signature.AcceptsAt binding position argument ↔
      parameter.accepts binding argument = true := by
  constructor
  · intro accepted
    cases accepted with
    | listed listed accepts =>
      cases expected.symm.trans (parameter?_of_listed listed)
      exact accepts
    | further unlimited beyond last accepts =>
      rw [parameter?_of_length_le beyond, unlimited] at expected
      cases expected.symm.trans last
      exact accepts
    | anything unlimited empty =>
      rw [parameter?_of_length_le (by simp [empty]), unlimited, empty] at expected
      cases expected
  · intro accepts
    rcases Nat.lt_or_ge position signature.parameters.length with before | beyond
    · have listed := List.getElem?_eq_getElem before
      cases expected.symm.trans (parameter?_of_listed listed)
      exact .listed listed accepts
    · rw [parameter?_of_length_le beyond] at expected
      cases unlimited : signature.maxArity with
      | none =>
        rw [unlimited] at expected
        exact .further unlimited beyond expected accepts
      | some greatest =>
        rw [unlimited] at expected
        cases expected

/-- A declared signature has a parameter for every argument of an admitted number, or none at all
and no limit. -/
theorem Declared.unspecified (declared : signature.Declared) {count position : Nat}
    (counts : signature.Counts count) (before : position < count)
    (missing : signature.parameter? position = none) :
    signature.maxArity = none ∧ signature.parameters = [] := by
  have beyond : signature.parameters.length ≤ position := by
    by_contra inside
    cases (parameter?_of_listed (List.getElem?_eq_getElem (Nat.not_le.1 inside))).symm.trans missing
  cases declared with
  | exact parameters | withOptional parameters required =>
    have limit := counts.2 parameters.length rfl
    exact absurd (Nat.lt_of_lt_of_le before limit) (Nat.not_lt.2 beyond)
  | variadic parameters =>
    rw [parameter?_of_length_le beyond] at missing
    exact ⟨rfl, List.getLast?_eq_none_iff.1 missing⟩

theorem Declared.admits_iff (declared : signature.Declared) {count position : Nat}
    (counts : signature.Counts count) (before : position < count) :
    signature.Admits binding position argument ↔
      signature.AcceptsAt binding position argument := by
  cases expected : signature.parameter? position with
  | some parameter => simp [Admits, expected, acceptsAt_iff_of_parameter expected]
  | none =>
    obtain ⟨unlimited, empty⟩ := declared.unspecified counts before expected
    refine iff_of_true ?_ (.anything unlimited empty)
    simp [Admits, expected]

theorem checkFrom_eq_ok_iff {start : Nat} :
    signature.checkFrom name binding start arguments = .ok () ↔
      ∀ index argument, arguments[index]? = some argument →
        signature.Admits binding (start + index) argument := by
  induction arguments generalizing start with
  | nil => simp [checkFrom]
  | cons first rest ih =>
    have shifted (index : Nat) : start + (index + 1) = start + 1 + index := by omega
    by_cases admits : signature.Admits binding start first
    · rw [checkFrom_of_admits admits, ih]
      constructor
      · rintro others (_ | index) argument found
        · cases found
          exact admits
        · rw [shifted]
          exact others index argument found
      · intro all index argument found
        rw [← shifted]
        exact all (index + 1) argument found
    · refine iff_of_false ?_ fun all => admits (all 0 first rfl)
      simp only [Admits, not_forall, Bool.not_eq_true] at admits
      obtain ⟨parameter, expected, rejected⟩ := admits
      rw [checkFrom_of_rejected expected rejected]
      intro same
      cases same

theorem validate_eq_ok_iff :
    signature.validate name binding arguments = .ok () ↔ signature.Counts arguments.length ∧
      ∀ index argument, arguments[index]? = some argument →
        signature.Admits binding index argument := by
  rw [← admitsCount_iff]
  cases counted : signature.admitsCount arguments.length with
  | false =>
    rw [validate_of_not_admitsCount counted]
    exact iff_of_false nofun nofun
  | true =>
    rw [validate_of_admitsCount counted, checkFrom_eq_ok_iff]
    simp only [Nat.zero_add, true_and]

-- Only the parameters up to the number of arguments matter.
theorem validate_congr {other : Signature}
    (counted : signature.Counts arguments.length ↔ other.Counts arguments.length)
    (same : ∀ position < arguments.length,
      signature.parameter? position = other.parameter? position) :
    signature.validate name binding arguments = .ok () ↔
      other.validate name binding arguments = .ok () := by
  rw [validate_eq_ok_iff, validate_eq_ok_iff, counted]
  refine and_congr_right fun _ => forall₂_congr fun index argument => ?_
  refine forall_congr' fun found => ?_
  rw [Admits, Admits, same index (List.getElem?_eq_some_iff.1 found).1]

theorem Declared.validate_eq_ok_iff (declared : signature.Declared) :
    signature.validate name binding arguments = .ok () ↔ signature.Counts arguments.length ∧
      ∀ index argument, arguments[index]? = some argument →
        signature.AcceptsAt binding index argument := by
  rw [Signature.validate_eq_ok_iff]
  refine and_congr_right fun counts => forall₂_congr fun index argument => ?_
  refine forall_congr' fun found => declared.admits_iff counts ?_
  exact (List.getElem?_eq_some_iff.1 found).1

theorem Declared.rejectsFirst_iff (declared : signature.Declared)
    (counts : signature.Counts arguments.length) {index : Nat} {parameter : Parameter} :
    signature.RejectsFirst binding 0 arguments index parameter argument ↔
      signature.FirstRejected binding arguments index argument ∧
        signature.parameter? index = some parameter := by
  have admits_iff {position : Nat} {other : Argument V}
      (found : arguments[position]? = some other) :
      signature.Admits binding (0 + position) other ↔
        signature.AcceptsAt binding position other := by
    rw [Nat.zero_add]
    exact declared.admits_iff counts (List.getElem?_eq_some_iff.1 found).1
  constructor
  · rintro ⟨present, expected, rejected, admitted⟩
    rw [Nat.zero_add] at expected
    refine ⟨⟨present, ?_, ?_⟩, expected⟩
    · rw [acceptsAt_iff_of_parameter expected, rejected]
      exact Bool.false_ne_true
    · intro earlier before other found
      exact (admits_iff found).1 (admitted earlier before other found)
  · rintro ⟨⟨present, rejected, accepted⟩, expected⟩
    refine ⟨present, (Nat.zero_add index).symm ▸ expected, ?_, ?_⟩
    · rwa [acceptsAt_iff_of_parameter expected, Bool.not_eq_true] at rejected
    · intro earlier before other found
      exact (admits_iff found).2 (accepted earlier before other found)

theorem Declared.validate_eq_error_iff (declared : signature.Declared) {error : EvalError} :
    signature.validate name binding arguments = .error error ↔
      (¬ signature.Counts arguments.length ∧
        error = .invalidArity name signature.arityText arguments.length) ∨
      (signature.Counts arguments.length ∧ ∃ index parameter argument,
        signature.FirstRejected binding arguments index argument ∧
        signature.parameter? index = some parameter ∧
        error = .invalidArgument name (index + 1) parameter.text
          (argument.description binding)) := by
  by_cases counts : signature.Counts arguments.length
  · rw [validate_of_admitsCount (admitsCount_iff.2 counts)]
    simp only [counts, not_true, false_and, false_or, true_and]
    constructor
    · intro failure
      obtain accepted | ⟨index, parameter, argument, rejects⟩ :=
        checkFrom_eq_ok_or_rejectsFirst 0 arguments
      · cases accepted.symm.trans failure
      · obtain ⟨first, expected⟩ := (declared.rejectsFirst_iff counts).1 rejects
        rw [rejects.checkFrom_eq, Nat.zero_add] at failure
        cases failure
        exact ⟨index, parameter, argument, first, expected, rfl⟩
    · rintro ⟨index, parameter, argument, first, expected, rfl⟩
      have rejects := (declared.rejectsFirst_iff counts).2 ⟨first, expected⟩
      rw [rejects.checkFrom_eq, Nat.zero_add]
  · have refused : signature.admitsCount arguments.length = false :=
      Bool.eq_false_iff.2 (mt admitsCount_iff.1 counts)
    rw [validate_of_not_admitsCount refused]
    simp only [counts, not_false_iff, true_and, false_and, or_false, Except.error.injEq]
    exact eq_comm

variable {parameters : List Parameter} {last : Parameter} {required count : Nat}

theorem counts_exact_iff : (exact parameters).Counts count ↔ count = parameters.length := by
  constructor
  · intro counts
    exact Nat.le_antisymm (counts.2 _ rfl) counts.1
  · rintro rfl
    refine ⟨Nat.le_refl _, fun greatest same => ?_⟩
    cases same
    exact Nat.le_refl _

theorem counts_variadic_iff : (variadic parameters).Counts count ↔ parameters.length ≤ count :=
  and_iff_left fun _ limited => nomatch limited

theorem counts_withOptional_iff :
    (withOptional parameters required).Counts count ↔
      min required parameters.length ≤ count ∧ count ≤ parameters.length := by
  refine and_congr_right fun _ => ⟨fun limited => limited _ rfl, ?_⟩
  rintro bounded greatest same
  cases same
  exact bounded

theorem parameter?_of_limited {greatest position : Nat}
    (limited : signature.maxArity = some greatest) :
    signature.parameter? position = signature.parameters[position]? := by
  rw [parameter?, limited]
  cases signature.parameters[position]? <;> rfl

theorem getElem?_append_replicate {copies position : Nat}
    (before : position < parameters.length + copies) :
    (parameters ++ List.replicate copies last)[position]? =
      some (parameters[position]?.getD last) := by
  rcases Nat.lt_or_ge position parameters.length with listed | beyond
  · rw [List.getElem?_append_left listed, List.getElem?_eq_getElem listed, Option.getD_some]
  · rw [List.getElem?_append_right beyond, List.getElem?_replicate_of_lt (by omega),
      List.getElem?_eq_none beyond, Option.getD_none]

theorem parameter?_variadic {position : Nat} :
    (variadic (parameters ++ [last])).parameter? position =
      some (parameters[position]?.getD last) := by
  rcases Nat.lt_or_ge position (parameters ++ [last]).length with listed | beyond
  · have before : position < parameters.length + 1 := by simpa using listed
    exact parameter?_of_listed (getElem?_append_replicate before)
  · rw [parameter?_of_length_le beyond]
    have missing : parameters[position]? = none := List.getElem?_eq_none (by simp at beyond; omega)
    rw [missing]
    exact List.getLast?_concat

theorem validate_exact_iff :
    (exact parameters).validate name binding arguments = .ok () ↔
      List.Forall₂ (fun parameter argument => parameter.accepts binding argument = true)
        parameters arguments := by
  rw [Signature.validate_eq_ok_iff, counts_exact_iff, List.forall₂_iff_get, eq_comm]
  refine and_congr_right fun _ => ?_
  constructor
  · intro admits index listed present
    exact admits index _ (List.getElem?_eq_getElem present) _
      (parameter?_of_listed (List.getElem?_eq_getElem listed))
  · intro accepts index argument found parameter expected
    rw [parameter?_of_limited rfl] at expected
    obtain ⟨listed, rfl⟩ := List.getElem?_eq_some_iff.1 expected
    obtain ⟨present, rfl⟩ := List.getElem?_eq_some_iff.1 found
    exact accepts index listed present

/-- A variadic signature is any of the exact ones in which the last parameter is repeated. -/
theorem validate_variadic_iff :
    (variadic (parameters ++ [last])).validate name binding arguments = .ok () ↔
      ∃ copies, 1 ≤ copies ∧
        (exact (parameters ++ List.replicate copies last)).validate name binding arguments =
          .ok () := by
  have same (copies : Nat) (counted : arguments.length = parameters.length + copies)
      (position : Nat) (before : position < arguments.length) :
      (variadic (parameters ++ [last])).parameter? position =
        (exact (parameters ++ List.replicate copies last)).parameter? position := by
    rw [parameter?_variadic, parameter?_of_limited rfl]
    exact (getElem?_append_replicate (counted ▸ before)).symm
  constructor
  · intro accepted
    have counts := counts_variadic_iff.1 (Signature.validate_eq_ok_iff.1 accepted).1
    rw [List.length_append, List.length_singleton] at counts
    refine ⟨arguments.length - parameters.length, by omega, (validate_congr ?_ ?_).1 accepted⟩
    · rw [counts_variadic_iff, counts_exact_iff]
      simp only [List.length_append, List.length_singleton, List.length_replicate]
      omega
    · exact same _ (by omega)
  · rintro ⟨copies, positive, accepted⟩
    have counted := counts_exact_iff.1 (Signature.validate_eq_ok_iff.1 accepted).1
    rw [List.length_append, List.length_replicate] at counted
    refine (validate_congr ?_ (same copies counted)).2 accepted
    rw [counts_variadic_iff, counts_exact_iff]
    simp only [List.length_append, List.length_singleton, List.length_replicate]
    omega

/-- A signature with optional parameters is any of the exact ones without some of these. -/
theorem validate_withOptional_iff :
    (withOptional parameters required).validate name binding arguments = .ok () ↔
      ∃ count, min required parameters.length ≤ count ∧ count ≤ parameters.length ∧
        (exact (parameters.take count)).validate name binding arguments = .ok () := by
  have same (position : Nat) (before : position < arguments.length) :
      (withOptional parameters required).parameter? position =
        (exact (parameters.take arguments.length)).parameter? position := by
    rw [parameter?_of_limited rfl, parameter?_of_limited rfl]
    exact (List.getElem?_take_of_lt before).symm
  constructor
  · intro accepted
    have counts := (Signature.validate_eq_ok_iff.1 accepted).1
    obtain ⟨least, greatest⟩ := counts_withOptional_iff.1 counts
    refine ⟨arguments.length, least, greatest, (validate_congr ?_ same).1 accepted⟩
    refine iff_of_true counts (counts_exact_iff.2 ?_)
    rw [List.length_take, Nat.min_eq_left greatest]
  · rintro ⟨count, least, greatest, accepted⟩
    have counted := counts_exact_iff.1 (Signature.validate_eq_ok_iff.1 accepted).1
    rw [List.length_take, Nat.min_eq_left greatest] at counted
    subst counted
    refine (validate_congr ?_ same).2 accepted
    refine iff_of_true (counts_withOptional_iff.2 ⟨least, greatest⟩) (counts_exact_iff.2 ?_)
    rw [List.length_take, Nat.min_eq_left greatest]

/-- A declared signature accepts the lists of an admitted number of arguments that it accepts one by
one, and of any other list reports what is wrong first. Exact signatures accept what their
parameters do, one argument each, and the others are families of these. -/
theorem validate_decides_declared (declared : signature.Declared) (name : String)
    (binding : Binding V) (arguments : List (Argument V)) :
    (signature.validate name binding arguments = .ok () ↔ signature.Counts arguments.length ∧
      ∀ index argument, arguments[index]? = some argument →
        signature.AcceptsAt binding index argument) ∧
    (∀ error, signature.validate name binding arguments = .error error ↔
      (¬ signature.Counts arguments.length ∧
        error = .invalidArity name signature.arityText arguments.length) ∨
      (signature.Counts arguments.length ∧ ∃ index parameter argument,
        signature.FirstRejected binding arguments index argument ∧
        signature.parameter? index = some parameter ∧
        error = .invalidArgument name (index + 1) parameter.text
          (argument.description binding))) ∧
    (∀ parameters, (exact parameters).validate name binding arguments = .ok () ↔
      List.Forall₂ (fun parameter argument => parameter.accepts binding argument = true)
        parameters arguments) ∧
    (∀ parameters last,
      (variadic (parameters ++ [last])).validate name binding arguments = .ok () ↔
        ∃ copies, 1 ≤ copies ∧ (exact (parameters ++ List.replicate copies last)).validate name
          binding arguments = .ok ()) ∧
    ∀ parameters required,
      (withOptional parameters required).validate name binding arguments = .ok () ↔
        ∃ count, min required parameters.length ≤ count ∧ count ≤ parameters.length ∧
          (exact (parameters.take count)).validate name binding arguments = .ok () :=
  ⟨declared.validate_eq_ok_iff, fun _ => declared.validate_eq_error_iff,
    fun _ => validate_exact_iff, fun _ _ => validate_variadic_iff,
    fun _ _ => validate_withOptional_iff⟩

theorem validate_decides_declared_further :
    Declared (.variadic [.any, .kinds [.string]]) ∧
      (variadic [.any, .kinds [.string]]).FirstRejected Json.binding
        [.value .null, .value (.string "a"), .value (.ofNat 7)] 2 (.value (.ofNat 7)) ∧
      (variadic [.any, .kinds [.string]]).validate "f" Json.binding
          [.value .null, .value (.string "a"), .value (.ofNat 7)] =
        .error (.invalidArgument "f" 3 "string" "number") := by
  have first : (variadic [.any, .kinds [.string]]).FirstRejected Json.binding
      [.value .null, .value (.string "a"), .value (.ofNat 7)] 2 (.value (.ofNat 7)) := by
    refine ⟨rfl, ?_, ?_⟩
    · rw [acceptsAt_iff_of_parameter rfl]
      decide
    · rintro (_ | _ | earlier) before other found
      · cases found
        exact .listed rfl rfl
      · cases found
        exact .listed rfl rfl
      · omega
  refine ⟨.variadic _, first, ?_⟩
  exact ((validate_decides_declared (.variadic _) "f" Json.binding _).2.1 _).2
    (.inr ⟨counts_variadic_iff.2 (by decide), 2, _, _, first, rfl, rfl⟩)

end DocQuery.Signature
