import DocQuery.Signature

/-! The check of arguments against a signature.

What it reports is the first thing that is wrong: the number of arguments, or else one argument with
the parameter that it fails.
-/

set_option autoImplicit false

namespace DocQuery.Signature

variable {V : Type} {signature : Signature} {name : String} {binding : Binding V}
  {arguments : List (Argument V)} {error : EvalError}

def RejectsFrom (signature : Signature) (name : String) (binding : Binding V) (start : Nat)
    (arguments : List (Argument V)) (error : EvalError) : Prop :=
  ∃ index parameter argument, arguments[index]? = some argument ∧
    signature.parameter? (start + index) = some parameter ∧
    parameter.accepts binding argument = false ∧
    error = .invalidArgument name (start + index + 1) parameter.text
      (argument.description binding)

-- A later argument stands one further in the list, and is checked from one further on.
theorem RejectsFrom.cons {start : Nat}
    (rejects : signature.RejectsFrom name binding (start + 1) arguments error)
    (argument : Argument V) :
    signature.RejectsFrom name binding start (argument :: arguments) error := by
  obtain ⟨index, parameter, other, found, expected, rejected, reported⟩ := rejects
  have shifted : start + 1 + index = start + (index + 1) := by omega
  rw [shifted] at expected reported
  exact ⟨index + 1, parameter, other, found, expected, rejected, reported⟩

theorem checkFrom_error {start : Nat}
    (failure : signature.checkFrom name binding start arguments = .error error) :
    signature.RejectsFrom name binding start arguments error := by
  induction arguments generalizing start with
  | nil => cases failure
  | cons argument rest ih =>
    rw [checkFrom] at failure
    split at failure
    · exact (ih failure).cons argument
    · next parameter expected =>
      split at failure
      · exact (ih failure).cons argument
      · next rejected =>
        cases failure
        exact ⟨0, parameter, argument, rfl, expected, Bool.eq_false_iff.2 rejected, rfl⟩

theorem validate_error (failure : signature.validate name binding arguments = .error error) :
    signature.admitsCount arguments.length = false ∧
        error = .invalidArity name signature.arityText arguments.length ∨
      signature.RejectsFrom name binding 0 arguments error := by
  rw [validate] at failure
  split at failure
  · exact .inr (checkFrom_error failure)
  · next refused =>
    cases failure
    exact .inl ⟨Bool.eq_false_iff.2 refused, rfl⟩

/-- The parameter of a position, if there is one, accepts the argument. -/
def Admits (signature : Signature) (binding : Binding V) (position : Nat)
    (argument : Argument V) : Prop :=
  ∀ parameter, signature.parameter? position = some parameter →
    parameter.accepts binding argument = true

/-- The first of the arguments from a position on that fails its parameter. -/
structure RejectsFirst (signature : Signature) (binding : Binding V) (start : Nat)
    (arguments : List (Argument V)) (index : Nat) (parameter : Parameter)
    (argument : Argument V) : Prop where
  present : arguments[index]? = some argument
  expected : signature.parameter? (start + index) = some parameter
  rejected : parameter.accepts binding argument = false
  admitted : ∀ earlier < index, ∀ other, arguments[earlier]? = some other →
    signature.Admits binding (start + earlier) other

variable {start index : Nat} {parameter : Parameter} {argument : Argument V}

theorem checkFrom_of_admits (admits : signature.Admits binding start argument) :
    signature.checkFrom name binding start (argument :: arguments) =
      signature.checkFrom name binding (start + 1) arguments := by
  rw [checkFrom]
  cases expected : signature.parameter? start with
  | none => rfl
  | some parameter => exact if_pos (admits parameter expected)

theorem checkFrom_of_rejected (expected : signature.parameter? start = some parameter)
    (rejected : parameter.accepts binding argument = false) :
    signature.checkFrom name binding start (argument :: arguments) =
      .error (.invalidArgument name (start + 1) parameter.text (argument.description binding)) := by
  rw [checkFrom, expected]
  exact if_neg (Bool.eq_false_iff.1 rejected)

/-- After the first argument the rest is checked from one further on, where it stands one earlier in
its list. -/
theorem rejectsFirst_cons_iff {first : Argument V} :
    signature.RejectsFirst binding start (first :: arguments) (index + 1) parameter argument ↔
      signature.Admits binding start first ∧
        signature.RejectsFirst binding (start + 1) arguments index parameter argument := by
  have shifted (position : Nat) : start + (position + 1) = start + 1 + position := by omega
  constructor
  · rintro ⟨present, expected, rejected, admitted⟩
    refine ⟨admitted 0 (Nat.succ_pos index) first rfl, present, shifted index ▸ expected,
      rejected, ?_⟩
    intro earlier before other found
    rw [← shifted]
    exact admitted (earlier + 1) (Nat.succ_lt_succ before) other found
  · rintro ⟨admits, present, expected, rejected, admitted⟩
    refine ⟨present, shifted index ▸ expected, rejected, ?_⟩
    intro earlier before other found
    cases earlier with
    | zero =>
      cases found
      exact admits
    | succ earlier =>
      rw [shifted]
      exact admitted earlier (Nat.lt_of_succ_lt_succ before) other found

theorem RejectsFirst.checkFrom_eq
    (rejects : signature.RejectsFirst binding start arguments index parameter argument) :
    signature.checkFrom name binding start arguments =
      .error (.invalidArgument name (start + index + 1) parameter.text
        (argument.description binding)) := by
  induction arguments generalizing start index with
  | nil => cases rejects.present
  | cons first rest ih =>
    cases index with
    | zero =>
      cases rejects.present
      exact checkFrom_of_rejected rejects.expected rejects.rejected
    | succ index =>
      obtain ⟨admits, later⟩ := rejectsFirst_cons_iff.1 rejects
      rw [checkFrom_of_admits admits, ih later, Nat.add_right_comm start 1 index]
      rfl

theorem checkFrom_eq_ok_or_rejectsFirst (start : Nat) (arguments : List (Argument V)) :
    signature.checkFrom name binding start arguments = .ok () ∨
      ∃ index parameter argument,
        signature.RejectsFirst binding start arguments index parameter argument := by
  induction arguments generalizing start with
  | nil => exact .inl rfl
  | cons first rest ih =>
    by_cases admits : signature.Admits binding start first
    · rw [checkFrom_of_admits admits]
      refine (ih (start + 1)).imp_right ?_
      rintro ⟨index, parameter, argument, rejects⟩
      exact ⟨index + 1, parameter, argument, rejectsFirst_cons_iff.2 ⟨admits, rejects⟩⟩
    · right
      simp only [Admits, Classical.not_forall, Bool.not_eq_true] at admits
      obtain ⟨parameter, expected, rejected⟩ := admits
      exact ⟨0, parameter, first, rfl, expected, rejected, nofun⟩

theorem validate_of_admitsCount (counted : signature.admitsCount arguments.length = true) :
    signature.validate name binding arguments = signature.checkFrom name binding 0 arguments :=
  if_pos counted

theorem validate_of_not_admitsCount (refused : signature.admitsCount arguments.length = false) :
    signature.validate name binding arguments =
      .error (.invalidArity name signature.arityText arguments.length) :=
  if_neg (Bool.eq_false_iff.1 refused)

theorem admitsCount_of_validate (accepted : signature.validate name binding arguments = .ok ()) :
    signature.admitsCount arguments.length = true := by
  cases counted : signature.admitsCount arguments.length with
  | true => rfl
  | false =>
    rw [validate_of_not_admitsCount counted] at accepted
    cases accepted

end DocQuery.Signature
