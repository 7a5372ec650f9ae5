import DocQuery.Signature

/-! Runs of evaluation: an outcome together with the function calls made on the way to it.

A run that fails keeps the calls made before.
-/

set_option autoImplicit false

namespace DocQuery

variable {V α β : Type}

/-- A call of a function's body, with the arguments that its signature accepted. -/
structure Call (V : Type) where
  name : String
  arguments : List (Argument V)

@[ext] structure Run (V α : Type) where
  calls : List (Call V)
  outcome : Except EvalError α

namespace Run

def done (value : α) : Run V α := ⟨[], .ok value⟩

def fail (error : EvalError) : Run V α := ⟨[], .error error⟩

def ofExcept (outcome : Except EvalError α) : Run V α := ⟨[], outcome⟩

def record (call : Call V) : Run V Unit := ⟨[call], .ok ()⟩

def andThen (run : Run V α) (next : α → Run V β) : Run V β :=
  match run.outcome with
  | .error error => ⟨run.calls, .error error⟩
  | .ok value => ⟨run.calls ++ (next value).calls, (next value).outcome⟩

instance : Monad (Run V) where
  pure := done
  bind := andThen

def attempt (run : Run V α) : Run V (Except EvalError α) := ⟨run.calls, .ok run.outcome⟩

@[simp] theorem calls_pure (value : α) : (pure value : Run V α).calls = [] := rfl

@[simp] theorem outcome_pure (value : α) : (pure value : Run V α).outcome = .ok value := rfl

@[simp] theorem outcome_bind (run : Run V α) (next : α → Run V β) :
    (run >>= next).outcome = run.outcome >>= fun value => (next value).outcome := by
  obtain ⟨calls, outcome⟩ := run
  cases outcome <;> rfl

theorem bind_of_ok {run : Run V α} {value : α} (next : α → Run V β)
    (success : run.outcome = .ok value) :
    run >>= next = ⟨run.calls ++ (next value).calls, (next value).outcome⟩ := by
  obtain ⟨calls, outcome⟩ := run
  cases success
  rfl

theorem bind_of_error {run : Run V α} {error : EvalError} (next : α → Run V β)
    (failure : run.outcome = .error error) :
    run >>= next = ⟨run.calls, .error error⟩ := by
  obtain ⟨calls, outcome⟩ := run
  cases failure
  rfl

theorem bind_pure (run : Run V α) : run >>= pure = run := by
  obtain ⟨calls, _ | _⟩ := run
  · rfl
  · exact Run.ext (List.append_nil calls) rfl

theorem bind_bind (run : Run V α) {γ : Type} (first : α → Run V β) (second : β → Run V γ) :
    run >>= first >>= second = run >>= fun value => first value >>= second := by
  obtain ⟨calls, _ | value⟩ := run
  · rfl
  · rcases h : first value with ⟨more, _ | next⟩ <;> simp [bind, andThen, h]

instance : LawfulMonad (Run V) :=
  LawfulMonad.mk' (Run V) bind_pure (fun _ _ => Run.ext rfl rfl)
    fun run first second => bind_bind run first second

end Run

end DocQuery
