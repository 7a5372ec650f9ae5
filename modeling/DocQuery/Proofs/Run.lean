import Mathlib.Data.List.Forall2
import DocQuery.Run

/-! Reasoning about runs without opening them.

A run fails for certain reasons only if its steps do. Two runs, over values of different types,
agree if they fail alike or succeed with related values; their calls are not compared.
-/

set_option autoImplicit false

namespace DocQuery

variable {V W α β γ δ : Type}

/-- The same failure, or related values. -/
inductive Agree (relation : α → β → Prop) : Except EvalError α → Except EvalError β → Prop where
  | ok {value : α} {value' : β} : relation value value' →
      Agree relation (.ok value) (.ok value')
  | error (error : EvalError) : Agree relation (.error error) (.error error)

theorem Agree.mono {relation weaker : α → β → Prop} {first : Except EvalError α}
    {second : Except EvalError β} (agree : Agree relation first second)
    (implies : ∀ value value', relation value value' → weaker value value') :
    Agree weaker first second := by
  cases agree with
  | ok related => exact .ok (implies _ _ related)
  | error error => exact .error error

theorem agree_eq_iff {first second : Except EvalError α} :
    Agree Eq first second ↔ first = second := by
  constructor
  · intro agree
    cases agree with
    | ok same => rw [same]
    | error error => rfl
  · rintro rfl
    cases first with
    | ok value => exact .ok rfl
    | error error => exact .error error

theorem Agree.error_iff {first : Except EvalError α} {second : Except EvalError β}
    (agree : Agree (fun _ _ => True) first second) (error : EvalError) :
    first = .error error ↔ second = .error error := by
  cases agree with
  | ok => exact iff_of_false nofun nofun
  | error cause => simp only [Except.error.injEq]

namespace Run

theorem outcome_map (change : α → β) (run : Run V α) :
    (change <$> run).outcome = change <$> run.outcome := by
  rw [← bind_pure_comp, outcome_bind]
  cases run.outcome <;> rfl

theorem calls_map (change : α → β) (run : Run V α) : (change <$> run).calls = run.calls := by
  rw [← bind_pure_comp]
  obtain ⟨calls, _ | value⟩ := run
  · rfl
  · exact List.append_nil calls

@[simp] theorem outcome_attempt (run : Run V α) : run.attempt.outcome = .ok run.outcome := rfl

/-- Every failure has a reason, which may refer to the calls made until then. -/
def FailsBy (reason : List (Call V) → EvalError → Prop) (run : Run V α) : Prop :=
  ∀ error, run.outcome = .error error → reason run.calls error

variable {reason : List (Call V) → EvalError → Prop}

theorem FailsBy.pure (value : α) : FailsBy reason (pure value : Run V α) := by
  intro error failure
  cases failure

theorem FailsBy.fail {error : EvalError} (because : reason [] error) :
    FailsBy reason (Run.fail error : Run V α) := by
  intro other failure
  cases failure
  exact because

def Stable (reason : List (Call V) → EvalError → Prop) : Prop :=
  ∀ calls more error, calls ⊆ more → reason calls error → reason more error

theorem FailsBy.bind (stable : Stable reason) {run : Run V α} {next : α → Run V β}
    (first : run.FailsBy reason)
    (rest : ∀ value, run.outcome = .ok value → (next value).FailsBy reason) :
    (run >>= next).FailsBy reason := by
  intro error failure
  cases outcome : run.outcome with
  | error cause =>
    rw [bind_of_error next outcome] at failure ⊢
    cases failure
    exact first error outcome
  | ok value =>
    rw [bind_of_ok next outcome] at failure ⊢
    exact stable _ _ error (List.subset_append_right _ _) (rest value outcome error failure)

def Returns (post : α → Prop) (run : Run V α) : Prop :=
  ∀ result, run.outcome = .ok result → post result

variable {post : α → Prop}

theorem Returns.pure {value : α} (holds : post value) : Returns post (pure value : Run V α) := by
  intro result success
  cases success
  exact holds

theorem Returns.fail (error : EvalError) : Returns post (Run.fail error : Run V α) := by
  intro result success
  cases success

theorem outcome_bind_eq_ok_iff {run : Run V α} {next : α → Run V β} {result : β} :
    (run >>= next).outcome = .ok result ↔
      ∃ value, run.outcome = .ok value ∧ (next value).outcome = .ok result := by
  rw [outcome_bind]
  cases run.outcome with
  | error error => simp [bind, Except.bind]
  | ok value => simp [bind, Except.bind]

theorem Returns.bind {post : β → Prop} {middle : α → Prop} {run : Run V α} {next : α → Run V β}
    (first : run.Returns middle) (rest : ∀ value, middle value → (next value).Returns post) :
    (run >>= next).Returns post := by
  intro result success
  obtain ⟨value, returned, continued⟩ := outcome_bind_eq_ok_iff.1 success
  exact rest value (first value returned) result continued

theorem Returns.last {post : β → Prop} {run : Run V α} {next : α → Run V β}
    (rest : ∀ value, (next value).Returns post) : (run >>= next).Returns post :=
  bind (fun _ _ => True.intro) fun value _ => rest value

theorem Returns.bind_congr {run : Run V α} {next other : α → Run V β} (first : run.Returns post)
    (same : ∀ value, post value → next value = other value) : run >>= next = run >>= other := by
  cases outcome : run.outcome with
  | error error => rw [bind_of_error next outcome, bind_of_error other outcome]
  | ok value =>
    rw [bind_of_ok next outcome, bind_of_ok other outcome, same value (first value outcome)]

theorem map_eq_self {change : α → α} {run : Run V α}
    (fixed : run.Returns fun result => change result = result) : change <$> run = run := by
  apply Run.ext (calls_map change run)
  rw [outcome_map]
  cases outcome : run.outcome with
  | error error => rfl
  | ok value => exact congrArg Except.ok (fixed value outcome)

theorem forall₂_of_mapM {body : α → Run V β} {items : List α} {results : List β}
    (success : (items.mapM body).outcome = .ok results) :
    List.Forall₂ (fun item result => (body item).outcome = .ok result) items results := by
  induction items generalizing results with
  | nil =>
    cases success
    exact .nil
  | cons item rest ih =>
    rw [List.mapM_cons] at success
    obtain ⟨result, head, later⟩ := outcome_bind_eq_ok_iff.1 success
    obtain ⟨others, tail, same⟩ := outcome_bind_eq_ok_iff.1 later
    cases same
    exact .cons head (ih tail)

theorem outcome_mapM_eq_ok_iff {body : α → Run V β} {items : List α} {results : List β} :
    (items.mapM body).outcome = .ok results ↔
      List.Forall₂ (fun item result => (body item).outcome = .ok result) items results := by
  constructor
  · exact forall₂_of_mapM
  · intro related
    induction related with
    | nil => rfl
    | cons head _ ih =>
      rw [List.mapM_cons, bind_of_ok _ head, bind_of_ok _ ih]
      rfl

theorem outcome_bind_eq_error_iff {run : Run V α} {next : α → Run V β} {error : EvalError} :
    (run >>= next).outcome = .error error ↔ run.outcome = .error error ∨
      ∃ value, run.outcome = .ok value ∧ (next value).outcome = .error error := by
  rw [outcome_bind]
  cases run.outcome with
  | error cause => simp [bind, Except.bind]
  | ok value => simp [bind, Except.bind]

/-- A traversal that fails has failed on the first item that does. -/
theorem outcome_mapM_eq_error_iff {body : α → Run V β} {items : List α} {error : EvalError} :
    (items.mapM body).outcome = .error error ↔
      ∃ before failing after results, items = before ++ failing :: after ∧
        List.Forall₂ (fun item result => (body item).outcome = .ok result) before results ∧
        (body failing).outcome = .error error := by
  constructor
  · intro failure
    induction items with
    | nil => cases failure
    | cons item rest ih =>
      rw [List.mapM_cons] at failure
      obtain head | ⟨result, head, later⟩ := outcome_bind_eq_error_iff.1 failure
      · exact ⟨[], item, rest, [], rfl, .nil, head⟩
      obtain tail | ⟨results, -, done⟩ := outcome_bind_eq_error_iff.1 later
      · obtain ⟨before, failing, after, results, rfl, succeeded, failed⟩ := ih tail
        exact ⟨item :: before, failing, after, result :: results, rfl, .cons head succeeded,
          failed⟩
      · cases done
  · rintro ⟨before, failing, after, results, rfl, succeeded, failed⟩
    rw [List.mapM_append, bind_of_ok _ (outcome_mapM_eq_ok_iff.2 succeeded), List.mapM_cons,
      bind_of_error _ failed]
    rfl

variable {first : Run V α} {second : Run W β}

theorem agree_pure {relation : α → β → Prop} {value : α} {value' : β}
    (related : relation value value') :
    Agree relation (pure value : Run V α).outcome (pure value' : Run W β).outcome :=
  .ok related

theorem agree_bind {relation : α → β → Prop} {results : γ → δ → Prop}
    {next : α → Run V γ} {next' : β → Run W δ}
    (agree : Agree relation first.outcome second.outcome)
    (rest : ∀ value value', relation value value' →
      Agree results (next value).outcome (next' value').outcome) :
    Agree results (first >>= next).outcome (second >>= next').outcome := by
  simp only [outcome_bind]
  generalize first.outcome = left, second.outcome = right at agree ⊢
  cases agree with
  | ok related => exact rest _ _ related
  | error error => exact .error error

theorem agree_map {relation : α → β → Prop} {results : γ → δ → Prop} {change : α → γ}
    {change' : β → δ} (agree : Agree relation first.outcome second.outcome)
    (changed : ∀ value value', relation value value' → results (change value) (change' value')) :
    Agree results (change <$> first).outcome (change' <$> second).outcome := by
  simp only [outcome_map]
  generalize first.outcome = left, second.outcome = right at agree ⊢
  cases agree with
  | ok related => exact .ok (changed _ _ related)
  | error error => exact .error error

theorem agree_mapM {relation : α → β → Prop} {results : γ → δ → Prop} {body : α → Run V γ}
    {body' : β → Run W δ} {items : List α} {items' : List β}
    (related : List.Forall₂ relation items items')
    (agree : ∀ item ∈ items, ∀ item', relation item item' →
      Agree results (body item).outcome (body' item').outcome) :
    Agree (List.Forall₂ results) (items.mapM body).outcome (items'.mapM body').outcome := by
  induction related with
  | nil => exact agree_pure .nil
  | cons head _ ih =>
    simp only [List.mapM_cons]
    apply agree_bind (agree _ List.mem_cons_self _ head)
    intro result result' relatedResult
    apply agree_bind (ih fun item member => agree item (List.mem_cons_of_mem _ member))
    intro rest rest' relatedRest
    exact agree_pure (.cons relatedResult relatedRest)

end Run

end DocQuery
