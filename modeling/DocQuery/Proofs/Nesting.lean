import DocQuery.Proofs.Eval.Parallel
import DocQuery.Proofs.Simulation.Functions

/-! How deep evaluations nest within one another.

An evaluation nests those that it starts itself, among them what the body of a function asks for.
What it starts occurs within its expression, so the depth of an expression bounds the nesting of its
evaluation, and a limit on nesting that is no less than the depth goes unnoticed.
-/

set_option autoImplicit false

namespace DocQuery

variable {V α β : Type}

/-- A run together with the evaluations that it starts, in their order. -/
structure Watched (V α : Type) where
  run : Run V α
  started : List (Expr × V)

namespace Watched

def andThen (first : Watched V α) (next : α → Watched V β) : Watched V β where
  run := first.run >>= fun value => (next value).run
  started := first.started ++
    match first.run.outcome with
    | .ok value => (next value).started
    | .error _ => []

instance : Monad (Watched V) where
  pure value := ⟨pure value, []⟩
  bind := andThen

instance : Carrier V (Watched V) where
  fail error := ⟨Run.fail error, []⟩
  record call := ⟨Run.record call, []⟩
  attempt first := ⟨first.run.attempt, first.started⟩

theorem mem_started_bind {first : Watched V α} {next : α → Watched V β} {start : Expr × V} :
    start ∈ (first >>= next).started ↔ start ∈ first.started ∨
      ∃ value, first.run.outcome = .ok value ∧ start ∈ (next value).started := by
  refine List.mem_append.trans (or_congr_right ?_)
  cases first.run.outcome with
  | error error => simp
  | ok value => simp

-- The run is as said, and all that it starts is of expressions of a kind.
structure Tracks (kind : Expr → Prop) (watched : Watched V α) (run : Run V α) : Prop where
  run_eq : watched.run = run
  started : ∀ start ∈ watched.started, kind start.1

theorem parallel_tracks (kind : Expr → Prop) :
    Carrier.Parallel fun {α : Type} => @Tracks V α kind where
  pure value := ⟨rfl, List.forall_mem_nil _⟩
  fail error := ⟨rfl, List.forall_mem_nil _⟩
  record call := ⟨rfl, List.forall_mem_nil _⟩
  attempt {α first run} tracks := ⟨congrArg Run.attempt tracks.run_eq, tracks.started⟩
  bind {α β first run next next'} tracks rest := by
    constructor
    · change first.run >>= _ = run >>= _
      rw [tracks.run_eq]
      exact congrArg (run >>= ·) (funext fun value => (rest value).run_eq)
    · intro start member
      rcases mem_started_bind.1 member with early | ⟨value, -, late⟩
      · exact tracks.started start early
      · exact (rest value).started start late

end Watched

namespace Expr

theorem Within.depth_le {part expression : Expr} (within : Within part expression) :
    part.depth ≤ expression.depth := by
  induction within with
  | self => exact Nat.le_refl _
  | child member _ ih => exact Nat.le_trans ih (Nat.le_of_lt (depth_lt_of_mem_children member))

variable (environment : Environment V)

def watch (expression : Expr) (focus : V) : Watched V (Evaluated V) :=
  ⟨expression.run environment focus, [(expression, focus)]⟩

/-- The evaluations that the evaluation of an expression starts, bodies of functions included. -/
def started (expression : Expr) (focus : V) : List (Expr × V) :=
  (expression.step environment (watch environment) focus).started

theorem tracks_step (expression : Expr) (focus : V) :
    Watched.Tracks (fun part => part.depth < expression.depth)
      (expression.step environment (watch environment) focus)
      (expression.run environment focus) := by
  rw [← step_run]
  apply (Watched.parallel_tracks _).step
  intro child member part within current
  refine ⟨rfl, fun start found => ?_⟩
  cases List.mem_singleton.1 found
  exact Nat.lt_of_le_of_lt within.depth_le (depth_lt_of_mem_children member)

theorem depth_lt_of_started {expression part : Expr} {focus input : V}
    (starts : (part, input) ∈ expression.started environment focus) :
    part.depth < expression.depth :=
  (tracks_step environment expression focus).started _ starts

/-- Evaluations are nested in one another, as many as said: each is started by the one before. -/
inductive Nests : Expr → V → Nat → Prop where
  | self (expression : Expr) (focus : V) : Nests expression focus 1
  | inner {expression part : Expr} {focus input : V} {count : Nat} :
      (part, input) ∈ expression.started environment focus → Nests part input count →
      Nests expression focus (count + 1)

variable {environment}

theorem Nests.le_depth {expression : Expr} {focus : V} {count : Nat}
    (nests : Nests environment expression focus count) : count ≤ expression.depth := by
  induction nests with
  | self expression focus =>
    rw [depth_eq]
    exact Nat.le_add_left 1 _
  | inner starts _ ih => exact Nat.lt_of_le_of_lt ih (depth_lt_of_started environment starts)

theorem Nests.outer {expression : Expr} {focus : V} {count fewer : Nat}
    (nests : Nests environment expression focus count) (less : fewer < count) :
    Nests environment expression focus (fewer + 1) := by
  induction nests generalizing fewer with
  | self expression focus =>
    cases Nat.lt_one_iff.1 less
    exact .self expression focus
  | inner starts _ ih =>
    cases fewer with
    | zero => exact .self _ _
    | succ fewer => exact .inner starts (ih (Nat.lt_of_succ_lt_succ less))

end Expr

/-- Runs that may be given up: there is no result then, and no failure either. -/
abbrev Limited (V : Type) : Type → Type := OptionT (Run V)

namespace Limited

def GivenUp (limited : Limited V α) : Prop :=
  limited.run.outcome = .ok none

/-- What is handed on of a run as a value. A body learns of failures alone, and does not go on when
a run is given up. -/
def handed : Except EvalError (Option α) → Option (Except EvalError α)
  | .ok result => result.map .ok
  | .error error => some (.error error)

instance : Carrier V (Limited V) where
  fail error := OptionT.lift (Run.fail error)
  record call := OptionT.lift (Run.record call)
  attempt limited := OptionT.mk (handed <$> limited.run.attempt)

end Limited

namespace Expr

-- The evaluation is given up when more evaluations than the limit are nested.
def runWithin (environment : Environment V) : Nat → Expr → V → Limited V (Evaluated V)
  | 0, _, _ => OptionT.fail
  | limit + 1, expression, focus => expression.step environment (runWithin environment limit) focus

def evaluateWithin (environment : Environment V) (limit : Nat) (expression : Expr) (focus : V) :
    Limited V V :=
  Evaluated.value <$> expression.runWithin environment limit focus

end Expr

namespace Limited

theorem run_bind (first : Limited V α) (next : α → Limited V β) :
    (first >>= next).run = first.run >>= fun
      | some value => (next value).run
      | none => pure none := rfl

theorem run_bind_of_run_eq {first : Limited V α} {run : Run V α} (next : α → Limited V β)
    (finished : first.run = some <$> run) :
    (first >>= next).run = run >>= fun value => (next value).run := by
  rw [run_bind, finished, bind_map_left]

theorem GivenUp.bind {first : Limited V α} (givenUp : GivenUp first) (next : α → Limited V β) :
    GivenUp (first >>= next) := by
  rw [GivenUp, run_bind, Run.bind_of_ok _ givenUp]
  rfl

theorem not_givenUp {limited : Limited V α} {run : Run V α}
    (finished : limited.run = some <$> run) : ¬ GivenUp limited := by
  rw [GivenUp, finished, Run.outcome_map]
  cases run.outcome with
  | error error => exact nofun
  | ok value => exact nofun

/-- A run is as without a limit if all evaluations that it starts finish, and is given up if one of
them does not. -/
structure Completes (finishes : Expr → V → Prop) (limited : Limited V α)
    (watched : Watched V α) : Prop where
  run_eq : (∀ start ∈ watched.started, finishes start.1 start.2) →
    limited.run = some <$> watched.run
  givenUp {start : Expr × V} : start ∈ watched.started → ¬ finishes start.1 start.2 →
    GivenUp limited

variable {finishes : Expr → V → Prop}

theorem Completes.of_run_eq {limited : Limited V α} {run : Run V α}
    (same : limited.run = some <$> run) : Completes finishes limited ⟨run, []⟩ :=
  ⟨fun _ => same, nofun⟩

theorem Completes.attempt {limited : Limited V α} {watched : Watched V α}
    (completes : Completes finishes limited watched) :
    Completes finishes (Carrier.attempt limited) (Carrier.attempt watched) where
  run_eq finished := by
    change handed <$> limited.run.attempt = some <$> watched.run.attempt
    rw [completes.run_eq finished]
    apply Run.ext
    · rw [Run.calls_map, Run.calls_map]
      exact Run.calls_map some watched.run
    · simp only [Run.outcome_map, Run.outcome_attempt]
      cases watched.run.outcome <;> rfl
  givenUp member unfinished := by
    change (handed <$> limited.run.attempt).outcome = .ok none
    rw [Run.outcome_map, Run.outcome_attempt, completes.givenUp member unfinished]
    rfl

theorem Completes.bind {first : Limited V α} {first' : Watched V α} {next : α → Limited V β}
    {next' : α → Watched V β} (completes : Completes finishes first first')
    (rest : ∀ value, Completes finishes (next value) (next' value)) :
    Completes finishes (first >>= next) (first' >>= next') where
  run_eq finished := by
    have early := completes.run_eq fun start member =>
      finished start (Watched.mem_started_bind.2 (.inl member))
    rw [run_bind_of_run_eq next early]
    change _ = some <$> (first'.run >>= fun value => (next' value).run)
    rw [map_bind]
    have returns : first'.run.Returns (first'.run.outcome = .ok ·) := fun _ success => success
    apply returns.bind_congr
    intro value success
    exact (rest value).run_eq fun start member =>
      finished start (Watched.mem_started_bind.2 (.inr ⟨value, success, member⟩))
  givenUp {start} member unfinished := by
    -- What does not finish may come before the one that is known, and then ends the run earlier.
    by_cases early : ∀ start ∈ first'.started, finishes start.1 start.2
    · rcases Watched.mem_started_bind.1 member with inFirst | ⟨value, success, inNext⟩
      · exact absurd (early start inFirst) unfinished
      · rw [GivenUp, run_bind_of_run_eq next (completes.run_eq early), Run.bind_of_ok _ success]
        exact (rest value).givenUp inNext unfinished
    · push Not at early
      obtain ⟨start, member, unfinished⟩ := early
      exact (completes.givenUp member unfinished).bind next

theorem parallel_completes (finishes : Expr → V → Prop) :
    Carrier.Parallel fun {α : Type} => @Completes V α finishes where
  pure _ := .of_run_eq rfl
  fail _ := .of_run_eq rfl
  record _ := .of_run_eq rfl
  attempt completes := completes.attempt
  bind completes rest := completes.bind rest

end Limited

namespace Expr

variable {environment : Environment V}

open Limited (GivenUp Completes)

/-- A step under a limit, where below one less a run that is not given up is as without a limit. -/
theorem completes_runWithin (environment : Environment V) (limit : Nat) (expression : Expr)
    (focus : V) (same : ∀ part input, ¬ GivenUp (runWithin environment limit part input) →
      (runWithin environment limit part input).run = some <$> part.run environment input) :
    Completes (fun part input => ¬ GivenUp (runWithin environment limit part input))
      (runWithin environment (limit + 1) expression focus)
      (expression.step environment (watch environment) focus) := by
  apply (Limited.parallel_completes _).step
  intro child _ part _ current
  constructor
  · intro finished
    exact same part current (finished (part, current) (List.mem_singleton_self _))
  · intro start member unfinished
    cases List.mem_singleton.1 member
    exact not_not.1 unfinished

theorem runWithin_eq {limit : Nat} {expression : Expr} {focus : V}
    (finished : ¬ GivenUp (runWithin environment limit expression focus)) :
    (runWithin environment limit expression focus).run =
      some <$> expression.run environment focus := by
  induction limit generalizing expression focus with
  | zero => exact absurd rfl finished
  | succ limit ih =>
    have completes := completes_runWithin environment limit expression focus fun _ _ => ih
    rw [completes.run_eq, (tracks_step environment expression focus).run_eq]
    intro start member unfinished
    exact finished (completes.givenUp member (not_not.2 unfinished))

theorem givenUp_succ_iff {limit : Nat} {expression : Expr} {focus : V} :
    GivenUp (runWithin environment (limit + 1) expression focus) ↔
      ∃ part input, (part, input) ∈ expression.started environment focus ∧
        GivenUp (runWithin environment limit part input) := by
  have completes := completes_runWithin environment limit expression focus
    fun _ _ => runWithin_eq
  constructor
  · intro givenUp
    by_contra unstarted
    push Not at unstarted
    exact Limited.not_givenUp (completes.run_eq fun start => unstarted start.1 start.2) givenUp
  · rintro ⟨part, input, starts, givenUp⟩
    exact completes.givenUp starts (not_not.2 givenUp)

/-- A run is given up exactly if one more evaluation than the limit is nested. -/
theorem givenUp_runWithin_iff {limit : Nat} {expression : Expr} {focus : V} :
    GivenUp (runWithin environment limit expression focus) ↔
      Nests environment expression focus (limit + 1) := by
  induction limit generalizing expression focus with
  | zero => exact iff_of_true rfl (.self expression focus)
  | succ limit ih =>
    simp only [givenUp_succ_iff, ih]
    constructor
    · rintro ⟨part, input, starts, nests⟩
      exact .inner starts nests
    · intro nests
      cases nests with
      | inner starts nests => exact ⟨_, _, starts, nests⟩

theorem run_evaluateWithin (limit : Nat) (expression : Expr) (focus : V) :
    (expression.evaluateWithin environment limit focus).run =
      Option.map Evaluated.value <$> (runWithin environment limit expression focus).run :=
  OptionT.run_map ..

theorem givenUp_evaluateWithin_iff {limit : Nat} {expression : Expr} {focus : V} :
    GivenUp (expression.evaluateWithin environment limit focus) ↔
      Nests environment expression focus (limit + 1) := by
  rw [← givenUp_runWithin_iff, GivenUp, GivenUp, run_evaluateWithin, Run.outcome_map]
  rcases (runWithin environment limit expression focus).run.outcome with error | _ | result
  · exact iff_of_false nofun nofun
  · exact iff_of_true rfl rfl
  · exact iff_of_false nofun nofun

theorem evaluateWithin_eq {limit : Nat} {expression : Expr} {focus : V}
    (few : ¬ Nests environment expression focus (limit + 1)) :
    (expression.evaluateWithin environment limit focus).run =
      some <$> expression.evaluate environment focus := by
  rw [run_evaluateWithin, runWithin_eq (givenUp_runWithin_iff.not.2 few), evaluate, Run.value]
  simp only [Functor.map_map, Option.map_some]

/-- The depth of an expression bounds the nesting of its evaluation, for every current value and
whatever the functions that it calls. An evaluator that gives up when more evaluations than a limit
are nested does not do so if the limit is no less than the depth, and makes the same calls to the
same end as one without a limit. -/
theorem depth_bounds_nesting (environment : Environment V) (expression : Expr) (focus : V) :
    (∀ count, Nests environment expression focus count → count ≤ expression.depth) ∧
    (∀ limit, GivenUp (expression.evaluateWithin environment limit focus) ↔
      ∃ count, limit < count ∧ Nests environment expression focus count) ∧
    ∀ limit, expression.depth ≤ limit →
      (expression.evaluateWithin environment limit focus).run =
        some <$> expression.evaluate environment focus := by
  refine ⟨fun _ => Nests.le_depth, fun limit => ?_, fun limit enough => ?_⟩
  · rw [givenUp_evaluateWithin_iff]
    constructor
    · exact fun nests => ⟨limit + 1, Nat.lt_succ_self limit, nests⟩
    · rintro ⟨count, more, nests⟩
      exact nests.outer more
  · apply evaluateWithin_eq
    intro nests
    exact absurd (Nat.le_trans nests.le_depth enough) (Nat.not_succ_le_self limit)

/-- Evaluations nest less than the depth allows below `apply`, for the reference itself is not
evaluated. -/
theorem depth_bounds_nesting_apply :
    let applied := listProjection current (call "apply" [reference (field current "a"), current])
    let document := Json.array [.ofMembers [("a", .ofNat 1)]]
    applied.depth = 5 ∧
      (∃ count, 3 < count ∧ count ≤ 5 ∧
        Nests (Json.environment Json.applyOnly) applied document count) ∧
      ¬ GivenUp (applied.evaluateWithin (Json.environment Json.applyOnly) 4 document) ∧
      (applied.evaluateWithin (Json.environment Json.applyOnly) 5 document).run.outcome =
        .ok (some (.array [.ofNat 1])) := by
  intro applied document
  obtain ⟨bounded, givenUp_iff, unlimited⟩ :=
    depth_bounds_nesting (Json.environment Json.applyOnly) applied document
  refine ⟨rfl, ?_, nofun, ?_⟩
  · obtain ⟨count, more, nests⟩ := (givenUp_iff 3).1 rfl
    exact ⟨count, more, bounded count nests, nests⟩
  · rw [unlimited 5 (Nat.le_refl 5)]
    rfl

end Expr

end DocQuery
