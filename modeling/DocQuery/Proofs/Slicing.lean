import DocQuery.Json.Binding
import DocQuery.Proofs.Eval.Equations
import DocQuery.Proofs.Slice

/-! Slices of arrays are exact, with bounds and steps of any size. -/

set_option autoImplicit false

namespace DocQuery.Expr

/-- The positions of a slice are the terms of a progression between its bounds, each an element's
and none twice. A slice of an array holds the elements at these positions, one after the other. -/
theorem slice_walks_progression {length : Nat} (fits : length < 0x8000000000000000)
    (start stop : Option Int64) {step : Int64} (nonzero : step ≠ 0) :
    Slice.IsProgression (Slice.exactFirst length start step.toInt)
        (Slice.exactLimit length stop step.toInt) step.toInt
        ((Slice.positions length start stop step).map Int64.toInt) ∧
      (Slice.positions length start stop step).Nodup ∧
      (Slice.positions length start stop step).length ≤ length ∧
      (∀ position ∈ Slice.positions length start stop step,
        0 ≤ position.toInt ∧ position.toInt < length) ∧
      ∀ {V : Type} (environment : Environment V) (source : Expr) (written : Option Int64)
        (focus input : V), written.getD 1 = step →
        (source.evaluate environment focus).outcome = .ok input →
        environment.isArray input = true → (environment.elements input).length = length →
        ∃ sliced, List.Forall₂
            (fun position element =>
              (environment.elements input)[position.toInt.toNat]? = some element)
            (Slice.positions length start stop step) sliced ∧
          ((slice source start stop written).evaluate environment focus).outcome =
            .ok (environment.array sliced) := by
  refine ⟨Slice.isProgression_positions start stop fits nonzero,
    Slice.nodup_positions start stop fits nonzero,
    Slice.length_positions_le start stop fits nonzero,
    fun _ => Slice.positions_within start stop fits nonzero, ?_⟩
  rintro V environment source written focus input rfl returned isArray rfl
  refine ⟨_, Slice.forall₂_select start stop fits nonzero, ?_⟩
  rw [evaluate_slice, if_neg nonzero, Run.outcome_map, returned]
  change Except.ok (environment.slice input start stop (written.getD 1)) = _
  rw [Binding.slice, if_pos isArray]

/-- A step backwards that no word can make twice. -/
theorem slice_walks_progression_extreme :
    3 < 0x8000000000000000 ∧ Int64.minValue ≠ 0 ∧
      Slice.IsProgression 2 (-1) Int64.minValue.toInt
        ((Slice.positions 3 none none Int64.minValue).map Int64.toInt) ∧
      ∃ sliced, List.Forall₂
          (fun position element =>
            [Json.null, .boolean true, .ofNat 7][position.toInt.toNat]? = some element)
          (Slice.positions 3 none none Int64.minValue) sliced ∧
        ((slice current none none (some Int64.minValue)).evaluate Json.plainEnvironment
          (.array [.null, .boolean true, .ofNat 7])).outcome = .ok (.array sliced) := by
  have fits : 3 < 0x8000000000000000 := by decide
  have nonzero : Int64.minValue ≠ 0 := by decide
  obtain ⟨progression, -, -, -, sliced⟩ := slice_walks_progression fits none none nonzero
  exact ⟨fits, nonzero, progression, sliced Json.plainEnvironment current
    (some Int64.minValue) _ (.array [.null, .boolean true, .ofNat 7]) rfl rfl rfl rfl⟩

end DocQuery.Expr
