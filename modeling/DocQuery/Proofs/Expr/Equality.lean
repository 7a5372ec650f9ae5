import DocQuery.Expr.Equality
import DocQuery.Proofs.Simulation.Evaluation

/-! Equal expressions have one form and equal parts. -/

set_option autoImplicit false

namespace DocQuery.Expr

variable {literals : Json → Json → Bool}

theorem sameAll_iff {items items' : List Expr} :
    sameAll literals items items' = true ↔
      List.Forall₂ (fun item item' => item.sameBy literals item' = true) items items' := by
  induction items generalizing items' with
  | nil =>
    cases items' with
    | nil => exact iff_of_true rfl .nil
    | cons item' rest' => exact iff_of_false nofun nofun
  | cons item rest ih =>
    cases items' with
    | nil => exact iff_of_false nofun nofun
    | cons item' rest' => rw [sameAll, Bool.and_eq_true, List.forall₂_cons, ih]

theorem sameEntries_iff {entries entries' : List (String × Expr)} :
    sameEntries literals entries entries' = true ↔
      List.Forall₂ (MemberRelated fun item item' => item.sameBy literals item' = true)
        entries entries' := by
  induction entries generalizing entries' with
  | nil =>
    cases entries' with
    | nil => exact iff_of_true rfl .nil
    | cons entry' rest' => exact iff_of_false nofun nofun
  | cons entry rest ih =>
    cases entries' with
    | nil => exact iff_of_false nofun nofun
    | cons entry' rest' =>
      rw [sameEntries, Bool.and_eq_true, Bool.and_eq_true, List.forall₂_cons, ih, beq_iff_eq]
      rfl

theorem form_of_sameBy {first second : Expr} (same : first.sameBy literals second = true) :
    first.form = second.form := by
  cases first <;> cases second <;> first | rfl | cases same

theorem sameBy_self (reflexive : ∀ value, literals value value = true) (expression : Expr) :
    expression.sameBy literals expression = true := by
  induction expression using childInduction with
  | step expression children =>
    cases expression with
    | current | identity => rfl
    | literal value => exact reflexive value
    | multiSelectList items =>
      exact sameAll_iff.2 (List.forall₂_same.2 children)
    | multiSelectHash entries =>
      exact sameEntries_iff.2 (List.forall₂_same.2 fun entry member =>
        ⟨rfl, children entry.2 (List.mem_map_of_mem member)⟩)
    | call name arguments =>
      exact Bool.and_eq_true_iff.2 ⟨beq_self_eq_true name,
        sameAll_iff.2 (List.forall₂_same.2 children)⟩
    | _ => simp_all [sameBy, Expr.children]

theorem layered_sameBy : Layered (fun x y => literals x y = true)
    fun first second => first.sameBy literals second = true := by
  intro first second same
  have sameForm := form_of_sameBy same
  cases first with
  | current => cases second with
    | current => exact .current
    | _ => cases sameForm
  | identity => cases second with
    | identity => exact .identity
    | _ => cases sameForm
  | literal value => cases second with
    | literal value' => exact .literal same
    | _ => cases sameForm
  | field source name => cases second with
    | field source' name' =>
      obtain ⟨sourceSame, nameSame⟩ := Bool.and_eq_true_iff.1 same
      cases eq_of_beq nameSame
      exact .field name sourceSame
    | _ => cases sameForm
  | index source position => cases second with
    | index source' position' =>
      obtain ⟨sourceSame, positionSame⟩ := Bool.and_eq_true_iff.1 same
      cases eq_of_beq positionSame
      exact .index position sourceSame
    | _ => cases sameForm
  | slice source start stop step => cases second with
    | slice source' start' stop' step' =>
      simp only [sameBy, Bool.and_eq_true, beq_iff_eq] at same
      obtain ⟨⟨⟨sourceSame, rfl⟩, rfl⟩, rfl⟩ := same
      exact .slice start stop step sourceSame
    | _ => cases sameForm
  | flattenList source => cases second with
    | flattenList source' => exact .flattenList same
    | _ => cases sameForm
  | pipe left right => cases second with
    | pipe left' right' =>
      obtain ⟨leftSame, rightSame⟩ := Bool.and_eq_true_iff.1 same
      exact .pipe leftSame rightSame
    | _ => cases sameForm
  | sub left right => cases second with
    | sub left' right' =>
      obtain ⟨leftSame, rightSame⟩ := Bool.and_eq_true_iff.1 same
      exact .sub leftSame rightSame
    | _ => cases sameForm
  | listProjection source body => cases second with
    | listProjection source' body' =>
      obtain ⟨sourceSame, bodySame⟩ := Bool.and_eq_true_iff.1 same
      exact .listProjection sourceSame bodySame
    | _ => cases sameForm
  | objectProjection source body => cases second with
    | objectProjection source' body' =>
      obtain ⟨sourceSame, bodySame⟩ := Bool.and_eq_true_iff.1 same
      exact .objectProjection sourceSame bodySame
    | _ => cases sameForm
  | flattenProjection source body => cases second with
    | flattenProjection source' body' =>
      obtain ⟨sourceSame, bodySame⟩ := Bool.and_eq_true_iff.1 same
      exact .flattenProjection sourceSame bodySame
    | _ => cases sameForm
  | multiSelectList items => cases second with
    | multiSelectList items' => exact .multiSelectList (sameAll_iff.1 same)
    | _ => cases sameForm
  | multiSelectHash entries => cases second with
    | multiSelectHash entries' => exact .multiSelectHash (sameEntries_iff.1 same)
    | _ => cases sameForm
  | filter source predicate => cases second with
    | filter source' predicate' =>
      obtain ⟨sourceSame, predicateSame⟩ := Bool.and_eq_true_iff.1 same
      exact .filter sourceSame predicateSame
    | _ => cases sameForm
  | comparison operator left right => cases second with
    | comparison operator' left' right' =>
      simp only [sameBy, Bool.and_eq_true, beq_iff_eq] at same
      obtain ⟨⟨rfl, leftSame⟩, rightSame⟩ := same
      exact .comparison operator leftSame rightSame
    | _ => cases sameForm
  | and left right => cases second with
    | and left' right' =>
      obtain ⟨leftSame, rightSame⟩ := Bool.and_eq_true_iff.1 same
      exact .and leftSame rightSame
    | _ => cases sameForm
  | or left right => cases second with
    | or left' right' =>
      obtain ⟨leftSame, rightSame⟩ := Bool.and_eq_true_iff.1 same
      exact .or leftSame rightSame
    | _ => cases sameForm
  | not operand => cases second with
    | not operand' => exact .not same
    | _ => cases sameForm
  | call name arguments => cases second with
    | call name' arguments' =>
      obtain ⟨nameSame, argumentsSame⟩ := Bool.and_eq_true_iff.1 same
      cases eq_of_beq nameSame
      exact .call name (sameAll_iff.1 argumentsSame)
    | _ => cases sameForm
  | reference expression => cases second with
    | reference expression' => exact .reference same
    | _ => cases sameForm

/-- Whatever descends from one layer to the next implies equality, if it does of literals. -/
theorem sameBy_of_layered {related : Json → Json → Prop} {expressions : Expr → Expr → Prop}
    (layered : Layered related expressions)
    (constants : ∀ value value', related value value' → literals value value' = true)
    {first second : Expr} (corresponding : expressions first second) :
    first.sameBy literals second = true := by
  induction first using childInduction generalizing second with
  | step first ih =>
    have part {child child' : Expr} (member : child ∈ first.children)
        (corresponding : expressions child child') : child.sameBy literals child' = true :=
      ih child member corresponding
    cases layered _ _ corresponding with
    | current | identity => rfl
    | literal constant => exact constants _ _ constant
    | multiSelectList items =>
      exact sameAll_iff.2 (forall₂_mono items fun item member _ => part member)
    | multiSelectHash entries =>
      refine sameEntries_iff.2 (forall₂_mono entries fun entry member _ pair => ?_)
      exact ⟨pair.1, part (List.mem_map_of_mem member) pair.2⟩
    | call name arguments =>
      exact Bool.and_eq_true_iff.2 ⟨beq_self_eq_true name,
        sameAll_iff.2 (forall₂_mono arguments fun argument member _ => part member)⟩
    | _ => simp_all [sameBy, Expr.children]

end DocQuery.Expr
