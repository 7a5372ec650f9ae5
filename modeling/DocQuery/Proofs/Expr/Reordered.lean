import DocQuery.Proofs.Expr.Fingerprint
import DocQuery.Proofs.Json.Reordered

/-! The data of an expression tell the expression, up to the order of members in its literals.

The variant tells how the data go on. Names and literals tell their own end, as do optional bounds,
and a list of parts has its length before it, so the data of the parts can be found one by one.
-/

set_option autoImplicit false

namespace DocQuery

theorem Comparator.rank_injective {first second : Comparator} (same : first.rank = second.rank) :
    first = second := by
  revert same
  cases first <;> cases second <;> decide

namespace Expr

open DocQuery.Datum

def SameData (first second : Expr) : Prop :=
  first.fingerprint = second.fingerprint

theorem fingerprint_opens (expression : Expr) :
    ∃ inner, expression.fingerprint = .variant expression.form.ctorIdx :: inner := by
  cases expression <;> exact ⟨_, rfl⟩

theorem form_eq_of_data {first second : Expr} {rest rest' : List Datum}
    (same : first.fingerprint ++ rest = second.fingerprint ++ rest') :
    first.form = second.form := by
  obtain ⟨inner, opens⟩ := first.fingerprint_opens
  obtain ⟨inner', opens'⟩ := second.fingerprint_opens
  rw [opens, opens'] at same
  have variants := Datum.variant.inj (List.cons.inj same).1
  revert variants
  cases first.form <;> cases second.form <;> decide

/-- Expressions whose data begin two equal sequences share their outer layer, and the rests are the
same, if this can be said of their parts. -/
theorem layer_of_data {first second : Expr} {rest rest' : List Datum}
    (delimited : ∀ child ∈ first.children, Delimited fingerprint SameData child)
    (same : first.fingerprint ++ rest = second.fingerprint ++ rest') :
    Layer Json.Reordered SameData first second ∧ rest = rest' := by
  have sameForm := form_eq_of_data same
  have part {child : Expr} (member : child ∈ first.children) :
      Delimited fingerprint SameData child :=
    delimited child member
  cases first with
  | current => cases second with
    | current => exact ⟨.current, (List.cons.inj same).2⟩
    | _ => cases sameForm
  | identity => cases second with
    | identity => exact ⟨.identity, (List.cons.inj same).2⟩
    | _ => cases sameForm
  | literal value => cases second with
    | literal value' =>
      obtain ⟨reordered, rests⟩ := value.delimited_fingerprint (List.cons.inj same).2
      exact ⟨.literal reordered, rests⟩
    | _ => cases sameForm
  | field source name => cases second with
    | field source' name' =>
      simp only [fingerprint, List.cons_append, List.append_assoc] at same
      obtain ⟨sourceSame, later⟩ := part (by simp [children]) (List.cons.inj same).2
      obtain ⟨names, rests⟩ := List.cons.inj later
      cases names
      exact ⟨.field name sourceSame, rests⟩
    | _ => cases sameForm
  | index source position => cases second with
    | index source' position' =>
      simp only [fingerprint, List.cons_append, List.append_assoc] at same
      obtain ⟨sourceSame, later⟩ := part (by simp [children]) (List.cons.inj same).2
      obtain ⟨positions, rests⟩ := List.cons.inj later
      cases positions
      exact ⟨.index position sourceSame, rests⟩
    | _ => cases sameForm
  | slice source start stop step => cases second with
    | slice source' start' stop' step' =>
      simp only [fingerprint, List.cons_append, List.append_assoc] at same
      obtain ⟨sourceSame, bounds⟩ := part (by simp [children]) (List.cons.inj same).2
      obtain ⟨rfl, afterStart⟩ := delimited_bound start bounds
      obtain ⟨rfl, afterStop⟩ := delimited_bound stop afterStart
      obtain ⟨rfl, rests⟩ := delimited_bound step afterStop
      exact ⟨.slice start stop step sourceSame, rests⟩
    | _ => cases sameForm
  | flattenList source => cases second with
    | flattenList source' =>
      obtain ⟨sourceSame, rests⟩ := part (by simp [children]) (List.cons.inj same).2
      exact ⟨.flattenList sourceSame, rests⟩
    | _ => cases sameForm
  | pipe left right => cases second with
    | pipe left' right' =>
      obtain ⟨leftSame, rightSame, rests⟩ := pair_unique (part (by simp [children]))
        (part (by simp [children])) same
      exact ⟨.pipe leftSame rightSame, rests⟩
    | _ => cases sameForm
  | sub left right => cases second with
    | sub left' right' =>
      obtain ⟨leftSame, rightSame, rests⟩ := pair_unique (part (by simp [children]))
        (part (by simp [children])) same
      exact ⟨.sub leftSame rightSame, rests⟩
    | _ => cases sameForm
  | listProjection source body => cases second with
    | listProjection source' body' =>
      obtain ⟨sourceSame, bodySame, rests⟩ := pair_unique (part (by simp [children]))
        (part (by simp [children])) same
      exact ⟨.listProjection sourceSame bodySame, rests⟩
    | _ => cases sameForm
  | objectProjection source body => cases second with
    | objectProjection source' body' =>
      obtain ⟨sourceSame, bodySame, rests⟩ := pair_unique (part (by simp [children]))
        (part (by simp [children])) same
      exact ⟨.objectProjection sourceSame bodySame, rests⟩
    | _ => cases sameForm
  | flattenProjection source body => cases second with
    | flattenProjection source' body' =>
      obtain ⟨sourceSame, bodySame, rests⟩ := pair_unique (part (by simp [children]))
        (part (by simp [children])) same
      exact ⟨.flattenProjection sourceSame bodySame, rests⟩
    | _ => cases sameForm
  | multiSelectList items => cases second with
    | multiSelectList items' =>
      simp only [fingerprint, fingerprints_eq] at same
      obtain ⟨itemsSame, rests⟩ := counted_unique delimited (List.cons.inj same).2
      exact ⟨.multiSelectList itemsSame, rests⟩
    | _ => cases sameForm
  | multiSelectHash entries => cases second with
    | multiSelectHash entries' =>
      simp only [fingerprint, entryFingerprints_eq] at same
      have named (entry : String × Expr) (member : entry ∈ entries) :=
        (delimited entry.2 (List.mem_map_of_mem member)).named
      obtain ⟨entriesSame, rests⟩ := counted_unique named (List.cons.inj same).2
      exact ⟨.multiSelectHash entriesSame, rests⟩
    | _ => cases sameForm
  | filter source predicate => cases second with
    | filter source' predicate' =>
      obtain ⟨sourceSame, predicateSame, rests⟩ := pair_unique (part (by simp [children]))
        (part (by simp [children])) same
      exact ⟨.filter sourceSame predicateSame, rests⟩
    | _ => cases sameForm
  | comparison operator left right => cases second with
    | comparison operator' left' right' =>
      obtain ⟨operators, -⟩ := List.cons.inj (List.cons.inj same).2
      cases Comparator.rank_injective (Datum.variant.inj operators)
      obtain ⟨leftSame, rightSame, rests⟩ := pair_unique (part (by simp [children]))
        (part (by simp [children])) (List.cons.inj same).2
      exact ⟨.comparison operator leftSame rightSame, rests⟩
    | _ => cases sameForm
  | and left right => cases second with
    | and left' right' =>
      obtain ⟨leftSame, rightSame, rests⟩ := pair_unique (part (by simp [children]))
        (part (by simp [children])) same
      exact ⟨.and leftSame rightSame, rests⟩
    | _ => cases sameForm
  | or left right => cases second with
    | or left' right' =>
      obtain ⟨leftSame, rightSame, rests⟩ := pair_unique (part (by simp [children]))
        (part (by simp [children])) same
      exact ⟨.or leftSame rightSame, rests⟩
    | _ => cases sameForm
  | not operand => cases second with
    | not operand' =>
      obtain ⟨operandSame, rests⟩ := part (by simp [children]) (List.cons.inj same).2
      exact ⟨.not operandSame, rests⟩
    | _ => cases sameForm
  | call name arguments => cases second with
    | call name' arguments' =>
      simp only [fingerprint, fingerprints_eq] at same
      obtain ⟨names, later⟩ := List.cons.inj (List.cons.inj same).2
      cases names
      obtain ⟨argumentsSame, rests⟩ := counted_unique delimited later
      exact ⟨.call name argumentsSame, rests⟩
    | _ => cases sameForm
  | reference expression => cases second with
    | reference expression' =>
      obtain ⟨expressionSame, rests⟩ := part (by simp [children]) (List.cons.inj same).2
      exact ⟨.reference expressionSame, rests⟩
    | _ => cases sameForm

theorem delimited_fingerprint (expression : Expr) : Delimited fingerprint SameData expression := by
  induction expression using childInduction with
  | step expression children =>
    intro other rest rest' same
    obtain ⟨-, rests⟩ := layer_of_data children same
    exact ⟨List.append_cancel_right (rests ▸ same), rests⟩

theorem layered_sameData : Layered Json.Reordered SameData := by
  intro first second same
  have extended : first.fingerprint ++ [] = second.fingerprint ++ [] := congrArg (· ++ []) same
  exact (layer_of_data (fun child _ => child.delimited_fingerprint) extended).1

/-- The same expression, but that the members of objects in its literals may stand in another
order. -/
def Reordered (first second : Expr) : Prop :=
  ∃ expressions, Layered Json.Reordered expressions ∧ expressions first second

theorem layered_reordered : Layered Json.Reordered Reordered := by
  rintro first second ⟨expressions, layered, corresponding⟩
  exact (layered first second corresponding).mono fun _ _ inner => ⟨expressions, layered, inner⟩

theorem Reordered.of_layer {first second : Expr}
    (layer : Layer Json.Reordered Reordered first second) : first.Reordered second :=
  ⟨Layer Json.Reordered Reordered, fun _ _ outer => outer.mono layered_reordered, layer⟩

theorem Reordered.sameBy {numbers : Json.Number → Json.Number → Bool}
    (reflexive : ∀ value, numbers value value = true) {first second : Expr}
    (reordered : first.Reordered second) : first.sameBy (Json.equalBy numbers) second = true :=
  sameBy_of_layered layered_reordered (fun _ _ constants => constants.equalBy reflexive) reordered

theorem Reordered.same {first second : Expr} (reordered : first.Reordered second) :
    first.same second = true :=
  reordered.sameBy Json.Number.sameForm_self

theorem Reordered.sameData {first second : Expr} (reordered : first.Reordered second) :
    SameData first second := by
  have signs (value : Json.Number) : value.sameSigned value = true := by
    rw [Json.Number.sameSigned, Json.Number.sameForm_self, Bool.true_and, beq_self_eq_true]
  exact (agreeing_of_same reordered.same).equal_iff.2 (reordered.sameBy signs)

theorem sameData_iff_reordered {first second : Expr} :
    SameData first second ↔ first.Reordered second :=
  ⟨fun same => ⟨SameData, layered_sameData, same⟩, Reordered.sameData⟩

/-- Expressions with the same data are equal, and the order of members in their literals is all that
may be different. That order leaves no trace in the data. -/
theorem fingerprint_identifies (first second : Expr) :
    (first.fingerprint = second.fingerprint → first.same second = true) ∧
      (first.fingerprint = second.fingerprint ↔ first.Reordered second) :=
  ⟨fun same => (sameData_iff_reordered.1 same).same, sameData_iff_reordered⟩

def callOnMembers (members : List (String × Json)) (distinct : (members.map Prod.fst).Nodup) :
    Expr :=
  call "keys" [pipe (literal (.array [.object members distinct])) current]

theorem fingerprint_identifies_reversed :
    let first := callOnMembers [("x", .ofNat 1), ("y", .null)] (by decide)
    let second := callOnMembers [("y", .null), ("x", .ofNat 1)] (by decide)
    first.fingerprint = second.fingerprint ∧ first.same second = true := by
  intro first second
  have members : Json.Reordered (.array [.object [("x", .ofNat 1), ("y", .null)] (by decide)])
      (.array [.object [("y", .null), ("x", .ofNat 1)] (by decide)]) :=
    .array (.cons (.of_perm (.swap ..) _ _) .nil)
  have reordered : first.Reordered second :=
    .of_layer (.call "keys" (.cons (.of_layer (.pipe (.of_layer (.literal members))
      (.of_layer .current))) .nil))
  have data := (fingerprint_identifies first second).2.2 reordered
  exact ⟨data, (fingerprint_identifies first second).1 data⟩

end Expr

end DocQuery
