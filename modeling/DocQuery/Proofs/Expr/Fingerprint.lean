import DocQuery.Expr.Fingerprint
import DocQuery.Proofs.Expr.Equality
import DocQuery.Proofs.Json.Fingerprint

/-! The data of equal expressions.

Equal expressions differ in their literals alone. Their data differ only where a zero has one sign
in a literal of the first and the other in its counterpart.
-/

set_option autoImplicit false

namespace DocQuery.Expr

theorem fingerprints_eq (items : List Expr) : fingerprints items = items.flatMap fingerprint := by
  induction items with
  | nil => rfl
  | cons item rest ih => rw [fingerprints, ih, List.flatMap_cons]

theorem entryFingerprints_eq (entries : List (String × Expr)) :
    entryFingerprints entries =
      entries.flatMap fun entry => .text entry.1 :: entry.2.fingerprint := by
  induction entries with
  | nil => rfl
  | cons entry rest ih =>
    rw [entryFingerprints, ih, List.flatMap_cons]

/-- Equality of expressions in which the zeros of literals have the same signs. -/
def sameSigned (first second : Expr) : Bool := first.sameBy Json.sameSigned second

/-- The data of two expressions have one length and agree just when zeros have the same signs. -/
def Agreeing (first second : Expr) : Prop :=
  EqualIff first.fingerprint second.fingerprint (first.sameSigned second = true)

theorem equalIff_fingerprints {items items' : List Expr}
    (agree : List.Forall₂ Agreeing items items') :
    EqualIff (fingerprints items) (fingerprints items')
      (sameAll Json.sameSigned items items' = true) := by
  rw [fingerprints_eq, fingerprints_eq]
  exact (EqualIff.flatMap agree).congr sameAll_iff.symm

theorem equalIff_entryFingerprints {entries entries' : List (String × Expr)}
    (agree : List.Forall₂ (MemberRelated Agreeing) entries entries') :
    EqualIff (entryFingerprints entries) (entryFingerprints entries')
      (sameEntries Json.sameSigned entries entries' = true) := by
  rw [entryFingerprints_eq, entryFingerprints_eq]
  refine (EqualIff.flatMap (agree.imp ?_)).congr sameEntries_iff.symm
  rintro ⟨key, item⟩ ⟨_, item'⟩ ⟨rfl, itemAgrees⟩
  exact (EqualIff.cons _ itemAgrees).congr (and_iff_right rfl).symm

-- Names and bounds are the same, so the signs of zeros are looked for in the parts.
theorem agreeing_of_same {first second : Expr} (same : first.same second = true) :
    Agreeing first second := by
  induction first using childInduction generalizing second with
  | step first ih =>
    have child {part part' : Expr} (member : part ∈ first.children)
        (partSame : part.same part' = true) : Agreeing part part' :=
      ih part member partSame
    cases layered_sameBy _ _ same with
    | current => exact (EqualIff.refl _).congr (iff_of_true trivial rfl)
    | identity => exact (EqualIff.refl _).congr (iff_of_true trivial rfl)
    | literal valueSame => exact .cons _ (Json.equalIff_fingerprint valueSame)
    | field name source =>
      exact .cons _ ((child (by simp [children]) source).and (.fixed _ name))
    | index position source =>
      exact .cons _ ((child (by simp [children]) source).and (.fixed _ position))
    | slice start stop step source =>
      exact .cons _ ((((child (by simp [children]) source).and (.fixed _ start)).and
        (.fixed _ stop)).and (.fixed _ step))
    | flattenList source => exact .cons _ (child (by simp [children]) source)
    | pipe left right =>
      exact .cons _ ((child (by simp [children]) left).and (child (by simp [children]) right))
    | sub left right =>
      exact .cons _ ((child (by simp [children]) left).and (child (by simp [children]) right))
    | listProjection source body =>
      exact .cons _ ((child (by simp [children]) source).and (child (by simp [children]) body))
    | objectProjection source body =>
      exact .cons _ ((child (by simp [children]) source).and (child (by simp [children]) body))
    | flattenProjection source body =>
      exact .cons _ ((child (by simp [children]) source).and (child (by simp [children]) body))
    | filter source predicate =>
      exact .cons _ ((child (by simp [children]) source).and
        (child (by simp [children]) predicate))
    | comparison operator left right =>
      exact .cons _ (((EqualIff.fixed [Datum.variant operator.rank] operator).and
        (child (by simp [children]) left)).and (child (by simp [children]) right))
    | and left right =>
      exact .cons _ ((child (by simp [children]) left).and (child (by simp [children]) right))
    | or left right =>
      exact .cons _ ((child (by simp [children]) left).and (child (by simp [children]) right))
    | not operand => exact .cons _ (child (by simp [children]) operand)
    | reference expression => exact .cons _ (child (by simp [children]) expression)
    | multiSelectList related =>
      have agree := forall₂_mono related fun item member _ => child member
      refine .cons _ ?_
      rw [related.length_eq]
      exact .cons _ (equalIff_fingerprints agree)
    | multiSelectHash related =>
      have agree : List.Forall₂ (MemberRelated Agreeing) _ _ :=
        forall₂_mono related fun entry member _ pair =>
          ⟨pair.1, child (List.mem_map_of_mem member) pair.2⟩
      refine .cons _ ?_
      rw [related.length_eq]
      exact .cons _ (equalIff_entryFingerprints agree)
    | call name related =>
      have agree := forall₂_mono related fun argument member _ => child member
      refine .cons _ ((EqualIff.fixed [Datum.text name] name).and ?_)
      rw [related.length_eq]
      exact .cons _ (equalIff_fingerprints agree)

/-- Equal expressions have the same data if and only if zeros in their literals have the same
signs. -/
theorem fingerprint_eq_iff_of_same {first second : Expr} (same : first.same second = true) :
    first.fingerprint = second.fingerprint ↔ first.sameSigned second = true :=
  (agreeing_of_same same).equal_iff

def zeroSelection (reversed negative : Bool) : Expr :=
  multiSelectHash [("all", literal (.ofMembers
    (if reversed then [("b", .null), ("a", .zero negative)]
      else [("a", .zero negative), ("b", .null)])))]

theorem fingerprint_eq_iff_of_same_zeros :
    (zeroSelection false true).fingerprint = (zeroSelection true true).fingerprint ∧
      (zeroSelection false true).fingerprint ≠ (zeroSelection true false).fingerprint := by
  constructor
  · exact (fingerprint_eq_iff_of_same (by decide +kernel)).2 (by decide +kernel)
  · exact (fingerprint_eq_iff_of_same (by decide +kernel)).not.2 (by decide +kernel)

/-- Two zeros are equal constants with different data. -/
theorem same_not_fingerprint_eq :
    ¬ ∀ first second : Expr, first.same second = true →
      first.fingerprint = second.fingerprint := by
  intro determined
  have same : (literal (.zero false)).same (literal (.zero true)) = true := by decide +kernel
  have data := (agreeing_of_same same).equal_iff.1 (determined _ _ same)
  revert data
  decide +kernel

end DocQuery.Expr
