import DocQuery.Json.Binding
import DocQuery.Proofs.Json.Contents
import DocQuery.Proofs.Json.Exact

/-! Where the data of a result comes from.

A query without functions invents nothing: its numbers and texts are those of the document and of
its own literals, as they are, and its names are theirs and those that it gives to members itself.
-/

set_option autoImplicit false

namespace DocQuery.Expr

open Json (Inside Named MadeOf)

/-- A value occurs in the document or in a literal of a query. -/
def Available (expression : Expr) (document part : Json) : Prop :=
  Inside part document ∨ ∃ constant, Within (.literal constant) expression ∧ Inside part constant

/-- A name occurs in the document or in a literal of a query, or the query gives it to a member. -/
def AvailableName (expression : Expr) (document : Json) (name : String) : Prop :=
  Named name document ∨
    (∃ constant, Within (.literal constant) expression ∧ Named name constant) ∨
    ∃ entries, Within (.multiSelectHash entries) expression ∧ name ∈ entries.map Prod.fst

/-- The scalars that a query may give without their being available. -/
def Constant (part : Json) : Prop := part = .null ∨ ∃ flag, part = .boolean flag

-- There are no functions, so a call gives no value at all.
theorem returns_madeOf (expression : Expr) (document : Json) :
    (expression.evaluate Json.plainEnvironment document).Returns
      (MadeOf (fun part => Constant part ∨ expression.Available document part)
        (expression.AvailableName document)) := by
  have keeps : Binding.Keeps
      (MadeOf (fun part => Constant part ∨ expression.Available document part)
        (expression.AvailableName document))
      (expression.AvailableName document) Json.binding :=
    Json.keeps_madeOf (.inl (.inl rfl)) fun flag => .inl (.inr ⟨flag, rfl⟩)
  refine returns_of_keeps keeps expression ?_ ?_ ?_ ?_
  · intro constant within
    constructor
    · exact fun inside _ => .inr (.inr ⟨constant, within, inside⟩)
    · exact fun named => .inr (.inl ⟨constant, within, named⟩)
  · intro entries within entry member
    exact .inr (.inr ⟨entries, within, List.mem_map_of_mem member⟩)
  · intro name arguments within _ focus _
    rw [evaluate_call]
    refine .last fun given => ?_
    rw [Environment.apply_of_unknown rfl]
    exact .fail _
  · constructor
    · exact fun inside _ => .inr (.inl inside)
    · exact fun named => .inl named

/-- Every number, text and name in a result is available, and every scalar that is not available is
null or a boolean. -/
theorem evaluate_invents_nothing {expression : Expr} {document value : Json}
    (success : (expression.evaluate Json.plainEnvironment document).outcome = .ok value) :
    (∀ found, Inside (.number found) value → expression.Available document (.number found)) ∧
      (∀ text, Inside (.string text) value → expression.Available document (.string text)) ∧
      (∀ name, Named name value → expression.AvailableName document name) ∧
      ∀ part, Inside part value → part.IsScalar →
        Constant part ∨ expression.Available document part := by
  have madeOf := returns_madeOf expression document value success
  have available {part : Json} (inside : Inside part value) (scalar : part.IsScalar)
      (other : ¬ Constant part) : expression.Available document part :=
    (madeOf.scalar inside scalar).resolve_left other
  refine ⟨fun found inside => available inside ⟨nofun, nofun⟩ ?_,
    fun text inside => available inside ⟨nofun, nofun⟩ ?_, fun _ => madeOf.name,
    fun _ => madeOf.scalar⟩
  · rintro (same | ⟨flag, same⟩) <;> cases congrArg Json.raw same
  · rintro (same | ⟨flag, same⟩) <;> cases congrArg Json.raw same

-- The first of the values of an object, under a new name and beside a comparison.
def renamedFirst : Expr :=
  pipe (index (objectProjection current current) 0)
    (multiSelectHash [("value", current), ("text", comparison .equal current (literal .null))])

/-- An integer that would not survive a conversion to a binary number does survive the query. -/
theorem evaluate_invents_nothing_renamed :
    (renamedFirst.evaluate Json.plainEnvironment
        (.ofMembers [("n", .number .firstInexact)])).outcome =
      .ok (.ofMembers [("value", .number .firstInexact), ("text", .boolean false)]) ∧
      renamedFirst.AvailableName (.ofMembers [("n", .number .firstInexact)]) "value" ∧
      renamedFirst.Available (.ofMembers [("n", .number .firstInexact)]) (.number .firstInexact) := by
  have success : (renamedFirst.evaluate Json.plainEnvironment
        (.ofMembers [("n", .number .firstInexact)])).outcome =
      .ok (.ofMembers [("value", .number .firstInexact), ("text", .boolean false)]) := rfl
  have listed : ("value", Json.number .firstInexact) ∈ (Json.ofMembers
      [("value", .number .firstInexact), ("text", .boolean false)]).members := List.mem_cons_self
  obtain ⟨numbers, -, names, -⟩ := evaluate_invents_nothing success
  exact ⟨success, names "value" ⟨_, .self, List.mem_map_of_mem listed⟩,
    numbers .firstInexact (.member listed .self)⟩

end DocQuery.Expr
