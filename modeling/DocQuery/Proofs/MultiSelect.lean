import DocQuery.Proofs.Indexing
import DocQuery.Proofs.Json.Object
import DocQuery.Proofs.Selection

/-! Arrays and objects made of the values of expressions, read back by position and by name.

The expressions are evaluated in their order and on one current value, up to the first that fails.
Of two entries of one name the later one is read back, in the place of the earlier.
-/

set_option autoImplicit false

namespace DocQuery

variable {V α β : Type}

namespace Run

theorem outcome_map_eq_ok_iff {change : α → β} {run : Run V α} {result : β} :
    (change <$> run).outcome = .ok result ↔
      ∃ value, run.outcome = .ok value ∧ change value = result := by
  rw [outcome_map]
  cases run.outcome with
  | ok value => simp
  | error error => simp

theorem outcome_map_eq_error_iff {change : α → β} {run : Run V α} {error : EvalError} :
    (change <$> run).outcome = .error error ↔ run.outcome = .error error := by
  rw [outcome_map]
  cases run.outcome with
  | ok value => simp
  | error cause => simp

theorem succeeds_map_iff (change : α → β) {run : Run V α} :
    (change <$> run).Succeeds ↔ run.Succeeds := by
  constructor
  · rintro ⟨result, returned⟩
    obtain ⟨value, found, -⟩ := outcome_map_eq_ok_iff.1 returned
    exact ⟨value, found⟩
  · rintro ⟨value, found⟩
    exact ⟨change value, outcome_map_eq_ok_iff.2 ⟨value, found, rfl⟩⟩

theorem forall₂_succeeds_iff {body : α → Run V β} {items : List α} :
    (∃ results, List.Forall₂ (fun item result => (body item).outcome = .ok result) items results) ↔
      ∀ item ∈ items, (body item).Succeeds := by
  constructor
  · rintro ⟨results, related⟩ item member
    obtain ⟨result, returned, -⟩ := exists_of_forall₂ related related member
    exact ⟨result, returned⟩
  · intro total
    induction items with
    | nil => exact ⟨[], .nil⟩
    | cons item rest ih =>
      obtain ⟨⟨result, returned⟩, others⟩ := List.forall_mem_cons.1 total
      obtain ⟨results, related⟩ := ih others
      exact ⟨result :: results, .cons returned related⟩

theorem outcome_mapM_eq_error_iff_first {body : α → Run V β} {items : List α}
    {error : EvalError} :
    (items.mapM body).outcome = .error error ↔
      ∃ before failing after, items = before ++ failing :: after ∧
        (∀ item ∈ before, (body item).Succeeds) ∧ (body failing).outcome = .error error := by
  rw [outcome_mapM_eq_error_iff]
  simp only [← forall₂_succeeds_iff]
  constructor
  · rintro ⟨before, failing, after, results, split, succeeded, failed⟩
    exact ⟨before, failing, after, split, ⟨results, succeeded⟩, failed⟩
  · rintro ⟨before, failing, after, split, ⟨results, succeeded⟩, failed⟩
    exact ⟨before, failing, after, results, split, succeeded, failed⟩

end Run

namespace Expr

section

variable {environment : Environment V} {focus : V} {error : EvalError}
  (present : environment.isNull focus = false)

include present

theorem outcome_multiSelectList {items : List Expr} {values : List V}
    (related : List.Forall₂ (fun item value =>
      (item.evaluate environment focus).outcome = .ok value) items values) :
    ((multiSelectList items).evaluate environment focus).outcome =
      .ok (environment.array values) := by
  rw [evaluate_multiSelectList, if_neg (Bool.eq_false_iff.1 present), Run.outcome_map,
    Run.outcome_mapM_eq_ok_iff.2 related]
  rfl

theorem outcome_multiSelectList_eq_error_iff {items : List Expr} :
    ((multiSelectList items).evaluate environment focus).outcome = .error error ↔
      ∃ before failing after, items = before ++ failing :: after ∧
        (∀ item ∈ before, (item.evaluate environment focus).Succeeds) ∧
        (failing.evaluate environment focus).outcome = .error error := by
  rw [evaluate_multiSelectList, if_neg (Bool.eq_false_iff.1 present)]
  exact Run.outcome_map_eq_error_iff.trans Run.outcome_mapM_eq_error_iff_first

theorem outcome_multiSelectHash {entries : List (String × Expr)} {members : List (String × V)}
    (related : List.Forall₂ (fun entry member =>
      ((entry.1, ·) <$> entry.2.evaluate environment focus).outcome = .ok member)
        entries members) :
    ((multiSelectHash entries).evaluate environment focus).outcome =
      .ok (environment.object members) := by
  rw [evaluate_multiSelectHash, if_neg (Bool.eq_false_iff.1 present), Run.outcome_map,
    Run.outcome_mapM_eq_ok_iff.2 related]
  rfl

theorem outcome_multiSelectHash_eq_error_iff {entries : List (String × Expr)} :
    ((multiSelectHash entries).evaluate environment focus).outcome = .error error ↔
      ∃ before name failing after, entries = before ++ (name, failing) :: after ∧
        (∀ entry ∈ before, (entry.2.evaluate environment focus).Succeeds) ∧
        (failing.evaluate environment focus).outcome = .error error := by
  rw [evaluate_multiSelectHash, if_neg (Bool.eq_false_iff.1 present),
    Run.outcome_map_eq_error_iff, Run.outcome_mapM_eq_error_iff_first]
  simp only [Run.succeeds_map_iff, Run.outcome_map_eq_error_iff, Prod.exists]

end

theorem lookup_reverse_eq_none {members : List (String × α)} {name : String}
    (unused : name ∉ members.map Prod.fst) : members.reverse.lookup name = none := by
  rw [lookup_eq_none_iff, List.map_reverse, List.mem_reverse]
  exact unused

-- The last member of a name comes first from the end.
theorem lookup_reverse_of_last {before after : List (String × α)} {name : String} {value : α}
    (last : name ∉ after.map Prod.fst) :
    (before ++ (name, value) :: after).reverse.lookup name = some value := by
  rw [List.reverse_append, List.reverse_cons, List.append_assoc, List.lookup_append,
    lookup_reverse_eq_none last, Option.none_or, List.singleton_append, List.lookup_cons_self]

section

variable {functions : Registry Json} {focus : Json}

theorem isNull_eq_false {value : Json} (present : value ≠ .null) :
    (Json.environment functions).isNull value = false := by
  cases value using Json.shapes with
  | null => exact absurd rfl present
  | _ => rfl

theorem outcome_sub_field {source : Expr} {members : List (String × Json)}
    (returned : (source.evaluate (Json.environment functions) focus).outcome =
      .ok (Json.ofMembers members)) (whole : source.isProjecting = false) (name : String) :
    ((sub source (field current name)).evaluate (Json.environment functions) focus).outcome =
      .ok ((members.reverse.lookup name).getD .null) := by
  rw [evaluate_sub, Run.bind_of_ok _ returned, whole, ← Json.property_ofMembers]
  rfl

/-- An object of selected members has the names of the entries, and under each name what the last
entry of the name evaluates to. -/
theorem exists_members {entries : List (String × Expr)} (present : focus ≠ .null)
    (total : ∀ entry ∈ entries,
      (entry.2.evaluate (Json.environment functions) focus).Succeeds) :
    ∃ members, ((multiSelectHash entries).evaluate (Json.environment functions) focus).outcome =
        .ok (.ofMembers members) ∧
      members.map Prod.fst = entries.map Prod.fst ∧
      ∀ name, Option.Rel (fun item value =>
          (item.evaluate (Json.environment functions) focus).outcome = .ok value)
        (entries.reverse.lookup name) (members.reverse.lookup name) := by
  obtain ⟨members, returned⟩ := Run.forall₂_succeeds_iff.2 fun entry member =>
    (Run.succeeds_map_iff (entry.1, ·)).2 (total entry member)
  have related : List.Forall₂ (MemberRelated fun item value =>
      (item.evaluate (Json.environment functions) focus).outcome = .ok value) entries members := by
    apply returned.imp
    rintro ⟨name, item⟩ member named
    obtain ⟨value, found, rfl⟩ := Run.outcome_map_eq_ok_iff.1 named
    exact ⟨rfl, found⟩
  refine ⟨members, outcome_multiSelectHash (isNull_eq_false present) returned,
    (names_of_forall₂ related).symm, ?_⟩
  exact lookup_of_forall₂ (List.forall₂_reverse_iff.2 related)

end

/-- Arrays and objects of selected values give back what was selected. Where an item is indexed, the
number of items is a word, like the length of every list. -/
theorem multiSelect_reads_back (functions : Registry Json) :
    (∀ items entries,
      (multiSelectList items).evaluate (Json.environment functions) .null = pure .null ∧
      (multiSelectHash entries).evaluate (Json.environment functions) .null = pure .null) ∧
    ∀ focus, focus ≠ Json.null →
      let run (expression : Expr) := expression.evaluate (Json.environment functions) focus
      (∀ entries, (∀ entry ∈ entries, (run entry.2).Succeeds) →
        (∃ object, (run (multiSelectHash entries)).outcome = .ok object ∧
          Json.binding.kindOf object = .object ∧
          Json.binding.propertyNames object = (entries.map Prod.fst).eraseDups) ∧
        ∀ name,
          (name ∉ entries.map Prod.fst →
            (run (sub (multiSelectHash entries) (field current name))).outcome = .ok .null) ∧
          ∀ before item after, entries = before ++ (name, item) :: after →
            name ∉ after.map Prod.fst →
            (run (sub (multiSelectHash entries) (field current name))).outcome =
              (run item).outcome) ∧
      (∀ items, (∀ item ∈ items, (run item).Succeeds) →
        (∃ values, List.Forall₂ (fun item value => (run item).outcome = .ok value) items values ∧
          (run (multiSelectList items)).outcome = .ok (.array values)) ∧
        ∀ position : Int64,
          (items.length < 0x8000000000000000 →
            ∀ (place : Nat) item, items[place]? = some item →
            position.toInt = place ∨ position.toInt = place - items.length →
            (run (index (multiSelectList items) position)).outcome = (run item).outcome) ∧
          (¬ (-items.length ≤ position.toInt ∧ position.toInt < items.length) →
            (run (index (multiSelectList items) position)).outcome = .ok .null)) ∧
      (∀ items error, (run (multiSelectList items)).outcome = .error error ↔
        ∃ before failing after, items = before ++ failing :: after ∧
          (∀ item ∈ before, (run item).Succeeds) ∧ (run failing).outcome = .error error) ∧
      ∀ entries error, (run (multiSelectHash entries)).outcome = .error error ↔
        ∃ before name failing after, entries = before ++ (name, failing) :: after ∧
          (∀ entry ∈ before, (run entry.2).Succeeds) ∧ (run failing).outcome = .error error := by
  refine ⟨?none, fun focus present => ⟨?members, ?elements, ?failingElement, ?failingMember⟩⟩
  case none =>
    intro items entries
    exact ⟨evaluate_multiSelectList .., evaluate_multiSelectHash ..⟩
  case members =>
    intro entries total
    obtain ⟨members, returned, names, related⟩ := exists_members present total
    have read (name : String) := outcome_sub_field returned rfl name
    refine ⟨⟨.ofMembers members, returned, rfl, ?_⟩, fun name => ⟨?_, ?_⟩⟩
    · rw [Json.propertyNames_ofMembers, names]
    · intro unused
      rw [← names] at unused
      exact (read name).trans (by rw [lookup_reverse_eq_none unused]; rfl)
    · rintro before item after rfl last
      have found := related name
      rw [lookup_reverse_of_last last] at found
      obtain ⟨value, set, returned⟩ := exists_of_rel_some found
      rw [read name, set, returned]
      rfl
  case elements =>
    intro items total
    obtain ⟨values, related⟩ := Run.forall₂_succeeds_iff.2 total
    have returned := outcome_multiSelectList (isNull_eq_false present) related
    refine ⟨⟨values, related, returned⟩, fun position => ⟨?_, ?_⟩⟩
    · intro fits place item found means
      have same := forall₂_getElem? related place
      rw [found] at same
      obtain ⟨value, kept, evaluated⟩ := exists_of_rel_some same
      obtain ⟨bound, -⟩ := List.getElem?_eq_some_iff.1 kept
      rw [related.length_eq] at means fits
      rw [outcome_index returned position, Slice.elementAt?_of_place fits bound means, kept,
        evaluated]
      rfl
    · intro outside
      rw [related.length_eq] at outside
      exact (outcome_index returned position).trans (by
        rw [Slice.elementAt?_of_outside outside]; rfl)
  case failingElement =>
    intro items error
    exact outcome_multiSelectList_eq_error_iff (isNull_eq_false present)
  case failingMember =>
    intro entries error
    exact outcome_multiSelectHash_eq_error_iff (isNull_eq_false present)

theorem multiSelect_reads_back_repeated :
    let run (expression : Expr) := expression.evaluate Json.plainEnvironment (.boolean true)
    let entries := [("a", literal .null), ("b", current), ("a", literal (.ofNat 7))]
    let items := [literal .null, current]
    let zeroStep := slice current none none (some 0)
    (∃ object, (run (multiSelectHash entries)).outcome = .ok object ∧
        Json.binding.propertyNames object = ["a", "b"]) ∧
      (run (sub (multiSelectHash entries) (field current "a"))).outcome = .ok (.ofNat 7) ∧
      (run (index (multiSelectList items) (-1))).outcome = .ok (.boolean true) ∧
      (run (index (multiSelectList items) 2)).outcome = .ok .null ∧
      (run (multiSelectList [current, zeroStep, call "unknown" []])).outcome =
        .error .zeroStep := by
  intro run entries items zeroStep
  have present : Json.boolean true ≠ .null := nofun
  obtain ⟨members, elements, failing, -⟩ := (multiSelect_reads_back .empty).2 _ present
  have entriesTotal : ∀ entry ∈ entries, (run entry.2).Succeeds := by
    simp only [entries, List.forall_mem_cons]
    exact ⟨⟨_, rfl⟩, ⟨_, rfl⟩, ⟨_, rfl⟩, nofun⟩
  have itemsTotal : ∀ item ∈ items, (run item).Succeeds := by
    simp only [items, List.forall_mem_cons]
    exact ⟨⟨_, rfl⟩, ⟨_, rfl⟩, nofun⟩
  obtain ⟨⟨object, returned, -, names⟩, read⟩ := members entries entriesTotal
  refine ⟨⟨object, returned, names.trans (by decide)⟩, ?_, ?_, ?_, ?_⟩
  · exact (read "a").2 [("a", literal .null), ("b", current)] (literal (.ofNat 7)) [] rfl nofun
  · exact ((elements items itemsTotal).2 (-1)).1 (by decide) 1 current rfl (by decide)
  · exact ((elements items itemsTotal).2 2).2 (by decide)
  · refine (failing _ _).2 ⟨[current], zeroStep, [call "unknown" []], rfl, ?_, rfl⟩
    simpa using ⟨_, rfl⟩

end Expr

end DocQuery
