import FilterSql.Proofs.Choice
import FilterSql.Proofs.StatementText

/-!
# Compiled clauses

A compiled clause is the outcome of one choice among the conditions that the filters ask for, in
the order of the filters. `Clause.SettledBy` says what that choice keeps, what text is made of it,
what it drops and why, and which names it binds; every compiled clause is settled by such a choice.
-/

namespace FilterSql

namespace BoundCondition

/-- The names of one condition are distinct, so its bindings cannot undo one another. -/
theorem AskedBy.nodup_names {allowed : List String} {key : String} {value : Value}
    {bound : BoundCondition} (asked : AskedBy allowed key value bound) :
    (bound.bindings.map Prod.fst).Nodup := by
  cases asked with
  | null listed named => exact List.nodup_nil
  | noMember listed named => exact List.nodup_nil
  | member listed named nonempty => exact nodup_names_numbered key _
  | nullText listed named read => exact List.nodup_nil
  | compare listed named plain => exact List.nodup_singleton _
  | atLeast listed named => exact List.nodup_singleton _
  | atMost listed named => exact List.nodup_singleton _
  | like listed named => exact List.nodup_singleton _
  | fullText searched named => exact List.nodup_singleton _

end BoundCondition

namespace Filters

/-- Whether no allowed column answers to a key. -/
def isDiscarded (allowed : List String) (key : String) : Bool :=
  decide ((Operation.ofKey allowed key).value = .discarded)

theorem conditionOf?_eq_none_iff {allowed : List String} {key : String} {value : Value} :
    conditionOf? allowed key value = none ↔ isDiscarded allowed key = true := by
  cases allowed with
  | nil => exact iff_of_true rfl rfl
  | cons first rest =>
      rw [conditionOf?, isDiscarded, decide_eq_true_eq]
      by_cases discarded : (Operation.ofKey (first :: rest) key).value = .discarded
      · rw [discarded]
        exact iff_of_true rfl rfl
      · obtain ⟨bound, asked⟩ :=
          exists_condition?_of_ne_discarded (List.cons_ne_nil first rest) discarded key value
        rw [asked]
        exact iff_of_false (Option.some_ne_none bound) discarded

/-- The conditions that the accepted filters ask for, in the order of the filters. -/
def conditions (allowed : List String) (entries : List (String × Value)) : List BoundCondition :=
  entries.filterMap fun entry => conditionOf? allowed entry.1 entry.2

theorem conditions_cons_of_none {allowed : List String} {entry : String × Value}
    {rest : List (String × Value)} (asked : conditionOf? allowed entry.1 entry.2 = none) :
    conditions allowed (entry :: rest) = conditions allowed rest := by
  rw [conditions, conditions]
  exact List.filterMap_cons_none asked

theorem conditions_cons_of_some {allowed : List String} {entry : String × Value}
    {rest : List (String × Value)} {bound : BoundCondition}
    (asked : conditionOf? allowed entry.1 entry.2 = some bound) :
    conditions allowed (entry :: rest) = bound :: conditions allowed rest := by
  rw [conditions, conditions]
  exact List.filterMap_cons_some asked

theorem askedBy_of_mem_conditions {allowed : List String} {entries : List (String × Value)}
    {bound : BoundCondition} (member : bound ∈ conditions allowed entries) :
    ∃ entry ∈ entries, BoundCondition.AskedBy allowed entry.1 entry.2 bound := by
  obtain ⟨entry, present, asked⟩ := List.mem_filterMap.mp member
  exact ⟨entry, present, askedBy_of_conditionOf? asked⟩

theorem nodup_names_of_mem_conditions {allowed : List String} {entries : List (String × Value)}
    {bound : BoundCondition} (member : bound ∈ conditions allowed entries) :
    (bound.bindings.map Prod.fst).Nodup := by
  obtain ⟨entry, _, asked⟩ := askedBy_of_mem_conditions member
  exact asked.nodup_names

theorem conditions_of_nil (entries : List (String × Value)) : conditions [] entries = [] :=
  List.filterMap_eq_nil_iff.mpr fun _ _ => rfl

/-- The conditions are those of the filters that are not discarded, one for each. -/
theorem forall₂_conditions (allowed : List String) (entries : List (String × Value)) :
    List.Forall₂ (fun entry bound => conditionOf? allowed entry.1 entry.2 = some bound)
      (entries.filter fun entry => !isDiscarded allowed entry.1)
      (conditions allowed entries) := by
  induction entries with
  | nil => exact .nil
  | cons entry rest inductionHypothesis =>
      cases asked : conditionOf? allowed entry.1 entry.2 with
      | none =>
          have discarded := conditionOf?_eq_none_iff.mp asked
          rw [conditions_cons_of_none asked, List.filter_cons_of_neg (by simp [discarded])]
          exact inductionHypothesis
      | some bound =>
          have accepted : isDiscarded allowed entry.1 = false := by
            rw [← Bool.not_eq_true, ← conditionOf?_eq_none_iff, asked]
            exact Option.some_ne_none bound
          rw [conditions_cons_of_some asked, List.filter_cons_of_pos (by simp [accepted])]
          exact .cons asked inductionHypothesis

/-- Compiling adds the conditions that the filters ask for to the clause without any. -/
theorem value_compile (allowed : List String) (filters : Filters) :
    (filters.compile allowed).value =
      (Clause.addAll {} (conditions allowed filters.entries)).value := by
  cases allowed with
  | nil => rw [conditions_of_nil]; rfl
  | cons first rest =>
      rw [compile, if_neg (by simp), Reported.bind, value_boundConditions]
      rfl

end Filters

/-- A clause is settled by a choice when its text conjoins what is kept, with every kept binding in
force up to agreement, and when everything dropped binds a name that something kept before it binds
to a value that is not equal. -/
structure Clause.SettledBy (clause : Clause) (choice : Choice) : Prop where
  conditions : clause.conditions = choice.kept.map BoundCondition.condition
  text : clause.Conjoins (choice.kept.map fun bound => bound.condition.sql)
  bound : ∀ condition ∈ choice.kept, ∀ name value, (name, value) ∈ condition.bindings →
    ∃ final, clause.parameters.get? name = some final ∧ final.Agrees value
  conflict : ∀ (before after : Choice) (dropped : BoundCondition),
    choice = before ++ (dropped, false) :: after →
      ∃ name value, (name, value) ∈ dropped.bindings ∧
        ∃ earlier ∈ before.kept, ∃ other, (name, other) ∈ earlier.bindings ∧
          (other == value) = false
  names : clause.parameters.keys =
    (choice.kept.flatMap fun condition => condition.bindings.map Prod.fst).eraseDups
  source : ∀ name value, clause.parameters.get? name = some value →
    ∃ condition ∈ choice.kept, (name, value) ∈ condition.bindings

theorem Clause.conjoins_of_conditions {clause : Clause} {bounds : List BoundCondition}
    (conditions : clause.conditions = bounds.map BoundCondition.condition) :
    clause.Conjoins (bounds.map fun bound => bound.condition.sql) := by
  have conjoined := clause.conjoins
  rw [conditions, List.map_map] at conjoined
  exact conjoined

theorem Clause.conditions_addAll_empty (bounds : List BoundCondition) :
    (addAll {} bounds).value.conditions =
      (choose {} bounds).kept.map BoundCondition.condition := by
  rw [conditions_addAll]
  exact List.nil_append _

theorem Clause.settledBy_choose {bounds : List BoundCondition}
    (distinct : ∀ bound ∈ bounds, (bound.bindings.map Prod.fst).Nodup) :
    (addAll {} bounds).value.SettledBy (choose {} bounds) where
  conditions := conditions_addAll_empty bounds
  text := conjoins_of_conditions (conditions_addAll_empty bounds)
  bound := by
    intro condition kept name value binding
    exact bound_of_kept distinct (List.mem_flatMap.mpr ⟨condition, kept, binding⟩)
  conflict := by
    intro before after dropped shape
    obtain ⟨name, value, other, binding, earlier, different⟩ := conflict_of_dropped shape
    obtain ⟨source, kept, sourceBinding⟩ := List.mem_flatMap.mp earlier
    exact ⟨name, value, binding, source, kept, other, sourceBinding, different⟩
  names := by
    rw [parameters_addAll, OrderedMap.keys_insertMany, Choice.bindings, List.map_flatMap]
    rfl
  source := by
    intro name value found
    exact List.mem_flatMap.mp (mem_bindings_of_get?_addAll found)

namespace Filters

/-- The choice that compiling makes among the conditions of the accepted filters. -/
def choice (allowed : List String) (filters : Filters) : Choice :=
  Clause.choose {} (conditions allowed filters.entries)

theorem offered_choice (allowed : List String) (filters : Filters) :
    (filters.choice allowed).offered = conditions allowed filters.entries :=
  Clause.offered_choose {} _

theorem kept_choice_sublist (allowed : List String) (filters : Filters) :
    (filters.choice allowed).kept.Sublist (conditions allowed filters.entries) := by
  rw [← offered_choice]
  exact Choice.kept_sublist _

/-- Whatever is kept was asked for by a filter. -/
theorem askedBy_of_mem_kept {allowed : List String} {filters : Filters} {bound : BoundCondition}
    (kept : bound ∈ (filters.choice allowed).kept) :
    ∃ entry ∈ filters.entries, BoundCondition.AskedBy allowed entry.1 entry.2 bound :=
  askedBy_of_mem_conditions ((kept_choice_sublist allowed filters).subset kept)

/-- Nothing stands before the first filter, so its condition is kept. -/
theorem exists_kept_choice_of_first {allowed : List String} {filters : Filters}
    {entry : String × Value} {later : List (String × Value)} {bound : BoundCondition}
    (shape : filters.entries = entry :: later)
    (asked : conditionOf? allowed entry.1 entry.2 = some bound) :
    ∃ rest, (filters.choice allowed).kept = bound :: rest := by
  have compatible : Clause.conflicts {} bound = false := by
    apply List.any_eq_false.mpr
    intro binding _
    exact Bool.false_ne_true
  refine ⟨Choice.kept (Clause.choose (Clause.add {} bound).value (conditions allowed later)), ?_⟩
  rw [choice, shape, conditions_cons_of_some asked, Clause.choose, compatible]
  rfl

theorem settledBy_choice (allowed : List String) (filters : Filters) :
    (filters.compile allowed).value.SettledBy (filters.choice allowed) := by
  rw [value_compile]
  exact Clause.settledBy_choose fun bound member => nodup_names_of_mem_conditions member

end Filters

end FilterSql
