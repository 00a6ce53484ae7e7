import FilterSql.Proofs.ConditionText

/-!
# What compiling reports

Every filter is accounted for once: its condition stands in the clause, or a warning quotes it as
dropped, or its key is listed as ignored. The diagnostics are given in closed form over the filters,
so that one can be read off the list without running the compiler.
-/

namespace FilterSql

namespace Diagnostic

/-- The words that a warning about a dropped condition starts with. -/
def conflictWords : String :=
  "Placeholder already bound to another value, dropping `"

/-- Whether a diagnostic warns of a condition that was dropped. -/
def reportsConflict (diagnostic : Diagnostic) : Bool :=
  diagnostic.isOf .warning && conflictWords.toList.isPrefixOf diagnostic.message.toList

theorem reportsConflict_dropped (condition : Condition) :
    (Clause.dropped condition).reportsConflict = true := by
  have words : conflictWords.toList <+: (Clause.dropped condition).message.toList := by
    refine ⟨condition.sql.toList ++ "`".toList, ?_⟩
    change _ = (conflictWords ++ condition.sql ++ "`").toList
    rw [String.toList_append, String.toList_append, List.append_assoc]
  rw [reportsConflict, List.isPrefixOf_iff_prefix.mpr words]
  rfl

theorem reportsConflict_deprecatedNullText :
    BoundCondition.deprecatedNullText.reportsConflict = false := by
  decide

theorem reportsConflict_ignored (key : String) :
    (Diagnostic.ignored key).reportsConflict = false := rfl

end Diagnostic

/-- Whether a value is one of the texts that ask for a test against null. -/
def Value.isNullText : Value → Bool
  | text content => nullSentinels.contains content
  | _ => false

/-- Whether an operation compares its column with the value itself. -/
def Operation.comparesValue : Operation → Bool
  | equal => true
  | unequal => true
  | _ => false

theorem BoundCondition.diagnostics_comparison (polarity : Polarity) (key column : String)
    (value : Value) :
    (comparison polarity key column value).diagnostics =
      if value.isNullText then [deprecatedNullText] else [] := by
  cases value with
  | null => rfl
  | bool truth => rfl
  | int number => rfl
  | float number => rfl
  | array items =>
      cases items with
      | nil => rfl
      | cons first rest => rfl
  | text content =>
      rw [comparison, Value.isNullText]
      cases read : NullText.ofString? content with
      | none =>
          have other : nullSentinels.contains content = false := by
            simpa using NullText.ofString?_eq_none_iff.mp read
          rw [other]
          rfl
      | some test =>
          have known : nullSentinels.contains content = true :=
            List.contains_iff_mem.mpr (NullText.text_of_ofString? read).2
          rw [known]
          rfl

namespace Filters

/-- Whether a filter compares its column with a text that asks for a test against null. -/
def isDeprecated (allowed : List String) (filter : String × Value) : Bool :=
  (Operation.ofKey allowed filter.1).value.comparesValue && filter.2.isNullText

/-- What classifying a filter and generating its condition report. -/
def reports (allowed : List String) (filter : String × Value) : List Diagnostic :=
  (if isDiscarded allowed filter.1 then [.ignored filter.1] else []) ++
    (if isDeprecated allowed filter then [BoundCondition.deprecatedNullText] else [])

theorem diagnostics_ofKey {allowed : List String} (nonempty : allowed ≠ []) (key : String) :
    (Operation.ofKey allowed key).diagnostics =
      if isDiscarded allowed key then [.ignored key] else [] := by
  have notEmpty : allowed.isEmpty = false := by simpa using nonempty
  rw [isDiscarded, Operation.ofKey, notEmpty, if_neg Bool.false_ne_true]
  by_cases search : key = Operation.fullTextKey
  · rw [if_pos search]
    rfl
  · rw [if_neg search]
    by_cases listed : allowed.contains key = true
    · rw [if_pos listed]
      rfl
    · rw [if_neg listed]
      cases found : Operation.marked.find? (Operation.marks allowed key) with
      | none => rfl
      | some operation =>
          have selected := List.mem_of_find?_eq_some found
          have accepted : operation ≠ .discarded := by
            intro discarded
            subst discarded
            exact absurd selected (by decide)
          simp [accepted, Reported.pure]

theorem diagnostics_condition? (allowed : List String) (operation : Operation) (key : String)
    (value : Value) :
    (Entry.condition? allowed ⟨operation, key, value⟩).diagnostics =
      if operation.comparesValue && value.isNullText then
        [BoundCondition.deprecatedNullText]
      else [] := by
  cases operation with
  | equal => exact BoundCondition.diagnostics_comparison .positive key _ value
  | unequal => exact BoundCondition.diagnostics_comparison .negative key _ value
  | _ => rfl

theorem diagnostics_boundConditions {allowed : List String} (nonempty : allowed ≠ [])
    (filters : Filters) :
    (filters.boundConditions allowed).diagnostics =
      filters.entries.flatMap (reports allowed) := by
  rw [boundConditions, Reported.map, Reported.diagnostics_sequence, classified, List.map_map,
    List.flatMap_map]
  congr 1
  funext filter
  change (Operation.ofKey allowed filter.1).diagnostics ++
      (Entry.condition? allowed
        ⟨(Operation.ofKey allowed filter.1).value, filter.1, filter.2⟩).diagnostics = _
  rw [diagnostics_ofKey nonempty, diagnostics_condition?]
  rfl

/-- The keys that no allowed column answers to, in the order of the filters. -/
def discardedKeys (allowed : List String) (filters : Filters) : List String :=
  filters.keys.filter (isDiscarded allowed)

/-- One warning for each filter that is written in the deprecated way. -/
def deprecations (allowed : List String) (filters : Filters) : List Diagnostic :=
  (filters.entries.filter (isDeprecated allowed)).map fun _ => BoundCondition.deprecatedNullText

theorem filter_warning_reports (allowed : List String) (entries : List (String × Value)) :
    (entries.flatMap (reports allowed)).filter (Diagnostic.isOf .warning) =
      (entries.filter (isDeprecated allowed)).map fun _ =>
        BoundCondition.deprecatedNullText := by
  induction entries with
  | nil => rfl
  | cons entry rest inductionHypothesis =>
      rw [List.flatMap_cons, List.filter_append, inductionHypothesis, reports]
      by_cases discarded : isDiscarded allowed entry.1 = true <;>
        by_cases deprecated : isDeprecated allowed entry = true <;>
        simp [discarded, deprecated, Diagnostic.isOf, Diagnostic.ignored,
          BoundCondition.deprecatedNullText, Diagnostic.warning]

theorem filter_ignored_reports (allowed : List String) (entries : List (String × Value)) :
    ((entries.flatMap (reports allowed)).filter (Diagnostic.isOf .ignored)).map
        Diagnostic.message =
      (entries.map Prod.fst).filter (isDiscarded allowed) := by
  induction entries with
  | nil => rfl
  | cons entry rest inductionHypothesis =>
      rw [List.flatMap_cons, List.filter_append, List.map_append, inductionHypothesis, reports]
      by_cases discarded : isDiscarded allowed entry.1 = true <;>
        by_cases deprecated : isDeprecated allowed entry = true <;>
        simp [discarded, deprecated, Diagnostic.isOf, Diagnostic.ignored,
          BoundCondition.deprecatedNullText, Diagnostic.warning]

theorem not_noneAllowed_of_mem_reports {allowed : List String}
    {entries : List (String × Value)} {diagnostic : Diagnostic}
    (member : diagnostic ∈ entries.flatMap (reports allowed)) :
    diagnostic.kind ≠ .noneAllowed := by
  obtain ⟨entry, _, reported⟩ := List.mem_flatMap.mp member
  rw [reports, List.mem_append] at reported
  rcases reported with ignored | deprecated
  · split at ignored
    · rw [List.mem_singleton.mp ignored]
      exact nofun
    · exact absurd ignored List.not_mem_nil
  · split at deprecated
    · rw [List.mem_singleton.mp deprecated]
      exact nofun
    · exact absurd deprecated List.not_mem_nil

end Filters

namespace Choice

/-- One warning for each condition that is dropped, quoting its text. -/
def conflictWarnings (choice : Choice) : List Diagnostic :=
  choice.dropped.map fun bound =>
    .warning (Diagnostic.conflictWords ++ bound.condition.sql ++ "`")

theorem kind_of_mem_conflictWarnings {choice : Choice} {diagnostic : Diagnostic}
    (member : diagnostic ∈ choice.conflictWarnings) : diagnostic.kind = .warning := by
  obtain ⟨bound, _, rfl⟩ := List.mem_map.mp member
  rfl

theorem filter_warning_conflictWarnings (choice : Choice) :
    choice.conflictWarnings.filter (Diagnostic.isOf .warning) = choice.conflictWarnings := by
  apply List.filter_eq_self.mpr
  intro diagnostic member
  exact decide_eq_true (kind_of_mem_conflictWarnings member)

theorem filter_ignored_conflictWarnings (choice : Choice) :
    choice.conflictWarnings.filter (Diagnostic.isOf .ignored) = [] := by
  apply List.filter_eq_nil_iff.mpr
  intro diagnostic member
  have warned := kind_of_mem_conflictWarnings member
  simp [Diagnostic.isOf, warned]

theorem countP_reportsConflict_conflictWarnings (choice : Choice) :
    choice.conflictWarnings.countP Diagnostic.reportsConflict = choice.dropped.length := by
  have all : ∀ diagnostic ∈ choice.conflictWarnings, diagnostic.reportsConflict = true := by
    intro diagnostic member
    obtain ⟨bound, _, rfl⟩ := List.mem_map.mp member
    exact Diagnostic.reportsConflict_dropped bound.condition
  rw [List.countP_eq_length.mpr all, conflictWarnings, List.length_map]

theorem length_kept_add_length_dropped (choice : Choice) :
    choice.kept.length + choice.dropped.length = choice.offered.length := by
  rw [kept, dropped, offered, List.length_map, List.length_map, List.length_map]
  exact (List.length_eq_length_filter_add Prod.snd).symm

end Choice

namespace Filters

/-- The ignored keys, if there are any, are listed together with the allowed columns. -/
def ignoredReport (allowed : List String) (filters : Filters) : List Diagnostic :=
  if filters.discardedKeys allowed = [] then []
  else
    [.ignored ("Ignoring columns: [" ++ String.intercalate ", " (filters.discardedKeys allowed) ++
      "]. Allowed columns: [" ++ String.intercalate ", " allowed ++ "]")]

theorem diagnostics_compile {allowed : List String} (nonempty : allowed ≠ [])
    (filters : Filters) :
    (filters.compile allowed).diagnostics =
      filters.deprecations allowed ++ (filters.choice allowed).conflictWarnings ++
        filters.ignoredReport allowed := by
  have conflicts : (Clause.addAll {} (filters.boundConditions allowed).value).diagnostics =
      (filters.choice allowed).conflictWarnings := by
    rw [value_boundConditions, Clause.diagnostics_addAll]
    rfl
  have searchable : (filters.entries.flatMap (reports allowed) ++
      (filters.choice allowed).conflictWarnings).find? (Diagnostic.isOf .noneAllowed) = none := by
    apply List.find?_eq_none.mpr
    intro diagnostic member
    have other : diagnostic.kind ≠ .noneAllowed := by
      rcases List.mem_append.mp member with reported | conflict
      · exact not_noneAllowed_of_mem_reports reported
      · rw [Choice.kind_of_mem_conflictWarnings conflict]
        exact nofun
    simp [Diagnostic.isOf, other]
  rw [compile, if_neg (by simpa using nonempty)]
  dsimp only [Reported.bind]
  rw [diagnostics_boundConditions nonempty, conflicts, Diagnostic.summary, searchable,
    List.filter_append, List.filter_append, Choice.filter_ignored_conflictWarnings,
    List.append_nil, filter_ignored_reports, filter_warning_reports,
    Choice.filter_warning_conflictWarnings]
  simp only [List.isEmpty_iff, Option.toList_none, List.append_nil]
  rfl

theorem dropped_mem_diagnostics {allowed : List String} (nonempty : allowed ≠ [])
    {filters : Filters} {bound : BoundCondition}
    (dropped : bound ∈ (filters.choice allowed).dropped) :
    Clause.dropped bound.condition ∈ (filters.compile allowed).diagnostics := by
  have warned : Clause.dropped bound.condition ∈ (filters.choice allowed).conflictWarnings :=
    List.mem_map.mpr ⟨bound, dropped, rfl⟩
  rw [diagnostics_compile nonempty]
  exact List.mem_append_left _ (List.mem_append_right _ warned)

theorem countP_reportsConflict_compile {allowed : List String} (nonempty : allowed ≠ [])
    (filters : Filters) :
    (filters.compile allowed).diagnostics.countP Diagnostic.reportsConflict =
      (filters.choice allowed).dropped.length := by
  have noDeprecation : (filters.deprecations allowed).countP Diagnostic.reportsConflict = 0 := by
    apply List.countP_eq_zero.mpr
    intro diagnostic member
    obtain ⟨entry, _, rfl⟩ := List.mem_map.mp member
    exact Bool.eq_false_iff.mp Diagnostic.reportsConflict_deprecatedNullText
  have noIgnored : (filters.ignoredReport allowed).countP Diagnostic.reportsConflict = 0 := by
    rw [ignoredReport]
    split
    · rfl
    · rw [List.countP_singleton, Diagnostic.reportsConflict_ignored]
      rfl
  rw [diagnostics_compile nonempty, List.countP_append, List.countP_append, noDeprecation,
    noIgnored, Choice.countP_reportsConflict_conflictWarnings, Nat.zero_add, Nat.add_zero]

/-! ## Every filter is accounted for -/

theorem length_conditions_add_length_discardedKeys (allowed : List String) (filters : Filters) :
    (conditions allowed filters.entries).length + (filters.discardedKeys allowed).length =
      filters.size := by
  have accepted := (forall₂_conditions allowed filters.entries).length_eq
  have parts := filters.entries.length_eq_length_filter_add fun entry => isDiscarded allowed entry.1
  have discarded : (filters.discardedKeys allowed).length =
      (filters.entries.filter fun entry => isDiscarded allowed entry.1).length := by
    rw [discardedKeys, OrderedMap.keys, List.filter_map, List.length_map]
    rfl
  rw [OrderedMap.size, ← accepted, discarded]
  omega

/-- A compiled clause and its diagnostics account for each filter once, by a choice among the
conditions that the filters ask for: a filter is discarded exactly when it asks for none. The text
of the clause conjoins the texts of what is kept, and each warning quotes one of what is dropped. -/
structure AccountedBy (allowed : List String) (filters : Filters) (compiled : Reported Clause)
    (choice : Choice) : Prop where
  offered : choice.offered = conditions allowed filters.entries
  discarded : ∀ key ∈ filters.keys, ∀ value,
    conditionOf? allowed key value = none ↔ key ∈ filters.discardedKeys allowed
  settled : compiled.value.SettledBy choice
  total : compiled.value.conditions.length +
    compiled.diagnostics.countP Diagnostic.reportsConflict +
      (filters.discardedKeys allowed).length = filters.size
  report : compiled.diagnostics =
    filters.deprecations allowed ++ choice.conflictWarnings ++ filters.ignoredReport allowed
  searchable : ∀ diagnostic ∈ compiled.diagnostics, diagnostic.kind ≠ .noneAllowed

theorem accountedBy_choice {allowed : List String} (nonempty : allowed ≠ [])
    (filters : Filters) :
    filters.AccountedBy allowed (filters.compile allowed) (filters.choice allowed) where
  offered := offered_choice allowed filters
  discarded := by
    intro key present value
    rw [conditionOf?_eq_none_iff, discardedKeys, List.mem_filter]
    exact (and_iff_right present).symm
  settled := settledBy_choice allowed filters
  total := by
    have stated := congrArg List.length (settledBy_choice allowed filters).conditions
    rw [List.length_map] at stated
    have chosen := Choice.length_kept_add_length_dropped (filters.choice allowed)
    rw [offered_choice] at chosen
    have asked := length_conditions_add_length_discardedKeys allowed filters
    rw [stated, countP_reportsConflict_compile nonempty]
    omega
  report := diagnostics_compile nonempty filters
  searchable := by
    intro diagnostic member
    rw [diagnostics_compile nonempty, List.mem_append, List.mem_append] at member
    rcases member with (deprecated | conflict) | ignored
    · obtain ⟨entry, _, rfl⟩ := List.mem_map.mp deprecated
      exact nofun
    · rw [Choice.kind_of_mem_conflictWarnings conflict]
      exact nofun
    · rw [ignoredReport] at ignored
      split at ignored
      · exact absurd ignored List.not_mem_nil
      · rw [List.mem_singleton.mp ignored]
        exact nofun

/-- Compiling over allowed columns accounts for every filter, and without any reports just that. -/
theorem exists_accountedBy_compile (filters : Filters) :
    (∀ allowed : List String, allowed ≠ [] →
      ∃ choice, filters.AccountedBy allowed (filters.compile allowed) choice) ∧
    (filters.compile []).value.text = "" ∧
    (filters.compile []).value.parameters = ∅ ∧
    (filters.compile []).diagnostics =
      [⟨.noneAllowed, "There are no allowed columns, all columns will be ignored"⟩] := by
  refine ⟨?_, rfl, rfl, rfl⟩
  intro allowed nonempty
  exact ⟨filters.choice allowed, accountedBy_choice nonempty filters⟩

/-- Two ignored keys, a null text and a conflict, in mixed order. -/
theorem accountedBy_compile_mixed :
    let allowed := ["id", "id1", "status"]
    let filters : Filters := OrderedMap.empty.insertMany
      [("bogus", .null), ("id", .array [.int 1, .int 2]), ("not_status", .text "IS NULL"),
        ("id1", .int 9), ("to_bogus", .int 1)]
    allowed ≠ [] ∧
      (∃ choice, filters.AccountedBy allowed (filters.compile allowed) choice) ∧
      (filters.compile allowed).value.text = "WHERE id IN ($id1, $id2) AND status IS NULL" ∧
      (filters.compile allowed).diagnostics =
        [BoundCondition.deprecatedNullText,
          .warning "Placeholder already bound to another value, dropping `id1 = $id1`",
          .ignored
            "Ignoring columns: [bogus, to_bogus]. Allowed columns: [id, id1, status]"] := by
  intro allowed filters
  have nonempty : allowed ≠ [] := by decide
  exact ⟨nonempty, (exists_accountedBy_compile filters).1 allowed nonempty, by decide, by decide⟩

end Filters

end FilterSql
