import FilterSql.Proofs.FilterReport

/-!
# The shapes of values

Compiling looks at a value only to tell null, a list and its length, the null texts and all other
values apart. So two requests with the same keys and shapes of values compile to the same text, the
same diagnostics and the same names of parameters, as long as no values of either are in conflict.
Each of these is written as a function of the outline, so two runs need not be followed side by
side.
-/

namespace FilterSql

/-- What compiling sees of a value. -/
inductive Value.Shape where
  | null
  | list (length : Nat)
  | nullText (test : NullText)
  | plain
  deriving DecidableEq

namespace Value

def shape : Value → Shape
  | null => .null
  | array items => .list items.length
  | text content =>
      match NullText.ofString? content with
      | some test => .nullText test
      | none => .plain
  | bool _ => .plain
  | int _ => .plain
  | float _ => .plain

/-- Some value of a shape. -/
def Shape.sample : Shape → Value
  | null => .null
  | list length => .array (List.replicate length .null)
  | nullText test => .text test.text
  | plain => .bool true

theorem isNullText_sample (value : Value) :
    value.shape.sample.isNullText = value.isNullText := by
  cases value with
  | text content =>
      rw [shape, isNullText]
      cases read : NullText.ofString? content with
      | none =>
          have other : content ∉ nullSentinels := NullText.ofString?_eq_none_iff.mp read
          rw [List.contains_eq_mem, decide_eq_false other]
          rfl
      | some test =>
          have same := (NullText.text_of_ofString? read).1
          change nullSentinels.contains test.text = nullSentinels.contains content
          rw [same]
  | _ => rfl

end Value

namespace BoundCondition

/-- A condition with the names of its placeholders, but without their values. -/
def outline (bound : BoundCondition) : Condition × List String :=
  (bound.condition, bound.bindings.map Prod.fst)

theorem outline_comparison (polarity : Polarity) (key column : String) (value : Value) :
    (comparison polarity key column value.shape.sample).value.outline =
      (comparison polarity key column value).value.outline := by
  cases value with
  | null => rfl
  | bool truth => rfl
  | int number => rfl
  | float number => rfl
  | text content =>
      rw [Value.shape, comparison]
      cases read : NullText.ofString? content with
      | none => rfl
      | some test =>
          have readSample : NullText.ofString? test.text = some test := by
            rw [(NullText.text_of_ofString? read).1, read]
          simp only [Value.Shape.sample, comparison, readSample]
  | array items =>
      cases items with
      | nil => rfl
      | cons first rest =>
          have names : (numbered key (List.replicate (first :: rest).length .null)).map Prod.fst =
              (numbered key (first :: rest)).map Prod.fst := by
            rw [names_numbered, names_numbered, List.length_replicate]
          exact congrArg (fun names => (Condition.member polarity column names, names)) names

end BoundCondition

namespace Filters

open BoundCondition

theorem outline_conditionOf? (allowed : List String) (key : String) (value : Value) :
    (conditionOf? allowed key value.shape.sample).map outline =
      (conditionOf? allowed key value).map outline := by
  rw [conditionOf?, conditionOf?]
  cases (Operation.ofKey allowed key).value with
  | equal => exact congrArg some (outline_comparison .positive key _ value)
  | unequal => exact congrArg some (outline_comparison .negative key _ value)
  | fullText =>
      rw [Entry.condition?, Entry.condition?, fullText?, fullText?]
      cases allowed.isEmpty with
      | true => rfl
      | false => rfl
  | _ => rfl

/-- The keys of filters with the shapes of their values. -/
def outline (filters : Filters) : List (String × Value.Shape) :=
  filters.entries.map fun entry => (entry.1, entry.2.shape)

theorem keys_eq_of_outline (filters : Filters) :
    filters.keys = filters.outline.map Prod.fst := by
  rw [outline, List.map_map]
  rfl

/-- The conditions of filters, but for their values, are determined by the outline. -/
theorem map_outline_conditions (allowed : List String) (filters : Filters) :
    (conditions allowed filters.entries).map BoundCondition.outline =
      filters.outline.filterMap fun entry =>
        (conditionOf? allowed entry.1 entry.2.sample).map BoundCondition.outline := by
  rw [outline, List.filterMap_map, conditions, List.map_filterMap]
  apply List.filterMap_congr
  intro entry _
  exact (outline_conditionOf? allowed entry.1 entry.2).symm

theorem deprecations_eq_of_outline (allowed : List String) (filters : Filters) :
    filters.deprecations allowed =
      (filters.outline.filter fun entry => isDeprecated allowed (entry.1, entry.2.sample)).map
        fun _ => deprecatedNullText := by
  rw [outline, List.filter_map, List.map_map, deprecations]
  have same : (fun entry : String × Value.Shape => isDeprecated allowed (entry.1, entry.2.sample)) ∘
      (fun entry : String × Value => (entry.1, entry.2.shape)) = isDeprecated allowed := by
    funext entry
    simp only [Function.comp_apply, isDeprecated, Value.isNullText_sample]
  rw [same]
  rfl

end Filters

theorem Choice.kept_eq_offered {choice : Choice} (kept : choice.dropped = []) :
    choice.kept = choice.offered := by
  have total := choice.length_kept_add_length_dropped
  rw [kept, List.length_nil, Nat.add_zero] at total
  exact choice.kept_sublist.eq_of_length total

namespace Filters

variable {allowed : List String}

theorem dropped_eq_nil {filters : Filters}
    (compatible : ∀ diagnostic ∈ (filters.compile allowed).diagnostics,
      diagnostic.reportsConflict = false) :
    (filters.choice allowed).dropped = [] := by
  by_cases empty : allowed = []
  · rw [empty, choice, conditions_of_nil]
    rfl
  · have none : (filters.compile allowed).diagnostics.countP Diagnostic.reportsConflict = 0 := by
      apply List.countP_eq_zero.mpr
      intro diagnostic member
      exact Bool.eq_false_iff.mp (compatible diagnostic member)
    rw [countP_reportsConflict_compile empty] at none
    exact List.eq_nil_of_length_eq_zero none

theorem kept_eq_conditions {filters : Filters}
    (compatible : ∀ diagnostic ∈ (filters.compile allowed).diagnostics,
      diagnostic.reportsConflict = false) :
    (filters.choice allowed).kept = conditions allowed filters.entries := by
  rw [Choice.kept_eq_offered (dropped_eq_nil compatible), offered_choice]

theorem conditions_compile_of_compatible {filters : Filters}
    (compatible : ∀ diagnostic ∈ (filters.compile allowed).diagnostics,
      diagnostic.reportsConflict = false) :
    (filters.compile allowed).value.conditions =
      ((conditions allowed filters.entries).map BoundCondition.outline).map Prod.fst := by
  rw [(settledBy_choice allowed filters).conditions, kept_eq_conditions compatible, List.map_map]
  rfl

theorem keys_compile_of_compatible {filters : Filters}
    (compatible : ∀ diagnostic ∈ (filters.compile allowed).diagnostics,
      diagnostic.reportsConflict = false) :
    (filters.compile allowed).value.parameters.keys =
      (((conditions allowed filters.entries).map BoundCondition.outline).flatMap
        Prod.snd).eraseDups := by
  rw [(settledBy_choice allowed filters).names, kept_eq_conditions compatible, List.flatMap_map]
  rfl

theorem diagnostics_compile_of_compatible {filters : Filters}
    (compatible : ∀ diagnostic ∈ (filters.compile allowed).diagnostics,
      diagnostic.reportsConflict = false) (nonempty : allowed ≠ []) :
    (filters.compile allowed).diagnostics =
      filters.deprecations allowed ++ filters.ignoredReport allowed := by
  have nothing : (filters.choice allowed).conflictWarnings = [] := by
    rw [Choice.conflictWarnings, dropped_eq_nil compatible]
    rfl
  rw [diagnostics_compile nonempty, nothing, List.append_nil]

/-- Filters that differ in plain values and in the items of lists only, and that meet no conflict,
compile to the same text with the same diagnostics and the same names of parameters. -/
theorem compile_eq_of_outline_eq {first second : Filters}
    (sameOutline : first.outline = second.outline)
    (firstCompatible : ∀ diagnostic ∈ (first.compile allowed).diagnostics,
      diagnostic.reportsConflict = false)
    (secondCompatible : ∀ diagnostic ∈ (second.compile allowed).diagnostics,
      diagnostic.reportsConflict = false) :
    (first.compile allowed).value.text = (second.compile allowed).value.text ∧
      (first.compile allowed).diagnostics = (second.compile allowed).diagnostics ∧
      (first.compile allowed).value.parameters.keys =
        (second.compile allowed).value.parameters.keys := by
  have sameConditions : (conditions allowed first.entries).map BoundCondition.outline =
      (conditions allowed second.entries).map BoundCondition.outline := by
    rw [map_outline_conditions, map_outline_conditions, sameOutline]
  refine ⟨?_, ?_, ?_⟩
  · rw [Clause.text, Clause.text, conditions_compile_of_compatible firstCompatible,
      conditions_compile_of_compatible secondCompatible, sameConditions]
  · by_cases empty : allowed = []
    · rw [empty]
      rfl
    · have sameDiscarded : first.discardedKeys allowed = second.discardedKeys allowed := by
        rw [discardedKeys, discardedKeys, keys_eq_of_outline, keys_eq_of_outline, sameOutline]
      rw [diagnostics_compile_of_compatible firstCompatible empty,
        diagnostics_compile_of_compatible secondCompatible empty, deprecations_eq_of_outline,
        deprecations_eq_of_outline, sameOutline, ignoredReport, ignoredReport, sameDiscarded]
  · rw [keys_compile_of_compatible firstCompatible, keys_compile_of_compatible secondCompatible,
      sameConditions]

/-- Other items, another number and another text, beside a shared null text and an ignored key. -/
theorem compile_eq_of_outline_eq_mixed :
    let allowed := ["id", "status", "created", "name"]
    let first : Filters := OrderedMap.empty.insertMany
      [("id", .array [.int 1, .int 2]), ("not_status", .text "IS NULL"),
        ("from_created", .text "2020-01-01"), ("name", .bool true), ("bogus", .null)]
    let second : Filters := OrderedMap.empty.insertMany
      [("id", .array [.text "' OR 1=1 --", .null]), ("not_status", .text "IS NULL"),
        ("from_created", .int 7), ("name", .text "$id1"), ("bogus", .null)]
    first.outline = second.outline ∧
      (∀ diagnostic ∈ (first.compile allowed).diagnostics, diagnostic.reportsConflict = false) ∧
      (∀ diagnostic ∈ (second.compile allowed).diagnostics, diagnostic.reportsConflict = false) ∧
      (first.compile allowed).value.text = (second.compile allowed).value.text ∧
      (first.compile allowed).diagnostics = (second.compile allowed).diagnostics ∧
      (first.compile allowed).value.parameters.keys =
        (second.compile allowed).value.parameters.keys := by
  intro allowed first second
  have sameOutline : first.outline = second.outline := by decide
  have firstCompatible : ∀ diagnostic ∈ (first.compile allowed).diagnostics,
      diagnostic.reportsConflict = false := by decide
  have secondCompatible : ∀ diagnostic ∈ (second.compile allowed).diagnostics,
      diagnostic.reportsConflict = false := by decide
  exact ⟨sameOutline, firstCompatible, secondCompatible,
    compile_eq_of_outline_eq sameOutline firstCompatible secondCompatible⟩

end Filters

end FilterSql
