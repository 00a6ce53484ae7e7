import FilterSql.Proofs.KeyGrammar
import FilterSql.Proofs.SelectedFields

/-!
# Columns taken as they are named

The filters of a statement that changes rows are narrowed to its columns before they are compiled
over the same columns. A key that is left is a column, and this is tried before any marker. So no
key is read as a marker and another column: a column whose own name starts with a marker is compared
for equality, and the key of the search searches. Compiling has nothing to ignore, since what is not
a column has been taken away before.
-/

namespace FilterSql

/-- The condition of a filter whose key is taken as it is. -/
def BoundCondition.verbatim (allowed : List String) (key : String) (value : Value) :
    BoundCondition :=
  if key = "match" then ofKey "match" value (.anyLike allowed) else (equal key value).value

/-- The operation of a key that is taken as it is. -/
def Operation.verbatim (key : String) : Operation :=
  if key = "match" then fullText else equal

theorem Operation.ofKey_eq_verbatim {allowed : List String} {key : String}
    (listed : key ∈ allowed) : ofKey allowed key = .pure (verbatim key) := by
  rw [verbatim]
  by_cases search : key = "match"
  · rw [if_pos search, search]
    exact ofKey_fullTextKey (List.ne_nil_of_mem listed)
  · rw [if_neg search]
    exact ofKey_of_mem listed search

namespace Filters

variable {allowed : List String} {filters : Filters}

theorem conditionOf?_eq_verbatim {key : String} (listed : key ∈ allowed) (value : Value) :
    conditionOf? allowed key value = some (BoundCondition.verbatim allowed key value) := by
  rw [BoundCondition.verbatim]
  by_cases search : key = "match"
  · rw [if_pos search, search]
    exact conditionOf?_fullTextKey (List.ne_nil_of_mem listed) value
  · rw [if_neg search]
    exact conditionOf?_of_mem listed search value

theorem conditions_eq_map_verbatim {entries : List (String × Value)}
    (listed : ∀ entry ∈ entries, entry.1 ∈ allowed) :
    conditions allowed entries =
      entries.map fun entry => BoundCondition.verbatim allowed entry.1 entry.2 := by
  rw [conditions, ← List.filterMap_eq_map]
  apply List.filterMap_congr
  intro entry member
  exact conditionOf?_eq_verbatim (listed entry member) entry.2

theorem discardedKeys_eq_nil (listed : ∀ key ∈ filters.keys, key ∈ allowed) :
    filters.discardedKeys allowed = [] := by
  apply List.filter_eq_nil_iff.mpr
  intro key present
  rw [isDiscarded, Operation.ofKey_eq_verbatim (listed key present), Reported.pure,
    Operation.verbatim]
  split <;> decide

/-- Over filters on allowed columns there is nothing to report but warnings. -/
theorem kind_of_mem_diagnostics (listed : ∀ key ∈ filters.keys, key ∈ allowed)
    {diagnostic : Diagnostic} (reported : diagnostic ∈ (filters.compile allowed).diagnostics) :
    diagnostic.kind = if allowed = [] then .noneAllowed else .warning := by
  by_cases empty : allowed = []
  · rw [empty] at reported
    rw [if_pos empty, List.mem_singleton.mp reported]
    rfl
  · rw [diagnostics_compile empty, ignoredReport, discardedKeys_eq_nil listed, if_pos rfl,
      List.append_nil] at reported
    rw [if_neg empty]
    rcases List.mem_append.mp reported with deprecated | conflict
    · obtain ⟨_, _, rfl⟩ := List.mem_map.mp deprecated
      rfl
    · exact Choice.kind_of_mem_conflictWarnings conflict

theorem exists_noneAllowed_iff (listed : ∀ key ∈ filters.keys, key ∈ allowed) :
    (∃ diagnostic ∈ (filters.compile allowed).diagnostics, diagnostic.kind = .noneAllowed) ↔
      allowed = [] := by
  constructor
  · rintro ⟨diagnostic, reported, kind⟩
    by_contra nonempty
    rw [kind_of_mem_diagnostics listed reported, if_neg nonempty] at kind
    cases kind
  · rintro rfl
    exact ⟨.noneAllowed, List.Mem.head _, rfl⟩

end Filters

namespace Template.Call

variable {call : Call} {query : Query} {key : String}

/-- Whether the call is for a statement that changes rows. -/
def changesRows : Call → Bool
  | select _ _ => false
  | _ => true

/-- What is compiled is on the columns that it is compiled over. -/
theorem mem_allowed_of_changesRows (changes : call.changesRows = true)
    (present : key ∈ call.merged.keys) : key ∈ call.scope.allowed := by
  cases call with
  | select template request => cases changes
  | update template selector data =>
      exact SelectsRows.mem_allowed_of_mem_merged (.update rfl) present
  | delete template selector =>
      exact SelectsRows.mem_allowed_of_mem_merged (.delete rfl) present
  | batchDelete template selectors => exact BatchDelete.mem_allowed_of_mem_merged present

theorem diagnostics_of_changesRows (changes : call.changesRows = true)
    (answered : call.query? = some query) :
    query.diagnostics = (call.merged.compile call.scope.allowed).diagnostics := by
  cases call with
  | select template request => cases changes
  | update template selector data => exact SelectsRows.diagnostics_eq (.update rfl) answered
  | delete template selector => exact SelectsRows.diagnostics_eq (.delete rfl) answered
  | batchDelete template selectors =>
      cases answered
      rfl

theorem allowed_eq_nil_iff :
    call.scope.allowed = [] ↔
      call.scope.columns = [] ∧ call.scope.permanent.filters.entries = [] := by
  rw [Scope.allowed, List.append_eq_nil_iff, List.map_eq_nil_iff, OrderedMap.keys,
    List.map_eq_nil_iff]

/-- The query of a call is restricted by columns taken as they are named: those of the template and
those of its permanent filters. -/
structure TakesColumns (call : Call) (query : Query) : Prop where
  listed : ∀ key ∈ call.merged.keys,
    key ∈ call.scope.columns.map ColumnName.text ∨ key ∈ call.scope.permanent.filters.keys
  classified : ∀ key ∈ call.merged.keys,
    Operation.ofKey call.scope.allowed key = .pure (Operation.verbatim key)
  written : query.statement.conditions ≠ [] → query.WritesConditions
  conditions : query.statement.conditions.Sublist (call.merged.entries.map fun entry =>
    (BoundCondition.verbatim call.scope.allowed entry.1 entry.2).condition)
  nothingIgnored : ∀ diagnostic ∈ query.diagnostics, diagnostic.kind ≠ .ignored
  noneAllowed_iff : (∃ diagnostic ∈ query.diagnostics, diagnostic.kind = .noneAllowed) ↔
    call.scope.columns = [] ∧ call.scope.permanent.filters.entries = []
  batch : ∀ template selectors, call = .batchDelete template selectors →
    ∀ diagnostic ∈ query.diagnostics, diagnostic.kind ≠ .noneAllowed

theorem conditions_sublist_verbatim (changes : call.changesRows = true)
    (answered : call.query? = some query) :
    query.statement.conditions.Sublist (call.merged.entries.map fun entry =>
      (BoundCondition.verbatim call.scope.allowed entry.1 entry.2).condition) := by
  have offered : Filters.conditions call.scope.allowed call.merged.entries =
      call.merged.entries.map fun entry =>
        BoundCondition.verbatim call.scope.allowed entry.1 entry.2 := by
    apply Filters.conditions_eq_map_verbatim
    intro entry member
    exact mem_allowed_of_changesRows changes (List.mem_map_of_mem member)
  have stated := (Filters.kept_choice_sublist call.scope.allowed call.merged).map
    BoundCondition.condition
  rw [offered, List.map_map] at stated
  rw [conditions_query_eq_kept answered]
  exact stated

/-- A statement that changes rows is restricted by its columns alone, each taken as it is named. -/
theorem takesColumns_of_changesRows (changes : call.changesRows = true)
    (answered : call.query? = some query) : call.TakesColumns query := by
  have listed : ∀ key ∈ call.merged.keys, key ∈ call.scope.allowed := fun _ present =>
    mem_allowed_of_changesRows changes present
  have diagnostics := diagnostics_of_changesRows changes answered
  have noneAllowed : (∃ diagnostic ∈ query.diagnostics, diagnostic.kind = .noneAllowed) ↔
      call.scope.columns = [] ∧ call.scope.permanent.filters.entries = [] := by
    rw [diagnostics, Filters.exists_noneAllowed_iff listed, allowed_eq_nil_iff]
  exact
    { listed := fun key present => List.mem_append.mp (listed key present)
      classified := fun key present => Operation.ofKey_eq_verbatim (listed key present)
      written := Query.writesConditions
      conditions := conditions_sublist_verbatim changes answered
      nothingIgnored := by
        intro diagnostic reported
        rw [diagnostics] at reported
        rw [Filters.kind_of_mem_diagnostics listed reported]
        split <;> exact nofun
      noneAllowed_iff := noneAllowed
      batch := by
        rintro template selectors rfl diagnostic reported kind
        exact template.keyed (noneAllowed.mp ⟨diagnostic, reported, kind⟩).1 }

/-- A column that starts with a marker stands before the column behind it, and the search comes from
a permanent filter. -/
theorem takesColumns_overlapping :
    let call : Call := .delete
      { table := "t", selecting := [⟨"not_x", by decide⟩, ⟨"x", by decide⟩]
        permanent := ⟨(∅ : Filters).insert "match" (.text "a%"), by decide⟩ }
      (.fields (OrderedMap.ofList
        [("not_x", .int 1), ("from_x", .int 2), ("x", .array [.int 3]), ("match", .null)]))
    ∃ query, call.changesRows = true ∧ call.query? = some query ∧
      query.sql = "DELETE FROM t WHERE not_x = $not_x AND x IN ($x1) AND " ++
        "(not_x::text ILIKE $match OR x::text ILIKE $match OR match::text ILIKE $match)" ∧
      call.TakesColumns query := by
  intro call
  exact ⟨_, rfl, rfl, by decide, takesColumns_of_changesRows rfl rfl⟩

end Template.Call

end FilterSql
