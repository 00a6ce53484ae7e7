import FilterSql.Proofs.BatchFilters
import FilterSql.Proofs.DistinctPlaceholders

/-!
# The fields that a selector names

An update or a delete is restricted by each field of its selector on a column of the template, but
the condition of a field is dropped when a field before it has bound one of the placeholders to
another value. The main result says exactly when a field restricts the statement, and that it is
reported when it does not. Over columns without collisions every field does.
-/

namespace FilterSql

namespace Filters

variable {allowed : List String} {filters : Filters} {key : String} {value : Value}

/-- An equality that conflicts with the filters before it is dropped. -/
theorem mem_dropped_of_conflicts {bound : BoundCondition} (found : filters.get? key = some value)
    (asked : conditionOf? allowed key value = some bound)
    (conflict : (compile allowed (filters.before key)).value.conflicts bound = true) :
    bound ∈ (filters.choice allowed).dropped := by
  obtain ⟨_, _, _, _, chosen⟩ := choice_eq_of_get? found asked
  have verdict : (bound, false) ∈ filters.choice allowed := by
    rw [chosen, conflict]
    exact List.mem_append_right _ (List.Mem.head _)
  exact List.mem_map.mpr ⟨_, List.mem_filter.mpr ⟨verdict, rfl⟩, rfl⟩

end Filters

namespace Template.Call

open BoundCondition

/-- A query settles the condition of a field when it states it exactly if no filter before the key
binds one of its placeholders to another value, and then with the values that it comes with. A
condition that is not stated is reported as dropped. -/
structure Settles (call : Call) (query : Query) (key : String) (bound : BoundCondition) :
    Prop where
  stated_iff : query.States bound.condition.sql ↔
    ∀ name value, (name, value) ∈ bound.bindings →
      ∀ other, (call.earlier key).parameters.get? name = some other → (other == value) = true
  enforced : query.States bound.condition.sql →
    bound.EnforcedBy query.statement.conditions query.parameters
  reported : query.States bound.condition.sql ∨
    Clause.dropped bound.condition ∈ query.diagnostics

variable {call : Call} {columns : List ColumnName} {filters : Filters} {query : Query}
variable {key : String} {value : Value}

theorem SelectsRows.diagnostics_eq {selector : Selector} (rows : call.SelectsRows columns selector)
    (answered : call.query? = some query) :
    query.diagnostics = (call.merged.compile call.scope.allowed).diagnostics := by
  cases rows with
  | update selecting =>
      obtain ⟨_, _, rfl⟩ := Update.fill_eq_ok (fill_of_query? answered)
      rfl
  | delete selecting =>
      cases answered
      rfl

theorem SelectsRows.mem_allowed {selector : Selector} (rows : call.SelectsRows columns selector)
    (listed : key ∈ columns.map ColumnName.text) : key ∈ call.scope.allowed := by
  rw [rows.allowed_eq]
  exact List.mem_append_left _ listed

theorem SelectsRows.get?_merged (rows : call.SelectsRows columns (.fields filters))
    (listed : key ∈ columns.map ColumnName.text)
    (free : key ∉ call.scope.permanent.filters.keys) :
    call.merged.get? key = filters.get? key := by
  rw [Call.merged, OrderedMap.get?_merge_of_not_mem free, rows.requested_eq]
  exact Filters.get?_restrictTo (rows.mem_allowed listed)

theorem SelectsRows.enforcedBy_of_not_conflicts {selector : Selector}
    (rows : call.SelectsRows columns selector) (answered : call.query? = some query)
    (listed : key ∈ call.scope.allowed) (other : key ≠ Operation.fullTextKey)
    (found : call.merged.get? key = some value)
    (compatible : (call.earlier key).conflicts (equal key value).value = false) :
    (equal key value).value.EnforcedBy query.statement.conditions query.parameters := by
  have enforced := Filters.enforcedBy_of_not_conflicts listed other found compatible
  rw [conditions_query answered]
  exact enforced.extend (rows.extends_parameters answered)

/-- Every field on a column of the template restricts the statement, unless a filter before it
takes one of its placeholders for another value, and then this is reported. -/
theorem settles_field (rows : call.SelectsRows columns (.fields filters))
    (answered : call.query? = some query) (given : filters.get? key = some value)
    (listed : key ∈ columns.map ColumnName.text) (other : key ≠ Operation.fullTextKey)
    (free : key ∉ call.scope.permanent.filters.keys) :
    call.Settles query key (equal key value).value := by
  have allowed := rows.mem_allowed listed
  have found : call.merged.get? key = some value := by
    rw [rows.get?_merged listed free, given]
  by_cases conflict : (call.earlier key).conflicts (equal key value).value = true
  · have unstated : ¬query.States (equal key value).value.condition.sql := by
      intro states
      have stated := states.stated
      rw [conditions_query answered] at stated
      have compatible := Filters.not_conflicts_of_stated call.scope.isColumnName_of_mem_allowed
        allowed other found stated
      exact absurd conflict (Bool.eq_false_iff.mp compatible)
    refine ⟨iff_of_false unstated ?_, fun states => absurd states unstated, Or.inr ?_⟩
    · rw [← conflicts_earlier_eq_false_iff, conflict]
      exact nofun
    · rw [rows.diagnostics_eq answered]
      apply Filters.dropped_mem_diagnostics (List.ne_nil_of_mem allowed)
      exact Filters.mem_dropped_of_conflicts found
        (Filters.conditionOf?_of_mem allowed other value) conflict
  · have compatible := Bool.eq_false_iff.mpr conflict
    have enforced := rows.enforcedBy_of_not_conflicts answered allowed other found compatible
    have states := Query.states_iff.mpr enforced.stated
    refine ⟨iff_of_true states ?_, fun _ => enforced, Or.inl states⟩
    exact conflicts_earlier_eq_false_iff.mp compatible

/-- A list, and after it a field on another column whose placeholder is not taken. -/
theorem settles_field_after_list :
    let call : Call := .delete
      { table := "t", selecting := [⟨"id", by decide⟩, ⟨"t.id", by decide⟩] }
      (.fields (((∅ : Filters).insert "id" (.array [.int 1, .int 2])).insert "t.id" (.int 9)))
    ∃ query, call.query? = some query ∧
      query.sql = "DELETE FROM t WHERE id IN ($id1, $id2) AND t.id = $t__id" ∧
      "t.id" ≠ Operation.fullTextKey ∧ "t.id" ∉ call.scope.permanent.filters.keys ∧
      query.States (equal "t.id" (.int 9)).value.condition.sql ∧
      call.Settles query "t.id" (equal "t.id" (.int 9)).value := by
  intro call
  have other : "t.id" ≠ Operation.fullTextKey := by decide
  have free : "t.id" ∉ call.scope.permanent.filters.keys := by decide
  have settled : call.Settles _ "t.id" (equal "t.id" (.int 9)).value :=
    settles_field (.delete rfl) rfl rfl (by decide) other free
  have compatible : (call.earlier "t.id").conflicts (equal "t.id" (.int 9)).value = false := by
    decide
  refine ⟨_, rfl, by decide, other, free, ?_, settled⟩
  exact settled.stated_iff.mpr (conflicts_earlier_eq_false_iff.mp compatible)

/-- A list binds `id1` for its first value, and a field on the column of that name restricts nothing
any more. -/
theorem field_dropped_after_list :
    ∃ template : Delete,
      Delete.withSelecting { table := "t" } ["id", "id1"] = .ok template ∧
        ∃ filters query,
          (delete template (.fields filters)).query? = some query ∧
          filters.get? "id1" = some (.int 9) ∧
          "id1" ∈ template.selecting.map ColumnName.text ∧
          "id1" ≠ Operation.fullTextKey ∧
          "id1" ∉ template.permanent.filters.keys ∧
          query.sql = "DELETE FROM t WHERE id IN ($id1, $id2)" ∧
          ¬query.States (equal "id1" (.int 9)).value.condition.sql := by
  refine ⟨{ table := "t", selecting := [⟨"id", by decide⟩, ⟨"id1", by decide⟩] }, rfl,
    ((∅ : Filters).insert "id" (.array [.int 1, .int 2])).insert "id1" (.int 9),
    _, rfl, rfl, by decide, by decide, by decide, by decide, ?_⟩
  intro states
  exact absurd states.stated (by decide)

/-- Over columns without collisions every field on a column of the template is enforced. -/
theorem enforcedBy_field_of_collisionFree
    (collisionFree : ∀ column ∈ call.scope.allowed, CollisionFree column)
    (rows : call.SelectsRows columns (.fields filters)) (answered : call.query? = some query)
    (given : filters.get? key = some value) (listed : key ∈ columns.map ColumnName.text)
    (other : key ≠ Operation.fullTextKey) (free : key ∉ call.scope.permanent.filters.keys) :
    (equal key value).value.EnforcedBy query.statement.conditions query.parameters := by
  have allowed := rows.mem_allowed listed
  have found : call.merged.get? key = some value := by
    rw [rows.get?_merged listed free, given]
  apply rows.enforcedBy_of_not_conflicts answered allowed other found
  apply Bool.eq_false_iff.mpr
  intro conflict
  have dropped := Filters.mem_dropped_of_conflicts found
    (Filters.conditionOf?_of_mem allowed other value) conflict
  rw [Filters.dropped_choice_of_collisionFree collisionFree] at dropped
  cases dropped

end Template.Call

end FilterSql
