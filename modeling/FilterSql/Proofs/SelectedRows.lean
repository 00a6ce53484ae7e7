import FilterSql.Proofs.Call
import FilterSql.Proofs.FilterReport

/-!
# The rows that a selector names

An update or a delete is about the rows that a selector names on the columns of its template. The
main results say exactly when a bare id is compared with the first column, and exactly when the
statement has a condition at all. A template for one row is no exception to either: an id may be
read as a test against null, and filters may name none of the columns.
-/

namespace FilterSql

namespace Template

/-- The calls of templates that select rows by these columns, with this selector. -/
inductive Call.SelectsRows (columns : List ColumnName) (selector : Selector) : Call → Prop where
  | update {template : Update} {data : Filters} (selecting : template.selecting = columns) :
      SelectsRows columns selector (.update template selector data)
  | delete {template : Delete} (selecting : template.selecting = columns) :
      SelectsRows columns selector (.delete template selector)

namespace Call.SelectsRows

variable {columns : List ColumnName} {selector : Selector} {call : Call} {query : Query}

theorem requested_eq (rows : call.SelectsRows columns selector) :
    call.requested = selector.filtersOn call.scope.allowed := by
  cases rows with
  | update selecting => rfl
  | delete selecting => rfl

theorem allowed_eq (rows : call.SelectsRows columns selector) :
    call.scope.allowed =
      columns.map ColumnName.text ++ call.scope.permanent.filters.keys := by
  cases rows with
  | update selecting =>
      rw [← selecting]
      rfl
  | delete selecting =>
      rw [← selecting]
      rfl

/-- No page is bound over the parameters of the clause. -/
theorem extends_parameters (rows : call.SelectsRows columns selector)
    (answered : call.query? = some query) :
    call.clause.parameters.Extends query.parameters := by
  apply extends_of_unpaged answered
  cases rows with
  | update selecting => rfl
  | delete selecting => rfl

end Call.SelectsRows

/-- The condition of the first filter heads the clause, and its bindings hold to the end. -/
theorem Call.exists_conditions_of_first {call : Call} {query : Query}
    (answered : call.query? = some query) {entry : String × Value}
    {later : List (String × Value)} {bound : BoundCondition}
    (shape : call.merged.entries = entry :: later)
    (asked : Filters.conditionOf? call.scope.allowed entry.1 entry.2 = some bound) :
    (∃ rest, query.statement.conditions = bound.condition :: rest) ∧
      ∀ name value, (name, value) ∈ bound.bindings →
        ∃ final, call.clause.parameters.get? name = some final ∧ final.Agrees value := by
  obtain ⟨rest, kept⟩ : ∃ rest, call.choice.kept = bound :: rest :=
    Filters.exists_kept_choice_of_first shape asked
  constructor
  · refine ⟨rest.map BoundCondition.condition, ?_⟩
    rw [conditions_query_eq_kept answered, kept, List.map_cons]
  · have first : bound ∈ call.choice.kept := by
      rw [kept]
      exact List.Mem.head rest
    exact call.settledBy_choice.bound bound first

end Template

/-! ## Bare ids -/

/-- Whether a value is neither null nor a list. -/
def Value.isScalar : Value → Bool
  | null => false
  | array _ => false
  | _ => true

/-- The conditions in the text of a query start with the comparison of a column with a placeholder
of its own, and this is bound to the value. -/
structure Query.SelectsBy (query : Query) (column : String) (value : Value) : Prop where
  written : query.WritesConditions
  starts : ∃ rest, query.statement.conditions.map Condition.sql =
    (column ++ " = $" ++ Placeholder.ofKey column) :: rest
  bound : ∃ final, query.parameters.get? (Placeholder.ofKey column) = some final ∧
    final.Agrees value

namespace BoundCondition

theorem equal_of_isScalar {key : String} {value : Value} (scalar : value.isScalar = true)
    (other : value.isNullText = false) :
    (equal key value).value = ofKey key value (.compare .positive key) := by
  apply equal_of_isPlain
  cases value with
  | null => cases scalar
  | array items => cases scalar
  | text content =>
      have unread : NullText.ofString? content = none := by
        apply NullText.ofString?_eq_none_iff.mpr
        simpa [Value.isNullText] using other
      rw [Value.isPlain, unread]
      rfl
  | _ => rfl

/-- A null text is written into the condition, which then is no comparison with a placeholder. -/
theorem sql_equal_ne_of_isNullText {key : String} {value : Value}
    (nullText : value.isNullText = true) (name : String) :
    (equal key value).value.condition.sql ≠ key ++ " = $" ++ name := by
  cases value with
  | text content =>
      cases read : NullText.ofString? content with
      | none =>
          have known : content ∈ nullSentinels := by simpa [Value.isNullText] using nullText
          exact absurd known (NullText.ofString?_eq_none_iff.mp read)
      | some test =>
          intro same
          have written : (equal key (.text content)).value.condition.sql =
              key ++ " " ++ test.text := by
            rw [equal, comparison, read]
            rfl
          have characters : " ".toList ++ test.text.toList = " = $".toList ++ name.toList := by
            rw [written, ← String.toList_inj] at same
            simpa only [String.toList_append, List.append_assoc, List.append_cancel_left_eq]
              using same
          -- After the column and a blank, one text goes on with a word and the other with a sign.
          have letters := congrArg (fun text => text[1]?) characters
          cases test <;> cases letters
  | _ => cases nullText

end BoundCondition

namespace Template.Call

theorem exists_merged_of_id {call : Call} {column : ColumnName} {others : List ColumnName}
    {id : Value} (rows : call.SelectsRows (column :: others) (.id id))
    (free : column.text ∉ call.scope.permanent.filters.keys) :
    ∃ later, call.merged.entries = (column.text, id) :: later := by
  have requested : call.requested = (∅ : Filters).insert column.text id := by
    rw [rows.requested_eq, rows.allowed_eq]
    rfl
  have shape : call.requested.entries = [(column.text, id)] := by
    rw [requested]
    rfl
  obtain ⟨written, later, merged⟩ : ∃ written later,
      call.merged.entries = (column.text, written) :: later :=
    OrderedMap.exists_entries_merge shape
  -- The permanent filters are written to other keys, so the id keeps its place and its value.
  have same : written = id := by
    have found : call.merged.get? column.text = some written := by
      exact OrderedMap.get?_of_entries_cons merged
    rw [Call.merged, OrderedMap.get?_merge_of_not_mem free, requested, OrderedMap.get?_insert,
      if_pos rfl] at found
    exact (Option.some.inj found).symm
  rw [same] at merged
  exact ⟨later, merged⟩

/-- A bare scalar id selects by equality with the first column exactly when it is not one of the
texts that ask for a test against null. -/
theorem selectsBy_id_iff {call : Call} {column : ColumnName} {others : List ColumnName}
    {id : Value} {query : Query} (rows : call.SelectsRows (column :: others) (.id id))
    (other : column.text ≠ Operation.fullTextKey)
    (free : column.text ∉ call.scope.permanent.filters.keys) (scalar : id.isScalar = true)
    (answered : call.query? = some query) :
    query.SelectsBy column.text id ↔ id.isNullText = false := by
  have listed : column.text ∈ call.scope.allowed := by
    rw [rows.allowed_eq]
    exact List.mem_append_left _ (List.mem_map_of_mem (List.Mem.head others))
  obtain ⟨later, shape⟩ := exists_merged_of_id rows free
  have asked := Filters.conditionOf?_of_mem listed other id
  obtain ⟨⟨rest, conditions⟩, holds⟩ := exists_conditions_of_first answered shape asked
  constructor
  · intro selects
    apply Bool.eq_false_iff.mpr
    intro nullText
    obtain ⟨others, starts⟩ := selects.starts
    rw [conditions, List.map_cons] at starts
    exact BoundCondition.sql_equal_ne_of_isNullText nullText _ (List.cons.inj starts).1
  · intro plain
    rw [BoundCondition.equal_of_isScalar scalar plain] at conditions holds
    have conditioned : query.statement.conditions ≠ [] := by simp [conditions]
    refine ⟨Query.writesConditions conditioned, ⟨rest.map Condition.sql, ?_⟩, ?_⟩
    · rw [conditions, List.map_cons]
      exact congrArg (· :: rest.map Condition.sql) (append_reference column.text " = " _)
    · obtain ⟨first, bindsFirst, firstAgrees⟩ := holds _ _ (List.Mem.head _)
      obtain ⟨final, bindsFinal, finalAgrees⟩ := rows.extends_parameters answered _ _ bindsFirst
      exact ⟨final, bindsFinal, finalAgrees.trans firstAgrees⟩

/-- An id that holds an expression is bound like any other. -/
theorem selectsBy_id_expression :
    let id : Value := .text "1 OR id IS NOT NULL"
    let call : Call := .delete
      { Delete.one "users" with permanent := ⟨(∅ : Filters).insert "tenant" (.int 4), by decide⟩ }
      (.id id)
    ∃ query, call.SelectsRows [.defaultKey] (.id id) ∧
      ColumnName.defaultKey.text ≠ Operation.fullTextKey ∧
      ColumnName.defaultKey.text ∉ call.scope.permanent.filters.keys ∧
      id.isScalar = true ∧ call.query? = some query ∧ id.isNullText = false ∧
      query.sql = "DELETE FROM users WHERE id = $id AND tenant = $tenant" ∧
      query.SelectsBy ColumnName.defaultKey.text id := by
  intro id call
  have rows : call.SelectsRows [.defaultKey] (.id id) := .delete rfl
  have other : ColumnName.defaultKey.text ≠ Operation.fullTextKey := by decide
  have free : ColumnName.defaultKey.text ∉ call.scope.permanent.filters.keys := by decide
  have plain : id.isNullText = false := by decide
  exact ⟨_, rows, other, free, rfl, rfl, plain, by decide,
    (selectsBy_id_iff rows other free rfl rfl).mpr plain⟩

/-- A template for one row deletes every row that has a key, when the id is a null text. -/
theorem null_text_id_not_bound :
    let id : Value := .text "IS NOT NULL"
    let call : Call := .delete (Delete.one "users") (.id id)
    ∃ query, call.SelectsRows [.defaultKey] (.id id) ∧
      ColumnName.defaultKey.text ≠ Operation.fullTextKey ∧
      ColumnName.defaultKey.text ∉ call.scope.permanent.filters.keys ∧
      id.isScalar = true ∧ call.query? = some query ∧ query.single = true ∧
      query.sql = "DELETE FROM users WHERE id IS NOT NULL" ∧
      ¬query.SelectsBy ColumnName.defaultKey.text id := by
  intro id call
  refine ⟨_, .delete rfl, by decide, by decide, rfl, rfl, rfl, by decide, ?_⟩
  intro selects
  obtain ⟨rest, starts⟩ := selects.starts
  exact absurd (List.cons.inj starts).1 (by decide)

end Template.Call

/-! ## Statements without conditions -/

/-- A selector names some of the columns when it is a bare id or has a filter on one of them. -/
inductive Selector.Names (columns : List String) : Selector → Prop where
  | id (value : Value) : Names columns (.id value)
  | field {filters : Filters} {key : String} (given : key ∈ filters.keys)
      (listed : key ∈ columns) : Names columns (.fields filters)

theorem Filters.mem_keys_restrictTo_iff {columns : List String} {filters : Filters}
    {key : String} :
    key ∈ (filters.restrictTo columns).keys ↔ key ∈ filters.keys ∧ key ∈ columns := by
  rw [restrictTo, OrderedMap.keys, OrderedMap.entries_filter, OrderedMap.keys]
  simp only [List.mem_map, List.mem_filter, List.contains_iff_mem]
  constructor
  · rintro ⟨entry, ⟨member, listed⟩, rfl⟩
    exact ⟨⟨entry, member, rfl⟩, listed⟩
  · rintro ⟨⟨entry, member, rfl⟩, listed⟩
    exact ⟨entry, ⟨member, listed⟩, rfl⟩

theorem Filters.get?_restrictTo {columns : List String} {filters : Filters} {column : String}
    (listed : column ∈ columns) :
    (filters.restrictTo columns).get? column = filters.get? column := by
  apply Option.ext
  intro value
  rw [OrderedMap.get?_eq_some_iff, OrderedMap.get?_eq_some_iff, restrictTo,
    OrderedMap.entries_filter, List.mem_filter]
  exact and_iff_left (List.contains_iff_mem.mpr listed)

namespace Selector

theorem mem_columns_of_mem_filtersOn {columns : List String} {selector : Selector}
    {key : String} (member : key ∈ (selector.filtersOn columns).keys) : key ∈ columns := by
  cases selector with
  | id value =>
      cases columns with
      | nil => cases member
      | cons first rest =>
          rw [List.mem_singleton.mp member]
          exact List.Mem.head rest
  | fields filters => exact (Filters.mem_keys_restrictTo_iff.mp member).2

theorem names_iff {columns : List String} (nonempty : columns ≠ []) {selector : Selector} :
    selector.Names columns ↔ (selector.filtersOn columns).keys ≠ [] := by
  constructor
  · intro names
    cases names with
    | id value =>
        cases columns with
        | nil => exact absurd rfl nonempty
        | cons first rest => exact List.cons_ne_nil first []
    | field given listed =>
        exact List.ne_nil_of_mem (Filters.mem_keys_restrictTo_iff.mpr ⟨given, listed⟩)
  · intro asked
    cases selector with
    | id value => exact .id value
    | fields filters =>
        obtain ⟨key, member⟩ := List.exists_mem_of_ne_nil _ asked
        obtain ⟨given, listed⟩ := Filters.mem_keys_restrictTo_iff.mp member
        exact .field given listed

end Selector

/-- A query is filtered on some columns when its text has conditions, and one of these is asked for
by a filter on one of the columns. -/
structure Query.FilteredOn (query : Query) (columns : List String) : Prop where
  written : query.WritesConditions
  asked : ∃ column ∈ columns, ∃ value bound,
    Filters.conditionOf? columns column value = some bound ∧
      bound.condition ∈ query.statement.conditions

namespace Template.Call

variable {call : Call} {columns : List ColumnName} {selector : Selector} {query : Query}

theorem SelectsRows.mem_allowed_of_mem_merged (rows : call.SelectsRows columns selector)
    {key : String} (member : key ∈ call.merged.keys) : key ∈ call.scope.allowed := by
  rw [Call.merged, OrderedMap.mem_keys_merge_iff, rows.requested_eq] at member
  rcases member with requested | permanent
  · exact Selector.mem_columns_of_mem_filtersOn requested
  · exact List.mem_append_right _ permanent

/-- Without permanent filters there is nothing to compile unless the selector names a column. -/
theorem SelectsRows.merged_keys_ne_nil_iff (rows : call.SelectsRows columns selector)
    (nonempty : columns ≠ []) :
    call.merged.keys ≠ [] ↔
      call.scope.permanent.filters.keys ≠ [] ∨
        selector.Names (columns.map ColumnName.text) := by
  have listed : columns.map ColumnName.text ≠ [] := by simpa using nonempty
  by_cases permanent : call.scope.permanent.filters.keys = []
  · have allowed : call.scope.allowed = columns.map ColumnName.text := by
      rw [rows.allowed_eq, permanent, List.append_nil]
    have keys : call.merged.keys = (selector.filtersOn (columns.map ColumnName.text)).keys := by
      rw [Call.merged, OrderedMap.keys_merge, permanent, List.append_nil,
        eraseDups_of_nodup (OrderedMap.keys_nodup _), rows.requested_eq, allowed]
    rw [keys, Selector.names_iff listed]
    exact (or_iff_right (not_not_intro permanent)).symm
  · have merged : call.merged.keys ≠ [] := by
      obtain ⟨key, member⟩ := List.exists_mem_of_ne_nil _ permanent
      exact List.ne_nil_of_mem (OrderedMap.mem_keys_merge_iff.mpr (Or.inr member))
    exact iff_of_true merged (Or.inl permanent)

theorem SelectsRows.filteredOn_of_merged (rows : call.SelectsRows columns selector)
    (answered : call.query? = some query) (nonempty : call.merged.keys ≠ []) :
    query.FilteredOn call.scope.allowed := by
  cases shape : call.merged.entries with
  | nil =>
      rw [OrderedMap.keys, shape] at nonempty
      exact absurd rfl nonempty
  | cons entry later =>
      have first : entry.1 ∈ call.merged.keys := by
        rw [OrderedMap.keys, shape]
        exact List.Mem.head _
      have listed := rows.mem_allowed_of_mem_merged first
      obtain ⟨bound, asked⟩ := Filters.exists_conditionOf?_of_mem listed entry.2
      obtain ⟨⟨rest, conditions⟩, _⟩ := exists_conditions_of_first answered shape asked
      have stated : bound.condition ∈ query.statement.conditions := by
        rw [conditions]
        exact List.Mem.head rest
      exact
        { written := Query.writesConditions (List.ne_nil_of_mem stated)
          asked := ⟨entry.1, listed, entry.2, bound, asked, stated⟩ }

theorem merged_keys_ne_nil_of_stated (answered : call.query? = some query) {condition : Condition}
    (stated : condition ∈ query.statement.conditions) : call.merged.keys ≠ [] := by
  rw [conditions_query_eq_kept answered] at stated
  obtain ⟨bound, kept, _⟩ := List.mem_map.mp stated
  obtain ⟨entry, member, _⟩ := Filters.askedBy_of_mem_kept kept
  exact List.ne_nil_of_mem (List.mem_map_of_mem (f := Prod.fst) member)

/-- A query about selected rows has a condition exactly when there is a permanent filter or the
selector names one of the columns. -/
theorem filteredOn_iff (rows : call.SelectsRows columns selector) (nonempty : columns ≠ [])
    (answered : call.query? = some query) :
    query.FilteredOn call.scope.allowed ↔
      call.scope.permanent.filters.keys ≠ [] ∨
        selector.Names (columns.map ColumnName.text) := by
  rw [← rows.merged_keys_ne_nil_iff nonempty]
  constructor
  · intro filtered
    obtain ⟨_, _, _, _, _, stated⟩ := filtered.asked
    exact merged_keys_ne_nil_of_stated answered stated
  · exact rows.filteredOn_of_merged answered

/-- One of two fields of the selector is a column. -/
theorem filteredOn_field :
    let selector : Selector := .fields
      (((∅ : Filters).insert "uuid" (.int 1)).insert "id" (.array []))
    let call : Call := .update { Update.one "users" with writable := [⟨"name", by decide⟩] }
      selector ((∅ : Filters).insert "name" (.text "Ann"))
    ∃ query, call.SelectsRows [.defaultKey] selector ∧ [ColumnName.defaultKey] ≠ [] ∧
      call.query? = some query ∧ selector.Names ["id"] ∧
      query.FilteredOn call.scope.allowed := by
  intro selector call
  have rows : call.SelectsRows [.defaultKey] selector := .update rfl
  have given : "id" ∈ (((∅ : Filters).insert "uuid" (.int 1)).insert "id" (.array [])).keys := by
    decide
  have names : selector.Names ["id"] := .field given (List.Mem.head _)
  exact ⟨_, rows, by simp, rfl, names, (filteredOn_iff rows (by simp) rfl).mpr (Or.inr names)⟩

/-- A template for one row deletes every row when the selector names other fields only. -/
theorem unnamed_field_not_filtered :
    let selector : Selector := .fields ((∅ : Filters).insert "uuid" (.int 1))
    let call : Call := .delete (Delete.one "users") selector
    ∃ query, call.SelectsRows [.defaultKey] selector ∧ [ColumnName.defaultKey] ≠ [] ∧
      call.query? = some query ∧ query.single = true ∧ query.sql = "DELETE FROM users" ∧
      ¬query.FilteredOn call.scope.allowed := by
  intro selector call
  refine ⟨_, .delete rfl, by simp, rfl, rfl, by decide, ?_⟩
  intro filtered
  obtain ⟨_, _, _, _, _, stated⟩ := filtered.asked
  exact absurd stated List.not_mem_nil

end Template.Call

end FilterSql
