import FilterSql.Proofs.DeletedRows
import FilterSql.Proofs.PlaceholderScan
import FilterSql.Proofs.ValueShape

/-!
# The bindings of a batch delete

A batch delete numbers the values of each key column itself, and puts the parameters of the compiled
clause over them. The two agree as long as the clause searches every key column. Where it does not,
because a permanent filter has taken the place of the list or the list met a conflict, the numbered
values are left over. The main result says exactly when none are.
-/

namespace FilterSql

open Placeholder

namespace Filters

variable {allowed : List String} {filters : Filters}

theorem askedBy_of_mem_compile {condition : Condition}
    (stated : condition ∈ (filters.compile allowed).value.conditions) :
    ∃ entry ∈ filters.entries, ∃ bound, BoundCondition.AskedBy allowed entry.1 entry.2 bound ∧
      bound.condition = condition := by
  rw [(settledBy_choice allowed filters).conditions] at stated
  obtain ⟨bound, kept, same⟩ := List.mem_map.mp stated
  obtain ⟨entry, member, asked⟩ := askedBy_of_mem_kept kept
  exact ⟨entry, member, bound, asked, same⟩

theorem mem_references_compile_iff (allowed : List String) (filters : Filters) (name : String) :
    name ∈ (filters.compile allowed).value.conditions.flatMap Condition.references ↔
      name ∈ (filters.compile allowed).value.parameters.keys := by
  have settled := settledBy_choice allowed filters
  rw [settled.conditions, settled.names, List.mem_eraseDups, List.flatMap_map, List.mem_flatMap,
    List.mem_flatMap]
  apply exists_congr
  intro bound
  apply and_congr_right
  intro kept
  obtain ⟨entry, _, asked⟩ := askedBy_of_mem_kept kept
  exact asked.mem_references_iff name

theorem scan_joined_compile (valid : ∀ column ∈ allowed, isColumnName column = true)
    (filters : Filters) {rest : List Char} (stops : Stops rest) :
    scan ((String.intercalate " AND "
      ((filters.compile allowed).value.conditions.map Condition.sql)).toList ++ rest) =
        (filters.compile allowed).value.conditions.flatMap Condition.references ++ scan rest := by
  apply Condition.scan_joined _ _ stops
  · intro condition stated
    obtain ⟨_, _, bound, asked, rfl⟩ := askedBy_of_mem_compile stated
    exact asked.plain_columns valid
  · intro condition stated
    obtain ⟨_, _, bound, asked, rfl⟩ := askedBy_of_mem_compile stated
    exact asked.isName_references valid

end Filters

namespace Returning

theorem exists_sql_eq (returning : Returning) :
    ∃ columns, returning.sql = returningText columns ∧
      ∀ column ∈ columns, '$' ∉ column.toList := by
  cases returning with
  | columns names =>
      refine ⟨names.map ColumnName.text, rfl, ?_⟩
      intro column member
      obtain ⟨name, _, rfl⟩ := List.mem_map.mp member
      exact not_mem_dollar_of_isColumnName name.valid
  | everything => exact ⟨["*"], rfl, by decide⟩

theorem scan_returningText {columns : List String}
    (plain : ∀ column ∈ columns, '$' ∉ column.toList) {rest : List Char} (stops : Stops rest) :
    scan ((returningText columns).toList ++ rest) = scan rest := by
  rw [returningText]
  split
  · rfl
  · have plainComma : '$' ∉ ", ".toList := by decide
    have listed := scan_intercalate rfl (by decide) plainComma id (fun _ => []) columns
      (fun column member rest _ => scan_append_of_plain (plain column member) rest) stops
    rw [List.map_id, List.flatMap_eq_nil_iff.mpr fun _ _ => rfl, List.nil_append] at listed
    rw [String.toList_append, List.append_assoc, scan_append_of_plain (by decide), listed]

/-- What follows the conditions of a batch delete ends their last name and holds no other. -/
theorem scan_trailing (returning : Returning) :
    let rest := (Statement.trailing returning.sql ++ ";").toList
    Stops rest ∧ scan rest = [] := by
  intro rest
  by_cases empty : returning.sql = ""
  · have written : rest = [';'] := by
      change (Statement.trailing returning.sql ++ ";").toList = _
      rw [Statement.trailing, if_pos empty]
      rfl
    rw [written]
    exact ⟨rfl, rfl⟩
  · have written : rest = ' ' :: (returning.sql.toList ++ [';']) := by
      change (Statement.trailing returning.sql ++ ";").toList = _
      rw [Statement.trailing, if_neg empty, String.toList_append, String.toList_append]
      rfl
    obtain ⟨columns, text, plain⟩ := returning.exists_sql_eq
    rw [written, text]
    have ends : Stops [';'] := stops_cons (by decide) []
    refine ⟨stops_cons (by decide) _, ?_⟩
    rw [scan, if_neg (by decide), scan_returningText plain ends]
    rfl

end Returning

theorem Batch.mem_keys_parameters_iff {columns : List String} {rows : List Filters}
    {name : String} :
    name ∈ (Batch.parameters columns rows).keys ↔
      ∃ column ∈ columns, ∃ index < (Batch.valuesOf rows column).length,
        numbered (ofKey column) index = name := by
  have nothing : name ∉ (OrderedMap.empty : Parameters).keys := List.not_mem_nil
  rw [Batch.parameters, OrderedMap.ofList, OrderedMap.keys_insertMany, List.mem_eraseDups,
    List.map_flatMap, List.mem_append, or_iff_right nothing, List.mem_flatMap]
  simp only [BoundCondition.names_numbered, List.mem_map, List.mem_range]

/-- A list that meets no conflict binds all its numbered names. -/
theorem Filters.mem_keys_compile_of_compatible {allowed : List String} {filters : Filters}
    {column : String} {items : List Value} (listed : column ∈ allowed)
    (other : column ≠ Operation.fullTextKey) (found : filters.get? column = some (.array items))
    (compatible : ∀ diagnostic ∈ (filters.compile allowed).diagnostics,
      diagnostic.reportsConflict = false) {index : Nat} (below : index < items.length) :
    numbered (ofKey column) index ∈ (filters.compile allowed).value.parameters.keys := by
  have nonempty : items ≠ [] := List.ne_nil_of_length_pos (Nat.zero_lt_of_lt below)
  have kept : BoundCondition.search column items ∈ (filters.choice allowed).kept := by
    rw [kept_eq_conditions compatible]
    exact List.mem_filterMap.mpr
      ⟨_, OrderedMap.get?_eq_some_iff.mp found, conditionOf?_array listed other nonempty⟩
  have named : numbered (ofKey column) index ∈
      (BoundCondition.numbered column items).map Prod.fst := by
    rw [BoundCondition.names_numbered]
    exact List.mem_map_of_mem (List.mem_range.mpr below)
  rw [(settledBy_choice allowed filters).names, List.mem_eraseDups]
  exact List.mem_flatMap.mpr ⟨_, kept, named⟩

/-- The parameters of a query are those that its text refers to, as a clause binds them. -/
structure Query.BindsExactly (query : Query) (clause : Clause) : Prop where
  used : ∀ name, name ∈ query.parameters.keys ↔ name ∈ scan query.sql.toList
  compiled : ∀ name ∈ query.parameters.keys,
    query.parameters.get? name = clause.parameters.get? name

namespace Template.BatchDelete

variable {template : BatchDelete} {selectors : List Selector}

theorem mem_scan_sql_iff (plain : '$' ∉ template.table.toList) (name : String) :
    name ∈ scan (template.fill selectors).value.sql.toList ↔
      name ∈ (Call.batchDelete template selectors).clause.parameters.keys := by
  have written : scan (template.fill selectors).value.sql.toList =
      (Call.batchDelete template selectors).clause.conditions.flatMap Condition.references := by
    obtain ⟨stops, nothing⟩ := template.returning.scan_trailing
    rw [sql_fill, Call.conditions_query (query?_batchDelete template selectors),
      String.toList_append, String.toList_append, String.toList_append, String.toList_append,
      List.append_assoc, List.append_assoc, List.append_assoc, scan_append_of_plain (by decide),
      scan_append_of_plain plain, scan_append_of_plain (by decide)]
    have joined := Filters.scan_joined_compile template.scope.isColumnName_of_mem_allowed
      (Call.batchDelete template selectors).merged stops
    rw [nothing, List.append_nil] at joined
    exact joined
  rw [written]
  exact Filters.mem_references_compile_iff _ _ name

theorem get?_merged_of_given {column : String}
    (given : Batch.valuesOf (template.rows selectors) column ≠ [])
    (free : column ∉ template.permanent.filters.keys) :
    (Call.batchDelete template selectors).merged.get? column =
      some (.array (Batch.valuesOf (template.rows selectors) column)) := by
  obtain ⟨value, member⟩ := List.exists_mem_of_ne_nil _ given
  obtain ⟨row, rowMember, found⟩ := Batch.mem_valuesOf_iff.mp member
  have present : column ∈ (Batch.combine (template.rows selectors)).keys :=
    Batch.mem_keys_combine_iff.mpr ⟨row, rowMember, OrderedMap.mem_keys_iff.mpr ⟨value, found⟩⟩
  have merged : (Call.batchDelete template selectors).merged =
      (Batch.combine (template.rows selectors)).merge template.permanent.filters :=
    congrArg (OrderedMap.merge · template.permanent.filters) (keyFilters_of_mem present)
  rw [merged, OrderedMap.get?_merge_of_not_mem free, Batch.get?_combine present]

theorem bindsExactly_of_covered (plain : '$' ∉ template.table.toList)
    (covered : ∀ column ∈ template.keyNames,
      ∀ index < (Batch.valuesOf (template.rows selectors) column).length,
        numbered (ofKey column) index ∈
          (Call.batchDelete template selectors).clause.parameters.keys) :
    (template.fill selectors).value.BindsExactly
      (Call.batchDelete template selectors).clause := by
  let clause := (Call.batchDelete template selectors).clause
  have parameters : (template.fill selectors).value.parameters =
      (Batch.parameters template.keyNames (template.rows selectors)).merge clause.parameters := rfl
  have used : ∀ name, name ∈ (template.fill selectors).value.parameters.keys ↔
      name ∈ clause.parameters.keys := by
    intro name
    rw [parameters, OrderedMap.mem_keys_merge_iff]
    apply or_iff_right_of_imp
    intro batch
    obtain ⟨column, listed, index, below, rfl⟩ := Batch.mem_keys_parameters_iff.mp batch
    exact covered column listed index below
  constructor
  · intro name
    rw [used, mem_scan_sql_iff plain]
  · intro name present
    obtain ⟨value, found⟩ := OrderedMap.mem_keys_iff.mp ((used name).mp present)
    rw [parameters, OrderedMap.get?_merge_of_get? found, found]

/-- A batch delete binds exactly the names that it uses when the clause binds the number of each
value given to a key column, and only then. So it does if no column that is given a value asks for a
search or has a permanent filter, and no condition is dropped. -/
theorem bindsExactly_fill_iff (plain : '$' ∉ template.table.toList) (selectors : List Selector) :
    let call := Call.batchDelete template selectors
    let query := (template.fill selectors).value
    let given := fun column => Batch.valuesOf (template.rows selectors) column
    (query.BindsExactly call.clause ↔
      ∀ column ∈ template.keyNames, ∀ index < (given column).length,
        numbered (ofKey column) index ∈ call.clause.parameters.keys) ∧
    ((∀ column ∈ template.keyNames, given column ≠ [] →
        column ≠ Operation.fullTextKey ∧ column ∉ template.permanent.filters.keys) →
      (∀ diagnostic ∈ query.diagnostics, diagnostic.reportsConflict = false) →
        query.BindsExactly call.clause) := by
  intro call query given
  refine ⟨⟨?_, bindsExactly_of_covered plain⟩, ?_⟩
  · intro binds column listed index below
    have batch : numbered (ofKey column) index ∈
        (Batch.parameters template.keyNames (template.rows selectors)).keys :=
      Batch.mem_keys_parameters_iff.mpr ⟨column, listed, index, below, rfl⟩
    have present : numbered (ofKey column) index ∈ query.parameters.keys :=
      OrderedMap.mem_keys_merge_iff.mpr (Or.inl batch)
    exact (mem_scan_sql_iff plain _).mp ((binds.used _).mp present)
  · intro searched compatible
    apply bindsExactly_of_covered plain
    intro column listed index below
    have nonempty : given column ≠ [] := List.ne_nil_of_length_pos (Nat.zero_lt_of_lt below)
    obtain ⟨other, free⟩ := searched column listed nonempty
    exact Filters.mem_keys_compile_of_compatible (mem_allowed_of_mem_keyNames listed) other
      (get?_merged_of_given nonempty free) compatible below

/-- Two key columns, one of them qualified, next to a permanent filter on a third. -/
theorem bindsExactly_two_columns :
    let template : BatchDelete :=
      { table := "tags", primaryKey := [⟨"tags.id", by decide⟩, ⟨"lang", by decide⟩]
        permanent := ⟨(∅ : Filters).insert "tenant" (.int 4), by decide⟩ }
    let selectors : List Selector :=
      [.fields (((∅ : Filters).insert "tags.id" (.int 1)).insert "lang" (.text "en")),
        .id (.int 2)]
    let query := (template.fill selectors).value
    '$' ∉ template.table.toList ∧
      query.sql =
        "DELETE FROM tags WHERE tags.id IN ($tags__id1, $tags__id2) AND lang IN ($lang1) " ++
          "AND tenant = $tenant;" ∧
      query.parameters.keys = ["tags__id1", "tags__id2", "lang1", "tenant"] ∧
      query.BindsExactly (Call.batchDelete template selectors).clause := by
  intro template selectors query
  have plain : '$' ∉ template.table.toList := by decide
  have covered : ∀ column ∈ template.keyNames,
      ∀ index < (Batch.valuesOf (template.rows selectors) column).length,
        numbered (ofKey column) index ∈
          (Call.batchDelete template selectors).clause.parameters.keys := by
    decide
  exact ⟨plain, by decide, by decide, (bindsExactly_fill_iff plain selectors).1.mpr covered⟩

/-- A permanent filter takes the place of the list, and the numbered values are bound for
nothing. -/
theorem numbered_values_left_over :
    ∃ template : BatchDelete,
      withPermanent { table := "users" } ((∅ : Filters).insert "id" (.int 4)) = .ok template ∧
        '$' ∉ template.table.toList ∧
        ∃ selectors : List Selector,
          let query := (template.fill selectors).value
          query.sql = "DELETE FROM users WHERE id = $id;" ∧
            query.parameters.keys = ["id1", "id2", "id"] ∧
            ¬query.BindsExactly (Call.batchDelete template selectors).clause := by
  refine ⟨{ table := "users", permanent := ⟨(∅ : Filters).insert "id" (.int 4), by decide⟩ }, rfl,
    by decide, [.id (.int 1), .id (.int 2)], by decide, by decide, ?_⟩
  intro binds
  have unused : "id1" ∉ scan "DELETE FROM users WHERE id = $id;".toList := by decide
  exact unused ((binds.used "id1").mp (by decide))

end Template.BatchDelete

end FilterSql
