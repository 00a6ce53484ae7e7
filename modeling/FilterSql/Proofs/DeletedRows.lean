import FilterSql.Proofs.BatchFilters

/-!
# The rows of a batch delete

A batch delete searches each key column for the values that the selectors give it. The columns are
searched apart from each other, so the statement is about every row that can be put together from
values of the selectors, column by column, and not only about the rows that were selected.
-/

namespace FilterSql

/-- A row, by the scalar in each of its columns. -/
structure Row where
  value : String → Value
  scalar : ∀ column, (value column).isScalar = true

/-- Filters give a column the value that the row has there. -/
def Row.AgreesWith (row : Row) (filters : Filters) (column : String) : Prop :=
  ∃ value, filters.get? column = some value ∧ (row.value column == value) = true

/-- A search in a list holds on the rows whose value equals one of those bound. The other forms of
a condition, which a batch on key columns does not use, are given no meaning. -/
inductive Condition.HoldsOn (parameters : Parameters) (row : Row) : Condition → Prop where
  | member {column name : String} {placeholders : List String} {value : Value}
      (referred : name ∈ placeholders) (bound : parameters.get? name = some value)
      (same : (row.value column == value) = true) :
      HoldsOn parameters row (.member .positive column placeholders)

namespace Query

/-- All conditions of the query hold on the row, under its parameters. -/
def Admits (query : Query) (row : Row) : Prop :=
  ∀ condition ∈ query.statement.conditions, condition.HoldsOn query.parameters row

/-- The query searches a column for the values of a list. -/
def Searches (query : Query) (column : String) : Prop :=
  ∃ placeholders, .member .positive column placeholders ∈ query.statement.conditions

end Query

namespace BoundCondition

/-- The search of a column for the values of a list. -/
def search (column : String) (items : List Value) : BoundCondition :=
  ⟨.member .positive column ((numbered column items).map Prod.fst), numbered column items⟩

theorem equal_array {column : String} {items : List Value} (nonempty : items ≠ []) :
    (equal column (.array items)).value = search column items := by
  cases items with
  | nil => exact absurd rfl nonempty
  | cons first rest => rfl

theorem holdsOn_search_iff {parameters : Parameters} {row : Row} {column : String}
    {items : List Value}
    (bound : ∀ name value, (name, value) ∈ numbered column items →
      ∃ final, parameters.get? name = some final ∧ final.Agrees value) :
    (search column items).condition.HoldsOn parameters row ↔
      ∃ item ∈ items, (row.value column == item) = true := by
  constructor
  · intro holds
    cases holds with
    | member referred found same =>
        obtain ⟨⟨name, item⟩, member, rfl⟩ := List.mem_map.mp referred
        obtain ⟨final, bindsFinal, agrees⟩ := bound name item member
        rw [found] at bindsFinal
        cases bindsFinal
        have listed : item ∈ items := by
          rw [← values_numbered column items]
          exact List.mem_map_of_mem (f := Prod.snd) member
        exact ⟨item, listed, agrees.equal_of_equal same⟩
  · rintro ⟨item, listed, same⟩
    rw [← values_numbered column items] at listed
    obtain ⟨⟨name, _⟩, member, rfl⟩ := List.mem_map.mp listed
    obtain ⟨final, bindsFinal, agrees⟩ := bound name _ member
    exact .member (List.mem_map_of_mem (f := Prod.fst) member) bindsFinal
      (agrees.symm.equal_of_equal same)

end BoundCondition

theorem Filters.conditionOf?_array {allowed : List String} {column : String} {items : List Value}
    (listed : column ∈ allowed) (other : column ≠ Operation.fullTextKey) (nonempty : items ≠ []) :
    conditionOf? allowed column (.array items) = some (BoundCondition.search column items) := by
  rw [conditionOf?_of_mem listed other, BoundCondition.equal_array nonempty]

/-- A query is about the rows that agree with given fields column by column: on each column that it
searches, a row agrees with some of the fields, and these may be others than on another column. A
column that is not searched has met a conflict, which is reported. With a single column the rows
agree with some fields on all columns. -/
structure Query.SelectsByColumn (query : Query) (columns : List ColumnName)
    (fields : List Filters) : Prop where
  written : query.WritesConditions
  admits : ∀ row : Row, query.Admits row ↔
    ∀ column ∈ columns, query.Searches column.text →
      ∃ filters ∈ fields, row.AgreesWith filters column.text
  reported : ∀ column ∈ columns, query.Searches column.text ∨
    ∃ placeholders, Clause.dropped (.member .positive column.text placeholders) ∈
      query.diagnostics
  searched : ∃ column ∈ columns, query.Searches column.text
  whole : (∀ column ∈ columns, ∀ other ∈ columns, column = other) →
    ∀ row : Row, query.Admits row →
      ∃ filters ∈ fields, ∀ column ∈ columns, row.AgreesWith filters column.text

/-! ## Batches of key values -/

theorem Choice.mem_kept_or_mem_dropped {choice : Choice} {bound : BoundCondition}
    (offered : bound ∈ choice.offered) : bound ∈ choice.kept ∨ bound ∈ choice.dropped := by
  obtain ⟨⟨_, keep⟩, member, rfl⟩ := List.mem_map.mp offered
  cases keep with
  | true => exact Or.inl (List.mem_map_of_mem (f := Prod.fst) (List.mem_filter.mpr ⟨member, rfl⟩))
  | false => exact Or.inr (List.mem_map_of_mem (f := Prod.fst) (List.mem_filter.mpr ⟨member, rfl⟩))

namespace Template.BatchDelete

open BoundCondition

/-- The selectors of a batch give a scalar to every key column, and nothing else restricts it. -/
structure SelectsByKey (template : BatchDelete) (fields : List Filters) : Prop where
  unrestricted : template.permanent.filters = ∅
  plain : ∀ column ∈ template.primaryKey, column.text ≠ Operation.fullTextKey
  nonempty : fields ≠ []
  given : ∀ filters ∈ fields, ∀ column ∈ template.primaryKey,
    ∃ value, filters.get? column.text = some value ∧ value.isScalar = true

/-- The values that selectors by fields give to a column. -/
def givenValues (template : BatchDelete) (fields : List Filters) (column : String) : List Value :=
  Batch.valuesOf (template.rows (fields.map Selector.fields)) column

variable {template : BatchDelete} {fields : List Filters}

theorem mem_givenValues_iff {column : String} (listed : column ∈ template.keyNames)
    {value : Value} :
    value ∈ template.givenValues fields column ↔
      ∃ filters ∈ fields, filters.get? column = some value := by
  rw [givenValues, Batch.mem_valuesOf_iff, rows, List.map_map]
  constructor
  · rintro ⟨row, member, found⟩
    obtain ⟨filters, given, rfl⟩ := List.mem_map.mp member
    exact ⟨filters, given, (Filters.get?_restrictTo listed).symm.trans found⟩
  · rintro ⟨filters, given, found⟩
    exact ⟨filters.restrictTo template.keyNames, List.mem_map.mpr ⟨filters, given, rfl⟩,
      (Filters.get?_restrictTo listed).trans found⟩

theorem exists_givenValues_iff {row : Row} {column : String}
    (listed : column ∈ template.keyNames) :
    (∃ item ∈ template.givenValues fields column, (row.value column == item) = true) ↔
      ∃ filters ∈ fields, row.AgreesWith filters column := by
  constructor
  · rintro ⟨item, member, same⟩
    obtain ⟨filters, given, found⟩ := (mem_givenValues_iff listed).mp member
    exact ⟨filters, given, item, found, same⟩
  · rintro ⟨filters, given, item, found, same⟩
    exact ⟨item, (mem_givenValues_iff listed).mpr ⟨filters, given, found⟩, same⟩

theorem holdsOn_iff_of_kept {column : ColumnName} (member : column ∈ template.primaryKey)
    (kept : search column.text (template.givenValues fields column.text) ∈
      (Call.batchDelete template (fields.map Selector.fields)).choice.kept) (row : Row) :
    (search column.text (template.givenValues fields column.text)).condition.HoldsOn
        (template.fill (fields.map Selector.fields)).value.parameters row ↔
      ∃ filters ∈ fields, row.AgreesWith filters column.text := by
  have answered := query?_batchDelete template (fields.map Selector.fields)
  rw [holdsOn_search_iff fun name value binding =>
    Call.exists_get?_of_kept answered rfl kept binding]
  exact exists_givenValues_iff (List.mem_map_of_mem member)

namespace SelectsByKey

variable (keyed : template.SelectsByKey fields)
include keyed

theorem givenValues_ne_nil {column : ColumnName} (member : column ∈ template.primaryKey) :
    template.givenValues fields column.text ≠ [] := by
  obtain ⟨filters, given⟩ := List.exists_mem_of_ne_nil fields keyed.nonempty
  obtain ⟨value, found, _⟩ := keyed.given filters given column member
  exact List.ne_nil_of_mem ((mem_givenValues_iff (List.mem_map_of_mem member)).mpr
    ⟨filters, given, found⟩)

theorem mem_keys_combine {column : ColumnName} (member : column ∈ template.primaryKey) :
    column.text ∈ (Batch.combine (template.rows (fields.map Selector.fields))).keys := by
  obtain ⟨value, given⟩ := List.exists_mem_of_ne_nil _ (keyed.givenValues_ne_nil member)
  obtain ⟨row, rowMember, found⟩ := Batch.mem_valuesOf_iff.mp given
  exact Batch.mem_keys_combine_iff.mpr
    ⟨row, rowMember, OrderedMap.mem_keys_iff.mpr ⟨value, found⟩⟩

theorem merged_eq :
    (Call.batchDelete template (fields.map Selector.fields)).merged =
      Batch.combine (template.rows (fields.map Selector.fields)) := by
  change (template.keyFilters _).merge template.permanent.filters = _
  rw [keyed.unrestricted, keyFilters_of_mem (keyed.mem_keys_combine template.firstKey_mem)]
  rfl

theorem get?_merged {column : ColumnName} (member : column ∈ template.primaryKey) :
    (Call.batchDelete template (fields.map Selector.fields)).merged.get? column.text =
      some (.array (template.givenValues fields column.text)) := by
  rw [keyed.merged_eq]
  exact Batch.get?_combine (keyed.mem_keys_combine member)

theorem conditionOf?_eq {column : ColumnName} (member : column ∈ template.primaryKey) :
    Filters.conditionOf? template.scope.allowed column.text
        (.array (template.givenValues fields column.text)) =
      some (search column.text (template.givenValues fields column.text)) := by
  have listed : column.text ∈ template.scope.allowed :=
    mem_allowed_of_mem_keyNames (List.mem_map_of_mem member)
  exact Filters.conditionOf?_array listed (keyed.plain column member)
    (keyed.givenValues_ne_nil member)

/-- Nothing is searched but the key columns, each for the values given to it. -/
theorem mem_conditions_iff {bound : BoundCondition} :
    bound ∈ Filters.conditions template.scope.allowed
        (Call.batchDelete template (fields.map Selector.fields)).merged.entries ↔
      ∃ column ∈ template.primaryKey,
        bound = search column.text (template.givenValues fields column.text) := by
  constructor
  · intro offered
    obtain ⟨entry, member, asked⟩ := List.mem_filterMap.mp offered
    have found := OrderedMap.get?_eq_some_iff.mpr member
    have present : entry.1 ∈ (template.keyFilters (template.rows
        (fields.map Selector.fields))).keys := by
      rw [keyFilters_of_mem (keyed.mem_keys_combine template.firstKey_mem), ← keyed.merged_eq]
      exact OrderedMap.mem_keys_iff.mpr ⟨entry.2, found⟩
    obtain ⟨column, key, named⟩ := List.mem_map.mp (mem_keyNames_of_mem_keyFilters present)
    rw [← named, keyed.get?_merged key] at found
    rw [← named, ← Option.some.inj found, keyed.conditionOf?_eq key] at asked
    exact ⟨column, key, (Option.some.inj asked).symm⟩
  · rintro ⟨column, key, rfl⟩
    have member := OrderedMap.get?_eq_some_iff.mp (keyed.get?_merged key)
    exact List.mem_filterMap.mpr ⟨_, member, keyed.conditionOf?_eq key⟩

theorem mem_kept_or_dropped {column : ColumnName} (member : column ∈ template.primaryKey) :
    let call := Call.batchDelete template (fields.map Selector.fields)
    search column.text (template.givenValues fields column.text) ∈ call.choice.kept ∨
      search column.text (template.givenValues fields column.text) ∈ call.choice.dropped := by
  intro call
  apply Choice.mem_kept_or_mem_dropped
  rw [Call.choice, Filters.offered_choice]
  exact keyed.mem_conditions_iff.mpr ⟨column, member, rfl⟩

theorem eq_search_of_kept {bound : BoundCondition}
    (kept : bound ∈ (Call.batchDelete template (fields.map Selector.fields)).choice.kept) :
    ∃ column ∈ template.primaryKey,
      bound = search column.text (template.givenValues fields column.text) :=
  keyed.mem_conditions_iff.mp ((Filters.kept_choice_sublist _ _).subset kept)

theorem searches_iff {column : ColumnName} :
    (template.fill (fields.map Selector.fields)).value.Searches column.text ↔
      search column.text (template.givenValues fields column.text) ∈
        (Call.batchDelete template (fields.map Selector.fields)).choice.kept := by
  have answered := query?_batchDelete template (fields.map Selector.fields)
  rw [Query.Searches, Call.conditions_query_eq_kept answered]
  constructor
  · rintro ⟨placeholders, stated⟩
    obtain ⟨bound, kept, same⟩ := List.mem_map.mp stated
    obtain ⟨other, _, rfl⟩ := keyed.eq_search_of_kept kept
    have sameColumn : other.text = column.text := (Condition.member.inj same).2.1
    rw [sameColumn] at kept
    exact kept
  · intro kept
    exact ⟨_, List.mem_map_of_mem kept⟩

theorem exists_searches :
    ∃ column ∈ template.primaryKey,
      (template.fill (fields.map Selector.fields)).value.Searches column.text := by
  -- The first search has nothing before it to conflict with.
  obtain ⟨column, member, value, later, shape⟩ :=
    exists_merged_first template (fields.map Selector.fields)
  have found : (Call.batchDelete template (fields.map Selector.fields)).merged.get? column.text =
      some value := OrderedMap.get?_of_entries_cons shape
  rw [keyed.get?_merged member] at found
  cases found
  obtain ⟨rest, kept⟩ :=
    Filters.exists_kept_choice_of_first shape (keyed.conditionOf?_eq member)
  refine ⟨column, member, keyed.searches_iff.mpr ?_⟩
  rw [Call.choice]
  exact kept ▸ List.Mem.head rest

theorem admits_iff {row : Row} :
    (template.fill (fields.map Selector.fields)).value.Admits row ↔
      ∀ column ∈ template.primaryKey,
        (template.fill (fields.map Selector.fields)).value.Searches column.text →
          ∃ filters ∈ fields, row.AgreesWith filters column.text := by
  have answered := query?_batchDelete template (fields.map Selector.fields)
  rw [Query.Admits, Call.conditions_query_eq_kept answered]
  constructor
  · intro admitted column member searched
    have kept := keyed.searches_iff.mp searched
    exact (holdsOn_iff_of_kept member kept row).mp
      (admitted _ (List.mem_map_of_mem kept))
  · intro agrees condition stated
    obtain ⟨bound, kept, rfl⟩ := List.mem_map.mp stated
    obtain ⟨column, member, rfl⟩ := keyed.eq_search_of_kept kept
    exact (holdsOn_iff_of_kept member kept row).mpr
      (agrees column member (keyed.searches_iff.mpr kept))

theorem searches_or_reported {column : ColumnName} (member : column ∈ template.primaryKey) :
    (template.fill (fields.map Selector.fields)).value.Searches column.text ∨
      ∃ placeholders, Clause.dropped (.member .positive column.text placeholders) ∈
        (template.fill (fields.map Selector.fields)).value.diagnostics := by
  have listed : column.text ∈ template.scope.allowed :=
    mem_allowed_of_mem_keyNames (List.mem_map_of_mem member)
  rcases keyed.mem_kept_or_dropped member with kept | dropped
  · exact Or.inl (keyed.searches_iff.mpr kept)
  · have reported := Filters.dropped_mem_diagnostics (List.ne_nil_of_mem listed) dropped
    exact Or.inr ⟨_, reported⟩

end SelectsByKey

/-- A batch delete by key values deletes the rows that agree with the selectors column by column. -/
theorem selectsByColumn_of_selectsByKey (keyed : template.SelectsByKey fields) :
    (template.fill (fields.map Selector.fields)).value.SelectsByColumn template.primaryKey
      fields where
  written := writesConditions template (fields.map Selector.fields)
  admits := fun _ => keyed.admits_iff
  reported := fun _ => keyed.searches_or_reported
  searched := keyed.exists_searches
  whole := by
    intro single row admitted
    obtain ⟨column, member, searched⟩ := keyed.exists_searches
    obtain ⟨filters, given, agrees⟩ := keyed.admits_iff.mp admitted column member searched
    refine ⟨filters, given, ?_⟩
    intro other otherMember
    rw [← single column member other otherMember]
    exact agrees

/-- Two selectors that give one value each to the only column of the key, and one selector over two
columns that share a placeholder, so that the list of the second is dropped. -/
theorem selectsByColumn_shared_placeholder :
    let single : BatchDelete := { table := "tags" }
    let ids : List Filters :=
      [(∅ : Filters).insert "id" (.int 1), (∅ : Filters).insert "id" (.int 2)]
    let double : BatchDelete :=
      { table := "tags", primaryKey := [⟨"a.b", by decide⟩, ⟨"a__b", by decide⟩] }
    let pair : Filters := ((∅ : Filters).insert "a.b" (.int 1)).insert "a__b" (.int 2)
    (single.SelectsByKey ids ∧
      (single.fill (ids.map Selector.fields)).value.sql =
        "DELETE FROM tags WHERE id IN ($id1, $id2);" ∧
      (single.fill (ids.map Selector.fields)).value.SelectsByColumn single.primaryKey ids) ∧
    double.SelectsByKey [pair] ∧
      (double.fill ([pair].map Selector.fields)).value.sql =
        "DELETE FROM tags WHERE a.b IN ($a__b1);" ∧
      (double.fill ([pair].map Selector.fields)).value.diagnostics =
        [Clause.dropped (.member .positive "a__b" ["a__b1"])] ∧
      (double.fill ([pair].map Selector.fields)).value.SelectsByColumn double.primaryKey
        [pair] := by
  intro single ids double pair
  have keyedById : single.SelectsByKey ids := by
    refine ⟨rfl, by decide, by decide, ?_⟩
    intro filters given column member
    rw [List.mem_singleton.mp member]
    rcases List.mem_pair.mp given with rfl | rfl
    · exact ⟨.int 1, rfl, rfl⟩
    · exact ⟨.int 2, rfl, rfl⟩
  have keyedByPair : double.SelectsByKey [pair] := by
    refine ⟨rfl, by decide, by decide, ?_⟩
    intro filters given column member
    rw [List.mem_singleton.mp given]
    rcases List.mem_pair.mp member with rfl | rfl
    · exact ⟨.int 1, rfl, rfl⟩
    · exact ⟨.int 2, rfl, rfl⟩
  exact ⟨⟨keyedById, by decide, selectsByColumn_of_selectsByKey keyedById⟩,
    keyedByPair, by decide, by decide, selectsByColumn_of_selectsByKey keyedByPair⟩

/-- The columns are searched apart from each other, so a value of one selector is met together with
a value of the other, and the row of French with the first number is deleted. -/
theorem unselected_row_deleted :
    ∃ template : BatchDelete,
      withPrimaryKey { table := "tags" } ["id", "lang"] = .ok template ∧
        ∃ fields : List Filters,
          template.SelectsByKey fields ∧
          (template.fill (fields.map Selector.fields)).value.sql =
            "DELETE FROM tags WHERE id IN ($id1, $id2) AND lang IN ($lang1, $lang2);" ∧
          ∃ row : Row,
            (template.fill (fields.map Selector.fields)).value.Admits row ∧
            ∀ filters ∈ fields, ∃ column ∈ template.primaryKey,
              ¬row.AgreesWith filters column.text := by
  let template : BatchDelete :=
    { table := "tags", primaryKey := [⟨"id", by decide⟩, ⟨"lang", by decide⟩] }
  let first : Filters := ((∅ : Filters).insert "id" (.int 1)).insert "lang" (.text "en")
  let second : Filters := ((∅ : Filters).insert "id" (.int 2)).insert "lang" (.text "fr")
  let row : Row :=
    { value := fun column => if column = "lang" then .text "fr" else .int 1
      scalar := fun column => by split <;> rfl }
  have keyed : template.SelectsByKey [first, second] := by
    refine ⟨rfl, by decide, by decide, ?_⟩
    intro filters given column member
    rcases List.mem_pair.mp given with rfl | rfl
    · rcases List.mem_pair.mp member with rfl | rfl
      · exact ⟨.int 1, rfl, rfl⟩
      · exact ⟨.text "en", rfl, rfl⟩
    · rcases List.mem_pair.mp member with rfl | rfl
      · exact ⟨.int 2, rfl, rfl⟩
      · exact ⟨.text "fr", rfl, rfl⟩
  have admitted : (template.fill ([first, second].map Selector.fields)).value.Admits row := by
    apply keyed.admits_iff.mpr
    intro column member _
    rcases List.mem_pair.mp member with rfl | rfl
    · exact ⟨first, List.mem_pair.mpr (Or.inl rfl), .int 1, rfl, rfl⟩
    · exact ⟨second, List.mem_pair.mpr (Or.inr rfl), .text "fr", rfl, rfl⟩
  have firstDiffers : ¬row.AgreesWith first "lang" := by
    rintro ⟨value, found, same⟩
    cases found
    exact absurd same (by decide)
  have secondDiffers : ¬row.AgreesWith second "id" := by
    rintro ⟨value, found, same⟩
    cases found
    exact absurd same (by decide)
  refine ⟨template, rfl, [first, second], keyed, by decide, row, admitted, ?_⟩
  intro filters given
  rcases List.mem_pair.mp given with rfl | rfl
  · exact ⟨_, List.mem_pair.mpr (Or.inr rfl), firstDiffers⟩
  · exact ⟨_, List.mem_pair.mpr (Or.inl rfl), secondDiffers⟩

end Template.BatchDelete

end FilterSql
