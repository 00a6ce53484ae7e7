import FilterSql.Proofs.PermanentFilters
import FilterSql.Proofs.SelectedRows

/-!
# The filters of a batch

A batch of selectors becomes one filter for each key column that some selector names, and without
any, a filter on the first key column that admits no row. So a batch delete always has conditions.
But permanent filters are written over the filter that admits no row, and a key column may have the
name that asks for a search; the last main result says exactly when an empty batch deletes nothing.
-/

namespace FilterSql

namespace Batch

theorem mem_valuesOf_iff {rows : List Filters} {column : String} {value : Value} :
    value ∈ valuesOf rows column ↔ ∃ row ∈ rows, row.get? column = some value :=
  List.mem_filterMap

theorem mem_keys_combine_iff {rows : List Filters} {key : String} :
    key ∈ (combine rows).keys ↔ ∃ row ∈ rows, key ∈ row.keys := by
  have written : ((keys rows).map fun key => (key, Value.array (valuesOf rows key))).map
      Prod.fst = keys rows := by
    rw [List.map_map]
    exact List.map_id _
  rw [combine, OrderedMap.ofList, OrderedMap.keys_insertMany, written, List.mem_eraseDups,
    List.mem_append, keys, List.mem_eraseDups, List.mem_flatMap]
  exact or_iff_right List.not_mem_nil

theorem get?_combine {rows : List Filters} {key : String}
    (present : key ∈ (combine rows).keys) :
    (combine rows).get? key = some (.array (valuesOf rows key)) := by
  obtain ⟨value, found⟩ := OrderedMap.mem_keys_iff.mp present
  rw [found]
  rcases OrderedMap.mem_of_get?_insertMany found with member | earlier
  · obtain ⟨other, _, same⟩ := List.mem_map.mp member
    cases same
    rfl
  · cases earlier

end Batch

namespace Template.BatchDelete

variable {template : BatchDelete} {selectors : List Selector}

/-- The key column that stands for bare ids, and for a batch that names no column. -/
def firstKey (template : BatchDelete) : ColumnName :=
  template.primaryKey.head template.keyed

theorem firstKey_mem (template : BatchDelete) :
    template.firstKey ∈ template.primaryKey :=
  List.head_mem template.keyed

theorem firstKey_text_mem (template : BatchDelete) :
    template.firstKey.text ∈ template.keyNames :=
  List.mem_map_of_mem template.firstKey_mem

theorem keyFilters_of_isEmpty {rows : List Filters}
    (empty : (Batch.combine rows).isEmpty = true) :
    template.keyFilters rows =
      (∅ : Filters).insert template.firstKey.text (.array []) := by
  rw [keyFilters, if_pos empty]
  rfl

theorem keyFilters_of_mem {rows : List Filters} {key : String}
    (present : key ∈ (Batch.combine rows).keys) :
    template.keyFilters rows = Batch.combine rows := by
  have nonempty : ¬(Batch.combine rows).isEmpty = true := by
    intro empty
    rw [OrderedMap.isEmpty, List.isEmpty_iff] at empty
    rw [OrderedMap.keys, empty] at present
    cases present
  rw [keyFilters, if_neg nonempty]

theorem mem_keyNames_of_mem_rows {row : Filters} {key : String}
    (member : row ∈ template.rows selectors) (present : key ∈ row.keys) :
    key ∈ template.keyNames := by
  obtain ⟨selector, _, rfl⟩ := List.mem_map.mp member
  exact Selector.mem_columns_of_mem_filtersOn present

theorem mem_keyNames_of_mem_keyFilters {key : String}
    (present : key ∈ (template.keyFilters (template.rows selectors)).keys) :
    key ∈ template.keyNames := by
  by_cases empty : (Batch.combine (template.rows selectors)).isEmpty = true
  · rw [keyFilters_of_isEmpty empty] at present
    rw [List.mem_singleton.mp present]
    exact template.firstKey_text_mem
  · rw [keyFilters, if_neg empty] at present
    obtain ⟨row, member, rowKey⟩ := Batch.mem_keys_combine_iff.mp present
    exact mem_keyNames_of_mem_rows member rowKey

theorem entries_keyFilters_ne_nil (template : BatchDelete) (rows : List Filters) :
    (template.keyFilters rows).entries ≠ [] := by
  by_cases empty : (Batch.combine rows).isEmpty = true
  · rw [keyFilters_of_isEmpty empty]
    exact List.cons_ne_nil _ _
  · rw [keyFilters, if_neg empty]
    simpa [OrderedMap.isEmpty] using empty

theorem keyFilters_of_unnamed
    (unnamed : ∀ selector ∈ selectors, ¬selector.Names template.keyNames) :
    template.keyFilters (template.rows selectors) =
      (∅ : Filters).insert template.firstKey.text (.array []) := by
  have listed : template.keyNames ≠ [] := List.ne_nil_of_mem template.firstKey_text_mem
  have nothing : (Batch.combine (template.rows selectors)).keys = [] := by
    apply List.eq_nil_iff_forall_not_mem.mpr
    intro key present
    obtain ⟨row, member, rowKey⟩ := Batch.mem_keys_combine_iff.mp present
    obtain ⟨selector, given, rfl⟩ := List.mem_map.mp member
    exact unnamed selector given ((Selector.names_iff listed).mpr (List.ne_nil_of_mem rowKey))
  apply keyFilters_of_isEmpty
  rw [OrderedMap.isEmpty, List.isEmpty_iff]
  exact List.map_eq_nil_iff.mp nothing

theorem query?_batchDelete (template : BatchDelete) (selectors : List Selector) :
    (Call.batchDelete template selectors).query? = some (template.fill selectors).value :=
  rfl

theorem mem_allowed_of_mem_keyNames {key : String} (listed : key ∈ template.keyNames) :
    key ∈ template.scope.allowed :=
  List.mem_append_left _ listed

theorem mem_allowed_of_mem_merged {key : String}
    (present : key ∈ (Call.batchDelete template selectors).merged.keys) :
    key ∈ template.scope.allowed := by
  rcases OrderedMap.mem_keys_merge_iff.mp present with requested | permanent
  · exact mem_allowed_of_mem_keyNames (mem_keyNames_of_mem_keyFilters requested)
  · exact List.mem_append_right _ permanent

theorem exists_merged_first (template : BatchDelete) (selectors : List Selector) :
    ∃ column ∈ template.primaryKey, ∃ value later,
      (Call.batchDelete template selectors).merged.entries = (column.text, value) :: later := by
  obtain ⟨entry, rest, shape⟩ := List.exists_cons_of_ne_nil
    (template.entries_keyFilters_ne_nil (template.rows selectors))
  have present : entry.1 ∈ (template.keyFilters (template.rows selectors)).keys := by
    rw [OrderedMap.keys, shape]
    exact List.Mem.head _
  obtain ⟨column, member, named⟩ := List.mem_map.mp (mem_keyNames_of_mem_keyFilters present)
  obtain ⟨value, later, merged⟩ : ∃ value later,
      (Call.batchDelete template selectors).merged.entries = (entry.1, value) :: later :=
    OrderedMap.exists_entries_merge shape
  exact ⟨column, member, value, later, by rw [merged, named]⟩

theorem exists_conditions_eq_cons (template : BatchDelete) (selectors : List Selector) :
    ∃ column ∈ template.primaryKey, ∃ value bound others,
      (Call.batchDelete template selectors).merged.get? column.text = some value ∧
      Filters.conditionOf? template.scope.allowed column.text value = some bound ∧
      (template.fill selectors).value.statement.conditions = bound.condition :: others := by
  obtain ⟨column, member, value, later, shape⟩ := exists_merged_first template selectors
  have found : (Call.batchDelete template selectors).merged.get? column.text = some value :=
    OrderedMap.get?_of_entries_cons shape
  have listed : column.text ∈ template.scope.allowed :=
    mem_allowed_of_mem_keyNames (List.mem_map_of_mem member)
  obtain ⟨bound, asked⟩ := Filters.exists_conditionOf?_of_mem listed value
  obtain ⟨⟨others, conditions⟩, _⟩ :=
    Call.exists_conditions_of_first (query?_batchDelete template selectors) shape asked
  exact ⟨column, member, value, bound, others, found, asked, conditions⟩

/-- The text of a batch delete always has conditions. -/
theorem sql_fill (template : BatchDelete) (selectors : List Selector) :
    (template.fill selectors).value.sql = "DELETE FROM " ++ template.table ++ " WHERE " ++
      String.intercalate " AND "
        ((template.fill selectors).value.statement.conditions.map Condition.sql) ++
          (Statement.trailing template.returning.sql ++ ";") := by
  have nonempty : (template.fill selectors).value.statement.conditions ≠ [] := by
    obtain ⟨_, _, _, _, _, _, _, conditions⟩ := exists_conditions_eq_cons template selectors
    rw [conditions]
    exact List.cons_ne_nil _ _
  exact Statement.sql_delete template.table nonempty template.returning true

theorem writesConditions (template : BatchDelete) (selectors : List Selector) :
    (template.fill selectors).value.WritesConditions :=
  ⟨_, _, sql_fill template selectors⟩

end Template.BatchDelete

/-! ## Conditions that admit no row -/

/-- The text of the condition that admits no row. -/
def Condition.noRowText : String :=
  "1=0 /* IN requires at least one value */"

namespace BoundCondition

theorem exists_sql_equal {key : String} {value : Value} (other : value ≠ .array []) :
    ∃ words, (equal key value).value.condition.sql = key ++ words := by
  have single : ∀ name : String, ∃ words,
      (Condition.compare .positive key name).sql = key ++ words := by
    intro name
    exact ⟨" = " ++ Placeholder.reference name, String.append_assoc⟩
  cases value with
  | null => exact ⟨" IS NULL", rfl⟩
  | bool truth => exact single _
  | int number => exact single _
  | float number => exact single _
  | text content =>
      rw [equal, comparison]
      cases NullText.ofString? content with
      | none => exact single _
      | some test => exact ⟨" " ++ test.text, String.append_assoc⟩
  | array items =>
      cases items with
      | nil => exact absurd rfl other
      | cons first rest =>
          refine ⟨" IN (" ++ (String.intercalate ", " (((numbered key (first :: rest)).map
            Prod.fst).map Placeholder.reference) ++ ")"), ?_⟩
          rw [← String.append_assoc, ← String.append_assoc]
          rfl

theorem sql_equal_eq_noRowText_iff {key : String} (named : isColumnName key = true)
    {value : Value} :
    (equal key value).value.condition.sql = Condition.noRowText ↔ value = .array [] := by
  constructor
  · intro same
    by_contra other
    obtain ⟨words, written⟩ : ∃ words, (equal key value).value.condition.sql = key ++ words :=
      exists_sql_equal other
    obtain ⟨first, rest, shape, start⟩ := exists_cons_of_isColumnName named
    rw [written, ← String.toList_inj, String.toList_append, shape] at same
    -- A column does not start with a digit, and this text does.
    have digit : first = '1' := (List.cons.inj same).1
    subst digit
    exact absurd start (by decide)
  · rintro rfl
    rfl

theorem sql_search_ne_noRowText (allowed : List String) (value : Value) :
    (ofKey Operation.fullTextKey value (.anyLike allowed)).condition.sql ≠
      Condition.noRowText := by
  intro same
  rw [ofKey, Condition.sql, ← String.toList_inj, String.toList_append, String.toList_append]
    at same
  cases same

end BoundCondition

namespace Filters

/-- Over filters on allowed columns, only one with an empty list admits no row. -/
theorem noRowText_mem_compile_iff {allowed : List String}
    (valid : ∀ column ∈ allowed, isColumnName column = true) {filters : Filters}
    (listed : ∀ key ∈ filters.keys, key ∈ allowed) :
    Condition.noRowText ∈ (filters.compile allowed).value.conditions.map Condition.sql ↔
      ∃ key, key ≠ Operation.fullTextKey ∧ filters.get? key = some (.array []) := by
  constructor
  · intro stated
    rw [(settledBy_choice allowed filters).conditions, List.map_map] at stated
    obtain ⟨bound, kept, same⟩ := List.mem_map.mp stated
    obtain ⟨entry, member, asked⟩ :=
      List.mem_filterMap.mp ((kept_choice_sublist allowed filters).subset kept)
    have entryListed : entry.1 ∈ allowed :=
      listed entry.1 (List.mem_map_of_mem (f := Prod.fst) member)
    by_cases search : entry.1 = Operation.fullTextKey
    · rw [search, conditionOf?_fullTextKey (List.ne_nil_of_mem entryListed)] at asked
      cases asked
      exact absurd same (BoundCondition.sql_search_ne_noRowText allowed entry.2)
    · rw [conditionOf?_of_mem entryListed search] at asked
      cases asked
      have nothing : entry.2 = .array [] :=
        (BoundCondition.sql_equal_eq_noRowText_iff (valid entry.1 entryListed)).mp same
      refine ⟨entry.1, search, OrderedMap.get?_eq_some_iff.mpr ?_⟩
      rw [← nothing]
      exact member
  · rintro ⟨key, other, found⟩
    have keyListed : key ∈ allowed := listed key (OrderedMap.mem_keys_iff.mpr ⟨_, found⟩)
    have compatible : (compile allowed (filters.before key)).value.conflicts
        (BoundCondition.equal key (.array [])).value = false := rfl
    exact (enforcedBy_of_not_conflicts keyListed other found compatible).stated

end Filters

namespace Template.BatchDelete

variable {template : BatchDelete} {selectors : List Selector}

theorem get?_merged_of_unnamed
    (unnamed : ∀ selector ∈ selectors, ¬selector.Names template.keyNames) {key : String} :
    (Call.batchDelete template selectors).merged.get? key = some (.array []) ↔
      (key = template.firstKey.text ∧ key ∉ template.permanent.filters.keys) ∨
        template.permanent.filters.get? key = some (.array []) := by
  have requested : (Call.batchDelete template selectors).merged =
      ((∅ : Filters).insert template.firstKey.text (.array [])).merge
        template.permanent.filters :=
    congrArg (OrderedMap.merge · template.permanent.filters) (keyFilters_of_unnamed unnamed)
  rw [requested]
  cases permanent : template.permanent.filters.get? key with
  | some value =>
      have present : key ∈ template.permanent.filters.keys :=
        OrderedMap.mem_keys_iff.mpr ⟨value, permanent⟩
      rw [OrderedMap.get?_merge_of_get? permanent]
      exact (or_iff_right fun free => free.2 present).symm
  | none =>
      have free : key ∉ template.permanent.filters.keys :=
        OrderedMap.get?_eq_none_iff.mp permanent
      rw [OrderedMap.get?_merge_of_not_mem free, OrderedMap.get?_insert]
      by_cases first : key = template.firstKey.text
      · rw [if_pos first]
        exact iff_of_true rfl (Or.inl ⟨first, free⟩)
      · rw [if_neg first]
        exact iff_of_false nofun (by simp [first])

/-- A batch that names no key column states the condition that admits no row exactly when its first
key column is free for it, or a permanent filter lists no value either. -/
theorem states_noRowText_iff
    (unnamed : ∀ selector ∈ selectors, ¬selector.Names template.keyNames) :
    (template.fill selectors).value.States Condition.noRowText ↔
      (template.firstKey.text ≠ Operation.fullTextKey ∧
        template.firstKey.text ∉ template.permanent.filters.keys) ∨
      ∃ key, key ≠ Operation.fullTextKey ∧
        template.permanent.filters.get? key = some (.array []) := by
  have clause : Condition.noRowText ∈
      (template.fill selectors).value.statement.conditions.map Condition.sql ↔
        ∃ key, key ≠ Operation.fullTextKey ∧
          (Call.batchDelete template selectors).merged.get? key = some (.array []) :=
    Filters.noRowText_mem_compile_iff template.scope.isColumnName_of_mem_allowed
      fun _ present => mem_allowed_of_mem_merged present
  constructor
  · intro states
    obtain ⟨key, other, found⟩ := clause.mp states.stated
    rcases (get?_merged_of_unnamed unnamed).mp found with ⟨rfl, free⟩ | permanent
    · exact Or.inl ⟨other, free⟩
    · exact Or.inr ⟨key, other, permanent⟩
  · intro free
    refine ⟨writesConditions template selectors, clause.mpr ?_⟩
    rcases free with ⟨other, first⟩ | ⟨key, other, permanent⟩
    · exact ⟨_, other, (get?_merged_of_unnamed unnamed).mpr (Or.inl ⟨rfl, first⟩)⟩
    · exact ⟨key, other, (get?_merged_of_unnamed unnamed).mpr (Or.inr permanent)⟩

/-- A selector with another field only, next to a permanent filter on another column. -/
theorem states_noRowText_other_field :
    let template : BatchDelete :=
      { table := "users", primaryKey := [⟨"uuid", by decide⟩]
        permanent := ⟨(∅ : Filters).insert "tenant" (.int 4), by decide⟩ }
    let selectors : List Selector := [.fields ((∅ : Filters).insert "id" (.int 1))]
    (∀ selector ∈ selectors, ¬selector.Names template.keyNames) ∧
      (template.fill selectors).value.States Condition.noRowText ∧
      (template.fill selectors).value.sql =
        "DELETE FROM users WHERE " ++ Condition.noRowText ++ " AND tenant = $tenant;" := by
  intro template selectors
  have unnamed : ∀ selector ∈ selectors, ¬selector.Names template.keyNames := by
    intro selector member names
    rw [List.mem_singleton.mp member] at names
    cases names with
    | field given listed =>
        rw [List.mem_singleton.mp given] at listed
        exact absurd listed (by decide)
  have free : template.firstKey.text ≠ Operation.fullTextKey ∧
      template.firstKey.text ∉ template.permanent.filters.keys := by decide
  exact ⟨unnamed, (states_noRowText_iff unnamed).mpr (Or.inl free), by decide⟩

/-- A permanent filter on the first key column takes the place of the filter that admits no row, and
a batch without selectors deletes every row of the tenant. -/
theorem tenant_deleted_by_empty_batch :
    ∃ template : BatchDelete,
      (withPrimaryKey { table := "documents" } ["tenant", "id"]).bind
          (·.withPermanent ((∅ : Filters).insert "tenant" (.int 4))) = .ok template ∧
        (∀ selector ∈ ([] : List Selector), ¬selector.Names template.keyNames) ∧
        (template.fill []).value.sql = "DELETE FROM documents WHERE tenant = $tenant;" ∧
        ¬(template.fill []).value.States Condition.noRowText := by
  refine ⟨{ table := "documents"
            primaryKey := [⟨"tenant", by decide⟩, ⟨"id", by decide⟩]
            permanent := ⟨(∅ : Filters).insert "tenant" (.int 4), by decide⟩ },
    rfl, nofun, by decide, ?_⟩
  intro states
  exact absurd states.stated (by decide)

end Template.BatchDelete

end FilterSql
