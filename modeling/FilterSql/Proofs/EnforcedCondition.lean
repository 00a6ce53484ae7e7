import FilterSql.Proofs.ComparedColumn

/-!
# Enforced conditions

A filter on an allowed column is enforced by the compiled clause when its condition is stated and
its placeholders are bound as it asks. This depends only on the filters before it: the condition
is dropped when they bind one of its placeholders to another value, and then no other filter puts
the same text into the clause.
-/

namespace FilterSql

/-- A condition is among some others, by its text, and its placeholders have the values that it
comes with. -/
structure BoundCondition.EnforcedBy (bound : BoundCondition) (conditions : List Condition)
    (parameters : Parameters) : Prop where
  stated : bound.condition.sql ∈ conditions.map Condition.sql
  holds : ∀ name value, (name, value) ∈ bound.bindings →
    ∃ final, parameters.get? name = some final ∧ final.Agrees value

theorem BoundCondition.EnforcedBy.extend {bound : BoundCondition} {conditions : List Condition}
    {parameters extended : Parameters} (enforced : bound.EnforcedBy conditions parameters)
    (extension : parameters.Extends extended) : bound.EnforcedBy conditions extended := by
  refine ⟨enforced.stated, ?_⟩
  intro name value binding
  obtain ⟨first, bindsFirst, firstAgrees⟩ := enforced.holds name value binding
  obtain ⟨final, bindsFinal, finalAgrees⟩ := extension name first bindsFirst
  exact ⟨final, bindsFinal, finalAgrees.trans firstAgrees⟩

namespace Filters

variable {allowed : List String} {filters : Filters} {key : String} {value : Value}

/-- The verdict on the condition of a filter is made on the clause of the filters before it. -/
theorem choice_eq_of_get? {bound : BoundCondition} (found : filters.get? key = some value)
    (asked : conditionOf? allowed key value = some bound) :
    ∃ later, filters.entries = (filters.before key).entries ++ (key, value) :: later ∧
      ∃ after : Choice, after.offered = conditions allowed later ∧
        filters.choice allowed = choice allowed (filters.before key) ++
          (bound, !(compile allowed (filters.before key)).value.conflicts bound) :: after := by
  obtain ⟨later, shape⟩ := OrderedMap.exists_entries_eq_before found
  have split : conditions allowed filters.entries =
      conditions allowed (filters.before key).entries ++ bound :: conditions allowed later := by
    rw [shape]
    exact (List.filterMap_append).trans (congrArg _ (List.filterMap_cons_some asked))
  let initial := (Clause.addAll {} (conditions allowed (filters.before key).entries)).value
  refine ⟨later, shape, (initial.add bound).value.choose (conditions allowed later),
    Clause.offered_choose _ _, ?_⟩
  rw [choice, split, Clause.choose_append, Clause.choose, value_compile]
  rfl

/-- What is kept is the condition of a filter that meets no conflict with the filters before it. -/
theorem mem_kept_choice_iff {bound : BoundCondition} :
    bound ∈ (filters.choice allowed).kept ↔
      ∃ key value, filters.get? key = some value ∧ conditionOf? allowed key value = some bound ∧
        (compile allowed (filters.before key)).value.conflicts bound = false := by
  constructor
  · intro kept
    obtain ⟨⟨_, verdict⟩, member, rfl⟩ := List.mem_map.mp kept
    obtain ⟨chosen, accepted⟩ := List.mem_filter.mp member
    obtain rfl : verdict = true := accepted
    obtain ⟨before, after, shape⟩ := List.append_of_mem chosen
    obtain ⟨_, accepted⟩ := Clause.verdict_of_choose shape
    obtain ⟨initial, rest, entries, offeredBefore, offeredRest⟩ :=
      List.filterMap_eq_append_iff.mp (Clause.eq_offered_of_choose shape)
    obtain ⟨skipped, entry, later, split, nothing, asked, _⟩ :=
      List.filterMap_eq_cons_iff.mp offeredRest
    have position : filters.entries = (initial ++ skipped) ++ entry :: later := by
      rw [entries, split, List.append_assoc]
    have offered : conditions allowed (initial ++ skipped) = Choice.offered before := by
      rw [conditions, List.filterMap_append, offeredBefore,
        List.filterMap_eq_nil_iff.mpr nothing, List.append_nil]
    refine ⟨entry.1, entry.2, ?_, asked, ?_⟩
    · rw [OrderedMap.get?_eq_some_iff, position]
      exact List.mem_append_right _ (List.Mem.head later)
    · rw [value_compile, OrderedMap.entries_before_of_split position, offered]
      simpa using accepted
  · rintro ⟨key, value, found, asked, compatible⟩
    obtain ⟨later, _, after, _, chosen⟩ := choice_eq_of_get? found asked
    rw [chosen, compatible, Choice.kept_append]
    exact List.mem_append_right _ (List.Mem.head _)

/-- When the condition of a filter is dropped, every condition that is kept is for another key. -/
theorem askedBy_other_of_conflicts {bound : BoundCondition}
    (found : filters.get? key = some value) (asked : conditionOf? allowed key value = some bound)
    (conflict : (compile allowed (filters.before key)).value.conflicts bound = true)
    {other : BoundCondition} (kept : other ∈ (filters.choice allowed).kept) :
    ∃ entry : String × Value, entry.1 ≠ key ∧
      BoundCondition.AskedBy allowed entry.1 entry.2 other := by
  obtain ⟨later, shape, after, offered, chosen⟩ := choice_eq_of_get? found asked
  rw [chosen, conflict, Choice.kept_append] at kept
  rcases List.mem_append.mp kept with keptBefore | keptAfter
  · obtain ⟨entry, member, source⟩ := askedBy_of_mem_kept keptBefore
    exact ⟨entry, OrderedMap.ne_of_mem_before shape member, source⟩
  · have offeredAfter : other ∈ conditions allowed later := by
      rw [← offered]
      exact (Choice.kept_sublist after).subset keptAfter
    obtain ⟨entry, member, source⟩ := askedBy_of_mem_conditions offeredAfter
    refine ⟨entry, ?_, source⟩
    intro sameKey
    have present : entry.1 ∈ later.map Prod.fst := List.mem_map_of_mem member
    exact (OrderedMap.absent_of_split shape).2 (sameKey ▸ present)

/-- An equality that conflicts with the filters before it is not stated for any other reason. -/
theorem not_conflicts_of_stated (valid : ∀ column ∈ allowed, isColumnName column = true)
    (listed : key ∈ allowed) (other : key ≠ Operation.fullTextKey)
    (found : filters.get? key = some value)
    (stated : (BoundCondition.equal key value).value.condition.sql ∈
      (filters.compile allowed).value.conditions.map Condition.sql) :
    (compile allowed (filters.before key)).value.conflicts
      (BoundCondition.equal key value).value = false := by
  rw [← Bool.not_eq_true]
  intro conflict
  -- A condition in conflict binds something, so its text is that of a proper comparison.
  obtain ⟨binding, bindingMember, _⟩ := List.any_eq_true.mp conflict
  obtain ⟨tail, compared, opens⟩ :=
    BoundCondition.opensEquality_of_bindings (List.ne_nil_of_mem bindingMember)
  rw [(settledBy_choice allowed filters).conditions, List.map_map] at stated
  obtain ⟨bound, kept, same⟩ := List.mem_map.mp stated
  have asked := conditionOf?_of_mem listed other value
  obtain ⟨entry, different, source⟩ := askedBy_other_of_conflicts found asked conflict kept
  have written : bound.condition.sql.toList = key.toList ++ tail := by
    rw [← compared, ← same]
    rfl
  exact different (source.conditionText.key_eq_of_opensEquality valid (valid key listed)
    written opens)

/-- An equality that does not conflict with the filters before it is enforced by the clause. -/
theorem enforcedBy_of_not_conflicts (listed : key ∈ allowed)
    (other : key ≠ Operation.fullTextKey) (found : filters.get? key = some value)
    (compatible : (compile allowed (filters.before key)).value.conflicts
      (BoundCondition.equal key value).value = false) :
    (BoundCondition.equal key value).value.EnforcedBy
      (filters.compile allowed).value.conditions (filters.compile allowed).value.parameters := by
  have kept : (BoundCondition.equal key value).value ∈ (filters.choice allowed).kept :=
    mem_kept_choice_iff.mpr ⟨key, value, found, conditionOf?_of_mem listed other value, compatible⟩
  have settled := settledBy_choice allowed filters
  refine ⟨?_, settled.bound _ kept⟩
  rw [settled.conditions, List.map_map]
  exact List.mem_map_of_mem kept

end Filters

end FilterSql
