import FilterSql.Proofs.CompiledClause

/-!
# Later filters

Conditions are added to a clause one after the other, and a condition that would bind a name to
another value is left out. So filters that come later only narrow a clause: its conditions stay in
front in their order, its text is continued, and whatever it binds stays bound. A later condition is
missing only where the narrowed clause binds one of its names to a value that is not equal.
-/

namespace FilterSql

namespace Condition

theorem allSql_append {left right : List Condition} (leftNonempty : left ≠ [])
    (rightNonempty : right ≠ []) :
    allSql (left ++ right) =
      allSql left ++ " AND " ++ String.intercalate " AND " (right.map sql) := by
  have nonempty : left ++ right ≠ [] := List.append_ne_nil_of_left_ne_nil leftNonempty right
  rw [allSql_of_ne_nil nonempty, allSql_of_ne_nil leftNonempty, List.map_append,
    String.intercalate_append_of_ne_nil (by simpa using leftNonempty)
      (by simpa using rightNonempty)]
  simp only [String.append_assoc]

end Condition

/-- A clause is narrowed by further conditions when they stand behind its own, its text is
continued by theirs, and every name that it binds stays bound to a value that agrees. -/
structure Clause.NarrowedBy (clause : Clause) (further : List BoundCondition)
    (narrowed : Clause) : Prop where
  conditions : narrowed.conditions = clause.conditions ++ further.map BoundCondition.condition
  unchanged : further = [] → narrowed.text = clause.text
  started : further ≠ [] → clause.text = "" → narrowed.text =
    "WHERE " ++ String.intercalate " AND " (further.map fun bound => bound.condition.sql)
  continued : further ≠ [] → clause.text ≠ "" → narrowed.text =
    clause.text ++ " AND " ++
      String.intercalate " AND " (further.map fun bound => bound.condition.sql)
  bound : clause.parameters.Extends narrowed.parameters

namespace Clause

variable {clause : Clause} {bounds : List BoundCondition}

theorem narrowedBy_of_conditions {narrowed : Clause} {further : List BoundCondition}
    (conditions : narrowed.conditions =
      clause.conditions ++ further.map BoundCondition.condition)
    (bound : clause.parameters.Extends narrowed.parameters) :
    clause.NarrowedBy further narrowed where
  conditions := conditions
  unchanged := by
    rintro rfl
    rw [text, conditions, List.map_nil, List.append_nil, text]
  started := by
    intro added empty
    have nothing : clause.conditions = [] := Condition.allSql_eq_empty_iff.mp empty
    have nonempty : further.map BoundCondition.condition ≠ [] := by simpa using added
    rw [text, conditions, nothing, List.nil_append, Condition.allSql_of_ne_nil nonempty,
      List.map_map]
    rfl
  continued := by
    intro added written
    have conditioned : clause.conditions ≠ [] := fun nothing =>
      written (Condition.allSql_eq_empty_iff.mpr nothing)
    have nonempty : further.map BoundCondition.condition ≠ [] := by simpa using added
    rw [text, conditions, Condition.allSql_append conditioned nonempty, List.map_map]
    rfl
  bound := bound

theorem addAll_append (clause : Clause) (left right : List BoundCondition) :
    (clause.addAll (left ++ right)).value = ((clause.addAll left).value.addAll right).value := by
  induction left generalizing clause with
  | nil => rfl
  | cons bound rest inductionHypothesis => exact inductionHypothesis (clause.add bound).value

theorem narrowedBy_addAll (distinct : ∀ bound ∈ bounds, (bound.bindings.map Prod.fst).Nodup) :
    clause.NarrowedBy (clause.choose bounds).kept (clause.addAll bounds).value :=
  narrowedBy_of_conditions (conditions_addAll clause bounds) (extends_addAll distinct)

/-- A conflict that drops a condition is still there when all conditions have been added. -/
theorem exists_conflict_of_mem_dropped
    (distinct : ∀ bound ∈ bounds, (bound.bindings.map Prod.fst).Nodup) {dropped : BoundCondition}
    (member : dropped ∈ (clause.choose bounds).dropped) :
    ∃ name value other, (name, value) ∈ dropped.bindings ∧
      (clause.addAll bounds).value.parameters.get? name = some other ∧
      (other == value) = false := by
  induction bounds generalizing clause with
  | nil => exact absurd member List.not_mem_nil
  | cons bound rest inductionHypothesis =>
      have restDistinct : ∀ later ∈ rest, (later.bindings.map Prod.fst).Nodup :=
        fun later present => distinct later (List.Mem.tail bound present)
      rw [choose] at member
      cases verdict : clause.conflicts bound with
      | false =>
          rw [verdict] at member
          exact inductionHypothesis restDistinct member
      | true =>
          rw [verdict] at member
          rcases List.mem_cons.mp member with rfl | later
          · obtain ⟨binding, present, bindsOther⟩ := List.any_eq_true.mp verdict
            obtain ⟨earlier, found, different⟩ := Parameters.bindsOther_eq_true_iff.mp bindsOther
            obtain ⟨final, bindsFinal, agrees⟩ :=
              extends_addAll distinct binding.1 earlier found
            refine ⟨binding.1, binding.2, final, present, bindsFinal, ?_⟩
            rw [Bool.eq_false_iff] at different ⊢
            intro same
            exact different (BEq.symm (agrees.equal_of_equal (BEq.symm same)))
          · exact inductionHypothesis restDistinct later

end Clause

namespace Filters

/-- Compiling filters together with later ones under other keys narrows the clause of the first by
the conditions of the later ones. A later condition is left out only where the narrowed clause binds
one of its names to a value that is not equal. -/
theorem exists_narrowedBy_compile_merge {filters later : Filters}
    (disjoint : ∀ key ∈ filters.keys, key ∉ later.keys) (allowed : List String) :
    let narrowed := (compile allowed (filters.merge later)).value
    ∃ choice : Choice,
      choice.offered = conditions allowed later.entries ∧
        choice.kept.Sublist (conditions allowed later.entries) ∧
        (filters.compile allowed).value.NarrowedBy choice.kept narrowed ∧
        ∀ dropped ∈ choice.dropped, ∃ name value other, (name, value) ∈ dropped.bindings ∧
          narrowed.parameters.get? name = some other ∧ (other == value) = false := by
  intro narrowed
  have compiled : narrowed = ((filters.compile allowed).value.addAll
      (conditions allowed later.entries)).value := by
    change (compile allowed (filters.merge later)).value = _
    rw [value_compile, OrderedMap.entries_merge_of_disjoint disjoint, conditions,
      List.filterMap_append, Clause.addAll_append, value_compile]
    rfl
  have distinct : ∀ bound ∈ conditions allowed later.entries,
      (bound.bindings.map Prod.fst).Nodup := fun _ member => nodup_names_of_mem_conditions member
  let choice := (filters.compile allowed).value.choose (conditions allowed later.entries)
  have offered : choice.offered = conditions allowed later.entries := Clause.offered_choose _ _
  have kept : choice.kept.Sublist (conditions allowed later.entries) := by
    rw [← offered]
    exact choice.kept_sublist
  rw [compiled]
  refine ⟨choice, offered, kept, Clause.narrowedBy_addAll distinct, ?_⟩
  exact fun dropped member => Clause.exists_conflict_of_mem_dropped distinct member

/-- Of two later filters one takes a name that the list has bound, and is left out. -/
theorem exists_narrowedBy_compile_merge_after_list :
    let allowed := ["id", "id1", "lang"]
    let filters : Filters := (∅ : Filters).insert "id" (.array [.int 1, .int 2])
    let later : Filters := ((∅ : Filters).insert "id1" (.int 9)).insert "not_lang" (.text "en")
    let narrowed := (compile allowed (filters.merge later)).value
    (∀ key ∈ filters.keys, key ∉ later.keys) ∧
      (filters.compile allowed).value.text = "WHERE id IN ($id1, $id2)" ∧
      narrowed.text = "WHERE id IN ($id1, $id2) AND lang != $not_lang" ∧
      ∃ choice : Choice,
        choice.offered = conditions allowed later.entries ∧
          choice.kept.Sublist (conditions allowed later.entries) ∧
          (filters.compile allowed).value.NarrowedBy choice.kept narrowed ∧
          ∀ dropped ∈ choice.dropped, ∃ name value other, (name, value) ∈ dropped.bindings ∧
            narrowed.parameters.get? name = some other ∧ (other == value) = false := by
  intro allowed filters later narrowed
  have disjoint : ∀ key ∈ filters.keys, key ∉ later.keys := by decide
  exact ⟨disjoint, by decide, by decide, exists_narrowedBy_compile_merge disjoint allowed⟩

end Filters

end FilterSql
