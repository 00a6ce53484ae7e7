import FilterSql.Proofs.SelectedRows

/-!
# What an update writes

An update binds its data in the parameters of its filters, and asks before each binding whether the
name is bound to another value. The parameters at any point stand for all bindings made so far: they
have the names of these and no others, each with a value that agrees with every value given to it.
So the first binding that clashes with an earlier one refuses the update, and without a clash the
filters and the data are bound as they were given.
-/

namespace FilterSql

/-- Some earlier binding gives the name a value that is not equal. -/
def Clashes (earlier : List (String × Value)) (binding : String × Value) : Prop :=
  ∃ other, (binding.1, other) ∈ earlier ∧ (other == binding.2) = false

/-- Of bindings that are made in order after some others, the first that clashes with an earlier
one has this name. -/
def FirstClash (earlier bindings : List (String × Value)) (name : String) : Prop :=
  ∃ before value after,
    bindings = before ++ (name, value) :: after ∧
      Clashes (earlier ++ before) (name, value) ∧
      ∀ front binding back,
        before = front ++ binding :: back → ¬Clashes (earlier ++ front) binding

theorem not_firstClash_nil (earlier : List (String × Value)) (name : String) :
    ¬FirstClash earlier [] name := by
  rintro ⟨before, value, after, shape, _⟩
  simp at shape

theorem firstClash_cons_iff (earlier : List (String × Value)) (binding : String × Value)
    (rest : List (String × Value)) (name : String) :
    FirstClash earlier (binding :: rest) name ↔
      (Clashes earlier binding ∧ binding.1 = name) ∨
        (¬Clashes earlier binding ∧ FirstClash (earlier ++ [binding]) rest name) := by
  constructor
  · rintro ⟨before, value, after, shape, clash, first⟩
    cases before with
    | nil =>
        simp only [List.nil_append, List.cons.injEq] at shape
        obtain ⟨rfl, rfl⟩ := shape
        rw [List.append_nil] at clash
        exact Or.inl ⟨clash, rfl⟩
    | cons head tail =>
        simp only [List.cons_append, List.cons.injEq] at shape
        obtain ⟨rfl, rfl⟩ := shape
        have compatible : ¬Clashes earlier binding := by
          simpa using first [] binding tail rfl
        refine Or.inr ⟨compatible, tail, value, after, rfl, ?_, ?_⟩
        · simpa using clash
        · intro front other back split
          simpa using first (binding :: front) other back (by rw [split, List.cons_append])
  · rintro (⟨clash, rfl⟩ | ⟨compatible, before, value, after, shape, clash, first⟩)
    · refine ⟨[], binding.2, rest, rfl, ?_, ?_⟩
      · simpa using clash
      · intro front other back split
        simp at split
    · refine ⟨binding :: before, value, after, by rw [shape, List.cons_append], ?_, ?_⟩
      · simpa using clash
      · intro front other back split
        cases front with
        | nil =>
            simp only [List.nil_append, List.cons.injEq] at split
            rw [← split.1, List.append_nil]
            exact compatible
        | cons head front =>
            simp only [List.cons_append, List.cons.injEq] at split
            obtain ⟨rfl, split⟩ := split
            simpa using first front other back split

theorem FirstClash.unique {earlier bindings : List (String × Value)} {name other : String}
    (first : FirstClash earlier bindings name) (second : FirstClash earlier bindings other) :
    name = other := by
  induction bindings generalizing earlier with
  | nil => exact absurd first (not_firstClash_nil earlier name)
  | cons binding rest inductionHypothesis =>
      rw [firstClash_cons_iff] at first second
      by_cases clash : Clashes earlier binding
      · have firstName : binding.1 = name := by simpa [clash] using first
        have secondName : binding.1 = other := by simpa [clash] using second
        exact firstName.symm.trans secondName
      · have firstLater : FirstClash (earlier ++ [binding]) rest name := by
          simpa [clash] using first
        have secondLater : FirstClash (earlier ++ [binding]) rest other := by
          simpa [clash] using second
        exact inductionHypothesis firstLater secondLater

namespace Parameters

/-- Parameters record some bindings when they have the names of these and no others, each with one
of the values given to it, and this agrees with all of them. -/
structure Records (parameters : Parameters) (bindings : List (String × Value)) : Prop where
  source : ∀ name value, parameters.get? name = some value → (name, value) ∈ bindings
  agrees : ∀ name value, (name, value) ∈ bindings →
    ∃ final, parameters.get? name = some final ∧ final.Agrees value

theorem records_entries (parameters : Parameters) : parameters.Records parameters.entries where
  source := by
    intro name value found
    exact OrderedMap.get?_eq_some_iff.mp found
  agrees := by
    intro name value member
    exact ⟨value, OrderedMap.get?_eq_some_iff.mpr member, Value.Agrees.refl value⟩

namespace Records

variable {parameters : Parameters} {bindings : List (String × Value)}

/-- What a name is bound to now stands for every value that it was given before. -/
theorem bindsOther_iff (records : parameters.Records bindings) (name : String) (value : Value) :
    parameters.bindsOther name value = true ↔ Clashes bindings (name, value) := by
  rw [bindsOther_eq_true_iff]
  constructor
  · rintro ⟨bound, found, different⟩
    exact ⟨bound, records.source name bound found, different⟩
  · rintro ⟨other, member, different⟩
    obtain ⟨bound, found, agrees⟩ := records.agrees name other member
    refine ⟨bound, found, ?_⟩
    rcases agrees with identical | equal
    · rw [identical]
      exact different
    · by_contra same
      have boundSame : (bound == value) = true := by simpa using same
      have otherSame : (other == value) = true := BEq.trans (BEq.symm equal) boundSame
      rw [otherSame] at different
      cases different

theorem insert (records : parameters.Records bindings) {name : String} {value : Value}
    (compatible : parameters.bindsOther name value = false) :
    Records (parameters.insert name value) (bindings ++ [(name, value)]) where
  source := by
    intro sought found member
    rw [OrderedMap.get?_insert] at member
    by_cases same : sought = name
    · rw [if_pos same] at member
      have written : value = found := Option.some.inj member
      simp [same, written]
    · rw [if_neg same] at member
      exact List.mem_append_left _ (records.source sought found member)
  agrees := by
    intro sought given member
    rcases List.mem_append.mp member with earlier | last
    · obtain ⟨bound, found, agrees⟩ := records.agrees sought given earlier
      obtain ⟨final, finalFound, finalAgrees⟩ := Extends.insert compatible sought bound found
      exact ⟨final, finalFound, finalAgrees.trans agrees⟩
    · have written : (sought, given) = (name, value) := List.mem_singleton.mp last
      cases written
      refine ⟨value, ?_, Value.Agrees.refl value⟩
      rw [OrderedMap.get?_insert, if_pos rfl]

end Records

end Parameters

namespace Template.Update

/-- The columns that data are given for, with these data, in the order of the columns. -/
def assignments (data : Filters) (columns : List ColumnName) : List (ColumnName × Value) :=
  columns.filterMap fun column => (data.get? column.text).map fun value => (column, value)

/-- The name that an assignment binds, with its value. -/
def binding (assignment : ColumnName × Value) : String × Value :=
  (Placeholder.ofAssignment assignment.1.text, assignment.2)

theorem assignments_cons_of_none {data : Filters} {column : ColumnName} {rest : List ColumnName}
    (absent : data.get? column.text = none) :
    assignments data (column :: rest) = assignments data rest := by
  simp [assignments, absent]

theorem assignments_cons_of_some {data : Filters} {column : ColumnName} {rest : List ColumnName}
    {value : Value} (given : data.get? column.text = some value) :
    assignments data (column :: rest) = (column, value) :: assignments data rest := by
  simp [assignments, given]

/-- Assigning stops at the first clash, and otherwise records all bindings of the data. -/
theorem assign_cases (data : Filters) (columns : List ColumnName) {parameters : Parameters}
    {earlier : List (String × Value)} (records : parameters.Records earlier) :
    (∃ name,
      FirstClash earlier ((assignments data columns).map binding) name ∧
        assign data parameters columns = .error (.placeholderBound name)) ∨
    ((∀ name, ¬FirstClash earlier ((assignments data columns).map binding) name) ∧
      ∃ written,
        assign data parameters columns =
            .ok ((assignments data columns).map Prod.fst, written) ∧
          written.Records (earlier ++ (assignments data columns).map binding)) := by
  induction columns generalizing parameters earlier with
  | nil =>
      refine Or.inr ⟨not_firstClash_nil earlier, parameters, rfl, ?_⟩
      simpa [assignments] using records
  | cons column rest inductionHypothesis =>
      cases given : data.get? column.text with
      | none =>
          rw [assignments_cons_of_none given, assign, given]
          exact inductionHypothesis records
      | some value =>
          rw [assignments_cons_of_some given, List.map_cons, assign, given]
          simp only [firstClash_cons_iff]
          have clashes :
              parameters.bindsOther (Placeholder.ofAssignment column.text) value = true ↔
                Clashes earlier (binding (column, value)) :=
            records.bindsOther_iff _ _
          by_cases clash : Clashes earlier (binding (column, value))
          · rw [if_pos (clashes.mpr clash)]
            exact Or.inl ⟨_, Or.inl ⟨clash, rfl⟩, rfl⟩
          · have compatible :
                ¬parameters.bindsOther (Placeholder.ofAssignment column.text) value = true :=
              fun bindsOther => clash (clashes.mp bindsOther)
            have recorded := records.insert (Bool.eq_false_iff.mpr compatible)
            rw [if_neg compatible]
            rcases inductionHypothesis recorded with
              ⟨name, later, refused⟩ | ⟨none, written, accepted, recordsAll⟩
            · rw [refused]
              exact Or.inl ⟨name, Or.inr ⟨clash, later⟩, rfl⟩
            · rw [accepted]
              refine Or.inr ⟨?_, written, rfl, ?_⟩
              · rintro name (⟨first, _⟩ | ⟨_, later⟩)
                · exact clash first
                · exact none name later
              · rw [List.append_assoc] at recordsAll
                exact recordsAll

/-- Data for other columns than the writable ones are never looked up. -/
theorem assignments_restrictTo (data : Filters) (columns : List ColumnName) :
    assignments (data.restrictTo (columns.map ColumnName.text)) columns =
      assignments data columns := by
  apply List.filterMap_congr
  intro column member
  rw [Filters.get?_restrictTo (List.mem_map_of_mem member)]

theorem sql_update_assignments (template : Update) (clause : Clause)
    (assignments : List (ColumnName × Value)) :
    (Statement.update template.table (assignments.map Prod.fst) clause.conditions
        template.returning).sql =
      "UPDATE " ++ template.table ++ " SET " ++
        String.intercalate ", " (assignments.map fun assignment =>
          assignment.1.text ++ "=$" ++ (Placeholder.ofKey assignment.1.text ++ "_u")) ++
        Statement.trailing clause.text ++ Statement.trailing template.returning.sql := by
  have stated : "UPDATE " ++ template.table ++ " SET " ++
      String.intercalate ", " ((assignments.map Prod.fst).map assignmentSql) ≠ "" := by simp
  have written : (assignments.map Prod.fst).map assignmentSql =
      assignments.map fun assignment =>
        assignment.1.text ++ "=$" ++ (Placeholder.ofKey assignment.1.text ++ "_u") := by
    rw [List.map_map]
    apply List.map_congr_left
    intro assignment _
    exact append_reference assignment.1.text "=" _
  rw [Statement.sql, Statement.joinParts_eq stated, written]
  rfl

/-- A query writes assignments where a clause holds. Its text sets each column to a placeholder of
its own; its parameters keep what the clause binds, add the data, and bind no other name. -/
structure Writes (template : Update) (clause : Clause) (assignments : List (ColumnName × Value))
    (query : Query) : Prop where
  text : query.sql =
    "UPDATE " ++ template.table ++ " SET " ++
      String.intercalate ", " (assignments.map fun assignment =>
        assignment.1.text ++ "=$" ++ (Placeholder.ofKey assignment.1.text ++ "_u")) ++
      Statement.trailing clause.text ++ Statement.trailing template.returning.sql
  kept : clause.parameters.Extends query.parameters
  set : ∀ column value, (column, value) ∈ assignments →
    ∃ final, query.parameters.get? (Placeholder.ofKey column.text ++ "_u") = some final ∧
      final.Agrees value
  names : ∀ name, name ∈ query.parameters.keys ↔
    name ∈ clause.parameters.keys ∨
      ∃ assignment ∈ assignments, name = Placeholder.ofKey assignment.1.text ++ "_u"

theorem writes_of_records {template : Update} {clause : Clause}
    {assignments : List (ColumnName × Value)} {query : Query}
    (statement : query.statement =
      .update template.table (assignments.map Prod.fst) clause.conditions template.returning)
    (records :
      query.parameters.Records (clause.parameters.entries ++ assignments.map binding)) :
    template.Writes clause assignments query where
  text := by
    rw [Query.sql, statement]
    exact sql_update_assignments template clause assignments
  kept := by
    intro name value found
    have member : (name, value) ∈ clause.parameters.entries :=
      OrderedMap.get?_eq_some_iff.mp found
    exact records.agrees name value (List.mem_append_left _ member)
  set := by
    intro column value member
    have bound : binding (column, value) ∈ assignments.map binding :=
      List.mem_map_of_mem member
    exact records.agrees _ value (List.mem_append_right _ bound)
  names := by
    intro name
    rw [OrderedMap.mem_keys_iff]
    constructor
    · rintro ⟨value, found⟩
      rcases List.mem_append.mp (records.source name value found) with earlier | assigned
      · exact Or.inl (List.mem_map_of_mem (f := Prod.fst) earlier)
      · obtain ⟨assignment, member, same⟩ := List.mem_map.mp assigned
        exact Or.inr ⟨assignment, member, (congrArg Prod.fst same).symm⟩
    · rintro (earlier | ⟨assignment, member, rfl⟩)
      · obtain ⟨value, found⟩ := OrderedMap.mem_keys_iff.mp earlier
        have bound : (name, value) ∈ clause.parameters.entries :=
          OrderedMap.get?_eq_some_iff.mp found
        obtain ⟨final, finalFound, _⟩ :=
          records.agrees name value (List.mem_append_left _ bound)
        exact ⟨final, finalFound⟩
      · have bound : binding assignment ∈ assignments.map binding :=
          List.mem_map_of_mem member
        obtain ⟨final, finalFound, _⟩ :=
          records.agrees _ _ (List.mem_append_right clause.parameters.entries bound)
        exact ⟨final, finalFound⟩

/-! ## The outcome of an update -/

/-- A placeholder is refused when it is the first to clash of those that the data are assigned
under, with what the filters bind or with an earlier assignment. -/
def Refuses (template : Update) (selector : Selector) (data : Filters) (name : String) : Prop :=
  FirstClash (Call.update template selector data).clause.parameters.entries
    ((assignments data template.writable).map binding) name

/-- An update without data for a writable column is refused and logs nothing. Otherwise it
is refused for the first placeholder that clashes, and writes the data when there is none. -/
structure Outcome (template : Update) (selector : Selector) (data : Filters)
    (outcome : Logged (Except UpdateError Query)) : Prop where
  nothing : outcome.value = .error .nothingToWrite ↔
    ∀ key ∈ data.keys, key ∉ template.writable.map ColumnName.text
  silent : outcome.value = .error .nothingToWrite → outcome.events = []
  refused : ∀ name,
    outcome.value = .error (.placeholderBound name) ↔ template.Refuses selector data name
  accepted : (∃ key ∈ data.keys, key ∈ template.writable.map ColumnName.text) →
    (∀ name, ¬template.Refuses selector data name) →
    ∃ query, outcome.value = .ok query ∧
      template.Writes (Call.update template selector data).clause
        (assignments data template.writable) query

theorem isEmpty_restrictTo_iff {columns : List String} {filters : Filters} :
    (filters.restrictTo columns).isEmpty = true ↔ ∀ key ∈ filters.keys, key ∉ columns := by
  have noKeys : (filters.restrictTo columns).isEmpty = true ↔
      (filters.restrictTo columns).keys = [] := by
    simp [OrderedMap.isEmpty, OrderedMap.keys]
  rw [noKeys, List.eq_nil_iff_forall_not_mem]
  simp only [Filters.mem_keys_restrictTo_iff, not_and]

theorem assignments_of_unwritable {data : Filters} {columns : List ColumnName}
    (unwritable : ∀ key ∈ data.keys, key ∉ columns.map ColumnName.text) :
    assignments data columns = [] := by
  apply List.filterMap_eq_nil_iff.mpr
  intro column member
  have absent : data.get? column.text = none := by
    apply OrderedMap.get?_eq_none_iff.mpr
    intro present
    exact unwritable column.text present (List.mem_map_of_mem member)
  rw [absent, Option.map_none]

/-- The outcome of assigning the data after the selector is compiled. -/
theorem value_fill_of_writable {template : Update} {data : Filters}
    (writable : ¬∀ key ∈ data.keys, key ∉ template.writable.map ColumnName.text)
    (selector : Selector) :
    (template.fill selector data).value =
      (assign (data.restrictTo (template.writable.map ColumnName.text))
        (Call.update template selector data).clause.parameters template.writable).map
          fun assigned =>
            { statement := .update template.table assigned.1
                (Call.update template selector data).clause.conditions template.returning
              parameters := assigned.2
              single := template.single
              diagnostics := (template.scope.compileSelector selector).diagnostics } := by
  rw [fill, if_neg (fun empty => writable (isEmpty_restrictTo_iff.mp empty))]
  rfl

section

variable {template : Update} {selector : Selector} {data : Filters}
  {outcome : Logged (Except UpdateError Query)}
  (writable : ¬∀ key ∈ data.keys, key ∉ template.writable.map ColumnName.text)
include writable

theorem outcome_of_clash {name : String}
    (clash : template.Refuses selector data name)
    (refused : outcome.value = .error (.placeholderBound name)) :
    template.Outcome selector data outcome := by
  have notNothing : outcome.value ≠ .error .nothingToWrite := by simp [refused]
  refine ⟨iff_of_false notNothing writable, fun nothing => absurd nothing notNothing, ?_, ?_⟩
  · intro other
    rw [refused]
    constructor
    · intro same
      have sameName : name = other := by simpa using same
      exact sameName ▸ clash
    · intro otherClash
      rw [clash.unique otherClash]
  · intro _ none
    exact absurd clash (none name)

theorem outcome_of_writes {query : Query}
    (none : ∀ name, ¬template.Refuses selector data name)
    (accepted : outcome.value = .ok query)
    (writes : template.Writes (Call.update template selector data).clause
      (assignments data template.writable) query) :
    template.Outcome selector data outcome := by
  have notNothing : outcome.value ≠ .error .nothingToWrite := by simp [accepted]
  refine ⟨iff_of_false notNothing writable, fun nothing => absurd nothing notNothing, ?_, ?_⟩
  · intro name
    exact iff_of_false (by simp [accepted]) (none name)
  · intro _ _
    exact ⟨query, accepted, writes⟩

end

/-- Filling in an update has one of three outcomes, each in exactly the stated case. -/
theorem outcome_fill (template : Update) (selector : Selector) (data : Filters) :
    template.Outcome selector data (template.fill selector data) := by
  by_cases unwritable : ∀ key ∈ data.keys, key ∉ template.writable.map ColumnName.text
  · have filled : template.fill selector data = ⟨.error .nothingToWrite, []⟩ := by
      rw [fill, if_pos (isEmpty_restrictTo_iff.mpr unwritable)]
    rw [filled]
    refine ⟨iff_of_true rfl unwritable, fun _ => rfl, ?_, ?_⟩
    · intro name
      rw [Refuses, assignments_of_unwritable unwritable]
      refine iff_of_false ?_ (not_firstClash_nil _ name)
      intro refusal
      cases refusal
    · rintro ⟨key, given, listed⟩
      exact absurd listed (unwritable key given)
  · have filled := value_fill_of_writable unwritable selector
    have assigned := assign_cases
      (data.restrictTo (template.writable.map ColumnName.text)) template.writable
      (Parameters.records_entries (Call.update template selector data).clause.parameters)
    rw [assignments_restrictTo] at assigned
    rcases assigned with ⟨name, clash, refused⟩ | ⟨none, written, accepted, records⟩
    · rw [refused] at filled
      exact outcome_of_clash unwritable clash filled
    · rw [accepted] at filled
      exact outcome_of_writes unwritable none filled (writes_of_records rfl records)

/-- Two columns share a placeholder, and their data are equal though not identical. -/
theorem outcome_fill_shared_placeholder :
    let zero : Value := .float ⟨0⟩
    let negativeZero : Value := .float ⟨0x8000000000000000⟩
    let template : Update :=
      { table := "users", writable := [⟨"a.b", by decide⟩, ⟨"a__b", by decide⟩]
        selecting := [.defaultKey] }
    let data : Filters := ((∅ : Filters).insert "a__b" negativeZero).insert "a.b" zero
    (∃ key ∈ data.keys, key ∈ template.writable.map ColumnName.text) ∧
      (∀ name, ¬template.Refuses (.id (.int 7)) data name) ∧
      ∃ query, (template.fill (.id (.int 7)) data).value = .ok query ∧
        query.sql = "UPDATE users SET a.b=$a__b_u, a__b=$a__b_u WHERE id = $id" ∧
        query.parameters.keys = ["id", "a__b_u"] ∧
        template.Writes (Call.update template (.id (.int 7)) data).clause
          (assignments data template.writable) query := by
  intro zero negativeZero template data
  have outcome := outcome_fill template (.id (.int 7)) data
  have shown : (template.fill (.id (.int 7)) data).value.toOption.map
      (fun query => (query.sql, query.parameters.keys)) =
        some ("UPDATE users SET a.b=$a__b_u, a__b=$a__b_u WHERE id = $id", ["id", "a__b_u"]) := by
    decide
  have writable : ∃ key ∈ data.keys, key ∈ template.writable.map ColumnName.text := by
    decide
  have unrefused : ∀ name, ¬template.Refuses (.id (.int 7)) data name := by
    intro name refuses
    rw [(outcome.refused name).mpr refuses] at shown
    cases shown
  obtain ⟨query, accepted, writes⟩ := outcome.accepted writable unrefused
  rw [accepted] at shown
  have parts := Prod.mk.inj (Option.some.inj shown)
  exact ⟨writable, unrefused, query, accepted, parts.1, parts.2, writes⟩

end Template.Update

end FilterSql
