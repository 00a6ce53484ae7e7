import FilterSql.Proofs.ColumnName
import FilterSql.Proofs.ConditionText

/-!
# The column of a comparison

The text of a comparison starts with its column, and what comes next cannot stand in the name of a
column. So the column can be read off the text, and a comparison for equality, or with a list, is
put into a clause by no other key than its column.
-/

namespace FilterSql

/-- What comes between the column and the placeholders of a comparison by equality. -/
inductive OpensEquality : List Char → Prop where
  | single (rest : List Char) : OpensEquality (' ' :: '=' :: rest)
  | list (rest : List Char) : OpensEquality (' ' :: 'I' :: 'N' :: rest)

/-- Texts split in one way only at the first character that is not in the name of a column. -/
theorem split_unique_of_isColumnPart {left right rest other : List Char} {c d : Char}
    (leftPart : ∀ e ∈ left, isColumnPart e = true) (rightPart : ∀ e ∈ right, isColumnPart e = true)
    (leftStops : isColumnPart c = false) (rightStops : isColumnPart d = false)
    (same : left ++ c :: rest = right ++ d :: other) :
    left = right ∧ c :: rest = d :: other := by
  have run : ∀ {text tail : List Char} {e : Char}, (∀ f ∈ text, isColumnPart f = true) →
      isColumnPart e = false → (text ++ e :: tail).takeWhile isColumnPart = text := by
    intro text tail e part stops
    rw [List.takeWhile_append_of_pos part, List.takeWhile_cons, stops]
    exact List.append_nil text
  have sameColumn : left = right := by
    rw [← run leftPart leftStops, same, run rightPart rightStops]
  subst sameColumn
  exact ⟨rfl, List.append_cancel_left same⟩

/-- A text with a column at its start compares that column, if it compares a column at all. -/
theorem column_of_opensEquality (column : String) {text key : String} {words tail : List Char}
    {c : Char} (keyPart : ∀ d ∈ key.toList, isColumnPart d = true)
    (columnPart : ∀ d ∈ column.toList, isColumnPart d = true) (stops : isColumnPart c = false)
    (written : text.toList = column.toList ++ c :: words)
    (compared : text.toList = key.toList ++ tail) (opens : OpensEquality tail) :
    column = key ∧ OpensEquality (c :: words) := by
  obtain ⟨first, rest, shape, blank⟩ : ∃ first rest, tail = first :: rest ∧
      isColumnPart first = false := by
    cases opens with
    | single rest => exact ⟨' ', _, rfl, by decide⟩
    | list rest => exact ⟨' ', _, rfl, by decide⟩
  rw [written, shape] at compared
  obtain ⟨sameColumn, sameWords⟩ :=
    split_unique_of_isColumnPart columnPart keyPart stops blank compared
  refine ⟨String.toList_inj.mp sameColumn, ?_⟩
  rw [sameWords, ← shape]
  exact opens

/-- The text of an equality comes from the key that is its column. -/
theorem ConditionText.key_eq_of_opensEquality {allowed : List String} {source : String}
    {value : Value} {text : String} (form : ConditionText allowed source value text)
    (valid : ∀ column ∈ allowed, isColumnName column = true)
    {key : String} (named : isColumnName key = true) {tail : List Char}
    (compared : text.toList = key.toList ++ tail) (opens : OpensEquality tail) :
    source = key := by
  have keyPart : ∀ c ∈ key.toList, isColumnPart c = true := fun c member =>
    isColumnPart_of_mem named member
  have column_of : ∀ {column : String} {c : Char} {words : List Char}, column ∈ allowed →
      isColumnPart c = false → text.toList = column.toList ++ c :: words →
      column = key ∧ OpensEquality (c :: words) := by
    intro column c words listed stops written
    exact column_of_opensEquality column keyPart
      (fun d member => isColumnPart_of_mem (valid column listed) member) stops written compared
      opens
  have after : ∀ {column words rest : String}, (column ++ words ++ rest).toList =
      column.toList ++ (words.toList ++ rest.toList) := by
    intro column words rest
    rw [String.toList_append, String.toList_append, List.append_assoc]
  cases form with
  | isNull listed sourceNamed =>
      obtain ⟨_, opened⟩ := column_of listed (c := ' ') (by decide) String.toList_append
      cases opened
  | isNotNull listed sourceNamed =>
      obtain ⟨_, opened⟩ := column_of listed (c := ' ') (by decide) String.toList_append
      cases opened
  | sentinel listed sourceNamed known =>
      obtain ⟨_, opened⟩ := column_of listed (c := ' ') (by decide) after
      simp only [nullSentinels, List.mem_cons, List.not_mem_nil, or_false] at known
      rcases known with rfl | rfl | rfl | rfl <;> cases opened
  | equal listed sourceNamed plain =>
      obtain ⟨same, _⟩ := column_of listed (c := ' ') (by decide) after
      exact sourceNamed.trans same
  | unequal listed sourceNamed plain =>
      obtain ⟨_, opened⟩ := column_of listed (c := ' ') (by decide) after
      cases opened
  | memberOf listed sourceNamed nonempty =>
      rw [String.append_assoc] at column_of
      obtain ⟨same, _⟩ := column_of listed (c := ' ') (by decide) after
      exact sourceNamed.trans same
  | notMemberOf listed sourceNamed nonempty =>
      rw [String.append_assoc] at column_of
      obtain ⟨_, opened⟩ := column_of listed (c := ' ') (by decide) after
      cases opened
  | noRow listed sourceNamed =>
      obtain ⟨_, opened⟩ := column_of_opensEquality "1" (c := '=') keyPart
        (List.all_eq_true.mp rfl) (by decide) rfl compared opens
      cases opened
  | everyRow listed sourceNamed =>
      obtain ⟨_, opened⟩ := column_of_opensEquality "1" (c := '=') keyPart
        (List.all_eq_true.mp rfl) (by decide) rfl compared opens
      cases opened
  | atLeast listed sourceNamed =>
      rw [String.append_assoc] at column_of
      obtain ⟨_, opened⟩ := column_of listed (c := ':') (by decide) after
      cases opened
  | atMost listed sourceNamed =>
      rw [String.append_assoc] at column_of
      obtain ⟨_, opened⟩ := column_of listed (c := ':') (by decide) after
      cases opened
  | like listed sourceNamed =>
      obtain ⟨_, opened⟩ := column_of listed (c := ':') (by decide) after
      cases opened
  | unlike listed sourceNamed =>
      obtain ⟨_, opened⟩ := column_of listed (c := ':') (by decide) after
      cases opened
  | search nonempty sourceNamed =>
      obtain ⟨_, opened⟩ := column_of_opensEquality "" (c := '(') keyPart
        (List.all_eq_true.mp rfl) (by decide) after compared opens
      cases opened

namespace BoundCondition

/-- An equality with placeholders has its column at the start of its text. -/
theorem opensEquality_of_bindings {key : String} {value : Value}
    (binds : (equal key value).value.bindings ≠ []) :
    ∃ tail, (equal key value).value.condition.sql.toList = key.toList ++ tail ∧
      OpensEquality tail := by
  have single : ∀ name : String, ∃ tail,
      (Condition.compare .positive key name).sql.toList = key.toList ++ tail ∧
        OpensEquality tail := by
    intro name
    refine ⟨" = ".toList ++ (Placeholder.reference name).toList, ?_, .single _⟩
    rw [Condition.sql, String.toList_append, String.toList_append, List.append_assoc]
  have list : ∀ names : List String, ∃ tail,
      (Condition.member .positive key names).sql.toList = key.toList ++ tail ∧
        OpensEquality tail := by
    intro names
    refine ⟨" IN (".toList ++ ((String.intercalate ", "
      (names.map Placeholder.reference)).toList ++ ")".toList), ?_, .list _⟩
    rw [Condition.sql, String.toList_append, String.toList_append, String.toList_append,
      List.append_assoc, List.append_assoc]
  cases value with
  | null => exact absurd rfl binds
  | bool truth => exact single _
  | int number => exact single _
  | float number => exact single _
  | text content =>
      rw [equal, comparison] at binds ⊢
      cases read : NullText.ofString? content with
      | none => exact single _
      | some test =>
          rw [read] at binds
          exact absurd rfl binds
  | array items =>
      cases items with
      | nil => exact absurd rfl binds
      | cons first rest => exact list _

end BoundCondition

end FilterSql
