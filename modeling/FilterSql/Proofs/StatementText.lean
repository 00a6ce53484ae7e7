import Mathlib.Tactic.ByContra
import FilterSql.Statement

/-!
# The texts of clauses and statements

The text of a clause joins those of its conditions behind one word. No condition has an empty text,
so the joined text has a part for each of them, and it is empty only where there is no condition.
Whatever the statement, the text of its clause stands in it in one piece.
-/

namespace FilterSql

namespace Condition

/-- There is no condition without a text, so none is passed over when a clause is put together. -/
theorem sql_ne_empty (condition : Condition) : condition.sql ≠ "" := by
  cases condition with
  | null polarity column => cases polarity <;> simp [sql]
  | nullText column test => simp [sql]
  | compare polarity column placeholder => cases polarity <;> simp [sql]
  | member polarity column placeholders => cases polarity <;> simp [sql]
  | noMember polarity => cases polarity <;> simp [sql]
  | atLeast column placeholder => simp [sql]
  | atMost column placeholder => simp [sql]
  | like polarity column placeholder => cases polarity <;> simp [sql]
  | anyLike columns placeholder => simp [sql]

theorem allSql_of_ne_nil {conditions : List Condition} (nonempty : conditions ≠ []) :
    allSql conditions = "WHERE " ++ String.intercalate " AND " (conditions.map sql) := by
  rw [allSql, if_neg (by simpa using nonempty)]

theorem allSql_eq_empty_iff {conditions : List Condition} :
    allSql conditions = "" ↔ conditions = [] := by
  constructor
  · intro empty
    by_contra nonempty
    rw [allSql_of_ne_nil nonempty] at empty
    simp at empty
  · rintro rfl
    rfl

end Condition

/-- A clause conjoins some texts, none of them empty, when they are what its own text is made of;
without any it has no text. -/
structure Clause.Conjoins (clause : Clause) (texts : List String) : Prop where
  blank : texts = [] → clause.text = ""
  joined : texts ≠ [] → clause.text = "WHERE " ++ String.intercalate " AND " texts
  worded : ∀ text ∈ texts, text ≠ ""

theorem Clause.conjoins (clause : Clause) :
    clause.Conjoins (clause.conditions.map Condition.sql) where
  blank := by
    intro nothing
    have unconditioned : clause.conditions = [] := by simpa using nothing
    exact Condition.allSql_eq_empty_iff.mpr unconditioned
  joined := by
    intro stated
    have conditioned : clause.conditions ≠ [] := by simpa using stated
    exact Condition.allSql_of_ne_nil conditioned
  worded := by
    intro text member
    obtain ⟨condition, _, rfl⟩ := List.mem_map.mp member
    exact condition.sql_ne_empty

theorem SortOrder.sql_ne_empty (order : SortOrder) : order.sql ≠ "" := by
  simp [SortOrder.sql]

namespace Statement

/-- A last part follows after a blank, if it is not empty. -/
def trailing (part : String) : String :=
  if part = "" then "" else " " ++ part

theorem wrap_eq (inner : String) :
    wrap inner = "WITH result AS (\n" ++ inner ++ "\n) SELECT * FROM result" := rfl

theorem wrap_ne_empty (inner : String) : wrap inner ≠ "" := by
  rw [wrap_eq]
  simp

theorem joinParts_pair (first : String) {last : String} (stated : last ≠ "") :
    joinParts [first, last] = (if first = "" then "" else first ++ " ") ++ last := by
  by_cases empty : first = ""
  · simp [joinParts, empty, stated]
  · simp [joinParts, empty, stated, String.intercalate_cons_cons]

theorem joinParts_eq {first : String} (stated : first ≠ "") (middle last : String) :
    joinParts [first, middle, last] = first ++ trailing middle ++ trailing last := by
  by_cases noMiddle : middle = ""
  · by_cases noLast : last = ""
    · simp [joinParts, trailing, stated, noMiddle, noLast]
    · simp [joinParts, trailing, stated, noMiddle, noLast, String.append_assoc]
  · by_cases noLast : last = ""
    · simp [joinParts, trailing, stated, noMiddle, noLast, String.append_assoc]
    · simp [joinParts, trailing, stated, noMiddle, noLast, String.append_assoc]

variable {conditions : List Condition}

theorem joinParts_allSql {first : String} (stated : first ≠ "") (nonempty : conditions ≠ [])
    (last : String) :
    joinParts [first, Condition.allSql conditions, last] =
      first ++ " WHERE " ++ String.intercalate " AND " (conditions.map Condition.sql) ++
        trailing last := by
  have conditioned : Condition.allSql conditions ≠ "" := fun empty =>
    nonempty (Condition.allSql_eq_empty_iff.mp empty)
  rw [joinParts_eq stated, trailing, if_neg conditioned, Condition.allSql_of_ne_nil nonempty]
  simp only [String.append_assoc]
  rfl

theorem sql_select (table : String) (columns : List ColumnName) (nonempty : conditions ≠ [])
    (groups : List ColumnName) (wrapped : Bool) (order : SortOrder) (paged : Bool) :
    (select table columns conditions groups wrapped order paged).sql =
      (if wrapped then "WITH result AS (\n" else "") ++
          ("SELECT " ++ selectedSql columns ++ " FROM " ++ table) ++ " WHERE " ++
        String.intercalate " AND " (conditions.map Condition.sql) ++
          (trailing (groupSql groups) ++ (if wrapped then "\n) SELECT * FROM result" else "") ++
            " " ++ order.sql ++ if paged then " LIMIT $limit OFFSET $offset" else "") := by
  have stated : "SELECT " ++ selectedSql columns ++ " FROM " ++ table ≠ "" := by simp
  rw [sql, joinParts_allSql stated nonempty]
  cases wrapped with
  | true =>
      simp only [if_true]
      rw [joinParts_pair _ order.sql_ne_empty, if_neg (wrap_ne_empty _), wrap_eq]
      simp only [String.append_assoc]
  | false =>
      simp only [Bool.false_eq_true, if_false]
      rw [joinParts_pair _ order.sql_ne_empty, if_neg (by simp)]
      simp only [String.append_assoc, String.empty_append]

theorem sql_update (table : String) (assigned : List ColumnName) (nonempty : conditions ≠ [])
    (returning : Returning) :
    (update table assigned conditions returning).sql =
      "UPDATE " ++ table ++ " SET " ++ String.intercalate ", " (assigned.map assignmentSql) ++
        " WHERE " ++ String.intercalate " AND " (conditions.map Condition.sql) ++
          trailing returning.sql := by
  apply joinParts_allSql _ nonempty
  simp

theorem sql_delete (table : String) (nonempty : conditions ≠ []) (returning : Returning)
    (terminated : Bool) :
    (delete table conditions returning terminated).sql =
      "DELETE FROM " ++ table ++ " WHERE " ++
        String.intercalate " AND " (conditions.map Condition.sql) ++
          (trailing returning.sql ++ if terminated then ";" else "") := by
  have stated : "DELETE FROM " ++ table ≠ "" := by simp
  rw [sql, joinParts_allSql stated nonempty, String.append_assoc]

theorem exists_sql_eq {statement : Statement} (nonempty : statement.conditions ≠ []) :
    ∃ before after, statement.sql = before ++ " WHERE " ++
      String.intercalate " AND " (statement.conditions.map Condition.sql) ++ after := by
  cases statement with
  | select table columns conditions groups wrapped order paged =>
      exact ⟨_, _, sql_select table columns nonempty groups wrapped order paged⟩
  | update table assigned conditions returning =>
      exact ⟨_, _, sql_update table assigned nonempty returning⟩
  | delete table conditions returning terminated =>
      exact ⟨_, _, sql_delete table nonempty returning terminated⟩

end Statement

/-- The text of a query has its conditions, joined, after the word for them. -/
def Query.WritesConditions (query : Query) : Prop :=
  ∃ before after, query.sql = before ++ " WHERE " ++
    String.intercalate " AND " (query.statement.conditions.map Condition.sql) ++ after

/-- A query states a condition when its text has it among those after the word for conditions. -/
structure Query.States (query : Query) (text : String) : Prop where
  written : query.WritesConditions
  stated : text ∈ query.statement.conditions.map Condition.sql

theorem Query.writesConditions {query : Query} (nonempty : query.statement.conditions ≠ []) :
    query.WritesConditions :=
  Statement.exists_sql_eq nonempty

theorem Query.states_iff {query : Query} {text : String} :
    query.States text ↔ text ∈ query.statement.conditions.map Condition.sql := by
  constructor
  · exact States.stated
  · intro stated
    obtain ⟨_, conditioned, _⟩ := List.mem_map.mp stated
    exact ⟨Query.writesConditions (List.ne_nil_of_mem conditioned), stated⟩

end FilterSql
