import FilterSql.Scope
import FilterSql.SortOrder

/-!
# Statements

A statement is a tree of checked names and conditions, with one printer. A query is a statement
with its parameters. What was reported on the way to a query is also logged.
-/

namespace FilterSql

/-- The text that asks a statement to return columns, which is empty without columns. -/
def returningText (columns : List String) : String :=
  if columns.isEmpty then ""
  else "RETURNING " ++ String.intercalate ", " columns

/-- The columns of the affected rows that a statement returns. -/
inductive Returning where
  | columns (names : List ColumnName)
  | everything
  deriving DecidableEq

namespace Returning

/-- Checks the names of returned columns. A star on its own asks for every column. -/
def check (names : List String) : Except SetupError Returning :=
  if names = ["*"] then .ok everything
  else (ColumnName.checkAll "returning column" names).map columns

def sql : Returning → String
  | columns names => returningText (names.map ColumnName.text)
  | everything => returningText ["*"]

end Returning

/-- The name for the value that is written to a column. -/
def Placeholder.ofAssignment (column : String) : String :=
  ofKey column ++ "_u"

/-- The text that writes a bound value to a column. -/
def assignmentSql (column : ColumnName) : String :=
  column.text ++ "=" ++ Placeholder.reference (Placeholder.ofAssignment column.text)

/-- A statement on the rows of a table that satisfy its conditions. -/
inductive Statement where
  | select (table : String) (columns : List ColumnName) (conditions : List Condition)
      (groups : List ColumnName) (wrapped : Bool) (order : SortOrder) (paged : Bool)
  | update (table : String) (assigned : List ColumnName) (conditions : List Condition)
      (returning : Returning)
  | delete (table : String) (conditions : List Condition) (returning : Returning)
      (terminated : Bool)

namespace Statement

/-- The conditions that select the rows of a statement. -/
def conditions : Statement → List Condition
  | select _ _ conditions _ _ _ _ => conditions
  | update _ _ conditions _ => conditions
  | delete _ conditions _ _ => conditions

/-- Joins the parts of a statement that are not empty by blanks. -/
def joinParts (parts : List String) : String :=
  String.intercalate " " (parts.filter (· != ""))

/-- The names of columns with commas between them. -/
def columnList (columns : List ColumnName) : String :=
  String.intercalate ", " (columns.map ColumnName.text)

/-- The columns of the rows that are selected; without a list of columns, all of them. -/
def selectedSql (columns : List ColumnName) : String :=
  if columns.isEmpty then "*" else columnList columns

def groupSql (columns : List ColumnName) : String :=
  if columns.isEmpty then "" else "GROUP BY " ++ columnList columns

/-- Selects from the result of a statement, so that its computed columns can be sorted by. -/
def wrap (inner : String) : String :=
  "WITH result AS (\n" ++ inner ++ "\n) SELECT * FROM result"

/-- The text of a statement. -/
def sql : Statement → String
  | select table columns conditions groups wrapped order paged =>
      let inner := joinParts
        ["SELECT " ++ selectedSql columns ++ " FROM " ++ table,
          Condition.allSql conditions, groupSql groups]
      joinParts [if wrapped then wrap inner else inner, order.sql] ++
        (if paged then " LIMIT $limit OFFSET $offset" else "")
  | update table assigned conditions returning =>
      joinParts
        ["UPDATE " ++ table ++ " SET " ++ String.intercalate ", " (assigned.map assignmentSql),
          Condition.allSql conditions, returning.sql]
  | delete table conditions returning terminated =>
      joinParts ["DELETE FROM " ++ table, Condition.allSql conditions, returning.sql] ++
        (if terminated then ";" else "")

end Statement

/-- A statement with the values of its placeholders. -/
structure Query where
  statement : Statement
  parameters : Parameters
  single : Bool
  diagnostics : List Diagnostic

namespace Query

def sql (query : Query) : String :=
  query.statement.sql

end Query

inductive LogLevel where
  | debug
  | warning
  deriving DecidableEq

/-- A diagnostic that was logged for a table. -/
structure LogEvent where
  level : LogLevel
  table : String
  diagnostic : Diagnostic

/-- A result and the events that were logged on the way to it. -/
structure Logged (α : Type) where
  value : α
  events : List LogEvent

/-- Logs diagnostics in their order. -/
def LogEvent.ofDiagnostics (level : LogLevel) (table : String)
    (diagnostics : List Diagnostic) : List LogEvent :=
  diagnostics.map fun diagnostic => ⟨level, table, diagnostic⟩

end FilterSql
