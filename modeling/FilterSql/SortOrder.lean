import FilterSql.Column

/-!
# Sort orders

Rows are sorted by the key columns, after one further term if the caller asks for it: a column in
some direction, or the rank of a column's value in a fixed list. The values of the list are written
into the statement between single quotes, with each quote inside them doubled.
-/

namespace FilterSql

namespace Literal

/-- Writes every quote twice. -/
def doubleQuotes : List Char → List Char
  | [] => []
  | c :: rest =>
      if c = '\x27' then c :: c :: doubleQuotes rest
      else c :: doubleQuotes rest

/-- The literal that stands for a text. -/
def quote (content : String) : String :=
  "\x27" ++ String.ofList (doubleQuotes content.toList) ++ "\x27"

end Literal

inductive Direction where
  | ascending
  | descending
  deriving DecidableEq

namespace Direction

def sql : Direction → String
  | ascending => "ASC"
  | descending => "DESC"

/-- Reads `asc` in any case as ascending, and every other text as descending. -/
def ofString (text : String) : Direction :=
  if text.map Char.toLower = "asc" then ascending else descending

end Direction

/-- A term that sorts rows before their keys do. -/
inductive SortTerm where
  | column (name : ColumnName) (direction : Direction)
  | ranked (name : ColumnName) (values : List String) (direction : Direction)
  deriving DecidableEq

namespace SortTerm

/-- A branch that gives a value its rank, counted from one. -/
def branch (value : String) (index : Nat) : String :=
  " WHEN " ++ Literal.quote value ++ " THEN " ++ Nat.repr (index + 1)

def sql : SortTerm → String
  | column name direction => name.text ++ " " ++ direction.sql
  | ranked name values direction =>
      "CASE " ++ name.text ++
        String.join (values.zipIdx.map fun value => branch value.1 value.2) ++
        " END " ++ direction.sql

end SortTerm

/-- The order of the rows of a statement. -/
structure SortOrder where
  leading : Option SortTerm
  keys : List ColumnName

/-- The text of a sort order; the terms of the keys stand in it as one, even when there is none. -/
def SortOrder.sql (order : SortOrder) : String :=
  let keys := String.intercalate ", " (order.keys.map fun key => key.text ++ " ASC")
  "ORDER BY " ++ String.intercalate ", " ((order.leading.map SortTerm.sql).toList ++ [keys])

end FilterSql
