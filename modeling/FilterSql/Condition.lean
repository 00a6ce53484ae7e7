/-!
# Conditions

A condition on columns takes one of a closed list of forms. Values occur in it as placeholders
only, so its text is made of fixed words, column names and the names of placeholders. The name of a
placeholder comes from the key of its filter; the values of a list are numbered from one.
-/

namespace FilterSql

namespace Placeholder

/-- Writes two underscores for the first dot. -/
def withoutDot : List Char → List Char
  | [] => []
  | c :: rest => if c = '.' then '_' :: '_' :: rest else c :: withoutDot rest

/-- The name for the value of the filter with this key; a name cannot hold the dot of a qualified
column. -/
def ofKey (key : String) : String :=
  String.ofList (withoutDot key.toList)

/-- The name for the value at a position of a list, counted from zero. -/
def numbered (name : String) (index : Nat) : String :=
  name ++ Nat.repr (index + 1)

/-- The text that stands for the bound value in a statement. -/
def reference (name : String) : String :=
  "$" ++ name

end Placeholder

/-- Whether a condition asks that a comparison holds or that it fails. -/
inductive Polarity where
  | positive
  | negative
  deriving DecidableEq

/-- The deprecated texts that ask for a test against null in place of a value. -/
inductive NullText where
  | joinedNull
  | spacedNull
  | joinedNotNull
  | spacedNotNull
  deriving DecidableEq

namespace NullText

def text : NullText → String
  | joinedNull => "IS_NULL"
  | spacedNull => "IS NULL"
  | joinedNotNull => "IS_NOT_NULL"
  | spacedNotNull => "IS NOT NULL"

/-- Reads one of the four texts. -/
def ofString? (content : String) : Option NullText :=
  [joinedNull, spacedNull, joinedNotNull, spacedNotNull].find? (text · == content)

end NullText

/-- A condition of a clause, over columns and the names of placeholders. -/
inductive Condition where
  | null (polarity : Polarity) (column : String)
  | nullText (column : String) (test : NullText)
  | compare (polarity : Polarity) (column placeholder : String)
  | member (polarity : Polarity) (column : String) (placeholders : List String)
  | noMember (polarity : Polarity)
  | atLeast (column placeholder : String)
  | atMost (column placeholder : String)
  | like (polarity : Polarity) (column placeholder : String)
  | anyLike (columns : List String) (placeholder : String)
  deriving DecidableEq

namespace Condition

/-- The text of a condition. A list without values admits no row, and its negation every row. -/
def sql : Condition → String
  | null .positive column => column ++ " IS NULL"
  | null .negative column => column ++ " IS NOT NULL"
  | nullText column test => column ++ " " ++ test.text
  | compare .positive column placeholder =>
      column ++ " = " ++ Placeholder.reference placeholder
  | compare .negative column placeholder =>
      column ++ " != " ++ Placeholder.reference placeholder
  | member .positive column placeholders =>
      column ++ " IN (" ++
        String.intercalate ", " (placeholders.map Placeholder.reference) ++ ")"
  | member .negative column placeholders =>
      column ++ " NOT IN (" ++
        String.intercalate ", " (placeholders.map Placeholder.reference) ++ ")"
  | noMember .positive => "1=0 /* IN requires at least one value */"
  | noMember .negative => "1=1 /* NOT IN requires at least one value */"
  | atLeast column placeholder =>
      column ++ "::timestamp >= " ++ Placeholder.reference placeholder ++ "::timestamp"
  | atMost column placeholder =>
      column ++ "::timestamp <= " ++ Placeholder.reference placeholder ++ "::timestamp"
  | like .positive column placeholder =>
      column ++ "::text ILIKE " ++ Placeholder.reference placeholder
  | like .negative column placeholder =>
      column ++ "::text NOT ILIKE " ++ Placeholder.reference placeholder
  | anyLike columns placeholder =>
      "(" ++ String.intercalate " OR "
        (columns.map fun column =>
          column ++ "::text ILIKE " ++ Placeholder.reference placeholder) ++ ")"

end Condition

end FilterSql
