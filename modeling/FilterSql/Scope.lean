import FilterSql.Clause
import FilterSql.Column

/-!
# Scopes

The scope of a template says which columns a caller may filter on and which filters always apply.
Its names are written into statements, so they are checked when the template is set up, and setting
up fails at the first that is not a column name. Permanent filters are written over those of the
caller, and their keys are allowed as well.

A selector says which rows a statement is about: by a bare id, or by filters on columns. A batch of
selectors becomes rows of filters, and these become one list of values for each column.
-/

namespace FilterSql

/-- Why a template could not be set up. -/
inductive SetupError where
  | notAColumn (role name : String)
  | noPrimaryKey (table : String)
  deriving DecidableEq

def SetupError.message : SetupError → String
  | notAColumn role name =>
      "Invalid SQL " ++ role ++ " name '" ++ name ++ "': must be an identifier or " ++
        "table.identifier, each part starting with letter/underscore, " ++
        "ASCII alphanumeric/underscore, 1-63 chars"
  | noPrimaryKey table =>
      "Batch delete on '" ++ table ++ "' needs at least one primary key column"

namespace ColumnName

/-- Checks a name that is to play a role. -/
def check (role name : String) : Except SetupError ColumnName :=
  match ofString? name with
  | some column => .ok column
  | none => .error (.notAColumn role name)

/-- Checks names from left to right. -/
def checkAll (role : String) (names : List String) : Except SetupError (List ColumnName) :=
  names.mapM (check role)

end ColumnName

/-- Filters that a template adds to those of every caller; their keys are column names. -/
structure PermanentFilters where
  filters : Filters
  named : ∀ key ∈ filters.keys, isColumnName key = true

namespace PermanentFilters

def none : PermanentFilters where
  filters := ∅
  named := by simp [OrderedMap.keys]

/-- Checks the keys of permanent filters. -/
def check (filters : Filters) : Except SetupError PermanentFilters :=
  match invalid : filters.keys.find? fun key => !isColumnName key with
  | .some key => .error (.notAColumn "permanent filter" key)
  | .none => .ok
      { filters
        named := by simpa using List.find?_eq_none.1 invalid }

end PermanentFilters

/-- The rows that a statement is about. -/
inductive Selector where
  | id (value : Value)
  | fields (filters : Filters)

/-- The filters of a selector on some columns. A bare id is the value of the first column; filters
on other columns are left out. -/
def Selector.filtersOn (columns : List String) : Selector → Filters
  | id value =>
      match columns with
      | [] => ∅
      | first :: _ => (∅ : Filters).insert first value
  | fields filters => filters.restrictTo columns

namespace Batch

/-- The values of a column over the rows that carry it. -/
def valuesOf (rows : List Filters) (column : String) : List Value :=
  rows.filterMap fun row => row.get? column

/-- The keys of all rows, in the order in which they first appear. -/
def keys (rows : List Filters) : List String :=
  (rows.flatMap OrderedMap.keys).eraseDups

/-- One filter for each key, on the list of its values. -/
def combine (rows : List Filters) : Filters :=
  .ofList ((keys rows).map fun key => (key, .array (valuesOf rows key)))

/-- The numbered values of each column, as the comparison with a list binds them. -/
def parameters (columns : List String) (rows : List Filters) : Parameters :=
  .ofList (columns.flatMap fun column => BoundCondition.numbered column (valuesOf rows column))

end Batch

namespace Template

/-- The columns that a caller may filter on, and the filters that always apply. -/
structure Scope where
  columns : List ColumnName
  permanent : PermanentFilters

namespace Scope

/-- The columns that conditions may be on. -/
def allowed (scope : Scope) : List String :=
  scope.columns.map ColumnName.text ++ scope.permanent.filters.keys

/-- Compiles the filters of a caller together with the permanent ones. -/
def compile (scope : Scope) (filters : Filters) : Reported Clause :=
  Filters.compile scope.allowed (filters.merge scope.permanent.filters)

/-- Compiles the filters of a selector on the allowed columns. -/
def compileSelector (scope : Scope) (selector : Selector) : Reported Clause :=
  scope.compile (selector.filtersOn scope.allowed)

end Scope

end Template

end FilterSql
