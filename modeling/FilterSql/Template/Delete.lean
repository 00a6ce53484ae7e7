import FilterSql.Statement

/-!
# Templates of delete statements

A template is set up once for a table; a selector then gives a query.
-/

namespace FilterSql

namespace Template

/-- What the delete statements on a table have in common. -/
structure Delete where
  table : String
  selecting : List ColumnName := []
  returning : Returning := .columns []
  permanent : PermanentFilters := .none
  single : Bool := false

namespace Delete

/-- Deletes one row of a table by its key. -/
def one (table : String) : Delete where
  table
  selecting := [.defaultKey]
  single := true

def withSelecting (template : Delete) (names : List String) : Except SetupError Delete :=
  (ColumnName.checkAll "filter column" names).map fun columns =>
    { template with selecting := columns }

def withReturning (template : Delete) (names : List String) : Except SetupError Delete :=
  (Returning.check names).map fun returning =>
    { template with returning }

def withPermanent (template : Delete) (filters : Filters) : Except SetupError Delete :=
  (PermanentFilters.check filters).map fun permanent =>
    { template with permanent }

def scope (template : Delete) : Scope where
  columns := template.selecting
  permanent := template.permanent

/-- The query that deletes the selected rows. -/
def fill (template : Delete) (selector : Selector) : Logged Query :=
  let compiled := template.scope.compileSelector selector
  { value :=
      { statement := .delete template.table compiled.value.conditions template.returning false
        parameters := compiled.value.parameters
        single := template.single
        diagnostics := compiled.diagnostics }
    events := LogEvent.ofDiagnostics .debug template.table compiled.diagnostics }

end Delete

end Template

end FilterSql
