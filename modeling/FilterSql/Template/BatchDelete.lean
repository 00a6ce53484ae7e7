import FilterSql.Statement

/-!
# Templates of batch deletes

A template is set up once for a table; a list of selectors then gives one query on the key columns.
A batch that names no key is searched for among no values, so that it does not delete every row.
-/

namespace FilterSql

namespace Template

/-- What the batch deletes on a table have in common. -/
structure BatchDelete where
  table : String
  primaryKey : List ColumnName := [.defaultKey]
  keyed : primaryKey ≠ [] := by simp
  returning : Returning := .columns []
  permanent : PermanentFilters := .none

namespace BatchDelete

def withPrimaryKey (template : BatchDelete) (names : List String) :
    Except SetupError BatchDelete :=
  (ColumnName.checkAll "primary key" names).bind fun columns =>
    if missing : columns = [] then .error (.noPrimaryKey template.table)
    else .ok { template with primaryKey := columns, keyed := missing }

def withReturning (template : BatchDelete) (names : List String) :
    Except SetupError BatchDelete :=
  (Returning.check names).map fun returning =>
    { template with returning }

def withPermanent (template : BatchDelete) (filters : Filters) :
    Except SetupError BatchDelete :=
  (PermanentFilters.check filters).map fun permanent =>
    { template with permanent }

def scope (template : BatchDelete) : Scope where
  columns := template.primaryKey
  permanent := template.permanent

def keyNames (template : BatchDelete) : List String :=
  template.primaryKey.map ColumnName.text

/-- The filters of each selector on the key columns. -/
def rows (template : BatchDelete) (selectors : List Selector) : List Filters :=
  selectors.map fun selector => selector.filtersOn template.keyNames

/-- The lists of key values of some rows; without any, no value of the first key column. -/
def keyFilters (template : BatchDelete) (rows : List Filters) : Filters :=
  let combined := Batch.combine rows
  if combined.isEmpty then
    (∅ : Filters).insert (template.primaryKey.head template.keyed).text (.array [])
  else combined

/-- The query that deletes the rows of every selector. -/
def fill (template : BatchDelete) (selectors : List Selector) : Logged Query :=
  let rows := template.rows selectors
  let compiled := template.scope.compile (template.keyFilters rows)
  { value :=
      { statement := .delete template.table compiled.value.conditions template.returning true
        parameters := (Batch.parameters template.keyNames rows).merge compiled.value.parameters
        single := false
        diagnostics := compiled.diagnostics }
    events := LogEvent.ofDiagnostics .debug template.table compiled.diagnostics }

end BatchDelete

end Template

end FilterSql
