import FilterSql.Statement

/-!
# Templates of update statements

A template is set up once for a table; a selector and data then give a query. The data of columns
that may be written are assigned, under placeholders of their own. A placeholder that a filter has
bound to another value refuses the query rather than change the meaning of the filter.
-/

namespace FilterSql

namespace Template

/-- What the update statements on a table have in common. -/
structure Update where
  table : String
  writable : List ColumnName := []
  selecting : List ColumnName := []
  returning : Returning := .columns []
  permanent : PermanentFilters := .none
  single : Bool := false

/-- Why an update could not be built. -/
inductive UpdateError where
  | nothingToWrite
  | placeholderBound (name : String)
  deriving DecidableEq

def UpdateError.message : UpdateError → String
  | nothingToWrite => "no valid column to set"
  | placeholderBound name =>
      "placeholder " ++ Placeholder.reference name ++ " is already bound by a filter"

namespace Update

/-- Updates one row of a table by its key. -/
def one (table : String) : Update where
  table
  selecting := [.defaultKey]
  single := true

def withWritable (template : Update) (names : List String) : Except SetupError Update :=
  (ColumnName.checkAll "writable column" names).map fun columns =>
    { template with writable := columns }

def withSelecting (template : Update) (names : List String) : Except SetupError Update :=
  (ColumnName.checkAll "filter column" names).map fun columns =>
    { template with selecting := columns }

def withReturning (template : Update) (names : List String) : Except SetupError Update :=
  (Returning.check names).map fun returning =>
    { template with returning }

def withPermanent (template : Update) (filters : Filters) : Except SetupError Update :=
  (PermanentFilters.check filters).map fun permanent =>
    { template with permanent }

def scope (template : Update) : Scope where
  columns := template.selecting
  permanent := template.permanent

/-- The columns among some that data are given for, and the parameters with these data. -/
def assign (data : Filters) (parameters : Parameters) :
    List ColumnName → Except UpdateError (List ColumnName × Parameters)
  | [] => .ok ([], parameters)
  | column :: rest =>
      match data.get? column.text with
      | none => assign data parameters rest
      | some value =>
          let name := Placeholder.ofAssignment column.text
          if parameters.bindsOther name value then .error (.placeholderBound name)
          else
            (assign data (parameters.insert name value) rest).map fun assigned =>
              (column :: assigned.1, assigned.2)

/-- The query that writes data to the selected rows. -/
def fill (template : Update) (selector : Selector) (data : Filters) :
    Logged (Except UpdateError Query) :=
  let writes := data.restrictTo (template.writable.map ColumnName.text)
  if writes.isEmpty then ⟨.error .nothingToWrite, []⟩
  else
    let compiled := template.scope.compileSelector selector
    let assigned := assign writes compiled.value.parameters template.writable
    { value := assigned.map fun assigned =>
        { statement := .update template.table assigned.1 compiled.value.conditions
            template.returning
          parameters := assigned.2
          single := template.single
          diagnostics := compiled.diagnostics }
      events := LogEvent.ofDiagnostics .debug template.table compiled.diagnostics }

end Update

end Template

end FilterSql
