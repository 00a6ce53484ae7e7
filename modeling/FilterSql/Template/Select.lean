import FilterSql.Statement

/-!
# Templates of select statements

A template is set up once for a table; a request then supplies filters, a sort and a page. A sort
names a returned column, or a column whose values are ranked, and is ignored otherwise.
-/

namespace FilterSql

namespace Template

/-- What the select statements on a table have in common. -/
structure Select where
  table : String
  primaryKey : List ColumnName := [.defaultKey]
  returned : List ColumnName := []
  searchable : Option (List ColumnName) := none
  rankings : OrderedMap ColumnName (List String) := ∅
  groups : List ColumnName := []
  wrapped : Option Bool := none
  permanent : PermanentFilters := .none
  single : Bool := false

namespace Select

def withPrimaryKey (template : Select) (names : List String) : Except SetupError Select :=
  (ColumnName.checkAll "primary key" names).map fun columns =>
    { template with primaryKey := columns }

def withReturned (template : Select) (names : List String) : Except SetupError Select :=
  (ColumnName.checkAll "return column" names).map fun columns =>
    { template with returned := columns }

def withSearchable (template : Select) (names : List String) : Except SetupError Select :=
  (ColumnName.checkAll "searchable column" names).map fun columns =>
    { template with searchable := some columns }

def withGroups (template : Select) (names : List String) : Except SetupError Select :=
  (ColumnName.checkAll "group by column" names).map fun columns =>
    { template with groups := columns }

/-- Ranks the values of a column, in place of an earlier ranking of the same column. Columns are
ranked without regard to case. -/
def withRanking (template : Select) (name : String) (values : List String) :
    Except SetupError Select :=
  (ColumnName.check "sort column" name).map fun column =>
    { template with rankings := template.rankings.insert column.lower values }

def withPermanent (template : Select) (filters : Filters) : Except SetupError Select :=
  (PermanentFilters.check filters).map fun permanent =>
    { template with permanent }

/-- The sort that a caller asks for. -/
structure SortChoice where
  name : String
  direction : Direction

/-- A number of rows after some that are skipped. -/
structure Page where
  limit : UInt32
  offset : UInt32

/-- What a caller asks of a select statement. -/
structure Request where
  filters : Filters := ∅
  sort : Option SortChoice := none
  limit : Option UInt32 := none
  offset : Option UInt32 := none

/-- The page that a request asks for; a limit of zero asks for none. -/
def Request.page? (request : Request) : Option Page :=
  match request.limit with
  | some limit => if limit = 0 then none else some ⟨limit, request.offset.getD 0⟩
  | none => none

/-- Binds the limit and the offset, in place of any filter value under these names. -/
def Page.bindIn (page : Page) (parameters : Parameters) : Parameters :=
  (parameters.insert "limit" (.int (.ofNat page.limit.toNat))).insert
    "offset" (.int (.ofNat page.offset.toNat))

/-- The searchable columns are the returned ones unless others are named. -/
def scope (template : Select) : Scope where
  columns := template.searchable.getD template.returned
  permanent := template.permanent

/-- The term that a sort asks for. -/
def sortTerm? (template : Select) (sort : SortChoice) : Option SortTerm :=
  match ColumnName.ofString? (sort.name.map lowerCase) with
  | none => none
  | some column =>
      match template.rankings.get? column with
      | some values => some (.ranked column values sort.direction)
      | none =>
          if column ∈ template.returned then some (.column column sort.direction)
          else none

def order (template : Select) (sort : Option SortChoice) : SortOrder where
  leading := sort.bind template.sortTerm?
  keys := template.primaryKey

/-- Whether a text occurs in another one. -/
def occursIn (sought : List Char) : List Char → Bool
  | [] => sought.isEmpty
  | c :: rest => sought.isPrefixOf (c :: rest) || occursIn sought rest

/-- Whether the statement is wrapped; unless it is laid down, when the table is a join. -/
def wraps (template : Select) : Bool :=
  template.wrapped.getD (occursIn "JOIN".toList template.table.toList)

/-- The query that answers a request. -/
def fill (template : Select) (request : Request) : Logged Query :=
  let compiled := template.scope.compile request.filters
  let page := request.page?
  { value :=
      { statement := .select template.table template.returned compiled.value.conditions
          template.groups template.wraps (template.order request.sort) page.isSome
        parameters := page.elim compiled.value.parameters
          (·.bindIn compiled.value.parameters)
        single := template.single
        diagnostics := compiled.diagnostics }
    events := LogEvent.ofDiagnostics .warning template.table compiled.diagnostics }

end Select

end Template

end FilterSql
