import FilterSql.Proofs.CompiledClause
import FilterSql.Template.BatchDelete
import FilterSql.Template.Delete
import FilterSql.Template.Select
import FilterSql.Template.Update

/-!
# Calls of templates

Filling in a template of any kind compiles the filters of the caller merged with the permanent ones
and takes over the conditions. The parameters that come with the query extend the compiled ones,
except that a page binds its limit and its offset.
-/

namespace FilterSql

namespace Template

/-- A template with what it is filled in with. -/
inductive Call where
  | select (template : Select) (request : Select.Request)
  | update (template : Update) (selector : Selector) (data : Filters)
  | delete (template : Delete) (selector : Selector)
  | batchDelete (template : BatchDelete) (selectors : List Selector)

namespace Call

def scope : Call → Scope
  | select template _ => template.scope
  | update template _ _ => template.scope
  | delete template _ => template.scope
  | batchDelete template _ => template.scope

/-- The filters that the caller asks for, before the permanent ones are written over them. -/
def requested : Call → Filters
  | select _ request => request.filters
  | update template selector _ => selector.filtersOn template.scope.allowed
  | delete template selector => selector.filtersOn template.scope.allowed
  | batchDelete template selectors => template.keyFilters (template.rows selectors)

/-- The filters that are compiled. -/
def merged (call : Call) : Filters :=
  call.requested.merge call.scope.permanent.filters

/-- The query that answers the call; only an update can be refused. -/
def query? : Call → Option Query
  | select template request => some (template.fill request).value
  | update template selector data => (template.fill selector data).value.toOption
  | delete template selector => some (template.fill selector).value
  | batchDelete template selectors => some (template.fill selectors).value

/-- The page that the query is limited to. -/
def page? : Call → Option Select.Page
  | select _ request => request.page?
  | update _ _ _ => none
  | delete _ _ => none
  | batchDelete _ _ => none

/-- The clause that the filters of the call are compiled into. -/
def clause (call : Call) : Clause :=
  (call.merged.compile call.scope.allowed).value

/-- The choice that compiling makes among the conditions of the call. -/
def choice (call : Call) : Choice :=
  call.merged.choice call.scope.allowed

theorem settledBy_choice (call : Call) : call.clause.SettledBy call.choice :=
  Filters.settledBy_choice call.scope.allowed call.merged

end Call

namespace Update

/-- Assigning data rebinds a name to a value that is equal, or refuses. -/
theorem extends_assign {data : Filters} {columns : List ColumnName}
    {parameters : Parameters} {assigned : List ColumnName × Parameters}
    (accepted : assign data parameters columns = .ok assigned) :
    parameters.Extends assigned.2 := by
  induction columns generalizing parameters assigned with
  | nil =>
      cases accepted
      exact Parameters.Extends.refl parameters
  | cons column rest inductionHypothesis =>
      rw [assign] at accepted
      split at accepted
      · exact inductionHypothesis accepted
      · next value found =>
        dsimp only at accepted
        split at accepted
        · cases accepted
        · next compatible =>
          have first := Parameters.Extends.insert (Bool.eq_false_iff.mpr compatible)
          cases later : assign data
              (parameters.insert (Placeholder.ofAssignment column.text) value) rest with
          | error refusal =>
              rw [later] at accepted
              cases accepted
          | ok outcome =>
              rw [later] at accepted
              cases accepted
              have following := inductionHypothesis later
              exact first.trans following

/-- An update that is not refused has assigned its data after compiling its selector. -/
theorem fill_eq_ok {template : Update} {selector : Selector} {data : Filters} {query : Query}
    (filled : (template.fill selector data).value = .ok query) :
    ∃ assigned,
      assign (data.restrictTo (template.writable.map ColumnName.text))
        (template.scope.compileSelector selector).value.parameters template.writable =
          .ok assigned ∧
      query =
        { statement := .update template.table assigned.1
            (template.scope.compileSelector selector).value.conditions template.returning
          parameters := assigned.2
          single := template.single
          diagnostics := (template.scope.compileSelector selector).diagnostics } := by
  rw [fill] at filled
  split at filled
  · cases filled
  · cases accepted : assign (data.restrictTo (template.writable.map ColumnName.text))
        (template.scope.compileSelector selector).value.parameters template.writable with
    | error refusal =>
        simp only [accepted] at filled
        cases filled
    | ok assigned =>
        simp only [accepted] at filled
        cases filled
        exact ⟨assigned, rfl, rfl⟩

end Update

theorem Select.Page.get?_bindIn (page : Select.Page) (parameters : Parameters) (name : String) :
    (page.bindIn parameters).get? name =
      if name = "offset" then some (.int (.ofNat page.offset.toNat))
      else if name = "limit" then some (.int (.ofNat page.limit.toNat))
      else parameters.get? name := by
  rw [Select.Page.bindIn, OrderedMap.get?_insert, OrderedMap.get?_insert]

/-- A page leaves a binding in agreement unless it writes a value to the name that does not. -/
theorem Select.Page.agrees_bindIn {page : Select.Page} {parameters : Parameters} {name : String}
    {value final : Value} (found : parameters.get? name = some final)
    (agrees : final.Agrees value)
    (limit : name = "limit" → (Value.int (.ofNat page.limit.toNat)).Agrees value)
    (offset : name = "offset" → (Value.int (.ofNat page.offset.toNat)).Agrees value) :
    ∃ written, (page.bindIn parameters).get? name = some written ∧ written.Agrees value := by
  rw [get?_bindIn]
  split
  · next isOffset => exact ⟨_, rfl, offset isOffset⟩
  · split
    · next isLimit => exact ⟨_, rfl, limit isLimit⟩
    · exact ⟨final, found, agrees⟩

namespace Call

theorem fill_of_query? {template : Update} {selector : Selector} {data : Filters} {query : Query}
    (answered : (update template selector data).query? = some query) :
    (template.fill selector data).value = .ok query := by
  rw [query?] at answered
  cases filled : (template.fill selector data).value with
  | error refusal =>
      rw [filled] at answered
      cases answered
  | ok result =>
      rw [filled] at answered
      cases answered
      rfl

theorem conditions_query {call : Call} {query : Query} (answered : call.query? = some query) :
    query.statement.conditions = call.clause.conditions := by
  cases call with
  | select template request =>
      cases answered
      rfl
  | update template selector data =>
      obtain ⟨assigned, _, rfl⟩ := Update.fill_eq_ok (fill_of_query? answered)
      rfl
  | delete template selector =>
      cases answered
      rfl
  | batchDelete template selectors =>
      cases answered
      rfl

/-- The parameters of a query extend those of its clause, but for what a page binds. -/
theorem parameters_query {call : Call} {query : Query} (answered : call.query? = some query) :
    ∃ extended : Parameters, call.clause.parameters.Extends extended ∧
      query.parameters = call.page?.elim extended (·.bindIn extended) := by
  cases call with
  | select template request =>
      cases answered
      exact ⟨_, Parameters.Extends.refl _, rfl⟩
  | update template selector data =>
      obtain ⟨assigned, accepted, rfl⟩ := Update.fill_eq_ok (fill_of_query? answered)
      exact ⟨assigned.2, Update.extends_assign accepted, rfl⟩
  | delete template selector =>
      cases answered
      exact ⟨_, Parameters.Extends.refl _, rfl⟩
  | batchDelete template selectors =>
      cases answered
      refine ⟨_, ?_, rfl⟩
      intro name value found
      exact ⟨value, OrderedMap.get?_merge_of_get? found, Value.Agrees.refl value⟩

theorem conditions_query_eq_kept {call : Call} {query : Query}
    (answered : call.query? = some query) :
    query.statement.conditions = call.choice.kept.map BoundCondition.condition := by
  rw [conditions_query answered, call.settledBy_choice.conditions]

theorem extends_of_unpaged {call : Call} {query : Query} (answered : call.query? = some query)
    (unpaged : call.page? = none) : call.clause.parameters.Extends query.parameters := by
  obtain ⟨extended, extension, parameters⟩ := parameters_query answered
  rw [unpaged] at parameters
  rw [parameters]
  exact extension

theorem exists_get?_of_kept {call : Call} {query : Query} (answered : call.query? = some query)
    (unpaged : call.page? = none) {bound : BoundCondition} (kept : bound ∈ call.choice.kept)
    {name : String} {value : Value} (binding : (name, value) ∈ bound.bindings) :
    ∃ final, query.parameters.get? name = some final ∧ final.Agrees value := by
  obtain ⟨first, found, agrees⟩ := call.settledBy_choice.bound bound kept name value binding
  obtain ⟨final, bindsFinal, finalAgrees⟩ := extends_of_unpaged answered unpaged name first found
  exact ⟨final, bindsFinal, finalAgrees.trans agrees⟩

end Call

end Template

end FilterSql
