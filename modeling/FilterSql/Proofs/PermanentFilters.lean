import FilterSql.Proofs.Call
import FilterSql.Proofs.EnforcedCondition

/-!
# Permanent filters

A permanent filter is written over what the caller asks for under its key, but other filters of the
caller come before it, and may bind its placeholders first. Then its condition is dropped. The main
result says exactly when the text of a query states a permanent filter and the query binds it.
-/

namespace FilterSql

/-- A query enforces a condition when its text states it and its placeholders have the values that
it comes with. -/
structure Query.Enforces (query : Query) (bound : BoundCondition) : Prop where
  states : query.States bound.condition.sql
  holds : ∀ name value, (name, value) ∈ bound.bindings →
    ∃ final, query.parameters.get? name = some final ∧ final.Agrees value

theorem Query.enforces_iff {query : Query} {bound : BoundCondition} :
    query.Enforces bound ↔ bound.EnforcedBy query.statement.conditions query.parameters := by
  constructor
  · intro enforces
    exact ⟨enforces.states.stated, enforces.holds⟩
  · intro enforced
    exact ⟨Query.states_iff.mpr enforced.stated, enforced.holds⟩

namespace Template

open BoundCondition

theorem Scope.isColumnName_of_mem_allowed (scope : Scope) :
    ∀ column ∈ scope.allowed, isColumnName column = true := by
  intro column listed
  rcases List.mem_append.mp listed with named | permanent
  · obtain ⟨name, _, rfl⟩ := List.mem_map.mp named
    exact name.valid
  · exact scope.permanent.named column permanent

namespace Call

/-- The clause of the filters that stand before a key. -/
def earlier (call : Call) (key : String) : Clause :=
  (Filters.compile call.scope.allowed (call.merged.before key)).value

/-- Nothing else gives the placeholders of a condition other values: no filter before the key binds
one of them differently, and the page, which is bound regardless, does not either. -/
structure Undisturbed (call : Call) (key : String) (bound : BoundCondition) : Prop where
  filters : ∀ name value, (name, value) ∈ bound.bindings →
    ∀ other, (call.earlier key).parameters.get? name = some other → (other == value) = true
  limit : ∀ page value, call.page? = some page → ("limit", value) ∈ bound.bindings →
    (Value.int (.ofNat page.limit.toNat)).Agrees value
  offset : ∀ page value, call.page? = some page → ("offset", value) ∈ bound.bindings →
    (Value.int (.ofNat page.offset.toNat)).Agrees value

theorem conflicts_earlier_eq_false_iff {call : Call} {key : String} {bound : BoundCondition} :
    (call.earlier key).conflicts bound = false ↔
      ∀ name value, (name, value) ∈ bound.bindings →
        ∀ other, (call.earlier key).parameters.get? name = some other →
          (other == value) = true := by
  rw [Clause.conflicts, List.any_eq_false]
  constructor
  · intro compatible name value member
    exact Parameters.bindsOther_eq_false_iff.mp
      (Bool.eq_false_iff.mpr (compatible (name, value) member))
  · intro compatible binding member
    exact Bool.eq_false_iff.mp
      (Parameters.bindsOther_eq_false_iff.mpr (compatible binding.1 binding.2 member))

variable {call : Call} {query : Query} {key : String} {value : Value}

theorem undisturbed_of_enforcedBy (answered : call.query? = some query)
    (listed : key ∈ call.scope.allowed) (found : call.merged.get? key = some value)
    (other : key ≠ Operation.fullTextKey)
    (enforced : (equal key value).value.EnforcedBy query.statement.conditions query.parameters) :
    call.Undisturbed key (equal key value).value := by
  obtain ⟨stated, holds⟩ := enforced
  obtain ⟨extended, _, parameters⟩ := parameters_query answered
  rw [conditions_query answered] at stated
  have compatible := Filters.not_conflicts_of_stated call.scope.isColumnName_of_mem_allowed
    listed other found stated
  refine ⟨conflicts_earlier_eq_false_iff.mp compatible, ?_, ?_⟩
  · intro page bound paged member
    obtain ⟨final, bindsFinal, agrees⟩ := holds "limit" bound member
    rw [parameters, paged, Option.elim_some, Select.Page.get?_bindIn, if_neg (by decide),
      if_pos rfl] at bindsFinal
    exact Option.some.inj bindsFinal ▸ agrees
  · intro page bound paged member
    obtain ⟨final, bindsFinal, agrees⟩ := holds "offset" bound member
    rw [parameters, paged, Option.elim_some, Select.Page.get?_bindIn, if_pos rfl] at bindsFinal
    exact Option.some.inj bindsFinal ▸ agrees

theorem enforcedBy_of_undisturbed (answered : call.query? = some query)
    (listed : key ∈ call.scope.allowed) (found : call.merged.get? key = some value)
    (other : key ≠ Operation.fullTextKey)
    (undisturbed : call.Undisturbed key (equal key value).value) :
    (equal key value).value.EnforcedBy query.statement.conditions query.parameters := by
  obtain ⟨extended, extension, parameters⟩ := parameters_query answered
  have compatible := conflicts_earlier_eq_false_iff.mpr undisturbed.filters
  have compiled := Filters.enforcedBy_of_not_conflicts listed other found compatible
  have enforced := compiled.extend extension
  rw [conditions_query answered, parameters]
  cases paged : call.page? with
  | none => exact enforced
  | some page =>
      refine ⟨enforced.stated, ?_⟩
      intro name bound member
      obtain ⟨final, bindsFinal, agrees⟩ := enforced.holds name bound member
      apply Select.Page.agrees_bindIn bindsFinal agrees
      · rintro rfl
        exact undisturbed.limit page bound paged member
      · rintro rfl
        exact undisturbed.offset page bound paged member

/-- The text of a query states a permanent filter, with its placeholders bound, exactly when nothing
else gives them other values. -/
theorem enforces_permanent_iff (answered : call.query? = some query)
    (permanent : call.scope.permanent.filters.get? key = some value)
    (other : key ≠ Operation.fullTextKey) :
    query.Enforces (equal key value).value ↔ call.Undisturbed key (equal key value).value := by
  have listed : key ∈ call.scope.allowed :=
    List.mem_append_right _ (OrderedMap.mem_keys_iff.mpr ⟨value, permanent⟩)
  have found : call.merged.get? key = some value := OrderedMap.get?_merge_of_get? permanent
  rw [Query.enforces_iff]
  constructor
  · exact undisturbed_of_enforcedBy answered listed found other
  · exact enforcedBy_of_undisturbed answered listed found other

/-- The filter of the caller on the same key is overwritten, and the page binds other names. -/
theorem enforces_permanent_over_requested :
    let call : Call := .select
      { table := "users", returned := [⟨"status", by decide⟩]
        permanent := ⟨(∅ : Filters).insert "org_id" (.int 1), by decide⟩ }
      { filters := ((∅ : Filters).insert "org_id" (.int 99)).insert "status" (.text "active")
        limit := some 10 }
    ∃ query, call.query? = some query ∧
      call.scope.permanent.filters.get? "org_id" = some (.int 1) ∧
      "org_id" ≠ Operation.fullTextKey ∧
      call.Undisturbed "org_id" (equal "org_id" (.int 1)).value ∧
      query.sql = "SELECT status FROM users WHERE org_id = $org_id AND status = $status " ++
        "ORDER BY id ASC LIMIT $limit OFFSET $offset" ∧
      query.Enforces (equal "org_id" (.int 1)).value := by
  intro call
  have undisturbed : call.Undisturbed "org_id" (equal "org_id" (.int 1)).value := by
    refine ⟨?_, ?_, ?_⟩
    · intro name value member other found
      exact absurd found nofun
    · intro page value paged member
      have different : "limit" ≠ Placeholder.ofKey "org_id" := by decide
      exact absurd (congrArg Prod.fst (List.mem_singleton.mp member)) different
    · intro page value paged member
      have different : "offset" ≠ Placeholder.ofKey "org_id" := by decide
      exact absurd (congrArg Prod.fst (List.mem_singleton.mp member)) different
  exact ⟨_, rfl, rfl, by decide, undisturbed, by decide,
    (enforces_permanent_iff rfl rfl (by decide)).mpr undisturbed⟩

/-- A list of the caller binds `id1` for its first value, and the permanent filter on the column of
that name is dropped. -/
theorem permanent_dropped_after_list :
    ∃ template : Select,
      (Select.withReturned { table := "t" } ["id"]).bind
          (·.withPermanent ((∅ : Filters).insert "id1" (.int 9))) = .ok template ∧
        ∃ query,
          (select template
            { filters := (∅ : Filters).insert "id" (.array [.int 1, .int 2]) }).query? =
              some query ∧
          template.permanent.filters.get? "id1" = some (.int 9) ∧
          "id1" ≠ Operation.fullTextKey ∧
          query.sql = "SELECT id FROM t WHERE id IN ($id1, $id2) ORDER BY id ASC" ∧
          ¬query.Enforces (equal "id1" (.int 9)).value := by
  refine ⟨{ table := "t", returned := [⟨"id", by decide⟩]
            permanent := ⟨(∅ : Filters).insert "id1" (.int 9), by decide⟩ },
    rfl, _, rfl, rfl, by decide, by decide, ?_⟩
  intro enforces
  exact absurd enforces.states.stated (by decide)

end Call

end Template

end FilterSql
