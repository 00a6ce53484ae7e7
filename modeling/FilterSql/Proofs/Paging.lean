import FilterSql.Proofs.Call
import FilterSql.Proofs.EnforcedCondition

/-!
# Pages and filters

A page binds its limit and its offset after the filters are compiled, without asking whether their
names are bound. Both names are words, and a word is bound only by a plain value under the key of
that spelling. So the filters keep their meaning unless a column is called like one of the two.
-/

namespace FilterSql

namespace BoundCondition

variable {allowed : List String} {key name : String} {value found : Value}

/-- The only condition that binds a word compares the column of that name with a plain value. -/
theorem AskedBy.plain_of_binds_word {bound : BoundCondition}
    (asked : AskedBy allowed key value bound) (word : Placeholder.IsWord name)
    (other : name ≠ Operation.fullTextKey) (binding : (name, found) ∈ bound.bindings) :
    name ∈ allowed ∧ key = name ∧ found = value ∧ value.isPlain = true := by
  -- A name that is made from the key is the key, and a word has no marker in front of it.
  have single : ∀ {condition : String → Condition},
      (name, found) ∈ (ofKey key value condition).bindings → key = name ∧ found = value := by
    intro condition member
    cases List.mem_singleton.mp member
    exact ⟨(Placeholder.eq_of_isWord_ofKey word).symm, rfl⟩
  cases asked with
  | null listed named => exact absurd binding List.not_mem_nil
  | noMember listed named => exact absurd binding List.not_mem_nil
  | nullText listed named read => exact absurd binding List.not_mem_nil
  | member listed named nonempty =>
      have numberedName : name ∈ (numbered key _).map Prod.fst :=
        List.mem_map_of_mem (f := Prod.fst) binding
      rw [names_numbered] at numberedName
      obtain ⟨index, _, rfl⟩ := List.mem_map.mp numberedName
      exact absurd word (Placeholder.not_isWord_numbered _ index)
  | @compare polarity column _ listed named plain =>
      obtain ⟨same, sameValue⟩ := single binding
      cases polarity with
      | positive =>
          have unmarked : key = column := named.trans String.empty_append
          rw [← unmarked, same] at listed
          exact ⟨listed, same, sameValue, plain⟩
      | negative =>
          rw [← same, named] at word
          exact absurd word.left (by decide)
  | atLeast listed named =>
      rw [← (single binding).1, named] at word
      exact absurd word.left (by decide)
  | atMost listed named =>
      rw [← (single binding).1, named] at word
      exact absurd word.left (by decide)
  | @like polarity column _ listed named =>
      rw [← (single binding).1, named] at word
      cases polarity with
      | positive => exact absurd word.left (by decide)
      | negative => exact absurd word.left (by decide)
  | fullText searched named =>
      exact absurd ((single binding).1.symm.trans named) other

end BoundCondition

namespace Filters

variable {allowed : List String} {filters : Filters} {name : String} {value : Value}

theorem plain_of_get?_compile (word : Placeholder.IsWord name)
    (other : name ≠ Operation.fullTextKey)
    (bound : (filters.compile allowed).value.parameters.get? name = some value) :
    name ∈ allowed ∧ filters.get? name = some value ∧ value.isPlain = true := by
  obtain ⟨condition, kept, binding⟩ := (settledBy_choice allowed filters).source name value bound
  obtain ⟨entry, member, asked⟩ := askedBy_of_mem_kept kept
  obtain ⟨listed, key, same, plain⟩ := asked.plain_of_binds_word word other binding
  rw [← same] at plain
  refine ⟨listed, OrderedMap.get?_eq_some_iff.mpr ?_, plain⟩
  rw [← key, same]
  exact member

/-- A compiled clause binds a word exactly to the plain value of the filter on that column. -/
theorem get?_compile_iff_of_isWord (word : Placeholder.IsWord name)
    (other : name ≠ Operation.fullTextKey) :
    (filters.compile allowed).value.parameters.get? name = some value ↔
      name ∈ allowed ∧ filters.get? name = some value ∧ value.isPlain = true := by
  constructor
  · exact plain_of_get?_compile word other
  · rintro ⟨listed, found, plain⟩
    have unbound : (compile allowed (filters.before name)).value.parameters.get? name = none := by
      cases earlier : (compile allowed (filters.before name)).value.parameters.get? name with
      | none => rfl
      | some first =>
          obtain ⟨_, present, _⟩ := plain_of_get?_compile word other earlier
          rw [OrderedMap.get?_before] at present
          cases present
    have asked : (BoundCondition.equal name value).value =
        BoundCondition.ofKey name value (.compare .positive name) :=
      BoundCondition.equal_of_isPlain plain
    have named : Placeholder.ofKey name = name := Placeholder.ofKey_of_isWord word
    have compatible : (compile allowed (filters.before name)).value.conflicts
        (BoundCondition.equal name value).value = false := by
      apply List.any_eq_false.mpr
      intro binding member
      rw [asked] at member
      cases List.mem_singleton.mp member
      rw [named, Parameters.bindsOther, unbound]
      exact Bool.false_ne_true
    have binding : (name, value) ∈ (BoundCondition.equal name value).value.bindings := by
      rw [asked, BoundCondition.ofKey, named]
      exact List.mem_singleton_self _
    obtain ⟨final, bound, _⟩ :=
      (enforcedBy_of_not_conflicts listed other found compatible).holds name value binding
    obtain ⟨_, present, _⟩ := plain_of_get?_compile word other bound
    rw [found] at present
    cases present
    exact bound

end Filters

namespace Template.Select

/-- The names of a page with their values. -/
def Page.bindings (page : Page) : List (String × Value) :=
  [("limit", .int (.ofNat page.limit.toNat)), ("offset", .int (.ofNat page.offset.toNat))]

/-- A page spares filters when the plain values that they give to allowed columns called like its
names are those that it binds. -/
def Page.Spares (page : Page) (allowed : List String) (filters : Filters) : Prop :=
  ∀ name value, (name, value) ∈ page.bindings → name ∈ allowed →
    ∀ plain, filters.get? name = some plain → plain.isPlain = true → value.Agrees plain

theorem Page.isWord_of_mem_bindings {page : Page} {name : String} {value : Value}
    (binding : (name, value) ∈ page.bindings) :
    Placeholder.IsWord name ∧ name ≠ Operation.fullTextKey := by
  rcases List.mem_pair.mp binding with limit | offset
  · cases limit
    decide
  · cases offset
    decide

theorem Page.nodup_bindings (page : Page) : (page.bindings.map Prod.fst).Nodup := by
  have names : page.bindings.map Prod.fst = ["limit", "offset"] := rfl
  rw [names]
  decide

/-- A page keeps what compiled filters bind exactly when it spares them. -/
theorem Page.extends_bindIn_iff {page : Page} {allowed : List String} {filters : Filters} :
    let compiled := (filters.compile allowed).value.parameters
    compiled.Extends (page.bindIn compiled) ↔ page.Spares allowed filters := by
  intro compiled
  have written : page.bindIn compiled = compiled.insertMany page.bindings := rfl
  rw [written, Parameters.Extends.insertMany_iff page.nodup_bindings]
  constructor
  · intro agreeing name value binding listed plain found isPlain
    obtain ⟨word, other⟩ := isWord_of_mem_bindings binding
    exact agreeing name value binding plain
      ((Filters.get?_compile_iff_of_isWord word other).mpr ⟨listed, found, isPlain⟩)
  · intro spares name value binding bound found
    obtain ⟨word, other⟩ := isWord_of_mem_bindings binding
    obtain ⟨listed, filter, plain⟩ := (Filters.get?_compile_iff_of_isWord word other).mp found
    exact spares name value binding listed bound filter plain

theorem Request.page?_of_limit {request : Request} {limit : UInt32}
    (given : request.limit = some limit) (positive : 0 < limit) :
    request.page? = some ⟨limit, request.offset.getD 0⟩ := by
  have nonzero : limit ≠ 0 := (UInt32.ne_of_lt positive).symm
  rw [page?, given]
  exact if_neg nonzero

/-- A select statement keeps what the compiled filters bind exactly when its page spares them, and
binds the page that is asked for in any case. -/
theorem extends_fill_iff (template : Select) (request : Request) :
    let call := Call.select template request
    let query := (template.fill request).value
    (call.clause.parameters.Extends query.parameters ↔
      ∀ page, request.page? = some page → page.Spares call.scope.allowed call.merged) ∧
    ∀ limit, request.limit = some limit → 0 < limit →
      query.parameters.get? "limit" = some (.int (.ofNat limit.toNat)) ∧
      query.parameters.get? "offset" =
        some (.int (.ofNat (request.offset.getD 0).toNat)) := by
  intro call query
  have parameters : query.parameters =
      request.page?.elim call.clause.parameters (·.bindIn call.clause.parameters) := rfl
  constructor
  · rw [parameters]
    cases paged : request.page? with
    | none =>
        have kept := Parameters.Extends.refl call.clause.parameters
        exact iff_of_true kept nofun
    | some page =>
        have written : call.clause.parameters.Extends (page.bindIn call.clause.parameters) ↔
            page.Spares call.scope.allowed call.merged := Page.extends_bindIn_iff
        rw [Option.elim_some, written]
        constructor
        · rintro spares _ ⟨⟩
          exact spares
        · intro spares
          exact spares page rfl
  · intro limit given positive
    rw [parameters, Request.page?_of_limit given positive, Option.elim_some, Page.get?_bindIn,
      Page.get?_bindIn]
    exact ⟨rfl, rfl⟩

/-- A column is called like a name of the page, and filtered for the value that the page binds. -/
theorem extends_fill_equal_limit :
    let template : Select :=
      { table := "quotas", returned := [⟨"limit", by decide⟩, ⟨"offset", by decide⟩] }
    let request : Request :=
      { filters := ((∅ : Filters).insert "limit" (.int 10)).insert "offset" .null
        limit := some 10, offset := some 30 }
    let call := Call.select template request
    let query := (template.fill request).value
    query.sql = "SELECT limit, offset FROM quotas WHERE limit = $limit AND offset IS NULL " ++
        "ORDER BY id ASC LIMIT $limit OFFSET $offset" ∧
      (∀ page, request.page? = some page → page.Spares call.scope.allowed call.merged) ∧
      call.clause.parameters.Extends query.parameters ∧
      query.parameters.get? "offset" = some (.int 30) := by
  intro template request call query
  have spares : ∀ page, request.page? = some page →
      page.Spares call.scope.allowed call.merged := by
    rintro _ ⟨⟩ name value binding listed plain found isPlain
    rcases List.mem_pair.mp binding with limit | offset
    · cases limit
      cases found
      exact Value.Agrees.refl _
    · cases offset
      cases found
      cases isPlain
  obtain ⟨keeps, paged⟩ := extends_fill_iff template request
  exact ⟨by decide, spares, keeps.mpr spares, (paged 10 rfl (by decide)).2⟩

/-- The limit of the page takes the place of the value that the column `limit` is filtered for. -/
theorem limit_filter_overwritten :
    ∃ template : Select,
      withReturned { table := "quotas" } ["id", "limit"] = .ok template ∧
        ∃ request : Request,
          (template.fill request).value.sql =
            "SELECT id, limit FROM quotas WHERE limit = $limit " ++
              "ORDER BY id ASC LIMIT $limit OFFSET $offset" ∧
          (Call.select template request).clause.parameters.get? "limit" = some (.int 5) ∧
          (template.fill request).value.parameters.get? "limit" = some (.int 10) ∧
          ¬(Call.select template request).clause.parameters.Extends
            (template.fill request).value.parameters := by
  refine ⟨{ table := "quotas", returned := [⟨"id", by decide⟩, ⟨"limit", by decide⟩] }, rfl,
    { filters := (∅ : Filters).insert "limit" (.int 5), limit := some 10 }, ?_⟩
  refine ⟨by decide, ?_, ?_, ?_⟩
  · rfl
  · rfl
  · intro extension
    obtain ⟨final, found, agrees⟩ := extension "limit" (.int 5) rfl
    cases found
    rcases agrees with same | equal
    · cases same
    · exact absurd equal (by decide)

end Template.Select

end FilterSql
