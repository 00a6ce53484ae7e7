import FilterSql.Json.Filters
import FilterSql.Proofs.EnforcedCondition
import FilterSql.Proofs.SelectedRows

/-!
# Lists that are bound

The items of a list are bound one by one where a column is searched for them, so a document whose
filters are scalars, nulls and lists of these leads to flat parameters there. A list inside of a
list is read as a filter value all the same, and the other operations bind their value whatever it
is. The main result says for which members of a document a list reaches the parameters.
-/

namespace FilterSql

namespace Value

def isList : Value → Bool
  | array _ => true
  | _ => false

/-- Whether the value is a list with a list among its items. -/
def nests : Value → Bool
  | array items => items.any isList
  | _ => false

theorem isList_eq_false_iff {value : Value} :
    value.isList = false ↔ value.isNull = true ∨ value.isScalar = true := by
  cases value <;> simp [isList, isNull, isScalar]

theorem isList_eq_of_equal {left right : Value} (same : (left == right) = true) :
    left.isList = right.isList := by
  change equal left right = true at same
  cases left <;> cases right <;> first | rfl | cases same

theorem Agrees.isList_eq {left right : Value} (agrees : left.Agrees right) :
    left.isList = right.isList := by
  rcases agrees with rfl | same
  · rfl
  · exact isList_eq_of_equal same

end Value

namespace Json

def Document.isArray : Document → Bool
  | array _ => true
  | _ => false

/-- Whether the document is an array with an array among its items. -/
def Document.nests : Document → Bool
  | array items => items.any isArray
  | _ => false

/-- The member of an object with a key, the last one if there are several. -/
def Document.member? (document : Document) (key : String) : Option Document :=
  match document with
  | object members => (OrderedMap.ofList members).get? key
  | _ => none

variable {document : Document} {value : Value}

theorem isList_eq_of_value? (read : document.value? = some value) :
    value.isList = document.isArray := by
  cases document with
  | null => cases read; rfl
  | bool truth => cases read; rfl
  | number number =>
      cases number with
      | signed number => cases read; rfl
      | unsigned number =>
          obtain ⟨_, whole⟩ := Option.ite_none_right_eq_some.mp read
          cases whole
          rfl
      | float number => cases read; rfl
  | text content => cases read; rfl
  | array items =>
      obtain ⟨values, _, rfl⟩ := Option.map_eq_some_iff.mp read
      rfl
  | object members => cases read

theorem any_isList_eq_of_values? {items : List Document} {values : List Value}
    (read : Document.values? items = some values) :
    values.any Value.isList = items.any Document.isArray := by
  induction items generalizing values with
  | nil => cases read; rfl
  | cons item rest inductionHypothesis =>
      rw [Document.values?] at read
      split at read
      · cases read
      · next value first =>
        obtain ⟨later, others, rfl⟩ := Option.map_eq_some_iff.mp read
        rw [List.any_cons, List.any_cons, isList_eq_of_value? first, inductionHypothesis others]

/-- Reading a document as a value changes neither where lists stand nor what they hold. -/
theorem nests_eq_of_value? (read : document.value? = some value) :
    value.nests = document.nests := by
  cases document with
  | array items =>
      obtain ⟨values, each, rfl⟩ := Option.map_eq_some_iff.mp read
      exact any_isList_eq_of_values? each
  | _ =>
      have plain : value.isList = false := isList_eq_of_value? read
      cases value with
      | array items => cases plain
      | _ => rfl

theorem memberFilter_eq_ok_iff {member : String × Document} {entry : String × Value} :
    memberFilter member = .ok entry ↔
      member.1 = entry.1 ∧ member.2.value? = some entry.2 := by
  obtain ⟨key, value⟩ := entry
  rw [memberFilter]
  cases member.2.value? with
  | none => simp
  | some read => simp

theorem forall₂_of_mapM_memberFilter {members : List (String × Document)}
    {entries : List (String × Value)} (read : members.mapM memberFilter = .ok entries) :
    List.Forall₂ (fun member entry =>
      member.1 = entry.1 ∧ member.2.value? = some entry.2) members entries := by
  induction members generalizing entries with
  | nil => cases read; exact .nil
  | cons member rest inductionHypothesis =>
      rw [List.mapM_cons] at read
      cases first : memberFilter member with
      | error reason => rw [first] at read; cases read
      | ok entry =>
          rw [first] at read
          cases others : rest.mapM memberFilter with
          | error reason => rw [others] at read; cases read
          | ok later =>
              rw [others] at read
              cases read
              exact .cons (memberFilter_eq_ok_iff.mp first) (inductionHypothesis others)

theorem rel_member?_filters {filters : Filters} (read : document.filters = .ok filters)
    (key : String) :
    Option.Rel (fun item value => item.value? = some value)
      (document.member? key) (filters.get? key) := by
  cases document with
  | object members =>
      cases entries : members.mapM memberFilter with
      | error reason => rw [Document.filters, entries] at read; cases read
      | ok written =>
          rw [Document.filters, entries] at read
          cases read
          apply OrderedMap.rel_get?_insertMany (forall₂_of_mapM_memberFilter entries)
          intro other
          exact .none
  | _ => cases read

/-- Every member is read as a filter. -/
theorem exists_filter_of_member? {filters : Filters} (read : document.filters = .ok filters)
    {key : String} {item : Document} (found : document.member? key = some item) :
    ∃ value, filters.get? key = some value ∧ item.value? = some value := by
  have related := rel_member?_filters read key
  rw [found] at related
  generalize filters.get? key = written at related
  cases related with
  | some each => exact ⟨_, rfl, each⟩

/-- Every filter is read from a member. -/
theorem exists_member?_of_filter {filters : Filters} (read : document.filters = .ok filters)
    {key : String} (found : filters.get? key = some value) :
    ∃ item, document.member? key = some item ∧ item.value? = some value := by
  have related := rel_member?_filters read key
  rw [found] at related
  generalize document.member? key = written at related
  cases related with
  | some each => exact ⟨_, rfl, each⟩

end Json

/-- Whether the operation binds a list for a value that is a list, or a list with lists in it. -/
def Operation.bindsList (operation : Operation) (list nested : Bool) : Bool :=
  match operation with
  | equal | unequal => nested
  | discarded => false
  | _ => list

/-- Every name is bound to a scalar or to null. -/
def Parameters.Flat (parameters : Parameters) : Prop :=
  ∀ name value, parameters.get? name = some value →
    value.isNull = true ∨ value.isScalar = true

namespace BoundCondition

/-- Whether one of the values that the condition comes with is a list. -/
def bindsList (bound : BoundCondition) : Bool :=
  bound.bindings.any fun binding => binding.2.isList

theorem bindsList_ofKey (key : String) (value : Value) (condition : String → Condition) :
    (ofKey key value condition).bindsList = value.isList :=
  Bool.or_false _

theorem any_isList_numbered (key : String) (items : List Value) :
    ((numbered key items).any fun binding => binding.2.isList) = items.any Value.isList := by
  have values : ((numbered key items).map Prod.snd).any Value.isList = items.any Value.isList := by
    rw [values_numbered]
  rw [← values, List.any_map]
  rfl

theorem bindsList_comparison (polarity : Polarity) (key column : String) (value : Value) :
    (comparison polarity key column value).value.bindsList = value.nests := by
  cases value with
  | text content =>
      rw [comparison]
      cases NullText.ofString? content <;> rfl
  | array items =>
      cases items with
      | nil => rfl
      | cons first rest => exact any_isList_numbered key (first :: rest)
  | _ => rfl

end BoundCondition

namespace Filters

variable {allowed : List String} {filters : Filters} {key : String} {value : Value}
  {bound : BoundCondition}

theorem bindsList_of_conditionOf? (asked : conditionOf? allowed key value = some bound) :
    bound.bindsList =
      (Operation.ofKey allowed key).value.bindsList value.isList value.nests := by
  rw [conditionOf?] at asked
  generalize (Operation.ofKey allowed key).value = operation at asked ⊢
  cases operation with
  | equal =>
      cases asked
      exact BoundCondition.bindsList_comparison .positive key _ value
  | unequal =>
      cases asked
      exact BoundCondition.bindsList_comparison .negative key _ value
  | fullText =>
      obtain ⟨_, searched⟩ := Option.ite_none_left_eq_some.mp asked
      cases searched
      exact BoundCondition.bindsList_ofKey _ value _
  | discarded => cases asked
  | _ =>
      cases asked
      exact BoundCondition.bindsList_ofKey key value _

theorem exists_conditionOf?_of_bindsList {list nested : Bool} (value : Value)
    (binds : (Operation.ofKey allowed key).value.bindsList list nested = true) :
    ∃ bound, conditionOf? allowed key value = some bound := by
  have accepted : (Operation.ofKey allowed key).value ≠ .discarded := by
    intro discarded
    rw [discarded] at binds
    cases binds
  have nonempty : allowed ≠ [] := by
    rintro rfl
    exact accepted rfl
  exact exists_condition?_of_ne_discarded nonempty accepted key value

/-- The condition of the filter on a key is dropped for what the filters before it bind. -/
def Drops (allowed : List String) (filters : Filters) (key : String) : Prop :=
  ∃ value bound, filters.get? key = some value ∧ conditionOf? allowed key value = some bound ∧
    (compile allowed (filters.before key)).value.conflicts bound = true

/-- The parameters are flat exactly when no condition of the clause comes with a list. -/
theorem flat_compile_iff_kept :
    (filters.compile allowed).value.parameters.Flat ↔
      ∀ bound ∈ (filters.choice allowed).kept, bound.bindsList = false := by
  have settled := settledBy_choice allowed filters
  constructor
  · intro flat bound kept
    apply List.any_eq_false.mpr
    rintro ⟨name, value⟩ binding
    obtain ⟨final, found, agrees⟩ := settled.bound bound kept name value binding
    have plain : final.isList = false := Value.isList_eq_false_iff.mpr (flat name final found)
    rw [← agrees.isList_eq, plain]
    exact Bool.false_ne_true
  · intro plain name value found
    obtain ⟨bound, kept, binding⟩ := settled.source name value found
    apply Value.isList_eq_false_iff.mp
    exact Bool.eq_false_iff.mpr (List.any_eq_false.mp (plain bound kept) (name, value) binding)

theorem flat_compile_iff :
    (filters.compile allowed).value.parameters.Flat ↔
      ∀ key value, filters.get? key = some value →
        (Operation.ofKey allowed key).value.bindsList value.isList value.nests = true →
          filters.Drops allowed key := by
  rw [flat_compile_iff_kept]
  constructor
  · intro plain key value found binds
    obtain ⟨bound, asked⟩ := exists_conditionOf?_of_bindsList value binds
    refine ⟨value, bound, found, asked, ?_⟩
    by_contra compatible
    have kept : bound ∈ (filters.choice allowed).kept :=
      mem_kept_choice_iff.mpr ⟨key, value, found, asked, Bool.eq_false_iff.mpr compatible⟩
    rw [← bindsList_of_conditionOf? asked, plain bound kept] at binds
    cases binds
  · intro drops bound kept
    obtain ⟨key, value, found, asked, compatible⟩ := mem_kept_choice_iff.mp kept
    by_contra binds
    rw [Bool.not_eq_false, bindsList_of_conditionOf? asked] at binds
    obtain ⟨other, otherBound, otherFound, otherAsked, conflict⟩ := drops key value found binds
    rw [found] at otherFound
    cases otherFound
    rw [asked] at otherAsked
    cases otherAsked
    rw [compatible] at conflict
    cases conflict

end Filters

/-! ## Documents that lead to flat parameters -/

namespace Json

/-- The parameters are flat exactly when every member that brings a list has its condition dropped.
Under an equality and its negation that is an array with an array in it, under any other operation
every array. -/
theorem flat_filters_iff {document : Document} {filters : Filters} {allowed : List String}
    (read : document.filters = .ok filters) :
    (filters.compile allowed).value.parameters.Flat ↔
      ∀ key item, document.member? key = some item →
        (Operation.ofKey allowed key).value.bindsList item.isArray item.nests = true →
          filters.Drops allowed key := by
  rw [Filters.flat_compile_iff]
  constructor
  · intro drops key item found binds
    obtain ⟨value, written, each⟩ := exists_filter_of_member? read found
    rw [← isList_eq_of_value? each, ← nests_eq_of_value? each] at binds
    exact drops key value written binds
  · intro drops key value found binds
    obtain ⟨item, written, each⟩ := exists_member?_of_filter read found
    rw [isList_eq_of_value? each, nests_eq_of_value? each] at binds
    exact drops key item written binds

/-- The pattern for the second column is a list, and shares its placeholder with the first. -/
theorem flat_filters_dropped_list :
    let document : Document := .object
      [("like_a.b", .text "x"), ("like_a__b", .array [.text "y"]), ("id", .array [.null])]
    let filters : Filters := OrderedMap.ofList
      [("like_a.b", .text "x"), ("like_a__b", .array [.text "y"]), ("id", .array [.null])]
    let allowed := ["a.b", "a__b", "id"]
    document.filters = .ok filters ∧ filters.Drops allowed "like_a__b" ∧
      (filters.compile allowed).value.parameters.Flat := by
  intro document filters allowed
  have read : document.filters = .ok filters := rfl
  have drops : filters.Drops allowed "like_a__b" := ⟨.array [.text "y"], _, rfl, rfl, by decide⟩
  refine ⟨read, drops, (flat_filters_iff read).mpr ?_⟩
  intro key item found binds
  rcases OrderedMap.mem_of_get?_insertMany found with member | earlier
  · simp only [List.mem_cons, List.not_mem_nil, or_false, Prod.mk.injEq] at member
    rcases member with ⟨rfl, rfl⟩ | ⟨rfl, rfl⟩ | ⟨rfl, rfl⟩
    · exact absurd binds (by decide)
    · exact drops
    · exact absurd binds (by decide)
  · exact absurd earlier nofun

/-- A list inside of a list is read as a filter value and bound as one of the items searched for. -/
theorem nested_list_bound :
    let document : Document := .object [("id", .array [.array [.number (.signed 1)]])]
    ∃ filters, document.filters = .ok filters ∧
      (filters.compile ["id"]).value.parameters.get? "id1" = some (.array [.int 1]) ∧
      ¬(filters.compile ["id"]).value.parameters.Flat := by
  intro document
  refine ⟨OrderedMap.ofList [("id", .array [.array [.int 1]])], rfl, rfl, ?_⟩
  intro flat
  rcases flat "id1" (.array [.int 1]) rfl with null | scalar
  · cases null
  · cases scalar

end Json

end FilterSql
