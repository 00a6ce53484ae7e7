import FilterSql.Proofs.BatchBindings

/-!
# Combined rows

The values of a batch are numbered twice: column by column, and in the lists that the combined rows
are compiled into, where a column comes in the order in which the rows first name it. Both number
the rows that carry a column from one and leave out the others. So the two bind the same names, and
give each name values that agree, as long as compiling does not warn of a list that it drops.
-/

namespace FilterSql

open Placeholder

/-- Two maps bind the same names, each to values that agree. -/
structure Parameters.Agree (left right : Parameters) : Prop where
  names : ∀ name, name ∈ left.keys ↔ name ∈ right.keys
  values : ∀ name value other, left.get? name = some value → right.get? name = some other →
    value.Agrees other

/-- Whether a value is a number with the same bits. -/
def Value.isNumber (number : Binary64) : Value → Bool
  | float other => other.bits == number.bits
  | _ => false

theorem Value.any_isNumber_iff {found : Option Value} {number : Binary64} :
    found.any (isNumber number) = true ↔ found = some (.float number) := by
  rw [Option.any_eq_true]
  constructor
  · rintro ⟨value, rfl, same⟩
    cases value with
    | float other =>
        have bits : other.bits = number.bits := eq_of_beq same
        rw [show other = number from congrArg Binary64.mk bits]
    | _ => cases same
  · intro same
    exact ⟨_, same, beq_self_eq_true number.bits⟩

instance (found : Option Value) (number : Binary64) : Decidable (found = some (.float number)) :=
  decidable_of_iff _ Value.any_isNumber_iff

/-- Every conflict is reported by a warning. -/
theorem Filters.kept_eq_conditions_of_unwarned {allowed : List String} {filters : Filters}
    (unwarned : ∀ diagnostic ∈ (filters.compile allowed).diagnostics,
      diagnostic.kind ≠ .warning) :
    (filters.choice allowed).kept = conditions allowed filters.entries := by
  apply kept_eq_conditions
  intro diagnostic reported
  rw [Diagnostic.reportsConflict, Diagnostic.isOf, decide_eq_false (unwarned diagnostic reported),
    Bool.false_and]

namespace Batch

variable {columns : List String} {rows : List Filters} {name : String} {value : Value}

/-- A name stands for the value of some column in some row, by its place among the rows that carry
the column. -/
def Numbers (columns : List String) (rows : List Filters) (name : String) (value : Value) : Prop :=
  ∃ column ∈ columns, (name, value) ∈ BoundCondition.numbered column (valuesOf rows column)

theorem numbers_of_get?_parameters (found : (parameters columns rows).get? name = some value) :
    Numbers columns rows name value := by
  rcases OrderedMap.mem_of_get?_insertMany found with member | earlier
  · exact List.mem_flatMap.mp member
  · cases earlier

theorem mem_keys_parameters_iff_numbers :
    name ∈ (parameters columns rows).keys ↔ ∃ value, Numbers columns rows name value := by
  rw [mem_keys_parameters_iff]
  constructor
  · rintro ⟨column, listed, index, below, rfl⟩
    have named : numbered (ofKey column) index ∈
        (BoundCondition.numbered column (valuesOf rows column)).map Prod.fst := by
      rw [BoundCondition.names_numbered]
      exact List.mem_map_of_mem (List.mem_range.mpr below)
    obtain ⟨⟨_, value⟩, member, same⟩ := List.mem_map.mp named
    exact ⟨value, column, listed, same ▸ member⟩
  · rintro ⟨value, column, listed, member⟩
    have named := List.mem_map_of_mem (f := Prod.fst) member
    rw [BoundCondition.names_numbered] at named
    obtain ⟨index, below, same⟩ := List.mem_map.mp named
    exact ⟨column, listed, index, List.mem_range.mp below, same⟩

theorem mem_keys_combine_iff_valuesOf {column : String} :
    column ∈ (combine rows).keys ↔ valuesOf rows column ≠ [] := by
  rw [mem_keys_combine_iff]
  constructor
  · rintro ⟨row, member, present⟩
    obtain ⟨value, found⟩ := OrderedMap.mem_keys_iff.mp present
    exact List.ne_nil_of_mem (mem_valuesOf_iff.mpr ⟨row, member, found⟩)
  · intro given
    obtain ⟨value, listed⟩ := List.exists_mem_of_ne_nil _ given
    obtain ⟨row, member, found⟩ := mem_valuesOf_iff.mp listed
    exact ⟨row, member, OrderedMap.mem_keys_iff.mpr ⟨value, found⟩⟩

/-- The rows name columns only, and none that asks for a search. -/
def OnColumns (columns : List String) (rows : List Filters) : Prop :=
  ∀ row ∈ rows, ∀ key ∈ row.keys, key ∈ columns ∧ key ≠ Operation.fullTextKey

instance (columns : List String) (rows : List Filters) : Decidable (OnColumns columns rows) :=
  inferInstanceAs (Decidable (∀ row ∈ rows, ∀ key ∈ row.keys, _))

section Compiled

variable (onColumns : OnColumns columns rows)
include onColumns

/-- The combined rows ask for a search of each column that some row carries and nothing else. -/
theorem mem_conditions_combine_iff {bound : BoundCondition} :
    bound ∈ Filters.conditions columns (combine rows).entries ↔
      ∃ column ∈ columns, valuesOf rows column ≠ [] ∧
        bound = BoundCondition.search column (valuesOf rows column) := by
  have asked : ∀ column, column ∈ (combine rows).keys →
      Filters.conditionOf? columns column (.array (valuesOf rows column)) =
        some (BoundCondition.search column (valuesOf rows column)) := by
    intro column present
    obtain ⟨row, member, rowKey⟩ := mem_keys_combine_iff.mp present
    obtain ⟨listed, other⟩ := onColumns row member column rowKey
    exact Filters.conditionOf?_array listed other (mem_keys_combine_iff_valuesOf.mp present)
  constructor
  · intro offered
    obtain ⟨⟨column, items⟩, member, condition⟩ := List.mem_filterMap.mp offered
    have found := OrderedMap.get?_eq_some_iff.mpr member
    have present : column ∈ (combine rows).keys := OrderedMap.mem_keys_iff.mpr ⟨items, found⟩
    rw [get?_combine present] at found
    cases found
    rw [asked column present] at condition
    obtain ⟨row, rowMember, rowKey⟩ := mem_keys_combine_iff.mp present
    exact ⟨column, (onColumns row rowMember column rowKey).1,
      mem_keys_combine_iff_valuesOf.mp present, (Option.some.inj condition).symm⟩
  · rintro ⟨column, _, given, rfl⟩
    have present : column ∈ (combine rows).keys := mem_keys_combine_iff_valuesOf.mpr given
    exact List.mem_filterMap.mpr
      ⟨_, OrderedMap.get?_eq_some_iff.mp (get?_combine present), asked column present⟩

variable (unwarned : ∀ diagnostic ∈ ((combine rows).compile columns).diagnostics,
  diagnostic.kind ≠ .warning)
include unwarned

/-- Without a warning everything that is numbered is bound by the clause. -/
theorem bound_of_numbers (numbers : Numbers columns rows name value) :
    ∃ final, ((combine rows).compile columns).value.parameters.get? name = some final ∧
      final.Agrees value := by
  obtain ⟨column, listed, member⟩ := numbers
  have given : valuesOf rows column ≠ [] := by
    intro nothing
    rw [nothing] at member
    cases member
  have kept : BoundCondition.search column (valuesOf rows column) ∈
      ((combine rows).choice columns).kept := by
    rw [Filters.kept_eq_conditions_of_unwarned unwarned]
    exact (mem_conditions_combine_iff onColumns).mpr ⟨column, listed, given, rfl⟩
  exact (Filters.settledBy_choice columns (combine rows)).bound _ kept name value member

omit unwarned in
/-- Whatever the clause binds is numbered. -/
theorem numbers_of_get?_compile
    (found : ((combine rows).compile columns).value.parameters.get? name = some value) :
    Numbers columns rows name value := by
  obtain ⟨bound, kept, binding⟩ :=
    (Filters.settledBy_choice columns (combine rows)).source name value found
  obtain ⟨column, listed, _, rfl⟩ := (mem_conditions_combine_iff onColumns).mp
    ((Filters.kept_choice_sublist columns (combine rows)).subset kept)
  exact ⟨column, listed, binding⟩

/-- The numbered values of a batch are bound as the compiled clause of its combined rows binds them,
if compiling gives no warning. -/
theorem agree_parameters_compile_combine :
    (parameters columns rows).Agree ((combine rows).compile columns).value.parameters where
  names := by
    intro name
    rw [mem_keys_parameters_iff_numbers]
    constructor
    · rintro ⟨value, numbers⟩
      obtain ⟨final, found, _⟩ := bound_of_numbers onColumns unwarned numbers
      exact OrderedMap.mem_keys_iff.mpr ⟨final, found⟩
    · intro present
      obtain ⟨value, found⟩ := OrderedMap.mem_keys_iff.mp present
      exact ⟨value, numbers_of_get?_compile onColumns found⟩
  values := by
    intro name value other found otherFound
    obtain ⟨final, bindsFinal, agrees⟩ :=
      bound_of_numbers onColumns unwarned (numbers_of_get?_parameters found)
    rw [otherFound] at bindsFinal
    cases bindsFinal
    exact agrees.symm

end Compiled

/-- Two columns share a name for zeros of different sign, and each numbering leaves another of them
bound. One column is repeated, with a null and a list among its values, and rows skip columns. -/
theorem agree_parameters_compile_combine_zeros :
    let columns := ["u__id", "lang", "u.id", "lang"]
    let zero : Value := .float ⟨0⟩
    let negativeZero : Value := .float ⟨0x8000000000000000⟩
    let rows : List Filters :=
      [.ofList [("u.id", zero), ("lang", .null)], .ofList [("lang", .array [.int 1])],
        .ofList [("u__id", negativeZero)]]
    OnColumns columns rows ∧
      (∀ diagnostic ∈ ((combine rows).compile columns).diagnostics,
        diagnostic.kind ≠ .warning) ∧
      (parameters columns rows).get? "u__id1" = some zero ∧
      ((combine rows).compile columns).value.parameters.get? "u__id1" = some negativeZero ∧
      (parameters columns rows).keys = ["u__id1", "lang1", "lang2"] ∧
      (parameters columns rows).Agree ((combine rows).compile columns).value.parameters := by
  intro columns zero negativeZero rows
  have onColumns : OnColumns columns rows := by decide
  have unwarned : ∀ diagnostic ∈ ((combine rows).compile columns).diagnostics,
      diagnostic.kind ≠ .warning := by decide
  exact ⟨onColumns, unwarned, by decide, by decide, by decide,
    agree_parameters_compile_combine onColumns unwarned⟩

end Batch

end FilterSql
