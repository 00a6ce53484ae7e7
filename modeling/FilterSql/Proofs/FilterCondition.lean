import Mathlib.Data.List.Nodup
import FilterSql.Clause

/-!
# The condition that a filter asks for

Classifying a key and generating its condition look at the key one after the other. Together they
relate a filter to at most one bound condition: `AskedBy` lists, for each kind of key and value,
the marker, the allowed column and the condition, and every accepted filter is in that relation.
-/

namespace FilterSql

namespace Operation

/-- The marker of an operation, which is empty for those without one. -/
def mark (operation : Operation) : String :=
  operation.marker?.getD ""

theorem column_of_marks {allowed : List String} {key : String} {operation : Operation}
    (marked : marks allowed key operation = true) :
    operation.column key ∈ allowed ∧ key = operation.mark ++ operation.column key := by
  rw [marks, Option.any_eq_true] at marked
  obtain ⟨rest, stripped, listed⟩ := marked
  obtain ⟨marker, selected, split⟩ := Option.bind_eq_some_iff.mp stripped
  have named : operation.column key = rest := by rw [column, stripped, Option.getD_some]
  refine ⟨by rw [named]; exact List.contains_iff_mem.mp listed, ?_⟩
  rw [named, mark, selected, Option.getD_some]
  exact afterMarker?_eq_some_iff.mp split

/-- A key that is not discarded asks for a search, or is a marker and an allowed column. -/
theorem ofKey_value_cases (allowed : List String) (key : String) :
    (ofKey allowed key).value = discarded ∨
      ((ofKey allowed key).value = fullText ∧ key = fullTextKey ∧ allowed ≠ []) ∨
      ((ofKey allowed key).value ∈ equal :: marked ∧
        (ofKey allowed key).value.column key ∈ allowed ∧
        key = (ofKey allowed key).value.mark ++ (ofKey allowed key).value.column key) := by
  rw [ofKey]
  split
  · exact Or.inl rfl
  · next nonempty =>
    split
    · next search =>
      exact Or.inr (Or.inl ⟨rfl, search, by simpa using nonempty⟩)
    · split
      · next listed =>
        refine Or.inr (Or.inr ⟨List.Mem.head _, List.contains_iff_mem.mp listed, ?_⟩)
        exact (String.empty_append).symm
      · split
        · next operation found =>
          have selected := List.mem_of_find?_eq_some found
          exact Or.inr (Or.inr ⟨List.Mem.tail _ selected,
            column_of_marks (List.find?_some found)⟩)
        · exact Or.inl rfl

theorem ofKey_of_mem {allowed : List String} {key : String}
    (listed : key ∈ allowed) (other : key ≠ fullTextKey) :
    ofKey allowed key = .pure equal := by
  have nonempty : allowed.isEmpty = false := by
    cases allowed with
    | nil => exact absurd listed List.not_mem_nil
    | cons first rest => rfl
  rw [ofKey, nonempty, if_neg Bool.false_ne_true, if_neg other,
    if_pos (List.contains_iff_mem.mpr listed)]

end Operation

/-- The values that are bound as they are: neither null, nor a list, nor a text that asks for a
test against null. -/
def Value.isPlain : Value → Bool
  | null => false
  | array _ => false
  | text content => (NullText.ofString? content).isNone
  | _ => true

/-- The marker of a comparison. -/
def Polarity.comparisonMark : Polarity → String
  | positive => Operation.equal.mark
  | negative => Operation.unequal.mark

/-- The marker of a pattern. -/
def Polarity.likeMark : Polarity → String
  | positive => Operation.like.mark
  | negative => Operation.unlike.mark

namespace BoundCondition

/-- The condition that a filter with this key and value asks for over the allowed columns. -/
inductive AskedBy (allowed : List String) (key : String) : Value → BoundCondition → Prop where
  | null {polarity : Polarity} {column : String}
      (listed : column ∈ allowed) (named : key = polarity.comparisonMark ++ column) :
      AskedBy allowed key .null (bare (.null polarity column))
  | noMember {polarity : Polarity} {column : String}
      (listed : column ∈ allowed) (named : key = polarity.comparisonMark ++ column) :
      AskedBy allowed key (.array []) (bare (.noMember polarity))
  | member {polarity : Polarity} {column : String} {items : List Value}
      (listed : column ∈ allowed) (named : key = polarity.comparisonMark ++ column)
      (nonempty : items ≠ []) :
      AskedBy allowed key (.array items)
        ⟨.member polarity column ((numbered key items).map Prod.fst), numbered key items⟩
  | nullText {polarity : Polarity} {column content : String} {test : NullText}
      (listed : column ∈ allowed) (named : key = polarity.comparisonMark ++ column)
      (read : NullText.ofString? content = some test) :
      AskedBy allowed key (.text content) (bare (.nullText column test))
  | compare {polarity : Polarity} {column : String} {value : Value}
      (listed : column ∈ allowed) (named : key = polarity.comparisonMark ++ column)
      (plain : value.isPlain = true) :
      AskedBy allowed key value (ofKey key value (.compare polarity column))
  | atLeast {column : String} {value : Value}
      (listed : column ∈ allowed) (named : key = Operation.atLeast.mark ++ column) :
      AskedBy allowed key value (ofKey key value (.atLeast column))
  | atMost {column : String} {value : Value}
      (listed : column ∈ allowed) (named : key = Operation.atMost.mark ++ column) :
      AskedBy allowed key value (ofKey key value (.atMost column))
  | like {polarity : Polarity} {column : String} {value : Value}
      (listed : column ∈ allowed) (named : key = polarity.likeMark ++ column) :
      AskedBy allowed key value (ofKey key value (.like polarity column))
  | fullText {value : Value} (searched : allowed ≠ []) (named : key = Operation.fullTextKey) :
      AskedBy allowed key value (ofKey key value (.anyLike allowed))

theorem askedBy_comparison {allowed : List String} {polarity : Polarity} {key column : String}
    (listed : column ∈ allowed) (named : key = polarity.comparisonMark ++ column)
    (value : Value) :
    AskedBy allowed key value (comparison polarity key column value).value := by
  cases value with
  | null => exact .null listed named
  | bool truth => exact .compare listed named rfl
  | int number => exact .compare listed named rfl
  | float number => exact .compare listed named rfl
  | text content =>
      rw [comparison]
      cases read : NullText.ofString? content with
      | none => exact .compare listed named (by rw [Value.isPlain, read]; rfl)
      | some test => exact .nullText listed named read
  | array items =>
      cases items with
      | nil => exact .noMember listed named
      | cons first rest => exact .member listed named (List.cons_ne_nil first rest)

theorem equal_of_isPlain {key : String} {value : Value} (plain : value.isPlain = true) :
    (equal key value).value = ofKey key value (.compare .positive key) := by
  cases value with
  | null => cases plain
  | array items => cases plain
  | text content =>
      have unread : NullText.ofString? content = none := Option.isNone_iff_eq_none.mp plain
      rw [equal, comparison, unread]
      rfl
  | _ => rfl

end BoundCondition

/-- The condition that a filter asks for, if its key is accepted. -/
def Filters.conditionOf? (allowed : List String) (key : String) (value : Value) :
    Option BoundCondition :=
  (Entry.condition? allowed ⟨(Operation.ofKey allowed key).value, key, value⟩).value

namespace Filters

open BoundCondition

theorem askedBy_of_conditionOf? {allowed : List String} {key : String} {value : Value}
    {bound : BoundCondition} (asked : conditionOf? allowed key value = some bound) :
    AskedBy allowed key value bound := by
  rw [conditionOf?] at asked
  rcases Operation.ofKey_value_cases allowed key with
    discarded | ⟨search, named, nonempty⟩ | ⟨accepted, listed, named⟩
  · rw [discarded] at asked
    exact absurd asked nofun
  · rw [search, named, Entry.condition?, Reported.pure, fullText?,
      if_neg (by simpa using nonempty)] at asked
    rw [← Option.some.inj asked, named]
    exact .fullText nonempty rfl
  · generalize (Operation.ofKey allowed key).value = operation at asked accepted listed named
    cases operation with
    | equal =>
        rw [← Option.some.inj asked]
        exact askedBy_comparison listed named value
    | unequal =>
        rw [← Option.some.inj asked]
        exact askedBy_comparison listed named value
    | atLeast =>
        rw [← Option.some.inj asked]
        exact .atLeast listed named
    | atMost =>
        rw [← Option.some.inj asked]
        exact .atMost listed named
    | like =>
        rw [← Option.some.inj asked]
        exact .like listed named
    | unlike =>
        rw [← Option.some.inj asked]
        exact .like listed named
    | fullText => exact absurd accepted (by decide)
    | discarded => exact absurd accepted (by decide)

/-- An allowed column as the key asks for a comparison with the value. -/
theorem conditionOf?_of_mem {allowed : List String} {key : String}
    (listed : key ∈ allowed) (other : key ≠ Operation.fullTextKey) (value : Value) :
    conditionOf? allowed key value = some (BoundCondition.equal key value).value := by
  rw [conditionOf?, Operation.ofKey_of_mem listed other]
  rfl

/-- Only a discarded filter asks for no condition. -/
theorem exists_condition?_of_ne_discarded {allowed : List String} (nonempty : allowed ≠ [])
    {operation : Operation} (accepted : operation ≠ .discarded) (key : String) (value : Value) :
    ∃ bound, (Entry.condition? allowed ⟨operation, key, value⟩).value = some bound := by
  cases operation with
  | discarded => exact absurd rfl accepted
  | fullText =>
      have notEmpty : ¬allowed.isEmpty = true := by simpa using nonempty
      exact ⟨_, if_neg notEmpty⟩
  | _ => exact ⟨_, rfl⟩

theorem conditionOf?_fullTextKey {allowed : List String} (nonempty : allowed ≠ [])
    (value : Value) :
    conditionOf? allowed Operation.fullTextKey value =
      some (ofKey Operation.fullTextKey value (.anyLike allowed)) := by
  have notEmpty : ¬allowed.isEmpty = true := by simpa using nonempty
  have search : (Operation.ofKey allowed Operation.fullTextKey).value = .fullText := by
    rw [Operation.ofKey, if_neg notEmpty, if_pos rfl]
    rfl
  rw [conditionOf?, search]
  exact if_neg notEmpty

theorem exists_conditionOf?_of_mem {allowed : List String} {key : String}
    (listed : key ∈ allowed) (value : Value) :
    ∃ bound, conditionOf? allowed key value = some bound := by
  by_cases search : key = Operation.fullTextKey
  · rw [search]
    exact ⟨_, conditionOf?_fullTextKey (List.ne_nil_of_mem listed) value⟩
  · exact ⟨_, conditionOf?_of_mem listed search value⟩

theorem value_boundConditions (allowed : List String) (filters : Filters) :
    (filters.boundConditions allowed).value =
      filters.entries.filterMap fun filter => conditionOf? allowed filter.1 filter.2 := by
  rw [boundConditions, Reported.map, Reported.value_sequence, classified, List.map_map,
    List.map_map, List.filterMap_map]
  rfl

end Filters

end FilterSql
