import Mathlib.Data.List.Forall2
import FilterSql.Proofs.CompiledClause

/-!
# The texts of conditions

The text of a clause is put together from fixed words, allowed columns and names of placeholders.
`ConditionText` lists every form that a condition can take with the key and the value it comes
from. The main results say that a compiled clause consists of such texts, for filters in order, and
that it is settled by a choice among one for each accepted filter.
-/

namespace FilterSql

/-- The four texts that ask for a test against null. -/
def nullSentinels : List String :=
  ["IS_NULL", "IS NULL", "IS_NOT_NULL", "IS NOT NULL"]

/-- The references to the values of a list, numbered from one. -/
def numberedReferences (name : String) (count : Nat) : List String :=
  (List.range count).map fun index => "$" ++ name ++ Nat.repr (index + 1)

/-- The texts that a filter with this key may put into a clause, by the form of its value. Only a
null sentinel puts a value into the text. -/
inductive ConditionText (allowed : List String) (key : String) : Value → String → Prop where
  | isNull {column : String} (listed : column ∈ allowed) (named : key = column) :
      ConditionText allowed key .null (column ++ " IS NULL")
  | isNotNull {column : String} (listed : column ∈ allowed) (named : key = "not_" ++ column) :
      ConditionText allowed key .null (column ++ " IS NOT NULL")
  | sentinel {column content : String} (listed : column ∈ allowed)
      (named : key = column ∨ key = "not_" ++ column) (known : content ∈ nullSentinels) :
      ConditionText allowed key (.text content) (column ++ " " ++ content)
  | equal {column : String} {value : Value} (listed : column ∈ allowed) (named : key = column)
      (plain : value.isPlain = true) :
      ConditionText allowed key value (column ++ " = $" ++ Placeholder.ofKey key)
  | unequal {column : String} {value : Value} (listed : column ∈ allowed)
      (named : key = "not_" ++ column) (plain : value.isPlain = true) :
      ConditionText allowed key value (column ++ " != $" ++ Placeholder.ofKey key)
  | memberOf {column : String} {items : List Value} (listed : column ∈ allowed)
      (named : key = column) (nonempty : items ≠ []) :
      ConditionText allowed key (.array items)
        (column ++ " IN (" ++ String.intercalate ", "
          (numberedReferences (Placeholder.ofKey key) items.length) ++ ")")
  | notMemberOf {column : String} {items : List Value} (listed : column ∈ allowed)
      (named : key = "not_" ++ column) (nonempty : items ≠ []) :
      ConditionText allowed key (.array items)
        (column ++ " NOT IN (" ++ String.intercalate ", "
          (numberedReferences (Placeholder.ofKey key) items.length) ++ ")")
  | noRow {column : String} (listed : column ∈ allowed) (named : key = column) :
      ConditionText allowed key (.array []) "1=0 /* IN requires at least one value */"
  | everyRow {column : String} (listed : column ∈ allowed) (named : key = "not_" ++ column) :
      ConditionText allowed key (.array []) "1=1 /* NOT IN requires at least one value */"
  | atLeast {column : String} {value : Value} (listed : column ∈ allowed)
      (named : key = "from_" ++ column) :
      ConditionText allowed key value
        (column ++ "::timestamp >= $" ++ Placeholder.ofKey key ++ "::timestamp")
  | atMost {column : String} {value : Value} (listed : column ∈ allowed)
      (named : key = "to_" ++ column) :
      ConditionText allowed key value
        (column ++ "::timestamp <= $" ++ Placeholder.ofKey key ++ "::timestamp")
  | like {column : String} {value : Value} (listed : column ∈ allowed)
      (named : key = "like_" ++ column) :
      ConditionText allowed key value (column ++ "::text ILIKE $" ++ Placeholder.ofKey key)
  | unlike {column : String} {value : Value} (listed : column ∈ allowed)
      (named : key = "not_like_" ++ column) :
      ConditionText allowed key value (column ++ "::text NOT ILIKE $" ++ Placeholder.ofKey key)
  | search {value : Value} (nonempty : allowed ≠ []) (named : key = "match") :
      ConditionText allowed key value
        ("(" ++ String.intercalate " OR " (allowed.map (· ++ "::text ILIKE $match")) ++ ")")

theorem NullText.text_of_ofString? {content : String} {test : NullText}
    (read : NullText.ofString? content = some test) :
    test.text = content ∧ content ∈ nullSentinels := by
  have same : test.text = content := by simpa using List.find?_some read
  refine ⟨same, ?_⟩
  rw [← same]
  cases test <;> simp [NullText.text, nullSentinels]

theorem NullText.ofString?_eq_none_iff {content : String} :
    ofString? content = none ↔ content ∉ nullSentinels := by
  have texts : nullSentinels =
      [joinedNull, spacedNull, joinedNotNull, spacedNotNull].map text := rfl
  rw [ofString?, List.find?_eq_none, texts]
  simp only [beq_iff_eq, List.mem_map, not_exists, not_and]

theorem append_reference (before words name : String) :
    before ++ words ++ Placeholder.reference name = before ++ (words ++ "$") ++ name := by
  rw [Placeholder.reference, String.append_assoc, String.append_assoc, String.append_assoc]

theorem references_numbered (key : String) (items : List Value) :
    ((BoundCondition.numbered key items).map Prod.fst).map Placeholder.reference =
      numberedReferences (Placeholder.ofKey key) items.length := by
  rw [BoundCondition.names_numbered, List.map_map, numberedReferences]
  apply List.map_congr_left
  intro index _
  exact (String.append_assoc).symm

namespace BoundCondition

theorem AskedBy.conditionText {allowed : List String} {key : String} {value : Value}
    {bound : BoundCondition} (asked : AskedBy allowed key value bound) :
    ConditionText allowed key value bound.condition.sql := by
  cases asked with
  | @null polarity column listed named =>
      cases polarity with
      | positive => exact .isNull listed (named.trans String.empty_append)
      | negative => exact .isNotNull listed named
  | @noMember polarity column listed named =>
      cases polarity with
      | positive => exact .noRow listed (named.trans String.empty_append)
      | negative => exact .everyRow listed named
  | @member polarity column items listed named nonempty =>
      cases polarity with
      | positive =>
          simp only [Condition.sql, references_numbered]
          exact .memberOf listed (named.trans String.empty_append) nonempty
      | negative =>
          simp only [Condition.sql, references_numbered]
          exact .notMemberOf listed named nonempty
  | @nullText polarity column content test listed named read =>
      obtain ⟨same, known⟩ := NullText.text_of_ofString? read
      simp only [bare, Condition.sql, same]
      cases polarity with
      | positive => exact .sentinel listed (Or.inl (named.trans String.empty_append)) known
      | negative => exact .sentinel listed (Or.inr named) known
  | @compare polarity column value listed named plain =>
      cases polarity with
      | positive =>
          simp only [ofKey, Condition.sql, append_reference]
          exact .equal listed (named.trans String.empty_append) plain
      | negative =>
          simp only [ofKey, Condition.sql, append_reference]
          exact .unequal listed named plain
  | @atLeast column value listed named =>
      simp only [ofKey, Condition.sql, append_reference]
      exact .atLeast listed named
  | @atMost column value listed named =>
      simp only [ofKey, Condition.sql, append_reference]
      exact .atMost listed named
  | @like polarity column value listed named =>
      cases polarity with
      | positive =>
          simp only [ofKey, Condition.sql, append_reference]
          exact .like listed named
      | negative =>
          simp only [ofKey, Condition.sql, append_reference]
          exact .unlike listed named
  | @fullText value searched named =>
      have alternatives : (fun column : String => column ++ "::text ILIKE " ++
          Placeholder.reference (Placeholder.ofKey key)) = (· ++ "::text ILIKE $match") := by
        subst named
        funext column
        rw [String.append_assoc]
        rfl
      simp only [ofKey, Condition.sql, alternatives]
      exact .search searched named

end BoundCondition

/-- What is kept of a filtered image comes from members in their order. -/
theorem sublistForall₂_map_of_sublist_filterMap {α β γ : Type} {f : α → Option β} {g : β → γ}
    {R : γ → α → Prop} (related : ∀ a b, f a = some b → R (g b) a) :
    ∀ {items : List α} {kept : List β}, kept.Sublist (items.filterMap f) →
      List.SublistForall₂ R (kept.map g) items
  | [], kept, sublist => by
      rw [List.eq_nil_of_sublist_nil sublist]
      exact .nil
  | item :: rest, kept, sublist => by
      cases image : f item with
      | none =>
          rw [List.filterMap_cons_none image] at sublist
          exact .cons_right (sublistForall₂_map_of_sublist_filterMap related sublist)
      | some produced =>
          rw [List.filterMap_cons_some image] at sublist
          cases sublist with
          | cons _ skipped =>
              exact .cons_right (sublistForall₂_map_of_sublist_filterMap related skipped)
          | cons_cons _ taken =>
              exact .cons (related item produced image)
                (sublistForall₂_map_of_sublist_filterMap related taken)

/-- The text of a compiled clause is empty, or consists of the texts of conditions, each for one
filter and in the order of the filters. -/
theorem Filters.text_compile (allowed : List String) (filters : Filters) :
    ∃ texts : List String,
      List.SublistForall₂ (fun text entry => ConditionText allowed entry.1 entry.2 text)
        texts filters.entries ∧
      (filters.compile allowed).value.text =
        if texts = [] then "" else "WHERE " ++ String.intercalate " AND " texts := by
  refine ⟨(filters.choice allowed).kept.map fun bound => bound.condition.sql, ?_, ?_⟩
  · apply sublistForall₂_map_of_sublist_filterMap _ (kept_choice_sublist allowed filters)
    intro entry bound asked
    exact (askedBy_of_conditionOf? asked).conditionText
  · have conjoined := (settledBy_choice allowed filters).text
    split
    · next nothing => exact conjoined.blank nothing
    · next stated => exact conjoined.joined stated

/-- Each accepted filter offers one condition, in the order of the filters, and compiling settles
the clause by a choice among these. -/
theorem Filters.exists_choice_of_compile (allowed : List String) (filters : Filters) :
    ∃ choice : Choice,
      List.Forall₂
          (fun entry bound => BoundCondition.AskedBy allowed entry.1 entry.2 bound ∧
            ConditionText allowed entry.1 entry.2 bound.condition.sql)
          (filters.entries.filter fun entry => !isDiscarded allowed entry.1) choice.offered ∧
        choice.offered = conditions allowed filters.entries ∧
        choice.kept.Sublist (conditions allowed filters.entries) ∧
        (filters.compile allowed).value.SettledBy choice := by
  have offered := offered_choice allowed filters
  refine ⟨filters.choice allowed, ?_, offered, ?_, ?_⟩
  · rw [offered]
    refine (forall₂_conditions allowed filters.entries).imp ?_
    intro entry bound asked
    have source := askedBy_of_conditionOf? asked
    exact ⟨source, source.conditionText⟩
  · exact kept_choice_sublist allowed filters
  · exact settledBy_choice allowed filters

end FilterSql
