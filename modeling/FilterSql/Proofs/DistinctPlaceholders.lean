import Mathlib.Data.List.Chain
import FilterSql.Proofs.CompatibleConditions
import FilterSql.Proofs.PlaceholderScan

/-!
# Placeholders that are told apart

A placeholder is named after the marker and the column of its filter, with two underscores for a
dot, and with a number in a list. The key can be read off the name when two underscores come from
nothing but the dot, and the number when nothing before it is a digit. Over columns that leave both
in place no two filters share a name, so no condition is dropped.
-/

namespace FilterSql

namespace Placeholder

/-- No two underscores are next to each other. -/
def Spaced (text : List Char) : Prop :=
  ¬['_', '_'] <:+: text

theorem spaced_iff_isChain {text : List Char} :
    Spaced text ↔ text.IsChain fun c d => ¬(c = '_' ∧ d = '_') := by
  rw [List.isChain_iff_forall_rel_of_append_cons_cons]
  constructor
  · intro spaced c d before after shape both
    rw [both.1, both.2] at shape
    exact spaced ⟨before, after, by simp [shape]⟩
  · intro chain infixed
    obtain ⟨before, after, shape⟩ := infixed
    have split : text = before ++ '_' :: '_' :: after := by simp [← shape]
    exact chain split ⟨rfl, rfl⟩

instance (text : List Char) : Decidable (Spaced text) :=
  decidable_of_iff _ spaced_iff_isChain.symm

theorem Spaced.append {left right : List Char} (leftSpaced : Spaced left)
    (rightSpaced : Spaced right) (start : right.head? ≠ some '_') : Spaced (left ++ right) := by
  rw [spaced_iff_isChain] at leftSpaced rightSpaced ⊢
  refine List.isChain_append.mpr ⟨leftSpaced, rightSpaced, ?_⟩
  intro c _ d head both
  rw [both.2] at head
  exact start head

theorem Spaced.left {left right : List Char} (spaced : Spaced (left ++ right)) : Spaced left := by
  rw [spaced_iff_isChain] at spaced ⊢
  exact (List.isChain_append.mp spaced).1

theorem not_spaced_underscores (before after : List Char) :
    ¬Spaced (before ++ '_' :: '_' :: after) := by
  intro spaced
  exact spaced ⟨before, after, by simp⟩

/-- A key in which two underscores in a row do not come before the end of the table. -/
inductive Legible : List Char → Prop where
  | plain {key : List Char} (parts : ∀ c ∈ key, isIdentifierPart c = true)
      (spaced : Spaced key) : Legible key
  | qualified {table column : List Char} (parts : ∀ c ∈ table, isIdentifierPart c = true)
      (spaced : Spaced table) (start : column.head? ≠ some '_') :
      Legible (table ++ '.' :: column)

theorem withoutDot_qualified {table : List Char}
    (parts : ∀ c ∈ table, isIdentifierPart c = true) (column : List Char) :
    withoutDot (table ++ '.' :: column) = table ++ '_' :: '_' :: column := by
  rw [withoutDot_append parts, withoutDot, if_pos rfl]

/-- The two underscores for a dot are not found any further to the left. -/
theorem eq_nil_of_underscores {table gap column other : List Char}
    (spaced : Spaced (table ++ gap)) (start : column.head? ≠ some '_')
    (same : '_' :: '_' :: column = gap ++ '_' :: '_' :: other) : gap = [] := by
  cases gap with
  | nil => rfl
  | cons first gap =>
      cases gap with
      | nil =>
          simp only [List.cons_append, List.nil_append, List.cons.injEq, true_and] at same
          obtain ⟨_, shape⟩ := same
          rw [shape] at start
          exact absurd rfl start
      | cons second gap =>
          simp only [List.cons_append, List.cons.injEq] at same
          obtain ⟨rfl, rfl, _⟩ := same
          exact absurd spaced (not_spaced_underscores table gap)

theorem underscores_unique {table other column rest : List Char}
    (tableSpaced : Spaced table) (otherSpaced : Spaced other)
    (columnStart : column.head? ≠ some '_') (restStart : rest.head? ≠ some '_')
    (same : table ++ '_' :: '_' :: column = other ++ '_' :: '_' :: rest) :
    table = other ∧ column = rest := by
  have sameTable : table = other := by
    rcases List.append_eq_append_iff.mp same with ⟨gap, shape, left⟩ | ⟨gap, shape, right⟩
    · rw [shape] at otherSpaced
      have none := eq_nil_of_underscores otherSpaced columnStart left
      rw [shape, none, List.append_nil]
    · rw [shape] at tableSpaced
      have none := eq_nil_of_underscores tableSpaced restStart right
      rw [shape, none, List.append_nil]
  subst sameTable
  have sameTail := List.append_cancel_left same
  simpa using sameTail

theorem eq_of_withoutDot_eq {left right : List Char} (leftLegible : Legible left)
    (rightLegible : Legible right) (same : withoutDot left = withoutDot right) :
    left = right := by
  cases leftLegible with
  | plain leftParts leftSpaced =>
      rw [withoutDot_of_plain leftParts] at same
      cases rightLegible with
      | plain rightParts rightSpaced =>
          rw [withoutDot_of_plain rightParts] at same
          exact same
      | qualified rightParts rightSpaced rightStart =>
          rw [withoutDot_qualified rightParts] at same
          rw [same] at leftSpaced
          exact absurd leftSpaced (not_spaced_underscores _ _)
  | qualified leftParts leftSpaced leftStart =>
      rw [withoutDot_qualified leftParts] at same
      cases rightLegible with
      | plain rightParts rightSpaced =>
          rw [withoutDot_of_plain rightParts] at same
          rw [← same] at rightSpaced
          exact absurd rightSpaced (not_spaced_underscores _ _)
      | qualified rightParts rightSpaced rightStart =>
          rw [withoutDot_qualified rightParts] at same
          obtain ⟨rfl, rfl⟩ :=
            underscores_unique leftSpaced rightSpaced leftStart rightStart same
          rfl

/-- The last character is not a digit. -/
def EndsPlain (name : String) : Prop :=
  name.toList.getLast?.any Char.isDigit = false

/-- No part of a number stands at the end of a name. -/
theorem eq_nil_of_digits {name gap rest : List Char} {number : Nat}
    (ends : (name ++ gap).getLast?.any Char.isDigit = false)
    (digits : (Nat.repr number).toList = gap ++ rest) : gap = [] := by
  by_contra nonempty
  have last : (name ++ gap).getLast? = some (gap.getLast nonempty) := by
    rw [List.getLast?_append_of_ne_nil _ nonempty, List.getLast?_eq_some_getLast nonempty]
  have digit : (gap.getLast nonempty).isDigit = true := by
    apply isDigit_of_mem_repr
    rw [digits]
    exact List.mem_append_left rest (List.getLast_mem nonempty)
  rw [last, Option.any_some, digit] at ends
  cases ends

theorem not_endsPlain_numbered (name : String) (index : Nat) :
    ¬EndsPlain (numbered name index) := by
  intro ends
  rw [EndsPlain, numbered, String.toList_append] at ends
  have none := eq_nil_of_digits ends (List.append_nil _).symm
  rw [Nat.toList_repr] at none
  exact Nat.toDigits_ne_nil none

theorem name_eq_of_numbered_eq {left right : String} {index other : Nat}
    (leftEnds : EndsPlain left) (rightEnds : EndsPlain right)
    (same : numbered left index = numbered right other) : left = right := by
  rw [numbered, numbered, ← String.toList_inj, String.toList_append, String.toList_append] at same
  rw [← String.toList_inj]
  rcases List.append_eq_append_iff.mp same with ⟨gap, shape, digits⟩ | ⟨gap, shape, digits⟩
  · rw [EndsPlain, shape] at rightEnds
    rw [shape, eq_nil_of_digits rightEnds digits, List.append_nil]
  · rw [EndsPlain, shape] at leftEnds
    rw [shape, eq_nil_of_digits leftEnds digits, List.append_nil]

/-- A key that no other such key shares a name with. -/
structure Distinctive (key : String) : Prop where
  legible : Legible key.toList
  ends : EndsPlain (ofKey key)

/-- A name for a value of the filter with this key, alone or in a list. -/
def NameOf (key name : String) : Prop :=
  name = ofKey key ∨ ∃ index, name = numbered (ofKey key) index

theorem Distinctive.eq_of_nameOf {left right name : String} (leftKey : Distinctive left)
    (rightKey : Distinctive right) (leftNamed : NameOf left name)
    (rightNamed : NameOf right name) : left = right := by
  have same : ofKey left = ofKey right := by
    rcases leftNamed with rfl | ⟨index, rfl⟩
    · rcases rightNamed with same | ⟨other, same⟩
      · exact same
      · have ends := leftKey.ends
        rw [same] at ends
        exact absurd ends (not_endsPlain_numbered _ other)
    · rcases rightNamed with same | ⟨other, same⟩
      · have ends := rightKey.ends
        rw [← same] at ends
        exact absurd ends (not_endsPlain_numbered _ index)
      · exact name_eq_of_numbered_eq leftKey.ends rightKey.ends same
  have sameText : withoutDot left.toList = withoutDot right.toList := by
    rw [ofKey, ofKey, String.ofList_inj] at same
    exact same
  exact String.toList_inj.mp (eq_of_withoutDot_eq leftKey.legible rightKey.legible sameText)

end Placeholder

open Placeholder

/-! ## Columns without collisions -/

/-- A column whose text leaves the dot and the number of a placeholder recognisable. -/
structure CollisionFree (column : String) : Prop where
  valid : isColumnName column = true
  spaced : Spaced column.toList
  starts : ∀ part ∈ column.toList.splitOn '.', part.head? ≠ some '_'
  ends : column.toList.getLast?.any Char.isDigit = false

namespace CollisionFree

variable {column : String}

instance (column : String) : Decidable (CollisionFree column) :=
  decidable_of_iff
    (isColumnName column = true ∧ Spaced column.toList ∧
      (∀ part ∈ column.toList.splitOn '.', part.head? ≠ some '_') ∧
      column.toList.getLast?.any Char.isDigit = false)
    ⟨fun ⟨valid, spaced, starts, ends⟩ => ⟨valid, spaced, starts, ends⟩,
      fun free => ⟨free.valid, free.spaced, free.starts, free.ends⟩⟩

theorem head?_ne_of_parts (free : CollisionFree column) {parts : List (List Char)}
    (shape : column.toList = ['.'].intercalate parts) (plain : ∀ part ∈ parts, '.' ∉ part)
    (nonempty : parts ≠ []) : ∀ part ∈ parts, part.head? ≠ some '_' := by
  have starts := free.starts
  rw [shape, List.splitOn_intercalate '.' plain nonempty] at starts
  exact starts

theorem distinctive_identifier (free : CollisionFree column)
    (identifier : isIdentifierText column.toList = true) {mark : String} (marked : IsName mark)
    (spaced : Spaced mark.toList) : Distinctive (mark ++ column) := by
  have parts : ∀ c ∈ (mark ++ column).toList, isIdentifierPart c = true :=
    marked.append fun c member => isIdentifierPart_of_mem identifier member
  have start : column.toList.head? ≠ some '_' := by
    have shape : column.toList = ['.'].intercalate [column.toList] := by simp
    apply free.head?_ne_of_parts shape _ (List.cons_ne_nil _ _) _ (List.Mem.head _)
    intro part member
    rw [List.mem_singleton.mp member]
    exact not_mem_dot_of_isIdentifierText identifier
  constructor
  · apply Legible.plain parts
    rw [String.toList_append]
    exact spaced.append free.spaced start
  · rw [EndsPlain, ofKey, String.toList_ofList, withoutDot_of_plain parts, String.toList_append,
      List.getLast?_append_of_ne_nil _ (ne_nil_of_isIdentifierText identifier)]
    exact free.ends

theorem distinctive_qualified (free : CollisionFree column) {table name : List Char}
    (shape : column.toList = table ++ '.' :: name) (tableValid : isIdentifierText table = true)
    (nameValid : isIdentifierText name = true) {mark : String} (marked : IsName mark)
    (spaced : Spaced mark.toList) : Distinctive (mark ++ column) := by
  have written : (mark ++ column).toList = (mark.toList ++ table) ++ '.' :: name := by
    rw [String.toList_append, shape, List.append_assoc]
  have parts : ∀ c ∈ mark.toList ++ table, isIdentifierPart c = true := by
    intro c member
    rcases List.mem_append.mp member with inMark | inTable
    · exact marked c inMark
    · exact isIdentifierPart_of_mem tableValid inTable
  have starts : ∀ part ∈ [table, name], part.head? ≠ some '_' := by
    apply free.head?_ne_of_parts _ _ (List.cons_ne_nil _ _)
    · rw [shape]
      simp
    · intro part member
      rcases List.mem_pair.mp member with rfl | rfl
      · exact not_mem_dot_of_isIdentifierText tableValid
      · exact not_mem_dot_of_isIdentifierText nameValid
  have tableSpaced : Spaced table := by
    have whole := free.spaced
    rw [shape] at whole
    exact whole.left
  have nonempty := ne_nil_of_isIdentifierText nameValid
  constructor
  · rw [written]
    exact .qualified parts (spaced.append tableSpaced (starts table (by simp)))
      (starts name (by simp))
  · have ends := free.ends
    rw [shape, List.append_cons, List.getLast?_append_of_ne_nil _ nonempty] at ends
    rw [EndsPlain, ofKey, String.toList_ofList, written, withoutDot_qualified parts,
      List.append_cons, List.append_cons, List.getLast?_append_of_ne_nil _ nonempty]
    exact ends

theorem distinctive (free : CollisionFree column) {mark : String} (marked : IsName mark)
    (spaced : Spaced mark.toList) : Distinctive (mark ++ column) := by
  rcases isColumnName_iff.mp free.valid with identifier | ⟨_, _, shape, tableValid, nameValid⟩
  · exact free.distinctive_identifier identifier marked spaced
  · exact free.distinctive_qualified shape tableValid nameValid marked spaced

end CollisionFree

theorem Polarity.spaced_comparisonMark (polarity : Polarity) :
    Spaced polarity.comparisonMark.toList := by
  cases polarity <;> decide

theorem Polarity.spaced_likeMark (polarity : Polarity) : Spaced polarity.likeMark.toList := by
  cases polarity <;> decide

theorem Placeholder.distinctive_fullTextKey : Distinctive Operation.fullTextKey := by
  have free : CollisionFree Operation.fullTextKey := by decide
  rw [← String.empty_append (s := Operation.fullTextKey)]
  exact free.distinctive (by decide) (by decide)

namespace BoundCondition

variable {allowed : List String} {key : String} {value : Value} {bound : BoundCondition}

theorem AskedBy.distinctive (asked : AskedBy allowed key value bound)
    (free : ∀ column ∈ allowed, CollisionFree column) : Distinctive key := by
  have marked : ∀ {mark column : String}, IsName mark → Spaced mark.toList → column ∈ allowed →
      key = mark ++ column → Distinctive key := by
    rintro mark column markName markSpaced listed rfl
    exact (free column listed).distinctive markName markSpaced
  have compared : ∀ {polarity : Polarity} {column : String}, column ∈ allowed →
      key = polarity.comparisonMark ++ column → Distinctive key := fun {polarity} _ =>
    marked polarity.isName_comparisonMark polarity.spaced_comparisonMark
  cases asked with
  | null listed named => exact compared listed named
  | noMember listed named => exact compared listed named
  | member listed named nonempty => exact compared listed named
  | nullText listed named read => exact compared listed named
  | compare listed named plain => exact compared listed named
  | atLeast listed named => exact marked (by decide) (by decide) listed named
  | atMost listed named => exact marked (by decide) (by decide) listed named
  | @like polarity column value listed named =>
      exact marked polarity.isName_likeMark polarity.spaced_likeMark listed named
  | fullText searched named =>
      rw [named]
      exact distinctive_fullTextKey

theorem AskedBy.nameOf (asked : AskedBy allowed key value bound) {name : String}
    (member : name ∈ bound.bindings.map Prod.fst) : NameOf key name := by
  cases asked with
  | null listed named => cases member
  | noMember listed named => cases member
  | nullText listed named read => cases member
  | member listed named nonempty =>
      rw [names_numbered] at member
      obtain ⟨index, _, rfl⟩ := List.mem_map.mp member
      exact Or.inr ⟨index, rfl⟩
  | compare listed named plain => exact Or.inl (List.mem_singleton.mp member)
  | atLeast listed named => exact Or.inl (List.mem_singleton.mp member)
  | atMost listed named => exact Or.inl (List.mem_singleton.mp member)
  | like listed named => exact Or.inl (List.mem_singleton.mp member)
  | fullText searched named => exact Or.inl (List.mem_singleton.mp member)

end BoundCondition

/-- No name is bound by two of the conditions. -/
def BoundCondition.Apart (conditions : List BoundCondition) : Prop :=
  conditions.Pairwise fun left right =>
    (left.bindings.map Prod.fst).Disjoint (right.bindings.map Prod.fst)

/-- Nothing is dropped when no condition shares a name with one before it. -/
theorem Clause.dropped_choose_eq_nil {bounds : List BoundCondition}
    (apart : BoundCondition.Apart bounds) : (choose {} bounds).dropped = [] := by
  apply dropped_eq_nil_of_pairwise_compatible
  refine List.Pairwise.imp ?_ apart
  intro left right disjoint name value other leftBinding rightBinding
  have leftNamed : name ∈ left.bindings.map Prod.fst := List.mem_map_of_mem leftBinding
  have rightNamed : name ∈ right.bindings.map Prod.fst := List.mem_map_of_mem rightBinding
  exact absurd rightNamed (disjoint leftNamed)

namespace Filters

variable {allowed : List String}

theorem apart_conditions (free : ∀ column ∈ allowed, CollisionFree column) (filters : Filters) :
    BoundCondition.Apart (conditions allowed filters.entries) := by
  have distinct : filters.entries.Pairwise fun left right => left.1 ≠ right.1 :=
    List.pairwise_map.mp filters.distinct
  refine List.pairwise_filterMap.mpr (distinct.imp ?_)
  intro left right different first firstAsked second secondAsked name inFirst inSecond
  have firstSource := askedBy_of_conditionOf? firstAsked
  have secondSource := askedBy_of_conditionOf? secondAsked
  exact different ((firstSource.distinctive free).eq_of_nameOf (secondSource.distinctive free)
    (firstSource.nameOf inFirst) (secondSource.nameOf inSecond))

theorem dropped_choice_of_collisionFree (free : ∀ column ∈ allowed, CollisionFree column)
    (filters : Filters) : (filters.choice allowed).dropped = [] :=
  Clause.dropped_choose_eq_nil (apart_conditions free filters)

/-- Over columns without collisions no conflict is reported, every filter that is not discarded
has its condition in the text of the clause, in order, and no two conditions share a name. -/
theorem compile_of_collisionFree (free : ∀ column ∈ allowed, CollisionFree column)
    (filters : Filters) :
    (∀ diagnostic ∈ (filters.compile allowed).diagnostics, diagnostic.reportsConflict = false) ∧
      List.Forall₂
        (fun entry condition => ∃ bound,
          conditionOf? allowed entry.1 entry.2 = some bound ∧ bound.condition = condition)
        (filters.entries.filter fun entry => !isDiscarded allowed entry.1)
        (filters.compile allowed).value.conditions ∧
      (filters.compile allowed).value.Conjoins
        ((filters.compile allowed).value.conditions.map Condition.sql) ∧
      BoundCondition.Apart (conditions allowed filters.entries) := by
  have nothing := dropped_choice_of_collisionFree free filters
  refine ⟨dropped_eq_nil_iff.mp nothing, ?_, Clause.conjoins _, apart_conditions free filters⟩
  rw [(settledBy_choice allowed filters).conditions, Choice.kept_eq_offered nothing,
    offered_choice, List.forall₂_map_right_iff]
  exact (forall₂_conditions allowed filters.entries).imp fun _ bound asked => ⟨bound, asked, rfl⟩

/-- Long lists, a qualified column, every marker, the search and an unknown key. -/
theorem compile_of_collisionFree_all_operations :
    let allowed := ["id", "user.id", "user_id", "like_count"]
    let filters : Filters := OrderedMap.empty.insertMany
      [("id", .array (List.replicate 12 (.int 1))), ("not_id", .array [.int 2]),
        ("user.id", .int 3), ("user_id", .int 4), ("from_user.id", .int 5), ("to_id", .int 6),
        ("not_like_id", .text "a%"), ("like_like_count", .text "b%"), ("match", .text "%c%"),
        ("id1", .int 7)]
    (∀ column ∈ allowed, CollisionFree column) ∧
      (∀ diagnostic ∈ (filters.compile allowed).diagnostics,
        diagnostic.reportsConflict = false) ∧
      List.Forall₂
        (fun entry condition => ∃ bound,
          conditionOf? allowed entry.1 entry.2 = some bound ∧ bound.condition = condition)
        (filters.entries.filter fun entry => !isDiscarded allowed entry.1)
        (filters.compile allowed).value.conditions ∧
      (filters.compile allowed).value.Conjoins
        ((filters.compile allowed).value.conditions.map Condition.sql) ∧
      BoundCondition.Apart (conditions allowed filters.entries) ∧
      (filters.compile allowed).value.text = "WHERE " ++ String.intercalate " AND "
        ["id IN ($id1, $id2, $id3, $id4, $id5, $id6, $id7, $id8, $id9, $id10, $id11, $id12)",
          "id NOT IN ($not_id1)", "user.id = $user__id", "user_id = $user_id",
          "user.id::timestamp >= $from_user__id::timestamp",
          "id::timestamp <= $to_id::timestamp", "id::text NOT ILIKE $not_like_id",
          "like_count::text ILIKE $like_like_count",
          "(id::text ILIKE $match OR user.id::text ILIKE $match OR user_id::text ILIKE $match " ++
            "OR like_count::text ILIKE $match)"] := by
  intro allowed filters
  have free : ∀ column ∈ allowed, CollisionFree column := by decide
  obtain ⟨unwarned, contributed, conjoined, apart⟩ := compile_of_collisionFree free filters
  exact ⟨free, unwarned, contributed, conjoined, apart, by decide +kernel⟩

end Filters

end FilterSql
