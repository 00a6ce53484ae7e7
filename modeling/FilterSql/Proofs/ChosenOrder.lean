import FilterSql.Proofs.ColumnName
import FilterSql.Proofs.OrderedMap
import FilterSql.Proofs.StatementText
import FilterSql.Template.Select

/-!
# The order that a sort chooses

The name of a sort is text of a caller, compared with the columns of a template after it is put in
lower case. It is never written into a statement: it chooses one of the terms that the template
holds, or none of them, and the statement depends on that choice alone.
-/

namespace FilterSql

/-- What lower case makes of one character. Outside of ASCII only the Kelvin sign has a lower case
of ASCII characters alone; which other characters the rest becomes is left open. -/
inductive CharLowers : Char → List Char → Prop
  | ascii {c : Char} : c.toNat < 128 → CharLowers c [c.toLower]
  | kelvin : CharLowers '\u212a' ['k']
  | other {c d : Char} {piece : List Char} :
      128 ≤ c.toNat → c ≠ '\u212a' → d ∈ piece → 128 ≤ d.toNat → CharLowers c piece

/-- Whether a text may be another one in lower case, where every character is replaced by a piece
of its own. -/
inductive Lowers : List Char → List Char → Prop
  | nil : Lowers [] []
  | cons {c : Char} {piece text lowered : List Char} :
      CharLowers c piece → Lowers text lowered → Lowers (c :: text) (piece ++ lowered)

theorem lowerCase_of_ascii {c : Char} (ascii : c.toNat < 128) : lowerCase c = c.toLower := by
  rw [lowerCase, if_neg]
  rintro rfl
  exact absurd ascii (by decide)

theorem lowerCase_of_not_ascii {c : Char} (foreign : 128 ≤ c.toNat) (plain : c ≠ '\u212a') :
    lowerCase c = c := by
  cases upper : c.isUpper with
  | false => exact lowerCase_of_not_isUpper upper plain
  | true =>
      have bounds := bounds_of_isUpper upper
      omega

theorem eq_singleton_of_charLowers {c : Char} {piece : List Char} (lowers : CharLowers c piece)
    (ascii : ∀ d ∈ piece, d.toNat < 128) : piece = [lowerCase c] := by
  cases lowers with
  | ascii plain => rw [lowerCase_of_ascii plain]
  | kelvin => rfl
  | other _ _ member foreign => exact absurd (ascii _ member) (Nat.not_lt.mpr foreign)

theorem charLowers_of_ascii {c : Char} (ascii : (lowerCase c).toNat < 128) :
    CharLowers c [lowerCase c] := by
  by_cases plain : c.toNat < 128
  · rw [lowerCase_of_ascii plain]
    exact .ascii plain
  · by_cases kelvin : c = '\u212a'
    · subst kelvin
      exact .kelvin
    · rw [lowerCase_of_not_ascii (Nat.not_lt.mp plain) kelvin] at ascii
      exact absurd ascii plain

/-- Compared with a text of ASCII characters, lower case may be taken one character at a time. -/
theorem lowers_iff_map_lowerCase {text lowered : List Char}
    (ascii : ∀ d ∈ lowered, d.toNat < 128) :
    Lowers text lowered ↔ text.map lowerCase = lowered := by
  constructor
  · intro lowers
    induction lowers with
    | nil => rfl
    | @cons c piece text lowered first _ inductionHypothesis =>
        have piece_eq : piece = [lowerCase c] :=
          eq_singleton_of_charLowers first fun d member =>
            ascii d (List.mem_append_left _ member)
        have rest_eq : text.map lowerCase = lowered :=
          inductionHypothesis fun d member => ascii d (List.mem_append_right _ member)
        rw [List.map_cons, rest_eq, piece_eq, List.singleton_append]
  · rintro rfl
    induction text with
    | nil => exact .nil
    | cons c text inductionHypothesis =>
        have first : CharLowers c [lowerCase c] :=
          charLowers_of_ascii (ascii _ List.mem_cons_self)
        have rest : Lowers text (text.map lowerCase) :=
          inductionHypothesis fun d member => ascii d (List.mem_cons_of_mem _ member)
        exact .cons first rest

theorem toNat_lt_of_isColumnPart {c : Char} (part : isColumnPart c = true) : c.toNat < 128 := by
  rw [isColumnPart, Bool.or_eq_true, isIdentifierPart_iff, beq_iff_eq] at part
  rcases part with ((upper | lower) | digit | rfl) | rfl
  · exact Nat.lt_of_le_of_lt upper.2 (by decide)
  · exact Nat.lt_of_le_of_lt lower.2 (by decide)
  · exact Nat.lt_of_le_of_lt digit.2 (by decide)
  · decide
  · decide

theorem lowers_column_iff {name : String} {column : ColumnName} :
    Lowers name.toList column.text.toList ↔ column.text = name.map lowerCase := by
  rw [lowers_iff_map_lowerCase fun d member =>
    toNat_lt_of_isColumnPart (isColumnPart_of_mem column.valid member)]
  rw [← String.toList_map, String.toList_inj]
  exact eq_comm

namespace Statement

theorem exists_sql_select_eq_append (table : String) (columns : List ColumnName)
    (conditions : List Condition) (groups : List ColumnName) (wrapped paged : Bool) :
    ∃ before after : String, ∀ order : SortOrder,
      (select table columns conditions groups wrapped order paged).sql =
        before ++ order.sql ++ after :=
  ⟨_, _, fun order => congrArg (· ++ if paged then " LIMIT $limit OFFSET $offset" else "")
    (joinParts_pair _ order.sql_ne_empty)⟩

end Statement

namespace Template.Select

/-- A sort asks for the term of a column that is its name in lower case: for the rank among the
values of the column if these are ranked, else for the column itself if it is returned. -/
inductive Asks (template : Select) : Option SortChoice → SortTerm → Prop
  | ranked {sort : SortChoice} {column : ColumnName} {values : List String} :
      Lowers sort.name.toList column.text.toList →
        (column, values) ∈ template.rankings.entries →
          Asks template (some sort) (.ranked column values sort.direction)
  | returned {sort : SortChoice} {column : ColumnName} :
      Lowers sort.name.toList column.text.toList → column ∉ template.rankings.keys →
        column ∈ template.returned → Asks template (some sort) (.column column sort.direction)

/-- A sort asks for one term at most, the one that is looked up. -/
theorem asks_iff {template : Select} {sort : Option SortChoice} {term : SortTerm} :
    template.Asks sort term ↔ sort.bind template.sortTerm? = some term := by
  constructor
  · intro asks
    cases asks with
    | @ranked sort column values lowers configured =>
        have found : ColumnName.ofString? (sort.name.map lowerCase) = some column :=
          ColumnName.ofString?_eq_some_iff.mpr (lowers_column_iff.mp lowers)
        have rank : template.rankings.get? column = some values :=
          OrderedMap.get?_eq_some_iff.mpr configured
        simp only [Option.bind_some, sortTerm?, found, rank]
    | @returned sort column lowers unranked listed =>
        have found : ColumnName.ofString? (sort.name.map lowerCase) = some column :=
          ColumnName.ofString?_eq_some_iff.mpr (lowers_column_iff.mp lowers)
        have rank : template.rankings.get? column = none :=
          OrderedMap.get?_eq_none_iff.mpr unranked
        simp only [Option.bind_some, sortTerm?, found, rank, if_pos listed]
  · intro looked
    cases sort with
    | none => contradiction
    | some sort =>
        rw [Option.bind_some, sortTerm?] at looked
        split at looked
        · contradiction
        · next column found =>
          have lowers : Lowers sort.name.toList column.text.toList :=
            lowers_column_iff.mpr (ColumnName.ofString?_eq_some_iff.mp found)
          split at looked
          · next values rank =>
            cases looked
            exact .ranked lowers (OrderedMap.get?_eq_some_iff.mp rank)
          · next unranked =>
            by_cases listed : column ∈ template.returned
            · rw [if_pos listed] at looked
              cases looked
              exact .returned lowers (OrderedMap.get?_eq_none_iff.mp unranked) listed
            · rw [if_neg listed] at looked
              contradiction

theorem sortTerm?_eq_of_asks_iff {template : Select} {sort other : Option SortChoice}
    (same : ∀ term, template.Asks sort term ↔ template.Asks other term) :
    sort.bind template.sortTerm? = other.bind template.sortTerm? := by
  apply Option.ext
  intro term
  rw [← asks_iff, ← asks_iff, same term]

/-- The terms of the key columns. -/
def keyTerms (template : Select) : String :=
  String.intercalate ", " (template.primaryKey.map fun key => key.text ++ " ASC")

/-- The texts that a sort may give to the order of the rows. -/
inductive OrderText (template : Select) (sort : Option SortChoice) : String → Prop
  | keys :
      (∀ term, ¬ template.Asks sort term) →
        OrderText template sort ("ORDER BY " ++ template.keyTerms)
  | returned {column : ColumnName} {direction : Direction} :
      column ∈ template.returned → template.Asks sort (.column column direction) →
        OrderText template sort
          ("ORDER BY " ++ (column.text ++ " " ++ direction.sql ++ ", " ++ template.keyTerms))
  | ranked {column : ColumnName} {values : List String} {direction : Direction} :
      (column, values) ∈ template.rankings.entries →
        template.Asks sort (.ranked column values direction) →
          OrderText template sort
            ("ORDER BY " ++ ("CASE " ++ column.text ++
              String.join (values.zipIdx.map fun value => SortTerm.branch value.1 value.2) ++
                " END " ++ direction.sql ++ ", " ++ template.keyTerms))

theorem order_sql_of_none {template : Select} {sort : Option SortChoice}
    (unasked : sort.bind template.sortTerm? = none) :
    (template.order sort).sql = "ORDER BY " ++ template.keyTerms := by
  simp [order, SortOrder.sql, unasked, keyTerms]

theorem order_sql_of_some {template : Select} {sort : Option SortChoice} {term : SortTerm}
    (asked : sort.bind template.sortTerm? = some term) :
    (template.order sort).sql = "ORDER BY " ++ (term.sql ++ ", " ++ template.keyTerms) := by
  simp [order, SortOrder.sql, asked, keyTerms, String.intercalate_cons_cons]

theorem orderText_order (template : Select) (sort : Option SortChoice) :
    template.OrderText sort (template.order sort).sql := by
  cases asked : sort.bind template.sortTerm? with
  | none =>
      rw [order_sql_of_none asked]
      refine .keys fun term asks => ?_
      rw [asks_iff, asked] at asks
      contradiction
  | some term =>
      rw [order_sql_of_some asked]
      have asks : template.Asks sort term := asks_iff.mpr asked
      cases asks with
      | ranked lowers configured => exact .ranked configured (.ranked lowers configured)
      | returned lowers unranked listed =>
          exact .returned listed (.returned lowers unranked listed)

/-- Only the order of a statement is for the sort to choose. -/
theorem exists_sql_fill_eq_append (template : Select) (request : Request) :
    ∃ before after : String, ∀ sort,
      (template.fill { request with sort }).value.sql =
        before ++ (template.order sort).sql ++ after := by
  obtain ⟨before, after, stated⟩ :=
    Statement.exists_sql_select_eq_append template.table template.returned
      (template.scope.compile request.filters).value.conditions template.groups template.wraps
      request.page?.isSome
  exact ⟨before, after, fun sort => stated (template.order sort)⟩

/-- The order of a statement is one of the texts that its template holds, and sorts that ask for the
same term, or both for none, give the same statement. -/
theorem exists_sql_fill_eq_orderText (template : Select) (request : Request) :
    (∃ before after : String, ∀ sort,
      template.OrderText sort (template.order sort).sql ∧
        (template.fill { request with sort }).value.sql =
          before ++ (template.order sort).sql ++ after) ∧
    ∀ sort other, (∀ term, template.Asks sort term ↔ template.Asks other term) →
      (template.fill { request with sort := sort }).value.sql =
        (template.fill { request with sort := other }).value.sql := by
  obtain ⟨before, after, filled⟩ := exists_sql_fill_eq_append template request
  constructor
  · exact ⟨before, after, fun sort => ⟨template.orderText_order sort, filled sort⟩⟩
  · intro sort other same
    have order : template.order sort = template.order other := by
      rw [Select.order, Select.order, sortTerm?_eq_of_asks_iff same]
    rw [filled sort, filled other, order]

/-- A name spelled with the Kelvin sign asks for the same ranks as one with the letter k. -/
theorem exists_sql_fill_eq_orderText_kelvin :
    let kind : ColumnName := ⟨"kind", by decide⟩
    let template : Select :=
      { table := "items", returned := [kind], rankings := (∅ : OrderedMap _ _).insert kind ["b"] }
    (template.fill { sort := some ⟨"\u212aIND", .descending⟩ }).value.sql =
      (template.fill { sort := some ⟨"kind", .descending⟩ }).value.sql := by
  intro kind template
  refine (exists_sql_fill_eq_orderText template {}).2 _ _ fun term => ?_
  rw [asks_iff, asks_iff]
  have lowered : "\u212aIND".map lowerCase = "kind".map lowerCase := by
    rw [← String.toList_inj, String.toList_map, String.toList_map]
    decide
  simp only [Option.bind_some, sortTerm?, lowered]

end Template.Select

end FilterSql
