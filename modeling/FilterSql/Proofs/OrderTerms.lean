import FilterSql.Proofs.ChosenOrder
import FilterSql.Proofs.ComparedColumn
import FilterSql.Proofs.SelectedRows

/-!
# The terms of an order

An order is written as a list of terms with commas between them. The key columns are put into that
list as one text, which is empty without key columns, and a ranking is written as a `CASE`, which
has no branch without values. The main result says that these are the only two ways in which an
order can leave the grammar of its terms.
-/

namespace FilterSql

/-- What may stand inside of a text literal: every quote comes with a second one. -/
inductive LiteralBody : List Char → Prop
  | nil : LiteralBody []
  | plain {c : Char} {rest : List Char} : c ≠ '\x27' → LiteralBody rest → LiteralBody (c :: rest)
  | quote {rest : List Char} : LiteralBody rest → LiteralBody ('\x27' :: '\x27' :: rest)

/-- A branch of a `CASE`, from a literal to a number. -/
inductive BranchText : String → Prop
  | mk {body : List Char} {rank : Nat} : LiteralBody body →
      BranchText (" WHEN \x27" ++ String.ofList body ++ "\x27 THEN " ++ Nat.repr rank)

/-- A term that rows are sorted by: a column, or a `CASE` on one with at least one branch. -/
inductive TermText : String → Prop
  | column {name : String} {direction : Direction} : PlainName name →
      TermText (name ++ " " ++ direction.sql)
  | ranked {name : String} {branches : List String} {direction : Direction} : PlainName name →
      branches ≠ [] → (∀ branch ∈ branches, BranchText branch) →
        TermText ("CASE " ++ name ++ String.join branches ++ " END " ++ direction.sql)

/-- A list of at least one term, with a comma and a blank between terms. -/
def IsTermList (text : String) : Prop :=
  ∃ terms, terms ≠ [] ∧ (∀ term ∈ terms, TermText term) ∧ text = String.intercalate ", " terms

theorem literalBody_doubleQuotes (content : List Char) :
    LiteralBody (Literal.doubleQuotes content) := by
  induction content with
  | nil => exact .nil
  | cons c rest inductionHypothesis =>
      by_cases quote : c = '\x27'
      · rw [Literal.doubleQuotes, if_pos quote, quote]
        exact .quote inductionHypothesis
      · rw [Literal.doubleQuotes, if_neg quote]
        exact .plain quote inductionHypothesis

theorem branchText_branch (value : String) (index : Nat) :
    BranchText (SortTerm.branch value index) := by
  have written : SortTerm.branch value index =
      " WHEN \x27" ++ String.ofList (Literal.doubleQuotes value.toList) ++ "\x27 THEN " ++
        Nat.repr (index + 1) := by
    simp [← String.toList_inj, SortTerm.branch, Literal.quote]
  rw [written]
  exact .mk (literalBody_doubleQuotes value.toList)

theorem plainName_text (name : ColumnName) : PlainName name.text :=
  isColumnName_iff_plainName.mp name.valid

/-- The text of a term is in the grammar, unless it ranks no values. -/
theorem SortTerm.termText_sql {term : SortTerm}
    (valued : ∀ column direction, term ≠ .ranked column [] direction) : TermText term.sql := by
  cases term with
  | column name direction => exact .column (plainName_text name)
  | ranked name values direction =>
      refine .ranked (plainName_text name) ?_ ?_
      · intro none
        rw [List.map_eq_nil_iff, List.zipIdx_eq_nil_iff] at none
        exact valued name direction (by rw [none])
      · intro branch member
        obtain ⟨value, _, rfl⟩ := List.mem_map.mp member
        exact branchText_branch value.1 value.2

theorem Direction.getLast?_append_sql (text : String) (direction : Direction) :
    (text ++ direction.sql).toList.getLast? = some 'C' := by
  rw [String.toList_append, List.getLast?_append]
  cases direction with
  | ascending => rfl
  | descending => rfl

theorem TermText.getLast? {text : String} (term : TermText text) :
    text.toList.getLast? = some 'C' := by
  cases term with
  | @column name direction _ => exact direction.getLast?_append_sql _
  | @ranked name branches direction _ _ _ => exact direction.getLast?_append_sql _

theorem IsTermList.getLast? {text : String} (list : IsTermList text) :
    text.toList.getLast? = some 'C' := by
  obtain ⟨terms, nonempty, each, rfl⟩ := list
  induction terms with
  | nil => contradiction
  | cons term rest inductionHypothesis =>
      cases rest with
      | nil => simpa using (each term List.mem_cons_self).getLast?
      | cons next others =>
          have last := inductionHypothesis (List.cons_ne_nil next others)
            fun later member => each later (List.mem_cons_of_mem term member)
          rw [String.intercalate_cons_cons, String.toList_append, List.getLast?_append, last]
          rfl

/-- Behind the first term of a list there is a comma, if anything. -/
theorem IsTermList.exists_first {text : String} (list : IsTermList text) :
    ∃ term rest, TermText term ∧ text.toList = term.toList ++ rest ∧
      (rest = [] ∨ ∃ others, rest = ',' :: others) := by
  obtain ⟨terms, nonempty, each, rfl⟩ := list
  cases terms with
  | nil => contradiction
  | cons term rest =>
      have first : TermText term := each term List.mem_cons_self
      cases rest with
      | nil => exact ⟨term, [], first, by simp, Or.inl rfl⟩
      | cons next others =>
          refine ⟨term, (", " ++ String.intercalate ", " (next :: others)).toList, first, ?_, ?_⟩
          · rw [String.intercalate_cons_cons, String.append_assoc, String.toList_append]
          · exact Or.inr ⟨_, by rw [String.toList_append]; rfl⟩

theorem Direction.blank_not_mem_sql (direction : Direction) : ' ' ∉ direction.sql.toList := by
  cases direction with
  | ascending => decide
  | descending => decide

theorem Direction.isColumnPart_of_mem_sql {direction : Direction} {c : Char}
    (member : c ∈ direction.sql.toList) : isColumnPart c = true := by
  cases direction with
  | ascending => exact List.all_eq_true.mp (by decide) c member
  | descending => exact List.all_eq_true.mp (by decide) c member

/-- A `CASE` on a column does not start with a column and a direction, even where the column is
called like a direction. -/
theorem column_ne_case (name : ColumnName) {column : ColumnName} {direction : Direction}
    {words rest : List Char}
    (ends : rest = [] ∨ ∃ others, rest = ',' :: others)
    (same : name.text.toList ++ ' ' :: (direction.sql.toList ++ rest) =
      "CASE".toList ++ ' ' :: (column.text.toList ++ ' ' :: words)) : False := by
  have part : ∀ {other : ColumnName} {c : Char}, c ∈ other.text.toList → isColumnPart c = true :=
    fun {other} {c} member => isColumnPart_of_mem other.valid member
  have behind : direction.sql.toList ++ rest = column.text.toList ++ ' ' :: words :=
    (List.cons.inj (split_unique_of_isColumnPart (fun _ => part) (List.all_eq_true.mp rfl)
      (by decide) (by decide) same).2).2
  rcases ends with rfl | ⟨others, rfl⟩
  · apply direction.blank_not_mem_sql
    rw [List.append_nil] at behind
    simp [behind]
  · have stops := (split_unique_of_isColumnPart (fun _ => Direction.isColumnPart_of_mem_sql)
      (fun _ => part) (by decide) (by decide) behind).2
    exact absurd (List.cons.inj stops).1 (by decide)

/-- A list of terms does not start with a `CASE` that has no branch. -/
theorem not_isTermList_of_empty_case {text : String} {column : ColumnName} {words : List Char}
    (written : text.toList = "CASE ".toList ++ (column.text.toList ++ ' ' :: 'E' :: words)) :
    ¬ IsTermList text := by
  intro list
  obtain ⟨term, rest, first, split, ends⟩ := list.exists_first
  rw [written] at split
  cases first with
  | @column name direction plain =>
      have same : name.toList ++ ' ' :: (direction.sql.toList ++ rest) =
          "CASE".toList ++ ' ' :: (column.text.toList ++ ' ' :: 'E' :: words) := by
        simpa using split.symm
      exact column_ne_case ⟨name, isColumnName_iff_plainName.mpr plain⟩ ends same
  | @ranked name branches direction plain branched each =>
      cases branches with
      | nil => exact branched rfl
      | cons branch others =>
          cases each branch List.mem_cons_self with
          | @mk body rank _ =>
              simp only [String.toList_append, List.append_assoc,
                List.append_cancel_left_eq, String.toList_join, List.flatMap_cons] at split
              have stops := (split_unique_of_isColumnPart
                (fun _ => isColumnPart_of_mem column.valid)
                (fun _ => isColumnPart_of_mem (isColumnName_iff_plainName.mpr plain))
                (by decide) (by decide) split).2
              exact absurd (List.cons.inj (List.cons.inj stops).2).1 (by decide)

namespace Template.Select

/-! ## The text around the terms -/

/-- The selection of rows, before it is wrapped. -/
def selectionSql (template : Select) (filters : Filters) : String :=
  Statement.joinParts
    ["SELECT " ++ Statement.selectedSql template.returned ++ " FROM " ++ template.table,
      Condition.allSql (template.scope.compile filters).value.conditions,
      Statement.groupSql template.groups]

/-- The statement that is put in order. -/
def unsortedSql (template : Select) (filters : Filters) : String :=
  if template.wraps then Statement.wrap (template.selectionSql filters)
  else template.selectionSql filters

/-- The words that take a page of the rows in order. -/
def Request.pageSql (request : Request) : String :=
  if request.page?.isSome then " LIMIT $limit OFFSET $offset" else ""

/-- The terms of an order: the one that a sort asks for, and those of the key columns. -/
def orderTerms (template : Select) (sort : Option SortChoice) : String :=
  match sort.bind template.sortTerm? with
  | none => template.keyTerms
  | some term => term.sql ++ ", " ++ template.keyTerms

variable {template : Select} {sort : Option SortChoice} {term : SortTerm}

theorem orderTerms_of_none (unasked : sort.bind template.sortTerm? = none) :
    template.orderTerms sort = template.keyTerms := by
  rw [orderTerms, unasked]

theorem orderTerms_of_some (asked : sort.bind template.sortTerm? = some term) :
    template.orderTerms sort = term.sql ++ ", " ++ template.keyTerms := by
  rw [orderTerms, asked]

theorem order_sql (template : Select) (sort : Option SortChoice) :
    (template.order sort).sql = "ORDER BY " ++ template.orderTerms sort := by
  cases asked : sort.bind template.sortTerm? with
  | none => rw [order_sql_of_none asked, orderTerms_of_none asked]
  | some term => rw [order_sql_of_some asked, orderTerms_of_some asked]

theorem unsortedSql_ne_empty (template : Select) (filters : Filters) :
    template.unsortedSql filters ≠ "" := by
  rw [unsortedSql]
  by_cases wrapped : template.wraps = true
  · rw [if_pos wrapped]
    exact Statement.wrap_ne_empty _
  · rw [if_neg wrapped, selectionSql, Statement.joinParts_eq (by simp)]
    simp

theorem sql_fill (template : Select) (request : Request) :
    (template.fill request).value.sql =
      template.unsortedSql request.filters ++ " ORDER BY " ++
        template.orderTerms request.sort ++ request.pageSql := by
  have parts := Statement.joinParts_pair (template.unsortedSql request.filters)
    (template.order request.sort).sql_ne_empty
  rw [if_neg (template.unsortedSql_ne_empty _)] at parts
  calc (template.fill request).value.sql
      = Statement.joinParts [template.unsortedSql request.filters,
          (template.order request.sort).sql] ++ request.pageSql := rfl
    _ = template.unsortedSql request.filters ++ " ORDER BY " ++
          template.orderTerms request.sort ++ request.pageSql := by
        have blank : " ORDER BY " = " " ++ "ORDER BY " := rfl
        rw [parts, order_sql, blank]
        simp only [String.append_assoc]

/-- The terms of the key columns, one by one. -/
def keyTermList (template : Select) : List String :=
  template.primaryKey.map fun key => key.text ++ " ASC"

theorem termText_of_mem_keyTermList {text : String} (member : text ∈ template.keyTermList) :
    TermText text := by
  obtain ⟨key, _, rfl⟩ := List.mem_map.mp member
  have written : key.text ++ " ASC" = key.text ++ " " ++ Direction.ascending.sql := by
    rw [String.append_assoc]
    rfl
  rw [written]
  exact .column (plainName_text key)

theorem keyTerms_of_keyless (keyless : template.primaryKey = []) : template.keyTerms = "" := by
  rw [keyTerms, keyless]
  rfl

theorem keyTermList_ne_nil (keyed : template.primaryKey ≠ []) : template.keyTermList ≠ [] := by
  rwa [keyTermList, ne_eq, List.map_eq_nil_iff]

theorem orderTerms_of_asks (keyed : template.primaryKey ≠ []) (asks : template.Asks sort term) :
    template.orderTerms sort = String.intercalate ", " (term.sql :: template.keyTermList) := by
  rw [orderTerms_of_some (asks_iff.mp asks),
    String.intercalate_cons_of_ne_nil (keyTermList_ne_nil keyed)]
  rfl

theorem isTermList_of_valued (keyed : template.primaryKey ≠ [])
    (valued : ∀ column direction, ¬ template.Asks sort (.ranked column [] direction)) :
    IsTermList (template.orderTerms sort) := by
  cases asked : sort.bind template.sortTerm? with
  | none =>
      exact ⟨template.keyTermList, keyTermList_ne_nil keyed,
        fun _ => termText_of_mem_keyTermList, orderTerms_of_none asked⟩
  | some term =>
      have asks : template.Asks sort term := asks_iff.mpr asked
      have leading : TermText term.sql := by
        apply SortTerm.termText_sql
        rintro column direction rfl
        exact valued column direction asks
      exact ⟨term.sql :: template.keyTermList, List.cons_ne_nil _ _,
        List.forall_mem_cons.mpr ⟨leading, fun _ => termText_of_mem_keyTermList⟩,
        orderTerms_of_asks keyed asks⟩

/-- Without key columns the terms end in a blank, or there are none. -/
theorem not_isTermList_of_keyless (keyless : template.primaryKey = []) :
    ¬ IsTermList (template.orderTerms sort) := by
  intro list
  have last := list.getLast?
  cases asked : sort.bind template.sortTerm? with
  | none =>
      rw [orderTerms_of_none asked, keyTerms_of_keyless keyless] at last
      exact absurd last (by decide)
  | some term =>
      rw [orderTerms_of_some asked, keyTerms_of_keyless keyless] at last
      simp at last

theorem not_isTermList_of_asks_empty {column : ColumnName} {direction : Direction}
    (asks : template.Asks sort (.ranked column [] direction)) :
    ¬ IsTermList (template.orderTerms sort) := by
  rw [orderTerms_of_some (asks_iff.mp asks)]
  have written : ((SortTerm.ranked column [] direction).sql ++ ", " ++ template.keyTerms).toList =
      "CASE ".toList ++ (column.text.toList ++
        ' ' :: 'E' :: ("ND " ++ direction.sql ++ ", " ++ template.keyTerms).toList) := by
    simp [SortTerm.sql]
  exact not_isTermList_of_empty_case written

/-- A statement closes with an order and perhaps a page. The order is a list of terms exactly when
there are key columns and the sort does not ask for the ranks of no values. -/
theorem sql_fill_isTermList_iff (template : Select) (request : Request) :
    (template.fill request).value.sql =
        template.unsortedSql request.filters ++ " ORDER BY " ++
          template.orderTerms request.sort ++ request.pageSql ∧
      (IsTermList (template.orderTerms request.sort) ↔
        template.primaryKey ≠ [] ∧
          ∀ column direction, ¬ template.Asks request.sort (.ranked column [] direction)) := by
  refine ⟨template.sql_fill request, ?_⟩
  constructor
  · intro list
    constructor
    · intro keyless
      exact not_isTermList_of_keyless keyless list
    · intro column direction asks
      exact not_isTermList_of_asks_empty asks list
  · rintro ⟨keyed, valued⟩
    exact isTermList_of_valued keyed valued

/-- Without key columns the term of a sort is followed by a comma and nothing else. -/
theorem comma_after_last_term :
    ∃ template : Select,
      (withReturned { table := "users" } ["name"]).bind (·.withPrimaryKey []) = .ok template ∧
        (template.fill { sort := some ⟨"name", .ascending⟩ }).value.sql =
          "SELECT name FROM users" ++ " ORDER BY " ++ "name ASC, " ∧
        ¬ IsTermList "name ASC, " := by
  let name : ColumnName := ⟨"name", by decide⟩
  let template : Select := { table := "users", returned := [name], primaryKey := [] }
  refine ⟨template, rfl, ?_, ?_⟩
  · have lowered : "name" = "name".map lowerCase := by
      rw [← String.toList_inj, String.toList_map]
      decide
    have lowers : Lowers name.text.toList name.text.toList := lowers_column_iff.mpr lowered
    have asks : template.Asks (some ⟨name.text, .ascending⟩) (.column name .ascending) :=
      .returned lowers (by decide) (by decide)
    rw [sql_fill, orderTerms_of_some (asks_iff.mp asks)]
    decide
  · intro list
    exact absurd list.getLast? (by decide)

end Template.Select

end FilterSql
