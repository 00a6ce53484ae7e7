import FilterSql.Proofs.OrderTerms

/-!
# The columns that can be sorted by

A sort is put in lower case before it is compared with the returned columns, which are kept as they
were named. So the name of a column asks for that column only when it holds no capital letter. The
main result says exactly which columns a statement can be sorted by under their own name.
-/

namespace FilterSql

def IsCapital (c : Char) : Prop :=
  'A' ≤ c ∧ c ≤ 'Z'

/-- A text without capital letters of ASCII. -/
def Uncapitalized (text : String) : Prop :=
  ∀ c ∈ text.toList, ¬ IsCapital c

theorem isUpper_iff_isCapital {c : Char} : c.isUpper = true ↔ IsCapital c := by
  change decide ('A' ≤ c ∧ c ≤ 'Z') = true ↔ 'A' ≤ c ∧ c ≤ 'Z'
  exact decide_eq_true_iff

theorem lowerCase_ne_of_isCapital {c : Char} (capital : IsCapital c) : lowerCase c ≠ c := by
  intro same
  have upper : c.isUpper = true := isUpper_iff_isCapital.mpr capital
  have lower : c.isLower = true := same ▸ isLower_lowerCase upper
  have bound : 97 ≤ c.toNat := of_decide_eq_true (Bool.and_eq_true_iff.mp lower).1
  have large := (bounds_of_isUpper upper).2
  omega

theorem lowerCase_eq_self_iff {c : Char} (part : isColumnPart c = true) :
    lowerCase c = c ↔ ¬ IsCapital c := by
  constructor
  · intro same capital
    exact lowerCase_ne_of_isCapital capital same
  · intro small
    have plain : c ≠ '\u212a' := by
      rintro rfl
      exact absurd part (by decide)
    have lower : c.isUpper = false := Bool.eq_false_iff.mpr (mt isUpper_iff_isCapital.mp small)
    exact lowerCase_of_not_isUpper lower plain

theorem map_lowerCase_eq_self_iff {text : List Char} (part : ∀ c ∈ text, isColumnPart c = true) :
    text.map lowerCase = text ↔ ∀ c ∈ text, ¬ IsCapital c := by
  induction text with
  | nil => simp
  | cons c rest inductionHypothesis =>
      have restPart : ∀ d ∈ rest, isColumnPart d = true := fun d member =>
        part d (List.mem_cons_of_mem c member)
      simp [lowerCase_eq_self_iff (part c List.mem_cons_self), inductionHypothesis restPart]

theorem ColumnName.lowers_self_iff {column : ColumnName} :
    Lowers column.text.toList column.text.toList ↔ Uncapitalized column.text := by
  have part : ∀ c ∈ column.text.toList, isColumnPart c = true := fun _ =>
    isColumnPart_of_mem column.valid
  rw [lowers_column_iff, eq_comm, ← String.toList_inj, String.toList_map]
  exact map_lowerCase_eq_self_iff part

theorem SortTerm.exists_sql_ranked (name : ColumnName) (values : List String)
    (direction : Direction) :
    ∃ words, (ranked name values direction).sql.toList =
      "CASE".toList ++ ' ' :: (name.text.toList ++ ' ' :: words) := by
  cases values with
  | nil => exact ⟨("END " ++ direction.sql).toList, by simp [sql]⟩
  | cons value rest =>
      refine ⟨(branch value 0).toList.tail ++ (String.join ((rest.zipIdx 1).map fun value =>
        branch value.1 value.2) ++ " END " ++ direction.sql).toList, ?_⟩
      simp [sql, branch]

/-- Only the term of a column itself is written like it. -/
theorem SortTerm.sql_eq_column_iff {term : SortTerm} {name : ColumnName} {direction : Direction} :
    term.sql = (column name direction).sql ↔ term = column name direction := by
  constructor
  · intro same
    cases term with
    | column other otherDirection =>
        have part : ∀ {column : ColumnName} {c : Char}, c ∈ column.text.toList →
            isColumnPart c = true := fun {column} {_} => isColumnPart_of_mem column.valid
        have written : other.text.toList ++ ' ' :: otherDirection.sql.toList =
            name.text.toList ++ ' ' :: direction.sql.toList := by
          simpa [sql, ← String.toList_inj] using same
        obtain ⟨sameName, sameWords⟩ := split_unique_of_isColumnPart (fun _ => part) (fun _ => part)
          (by decide) (by decide) written
        have names : other = name := ColumnName.text_injective (String.toList_inj.mp sameName)
        have directions : otherDirection = direction := by
          revert sameWords
          cases otherDirection <;> cases direction <;> decide
        rw [names, directions]
    | ranked other values otherDirection =>
        obtain ⟨words, written⟩ := exists_sql_ranked other values otherDirection
        rw [same] at written
        have cased : name.text.toList ++ ' ' :: (direction.sql.toList ++ []) =
            "CASE".toList ++ ' ' :: (other.text.toList ++ ' ' :: words) := by
          simpa [sql] using written
        exact (column_ne_case name (Or.inl rfl) cased).elim
  · intro same
    rw [same]

namespace Template.Select

variable {template : Select} {sort : Option SortChoice}

/-- The order of the statement is a column in some direction, and then the key columns. -/
def SortsBy (template : Select) (request : Request) (column : ColumnName)
    (direction : Direction) : Prop :=
  (template.fill request).value.sql =
    template.unsortedSql request.filters ++ " ORDER BY " ++
      String.intercalate ", "
        ((column.text ++ " " ++ direction.sql) :: template.keyTermList) ++ request.pageSql

/-- The terms of an order are led by one of them exactly when the sort asks for it and there is a
key column behind it. -/
theorem orderTerms_eq_iff {name : ColumnName} {direction : Direction} :
    template.orderTerms sort =
        String.intercalate ", " ((SortTerm.column name direction).sql :: template.keyTermList) ↔
      template.Asks sort (.column name direction) ∧ template.primaryKey ≠ [] := by
  constructor
  · intro written
    have list : IsTermList (template.orderTerms sort) := by
      refine ⟨_, List.cons_ne_nil _ _, List.forall_mem_cons.mpr ⟨?_, ?_⟩, written⟩
      · exact .column (plainName_text name)
      · exact fun _ => termText_of_mem_keyTermList
    have keyed : template.primaryKey ≠ [] := fun keyless => not_isTermList_of_keyless keyless list
    rw [String.intercalate_cons_of_ne_nil (keyTermList_ne_nil keyed)] at written
    cases asked : sort.bind template.sortTerm? with
    | none =>
        rw [orderTerms_of_none asked] at written
        have lengths := congrArg String.length written
        simp [keyTerms, keyTermList] at lengths
    | some term =>
        rw [orderTerms_of_some asked, keyTerms, ← keyTermList, String.append_left_inj,
          String.append_left_inj, SortTerm.sql_eq_column_iff] at written
        rw [written] at asked
        exact ⟨asks_iff.mpr asked, keyed⟩
  · rintro ⟨asks, keyed⟩
    exact orderTerms_of_asks keyed asks

/-- The name of a column asks for that column if it is returned, not ranked, and in lower case. -/
theorem asks_own_name_iff {column : ColumnName} {direction : Direction} :
    template.Asks (some ⟨column.text, direction⟩) (.column column direction) ↔
      column ∈ template.returned ∧ column ∉ template.rankings.keys ∧
        Uncapitalized column.text := by
  constructor
  · intro asks
    cases asks with
    | returned lowers unranked listed =>
        exact ⟨listed, unranked, ColumnName.lowers_self_iff.mp lowers⟩
  · rintro ⟨listed, unranked, small⟩
    exact .returned (ColumnName.lowers_self_iff.mpr small) unranked listed

/-- A request that sorts by the name of a column gives a statement that is sorted by this column, in
the direction that is asked for, and then by the key columns, exactly when the column is returned
and not ranked, its name holds no capital letter, and there are key columns. -/
theorem sortsBy_own_name_iff (template : Select) (request : Request) (column : ColumnName)
    (direction : Direction) :
    template.SortsBy { request with sort := some ⟨column.text, direction⟩ } column direction ↔
      column ∈ template.returned ∧ column ∉ template.rankings.keys ∧
        Uncapitalized column.text ∧ template.primaryKey ≠ [] := by
  rw [SortsBy, sql_fill, String.append_left_inj, String.append_right_inj]
  refine orderTerms_eq_iff.trans ?_
  rw [asks_own_name_iff, and_assoc, and_assoc]

/-- The name of a returned column, put in lower case, is not the name of any returned column. -/
theorem capitalized_column_not_sorted :
    ∃ template : Select,
      withReturned { table := "users" } ["id", "createdAt"] = .ok template ∧
        ∃ column ∈ template.returned, column.lower ∉ template.rankings.keys ∧
          (template.fill { sort := some ⟨column.text, .ascending⟩ }).value.sql =
            "SELECT id, createdAt FROM users ORDER BY id ASC" ∧
          ¬ template.SortsBy { sort := some ⟨column.text, .ascending⟩ } column .ascending := by
  let created : ColumnName := ⟨"createdAt", by decide⟩
  let template : Select := { table := "users", returned := [⟨"id", by decide⟩, created] }
  have unasked : (some ⟨created.text, .ascending⟩ : Option SortChoice).bind template.sortTerm? =
      none := by
    rw [Option.eq_none_iff_forall_ne_some]
    intro term asked
    cases asks_iff.mpr asked with
    | ranked _ configured => exact absurd configured List.not_mem_nil
    | @returned _ column lowers _ listed =>
        have lowered : column.text.toList = created.text.toList.map lowerCase := by
          rw [lowers_column_iff.mp lowers, String.toList_map]
        revert lowered
        rcases List.mem_pair.mp listed with identified | capitalized
        · rw [identified]
          decide
        · rw [capitalized]
          decide
  have written : (template.fill { sort := some ⟨created.text, .ascending⟩ }).value.sql =
      "SELECT id, createdAt FROM users ORDER BY id ASC" := by
    rw [sql_fill, orderTerms_of_none unasked]
    decide
  refine ⟨template, rfl, created, by decide, by decide, written, ?_⟩
  rw [SortsBy, written]
  decide

end Template.Select

end FilterSql
