import FilterSql.Proofs.OrderTerms
import FilterSql.Proofs.PlaceholderName

/-!
# Reading ranks back

A ranking is written as a `CASE` with one branch for each value, and the values are texts of any
kind. The rules of SQL for text literals read them back: whatever the values hold, and whatever
follows in the statement, the branches that are read are the values with their ranks in order.
-/

namespace FilterSql

/-- Reads a text literal from behind its opening quote, and what is left behind the closing one: the
literal ends at the first quote that no other quote follows, and two quotes stand for one. -/
inductive ReadsLiteral : List Char → List Char → List Char → Prop
  | close {rest : List Char} : rest.head? ≠ some '\x27' → ReadsLiteral ('\x27' :: rest) [] rest
  | quote {text content rest : List Char} : ReadsLiteral text content rest →
      ReadsLiteral ('\x27' :: '\x27' :: text) ('\x27' :: content) rest
  | plain {c : Char} {text content rest : List Char} : c ≠ '\x27' →
      ReadsLiteral text content rest → ReadsLiteral (c :: text) (c :: content) rest

/-- Reads a number, which is a longest run of digits. -/
inductive ReadsNumber (text : List Char) : Nat → List Char → Prop
  | mk : text.takeWhile Char.isDigit ≠ [] →
      ReadsNumber text (Nat.ofDigitChars 10 (text.takeWhile Char.isDigit) 0)
        (text.dropWhile Char.isDigit)

/-- Reads branches of values and ranks up to the word that ends them, with nothing in between. -/
inductive ReadsBranches : List Char → List (String × Nat) → List Char → Prop
  | finish {text rest : List Char} : text = " END".toList ++ rest → ReadsBranches text [] rest
  | branch {text literal value number next rest : List Char} {rank : Nat}
      {branches : List (String × Nat)} : text = " WHEN \x27".toList ++ literal →
        ReadsLiteral literal value (" THEN ".toList ++ number) → ReadsNumber number rank next →
          ReadsBranches next branches rest →
            ReadsBranches text ((String.ofList value, rank) :: branches) rest

/-- Reads a `CASE` on a column. -/
inductive ReadsCase : List Char → String → List (String × Nat) → List Char → Prop
  | mk {text tail rest : List Char} {column : String} {branches : List (String × Nat)} :
      PlainName column → text = "CASE ".toList ++ (column.toList ++ tail) →
        ReadsBranches tail branches rest → ReadsCase text column branches rest

variable {text rest : List Char}

theorem readsLiteral_close_iff {read : List Char} (ends : text.head? ≠ some '\x27') :
    ReadsLiteral ('\x27' :: text) read rest ↔ read = [] ∧ rest = text := by
  constructor
  · intro reads
    cases reads with
    | close _ => exact ⟨rfl, rfl⟩
    | quote _ => exact absurd rfl ends
    | plain other _ => exact absurd rfl other
  · rintro ⟨rfl, rfl⟩
    exact .close ends

theorem readsLiteral_quote_iff {read : List Char} :
    ReadsLiteral ('\x27' :: '\x27' :: text) read rest ↔
      ∃ content, read = '\x27' :: content ∧ ReadsLiteral text content rest := by
  constructor
  · intro reads
    cases reads with
    | close other => exact absurd rfl other
    | quote inner => exact ⟨_, rfl, inner⟩
    | plain other _ => exact absurd rfl other
  · rintro ⟨content, rfl, inner⟩
    exact .quote inner

theorem readsLiteral_plain_iff {c : Char} {read : List Char} (other : c ≠ '\x27') :
    ReadsLiteral (c :: text) read rest ↔
      ∃ content, read = c :: content ∧ ReadsLiteral text content rest := by
  constructor
  · intro reads
    cases reads with
    | close _ => exact absurd rfl other
    | quote _ => exact absurd rfl other
    | plain _ inner => exact ⟨_, rfl, inner⟩
  · rintro ⟨content, rfl, inner⟩
    exact .plain other inner

/-- A literal is read back in one way only, as what was put between its quotes. -/
theorem readsLiteral_doubleQuotes_iff {content read : List Char}
    (ends : text.head? ≠ some '\x27') :
    ReadsLiteral (Literal.doubleQuotes content ++ '\x27' :: text) read rest ↔
      read = content ∧ rest = text := by
  induction content generalizing read with
  | nil => exact readsLiteral_close_iff ends
  | cons c content inductionHypothesis =>
      by_cases quote : c = '\x27'
      · rw [Literal.doubleQuotes, if_pos quote, quote, List.cons_append, List.cons_append,
          readsLiteral_quote_iff]
        simp [inductionHypothesis]
      · rw [Literal.doubleQuotes, if_neg quote, List.cons_append, readsLiteral_plain_iff quote]
        simp [inductionHypothesis]

theorem readsNumber_iff {read : Nat} :
    ReadsNumber text read rest ↔
      text.takeWhile Char.isDigit ≠ [] ∧
        read = Nat.ofDigitChars 10 (text.takeWhile Char.isDigit) 0 ∧
          rest = text.dropWhile Char.isDigit := by
  constructor
  · intro reads
    cases reads with
    | mk digits => exact ⟨digits, rfl, rfl⟩
  · rintro ⟨digits, rfl, rfl⟩
    exact .mk digits

theorem readsNumber_repr_iff {number read : Nat} (stops : ∀ c ∈ text.head?, c.isDigit = false) :
    ReadsNumber ((Nat.repr number).toList ++ text) read rest ↔ read = number ∧ rest = text := by
  have digits : ∀ c ∈ (Nat.repr number).toList, c.isDigit = true := fun _ =>
    Placeholder.isDigit_of_mem_repr
  have left : text.takeWhile Char.isDigit = [] ∧ text.dropWhile Char.isDigit = text := by
    cases text with
    | nil => exact ⟨rfl, rfl⟩
    | cons c others => simp [stops c rfl]
  have written : (Nat.repr number).toList ≠ [] := by
    rw [Nat.toList_repr]
    exact Nat.toDigits_ne_nil
  rw [readsNumber_iff, List.takeWhile_append_of_pos digits, List.dropWhile_append_of_pos digits,
    left.1, left.2, List.append_nil, Nat.toList_repr, Nat.ofDigitChars_ten_toDigits,
    ← Nat.toList_repr]
  exact and_iff_right written

theorem readsBranches_end_iff {branches : List (String × Nat)} :
    ReadsBranches (" END".toList ++ text) branches rest ↔ branches = [] ∧ rest = text := by
  constructor
  · intro reads
    cases reads with
    | finish written => exact ⟨rfl, (List.append_cancel_left written).symm⟩
    | branch written _ _ _ => exact absurd (congrArg (·[1]?) written) (by simp)
  · rintro ⟨rfl, rfl⟩
    exact .finish rfl

theorem toList_branch (value : String) (index : Nat) :
    (SortTerm.branch value index).toList =
      " WHEN \x27".toList ++ (Literal.doubleQuotes value.toList ++
        '\x27' :: (" THEN ".toList ++ (Nat.repr (index + 1)).toList)) := by
  simp [SortTerm.branch, Literal.quote]

theorem readsBranches_branch_iff {value : String} {index : Nat} {branches : List (String × Nat)}
    (stops : ∀ c ∈ text.head?, c.isDigit = false) :
    ReadsBranches ((SortTerm.branch value index).toList ++ text) branches rest ↔
      ∃ others, branches = (value, index + 1) :: others ∧ ReadsBranches text others rest := by
  have written : (SortTerm.branch value index).toList ++ text =
      " WHEN \x27".toList ++ (Literal.doubleQuotes value.toList ++
        '\x27' :: (" THEN ".toList ++ ((Nat.repr (index + 1)).toList ++ text))) := by
    simp [toList_branch]
  have ends : ∀ number : List Char, (" THEN ".toList ++ number).head? ≠ some '\x27' := by
    simp
  rw [written]
  constructor
  · intro reads
    cases reads with
    | finish ended => exact absurd (congrArg (·[1]?) ended) (by simp)
    | branch opened literal number inner =>
        rw [← List.append_cancel_left opened, readsLiteral_doubleQuotes_iff (ends _)] at literal
        obtain ⟨rfl, sameNumber⟩ := literal
        rw [List.append_cancel_left sameNumber, readsNumber_repr_iff stops] at number
        obtain ⟨rfl, rfl⟩ := number
        exact ⟨_, by rw [String.ofList_toList], inner⟩
  · rintro ⟨others, rfl, inner⟩
    have literal : ReadsLiteral (Literal.doubleQuotes value.toList ++
        '\x27' :: (" THEN ".toList ++ ((Nat.repr (index + 1)).toList ++ text))) value.toList
          (" THEN ".toList ++ ((Nat.repr (index + 1)).toList ++ text)) :=
      (readsLiteral_doubleQuotes_iff (ends _)).mpr ⟨rfl, rfl⟩
    have number : ReadsNumber ((Nat.repr (index + 1)).toList ++ text) (index + 1) text :=
      (readsNumber_repr_iff stops).mpr ⟨rfl, rfl⟩
    have reads := ReadsBranches.branch rfl literal number inner
    rwa [String.ofList_toList] at reads

/-- The branches that a ranking is written with. -/
def SortTerm.branchesText (values : List String) (start : Nat) : List Char :=
  (String.join ((values.zipIdx start).map fun value => branch value.1 value.2)).toList

theorem SortTerm.branchesText_cons (value : String) (values : List String) (start : Nat) :
    branchesText (value :: values) start =
      (branch value start).toList ++ branchesText values (start + 1) := by
  simp [branchesText]

/-- Behind a rank there is a blank: before the next branch, or before the end. -/
theorem SortTerm.exists_blank_branchesText (values : List String) (start : Nat)
    (following : List Char) :
    ∃ words, branchesText values start ++ (" END".toList ++ following) = ' ' :: words := by
  cases values with
  | nil => exact ⟨_, rfl⟩
  | cons value rest =>
      rw [branchesText_cons, toList_branch]
      exact ⟨_, rfl⟩

theorem readsBranches_branchesText_iff {values : List String} {start : Nat}
    {branches : List (String × Nat)} :
    ReadsBranches (SortTerm.branchesText values start ++ (" END".toList ++ text)) branches rest ↔
      branches = values.zipIdx (start + 1) ∧ rest = text := by
  induction values generalizing start branches with
  | nil => exact readsBranches_end_iff
  | cons value values inductionHypothesis =>
      have stops : ∀ c ∈ (SortTerm.branchesText values (start + 1) ++
          (" END".toList ++ text)).head?, c.isDigit = false := by
        obtain ⟨words, blank⟩ := SortTerm.exists_blank_branchesText values (start + 1) text
        rw [blank]
        simp
      rw [SortTerm.branchesText_cons, List.append_assoc, readsBranches_branch_iff stops]
      simp only [inductionHypothesis, List.zipIdx_cons]
      simp

theorem ReadsBranches.exists_blank {branches : List (String × Nat)}
    (reads : ReadsBranches text branches rest) : ∃ words, text = ' ' :: words := by
  cases reads with
  | finish written => exact ⟨_, written⟩
  | branch written _ _ _ => exact ⟨_, written⟩

theorem readsCase_sql_iff {name : ColumnName} {values : List String} {direction : Direction}
    {column : String} {branches : List (String × Nat)} :
    ReadsCase ((SortTerm.ranked name values direction).sql.toList ++ text) column branches rest ↔
      column = name.text ∧ branches = values.zipIdx 1 ∧
        rest = ' ' :: (direction.sql.toList ++ text) := by
  have written : (SortTerm.ranked name values direction).sql.toList ++ text =
      "CASE ".toList ++ (name.text.toList ++ (SortTerm.branchesText values 0 ++
        (" END".toList ++ ' ' :: (direction.sql.toList ++ text)))) := by
    simp [SortTerm.sql, SortTerm.branchesText]
  rw [written]
  constructor
  · intro reads
    cases reads with
    | mk plain opened inner =>
        obtain ⟨words, blank⟩ := inner.exists_blank
        obtain ⟨others, otherBlank⟩ := SortTerm.exists_blank_branchesText values 0
          (' ' :: (direction.sql.toList ++ text))
        have behind := List.append_cancel_left opened
        rw [blank, otherBlank] at behind
        obtain ⟨sameName, sameTail⟩ := split_unique_of_isColumnPart
          (fun _ => isColumnPart_of_mem name.valid)
          (fun _ => isColumnPart_of_mem (isColumnName_iff_plainName.mpr plain))
          (by decide) (by decide) behind
        rw [← otherBlank, ← blank] at sameTail
        rw [← sameTail] at inner
        obtain ⟨sameBranches, left⟩ := readsBranches_branchesText_iff.mp inner
        exact ⟨String.toList_inj.mp sameName.symm, sameBranches, left⟩
  · rintro ⟨rfl, rfl, rfl⟩
    exact .mk (plainName_text name) rfl (readsBranches_branchesText_iff.mpr ⟨rfl, rfl⟩)

namespace Template.Select

/-- A setter that ranks the values of a column makes its name ask for these ranks. -/
theorem asks_ranked_of_withRanking {template ranked : Select} {name : String}
    {values : List String} (accepted : template.withRanking name values = .ok ranked)
    {sort : SortChoice} (named : Lowers sort.name.toList (name.map lowerCase).toList) :
    ∃ column : ColumnName, column.text = name.map lowerCase ∧
      ranked.Asks (some sort) (.ranked column values sort.direction) := by
  rw [withRanking, ColumnName.check] at accepted
  cases checked : ColumnName.ofString? name with
  | none =>
      rw [checked] at accepted
      cases accepted
  | some column =>
      rw [checked] at accepted
      cases accepted
      have text : column.lower.text = name.map lowerCase :=
        congrArg (String.map lowerCase) (ColumnName.ofString?_eq_some_iff.mp checked)
      refine ⟨column.lower, text, .ranked ?_ ?_⟩
      · rw [text]
        exact named
      · rw [← OrderedMap.get?_eq_some_iff, OrderedMap.get?_insert, if_pos rfl]

/-- Behind the words `ORDER BY` the statement holds a `CASE` on the ranked column. Its branches are
read back as the values with their ranks from one on, and as nothing else. -/
theorem readsCase_fill_iff {template ranked : Select} {name : String} {values : List String}
    (accepted : template.withRanking name values = .ok ranked) {sort : SortChoice}
    (named : Lowers sort.name.toList (name.map lowerCase).toList) (request : Request) :
    ∃ text : List Char,
      (ranked.fill { request with sort := some sort }).value.sql =
          ranked.unsortedSql request.filters ++ " ORDER BY " ++ String.ofList text ∧
        ∀ column branches rest, ReadsCase text column branches rest ↔
          column = name.map lowerCase ∧ branches = values.zipIdx 1 ∧
            rest = (" " ++ sort.direction.sql ++ ", " ++ ranked.keyTerms ++
              request.pageSql).toList := by
  obtain ⟨column, lowered, asks⟩ := asks_ranked_of_withRanking accepted named
  let following := (", " ++ ranked.keyTerms ++ request.pageSql).toList
  refine ⟨(SortTerm.ranked column values sort.direction).sql.toList ++ following, ?_, ?_⟩
  · have page : Request.pageSql { request with sort := some sort } = request.pageSql := rfl
    rw [sql_fill, orderTerms_of_some (asks_iff.mp asks), page]
    simp [← String.toList_inj, following]
  · intro read branches rest
    rw [readsCase_sql_iff, lowered]
    simp [following]

/-- Values that hold quotes, or words that belong around a literal. -/
theorem readsCase_fill_iff_quotes :
    let values := ["o\x27neil", "\x27\x27", "\x27 THEN 1 WHEN \x27", "", " END"]
    ∃ ranked : Select,
      withRanking { table := "users" } "Status" values = .ok ranked ∧
        ∃ text : List Char,
          (ranked.fill { sort := some ⟨"STATUS", .descending⟩ }).value.sql =
            "SELECT * FROM users" ++ " ORDER BY " ++ String.ofList text ∧
          ReadsCase text "status"
            [("o\x27neil", 1), ("\x27\x27", 2), ("\x27 THEN 1 WHEN \x27", 3), ("", 4), (" END", 5)]
            " DESC, id ASC".toList := by
  intro values
  let ranked : Select :=
    { table := "users"
      rankings := (∅ : OrderedMap _ _).insert (ColumnName.lower ⟨"Status", by decide⟩) values }
  let sort : SortChoice := ⟨"STATUS", .descending⟩
  have accepted : withRanking { table := "users" } "Status" values = .ok ranked := rfl
  have lowered : "status" = "Status".map lowerCase := by
    rw [← String.toList_inj, String.toList_map]
    decide
  have requested : "status" = "STATUS".map lowerCase := by
    rw [← String.toList_inj, String.toList_map]
    decide
  let status : ColumnName := ⟨"status", by decide⟩
  have named : Lowers sort.name.toList ("Status".map lowerCase).toList := by
    rw [← lowered]
    exact (lowers_column_iff : _ ↔ status.text = _).mpr requested
  have unsorted : ranked.unsortedSql ∅ = "SELECT * FROM users" := by decide
  obtain ⟨text, written, reads⟩ := readsCase_fill_iff accepted named {}
  rw [unsorted] at written
  exact ⟨ranked, accepted, text, written, (reads _ _ _).mpr ⟨lowered, rfl, by decide⟩⟩

end Template.Select

end FilterSql
