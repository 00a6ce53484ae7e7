import Mathlib.Data.List.TakeWhile
import FilterSql.Column

/-!
# The characters of column names

A column name is one identifier, or two with a dot between them. Nothing else is let in, so a name
holds none of the characters by which the text around it is told apart. The check of column names
decides exactly this language.
-/

namespace FilterSql

theorem isIdentifierPart_of_isIdentifierStart {c : Char}
    (start : isIdentifierStart c = true) : isIdentifierPart c = true := by
  simp only [isIdentifierStart, isIdentifierPart, Char.isAlphanum, Bool.or_eq_true] at start ⊢
  rcases start with letter | underscore
  · exact Or.inl (Or.inl letter)
  · exact Or.inr underscore

theorem isIdentifierPart_of_mem {text : List Char} {c : Char}
    (valid : isIdentifierText text = true) (member : c ∈ text) :
    isIdentifierPart c = true := by
  cases text with
  | nil => exact absurd member List.not_mem_nil
  | cons first rest =>
      simp only [isIdentifierText, Bool.and_eq_true, List.all_eq_true] at valid
      obtain ⟨⟨start, parts⟩, _⟩ := valid
      rcases List.mem_cons.mp member with rfl | later
      · exact isIdentifierPart_of_isIdentifierStart start
      · exact parts c later

theorem bne_dot_of_isIdentifierPart {c : Char}
    (part : isIdentifierPart c = true) : (c != '.') = true := by
  rw [bne_iff_ne]
  rintro rfl
  exact absurd part (by decide)

theorem not_mem_dot_of_isIdentifierText {text : List Char}
    (valid : isIdentifierText text = true) : '.' ∉ text := by
  intro member
  exact absurd (isIdentifierPart_of_mem valid member) (by decide)

theorem ne_nil_of_isIdentifierText {text : List Char}
    (valid : isIdentifierText text = true) : text ≠ [] := by
  intro empty
  rw [empty] at valid
  cases valid

/-- A column name has at most one dot, and an identifier on each side of it. -/
theorem isColumnName_iff {text : String} :
    isColumnName text = true ↔
      isIdentifierText text.toList = true ∨
        ∃ table column, text.toList = table ++ '.' :: column ∧
          isIdentifierText table = true ∧ isIdentifierText column = true := by
  have whole := List.takeWhile_append_dropWhile (p := (· != '.')) (l := text.toList)
  rw [isColumnName]
  constructor
  · intro valid
    cases dropped : text.toList.dropWhile (· != '.') with
    | nil =>
        rw [dropped, List.append_nil] at whole
        simp only [dropped, whole] at valid
        exact Or.inl valid
    | cons dot column =>
        have stopped := List.head_dropWhile_not (l := text.toList) (· != '.') (by simp [dropped])
        simp only [dropped, List.head_cons, bne_eq_false_iff_eq] at stopped
        subst stopped
        simp only [dropped, Bool.and_eq_true] at valid
        exact Or.inr ⟨_, column, by rw [← dropped, whole], valid⟩
  · rintro (valid | ⟨table, column, shape, tableValid, columnValid⟩)
    · have plain : ∀ c ∈ text.toList, (c != '.') = true := fun c member =>
        bne_dot_of_isIdentifierPart (isIdentifierPart_of_mem valid member)
      simp only [List.dropWhile_eq_nil_iff.mpr plain, List.takeWhile_eq_self_iff.mpr plain]
      exact valid
    · have plain : ∀ c ∈ table, (c != '.') = true := fun c member =>
        bne_dot_of_isIdentifierPart (isIdentifierPart_of_mem tableValid member)
      simp only [shape, List.dropWhile_append_of_pos plain, List.takeWhile_append_of_pos plain]
      simpa using ⟨tableValid, columnValid⟩

theorem exists_cons_of_isIdentifierText {text : List Char}
    (valid : isIdentifierText text = true) :
    ∃ first rest, text = first :: rest ∧ isIdentifierStart first = true := by
  cases text with
  | nil => cases valid
  | cons first rest =>
      simp only [isIdentifierText, Bool.and_eq_true] at valid
      exact ⟨first, rest, rfl, valid.1.1⟩

theorem exists_cons_of_isColumnName {text : String} (valid : isColumnName text = true) :
    ∃ first rest, text.toList = first :: rest ∧ isIdentifierStart first = true := by
  rcases isColumnName_iff.mp valid with identifier | ⟨table, column, shape, tableValid, _⟩
  · exact exists_cons_of_isIdentifierText identifier
  · obtain ⟨first, rest, tableShape, start⟩ := exists_cons_of_isIdentifierText tableValid
    exact ⟨first, rest ++ '.' :: column, by rw [shape, tableShape, List.cons_append], start⟩

/-- The characters that occur in column names. -/
def isColumnPart (c : Char) : Bool :=
  isIdentifierPart c || c == '.'

theorem isColumnPart_of_mem {text : String} {c : Char}
    (valid : isColumnName text = true) (member : c ∈ text.toList) :
    isColumnPart c = true := by
  rw [isColumnPart, Bool.or_eq_true, beq_iff_eq]
  rcases isColumnName_iff.mp valid with identifier | ⟨table, column, shape, tableValid, columnValid⟩
  · exact Or.inl (isIdentifierPart_of_mem identifier member)
  · rw [shape, List.mem_append, List.mem_cons] at member
    rcases member with inTable | rfl | inColumn
    · exact Or.inl (isIdentifierPart_of_mem tableValid inTable)
    · exact Or.inr rfl
    · exact Or.inl (isIdentifierPart_of_mem columnValid inColumn)

def IsLetter (c : Char) : Prop :=
  ('A' ≤ c ∧ c ≤ 'Z') ∨ ('a' ≤ c ∧ c ≤ 'z')

def IsDigit (c : Char) : Prop :=
  '0' ≤ c ∧ c ≤ '9'

/-- The identifiers of SQL, without quotes: at most 63 letters, digits and underscores of ASCII,
the first of them not a digit. -/
structure Identifier (text : List Char) : Prop where
  nonempty : 1 ≤ text.length
  short : text.length ≤ 63
  start : ∀ first ∈ text.head?, IsLetter first ∨ first = '_'
  parts : ∀ c ∈ text.tail, IsLetter c ∨ IsDigit c ∨ c = '_'

/-- Names that may stand in a statement as they are. -/
inductive PlainName : String → Prop
  | alone {text : String} : Identifier text.toList → PlainName text
  | qualified {table column : String} :
      Identifier table.toList → Identifier column.toList → PlainName (table ++ "." ++ column)

theorem isAlpha_iff {c : Char} : c.isAlpha = true ↔ IsLetter c := by
  have ranges : c.isAlpha =
      (decide ('A' ≤ c ∧ c ≤ 'Z') || decide ('a' ≤ c) && decide (c ≤ 'z')) := rfl
  simp only [ranges, Bool.or_eq_true, Bool.and_eq_true, decide_eq_true_eq]
  rfl

theorem isIdentifierStart_iff {c : Char} :
    isIdentifierStart c = true ↔ IsLetter c ∨ c = '_' := by
  rw [isIdentifierStart, Bool.or_eq_true, isAlpha_iff, beq_iff_eq]

theorem isIdentifierPart_iff {c : Char} :
    isIdentifierPart c = true ↔ IsLetter c ∨ IsDigit c ∨ c = '_' := by
  have digit : c.isDigit = true ↔ IsDigit c := by
    simp only [Char.isDigit, Bool.and_eq_true, decide_eq_true_eq, ge_iff_le]
    rfl
  rw [isIdentifierPart, Char.isAlphanum, Bool.or_eq_true, Bool.or_eq_true, isAlpha_iff, digit,
    beq_iff_eq, or_assoc]

theorem isIdentifierText_iff {text : List Char} :
    isIdentifierText text = true ↔ Identifier text := by
  cases text with
  | nil =>
      constructor
      · intro valid
        cases valid
      · intro identifier
        exact absurd identifier.nonempty (by decide)
  | cons first rest =>
      simp only [isIdentifierText, Bool.and_eq_true, List.all_eq_true, decide_eq_true_eq,
        isIdentifierStart_iff, isIdentifierPart_iff]
      constructor
      · rintro ⟨⟨start, parts⟩, short⟩
        exact {
          nonempty := Nat.succ_pos _
          short := short
          start := by
            rintro _ ⟨⟩
            exact start
          parts := parts }
      · intro identifier
        exact ⟨⟨identifier.start first rfl, identifier.parts⟩, identifier.short⟩

/-- The check of column names lets in the plain names and nothing else. -/
theorem isColumnName_iff_plainName {text : String} :
    isColumnName text = true ↔ PlainName text := by
  rw [isColumnName_iff, isIdentifierText_iff]
  constructor
  · rintro (identifier | ⟨table, column, shape, tableValid, columnValid⟩)
    · exact .alone identifier
    · have text_eq : text = String.ofList table ++ "." ++ String.ofList column := by
        rw [← String.toList_inj, shape]
        simp
      rw [text_eq]
      refine .qualified ?_ ?_
      · rw [String.toList_ofList]
        exact isIdentifierText_iff.mp tableValid
      · rw [String.toList_ofList]
        exact isIdentifierText_iff.mp columnValid
  · intro plain
    cases plain with
    | alone identifier => exact Or.inl identifier
    | @qualified table column tableValid columnValid =>
        refine Or.inr ⟨table.toList, column.toList, ?_, isIdentifierText_iff.mpr tableValid,
          isIdentifierText_iff.mpr columnValid⟩
        simp

/-- A column is known by its name. -/
theorem ColumnName.text_injective : Function.Injective ColumnName.text := by
  rintro ⟨name, _⟩ ⟨other, _⟩ rfl
  rfl

end FilterSql
