/-!
# Column names

Column names are written into statements as they are, so only plain identifiers, alone or qualified
by a table, are let in. `ColumnName` is a name that passed this check.

Sorting finds columns without regard to case. A column name is made of ASCII characters, so of the
rules of lower case only those with an ASCII result matter: the capital letters of ASCII, and the
Kelvin sign, whose lower case is the letter k. Lower case turns column names into column names.
-/

namespace FilterSql

/-- The characters that an identifier starts with; letters are those of ASCII. -/
def isIdentifierStart (c : Char) : Bool :=
  c.isAlpha || c == '_'

/-- The characters that an identifier goes on with; letters and digits are those of ASCII. -/
def isIdentifierPart (c : Char) : Bool :=
  c.isAlphanum || c == '_'

/-- Identifiers have at most 63 characters. All are of ASCII, so they are as many bytes. -/
def isIdentifierText : List Char → Bool
  | [] => false
  | first :: rest =>
      isIdentifierStart first && rest.all isIdentifierPart && decide (rest.length < 63)

/-- Whether a text is an identifier. -/
def isIdentifier (text : String) : Bool :=
  isIdentifierText text.toList

/-- Whether a text is an identifier, or two of them joined by a dot. -/
def isColumnName (text : String) : Bool :=
  let table := text.toList.takeWhile (· != '.')
  match text.toList.dropWhile (· != '.') with
  | [] => isIdentifierText table
  | _ :: column => isIdentifierText table && isIdentifierText column

/-- A text that may stand in a statement as the name of a column. -/
structure ColumnName where
  text : String
  valid : isColumnName text = true
  deriving DecidableEq

namespace ColumnName

def ofString? (text : String) : Option ColumnName :=
  if valid : isColumnName text = true then some ⟨text, valid⟩ else none

theorem ofString?_eq_some_iff {text : String} {name : ColumnName} :
    ofString? text = some name ↔ name.text = text := by
  constructor
  · intro found
    unfold ofString? at found
    split at found
    · exact (Option.some.inj found) ▸ rfl
    · contradiction
  · rintro rfl
    simp [ofString?, name.valid]

/-- The key column of a table for which no other is named. -/
def defaultKey : ColumnName :=
  ⟨"id", by decide⟩

end ColumnName

/-- The lower case of a character if that is an ASCII character, else the character itself. -/
def lowerCase (c : Char) : Char :=
  if c = '\u212a' then 'k' else c.toLower

theorem bounds_of_isUpper {c : Char} (upper : c.isUpper = true) :
    65 ≤ c.toNat ∧ c.toNat ≤ 90 := by
  have capital : c.val ≥ 'A'.val ∧ c.val ≤ 'Z'.val := of_decide_eq_true upper
  simpa [UInt32.le_iff_toNat_le] using capital

theorem isLower_lowerCase {c : Char} (upper : c.isUpper = true) :
    (lowerCase c).isLower = true := by
  have capital : c.val ≥ 'A'.val ∧ c.val ≤ 'Z'.val := of_decide_eq_true upper
  have bounds := bounds_of_isUpper upper
  have plain : c ≠ '\u212a' := by
    rintro rfl
    simp at bounds
  have lowered : (lowerCase c).val = c.val + 32 := by
    rw [lowerCase, if_neg plain]
    exact congrArg Char.val (dif_pos capital)
  change (decide ((lowerCase c).val ≥ 'a'.val) && decide ((lowerCase c).val ≤ 'z'.val)) = true
  rw [lowered]
  simp [UInt32.le_iff_toNat_le, UInt32.toNat_add]
  omega

theorem lowerCase_of_not_isUpper {c : Char}
    (small : c.isUpper = false) (plain : c ≠ '\u212a') : lowerCase c = c := by
  rw [lowerCase, if_neg plain]
  exact dif_neg (of_decide_eq_false small)

theorem isIdentifierStart_of_isLower {c : Char} (lower : c.isLower = true) :
    isIdentifierStart c = true := by
  change (c.isUpper || c.isLower || c == '_') = true
  simp [lower]

theorem isIdentifierPart_of_isLower {c : Char} (lower : c.isLower = true) :
    isIdentifierPart c = true := by
  change (c.isUpper || c.isLower || c.isDigit || c == '_') = true
  simp [lower]

theorem isIdentifierStart_lowerCase {c : Char} (start : isIdentifierStart c = true) :
    isIdentifierStart (lowerCase c) = true := by
  cases upper : c.isUpper with
  | true => exact isIdentifierStart_of_isLower (isLower_lowerCase upper)
  | false =>
    rw [lowerCase_of_not_isUpper upper]
    · exact start
    · rintro rfl
      exact absurd start (by decide)

theorem isIdentifierPart_lowerCase {c : Char} (part : isIdentifierPart c = true) :
    isIdentifierPart (lowerCase c) = true := by
  cases upper : c.isUpper with
  | true => exact isIdentifierPart_of_isLower (isLower_lowerCase upper)
  | false =>
    rw [lowerCase_of_not_isUpper upper]
    · exact part
    · rintro rfl
      exact absurd part (by decide)

theorem lowerCase_ne_dot {c : Char} (other : c ≠ '.') : lowerCase c ≠ '.' := by
  cases upper : c.isUpper with
  | true =>
    intro dot
    have small := isLower_lowerCase upper
    rw [dot] at small
    exact absurd small (by decide)
  | false =>
    by_cases plain : c = '\u212a'
    · subst plain
      decide
    · rwa [lowerCase_of_not_isUpper upper plain]

theorem isIdentifierText_map_lowerCase {text : List Char}
    (valid : isIdentifierText text = true) :
    isIdentifierText (text.map lowerCase) = true := by
  cases text with
  | nil => exact valid
  | cons first rest =>
    simp only [isIdentifierText, Bool.and_eq_true, List.all_eq_true, decide_eq_true_eq] at valid
    obtain ⟨⟨start, parts⟩, short⟩ := valid
    simp only [List.map_cons, isIdentifierText, Bool.and_eq_true, List.all_eq_true,
      decide_eq_true_eq, List.length_map, List.forall_mem_map]
    exact ⟨⟨isIdentifierStart_lowerCase start,
      fun c member => isIdentifierPart_lowerCase (parts c member)⟩, short⟩

/-- Lower case neither makes nor removes a dot. -/
theorem lowerCase_bne_dot (c : Char) : (lowerCase c != '.') = (c != '.') := by
  by_cases dot : c = '.'
  · subst dot
    decide
  · rw [bne_iff_ne.2 dot, bne_iff_ne.2 (lowerCase_ne_dot dot)]

theorem isColumnName_map_lowerCase {text : String} (valid : isColumnName text = true) :
    isColumnName (text.map lowerCase) = true := by
  have table : (text.toList.map lowerCase).takeWhile (· != '.') =
      (text.toList.takeWhile (· != '.')).map lowerCase := by
    rw [List.takeWhile_map]
    congr 2
    funext c
    exact lowerCase_bne_dot c
  have column : (text.toList.map lowerCase).dropWhile (· != '.') =
      (text.toList.dropWhile (· != '.')).map lowerCase := by
    rw [List.dropWhile_map]
    congr 2
    funext c
    exact lowerCase_bne_dot c
  simp only [isColumnName, String.toList_map, table, column] at valid ⊢
  cases dotted : text.toList.dropWhile (· != '.') with
  | nil =>
    rw [dotted] at valid
    exact isIdentifierText_map_lowerCase valid
  | cons dot rest =>
    rw [dotted] at valid
    simp only [List.map_cons, Bool.and_eq_true] at valid ⊢
    exact ⟨isIdentifierText_map_lowerCase valid.1, isIdentifierText_map_lowerCase valid.2⟩

/-- The column name in lower case. -/
def ColumnName.lower (name : ColumnName) : ColumnName :=
  ⟨name.text.map lowerCase, isColumnName_map_lowerCase name.valid⟩

end FilterSql
