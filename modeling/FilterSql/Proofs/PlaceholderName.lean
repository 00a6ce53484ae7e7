import Mathlib.Data.List.Nodup
import FilterSql.Clause
import FilterSql.Proofs.ColumnName

/-!
# The names of placeholders

The name for a key that holds a column name is made of letters, digits and underscores, and so is
each numbered name. The numbers keep the names of one list apart.
-/

namespace FilterSql

namespace Placeholder

theorem repr_injective {first second : Nat}
    (same : Nat.repr first = Nat.repr second) : first = second := by
  have digits : Nat.toDigits 10 first = Nat.toDigits 10 second := by
    rw [← Nat.toList_repr, ← Nat.toList_repr, same]
  rw [← Nat.ofDigitChars_ten_toDigits (n := first), digits, Nat.ofDigitChars_ten_toDigits]

theorem isDigit_of_mem_repr {number : Nat} {c : Char} (member : c ∈ (Nat.repr number).toList) :
    c.isDigit = true := by
  rw [Nat.toList_repr] at member
  exact Nat.isDigit_of_mem_toDigits (by decide) (by decide) member

theorem numbered_injective (name : String) : Function.Injective (numbered name) := by
  intro first second same
  have suffixes : Nat.repr (first + 1) = Nat.repr (second + 1) := by
    rw [numbered, numbered, ← String.toList_inj, String.toList_append, String.toList_append,
      List.append_cancel_left_eq, String.toList_inj] at same
    exact same
  exact Nat.succ.inj (repr_injective suffixes)

/-- A text of letters, digits and underscores. -/
def IsName (name : String) : Prop :=
  ∀ c ∈ name.toList, isIdentifierPart c = true

instance (name : String) : Decidable (IsName name) :=
  decidable_of_iff (name.toList.all isIdentifierPart = true) List.all_eq_true

theorem IsName.append {left right : String} (leftName : IsName left) (rightName : IsName right) :
    IsName (left ++ right) := by
  intro c member
  rw [String.toList_append, List.mem_append] at member
  rcases member with inLeft | inRight
  · exact leftName c inLeft
  · exact rightName c inRight

theorem isName_numbered {name : String} (named : IsName name) (index : Nat) :
    IsName (numbered name index) := by
  apply named.append
  intro c member
  simp [isIdentifierPart, Char.isAlphanum, isDigit_of_mem_repr member]

theorem withoutDot_append {left : List Char} (plain : ∀ c ∈ left, isIdentifierPart c = true)
    (right : List Char) : withoutDot (left ++ right) = left ++ withoutDot right := by
  induction left with
  | nil => rfl
  | cons first rest inductionHypothesis =>
      have other : first ≠ '.' :=
        bne_iff_ne.mp (bne_dot_of_isIdentifierPart (plain first (List.Mem.head rest)))
      rw [List.cons_append, withoutDot, if_neg other,
        inductionHypothesis fun c member => plain c (List.Mem.tail first member),
        List.cons_append]

theorem withoutDot_of_plain {text : List Char}
    (plain : ∀ c ∈ text, isIdentifierPart c = true) : withoutDot text = text := by
  have kept := withoutDot_append plain []
  rw [List.append_nil, withoutDot, List.append_nil] at kept
  exact kept

/-- The dot of a qualified column, the only character of a column that no name may hold, is
replaced. -/
theorem isName_ofKey {mark column : String}
    (marked : IsName mark) (valid : isColumnName column = true) :
    IsName (ofKey (mark ++ column)) := by
  rw [IsName, ofKey, String.toList_ofList, String.toList_append, withoutDot_append marked]
  rcases isColumnName_iff.mp valid with identifier | ⟨table, name, shape, tableValid, nameValid⟩
  · have plain : ∀ c ∈ column.toList, isIdentifierPart c = true := fun c member =>
      isIdentifierPart_of_mem identifier member
    rw [withoutDot_of_plain plain]
    intro c member
    rcases List.mem_append.mp member with inMark | inColumn
    · exact marked c inMark
    · exact plain c inColumn
  · have plain : ∀ c ∈ table, isIdentifierPart c = true := fun c member =>
      isIdentifierPart_of_mem tableValid member
    rw [shape, withoutDot_append plain, withoutDot, if_pos rfl]
    intro c member
    simp only [List.mem_append, List.mem_cons] at member
    rcases member with inMark | inTable | rfl | rfl | inName
    · exact marked c inMark
    · exact plain c inTable
    · decide
    · decide
    · exact isIdentifierPart_of_mem nameValid inName

/-- A text of letters. -/
def IsWord (name : String) : Prop :=
  ∀ c ∈ name.toList, c.isAlpha = true

instance (name : String) : Decidable (IsWord name) :=
  decidable_of_iff (name.toList.all Char.isAlpha = true) List.all_eq_true

theorem IsWord.left {left right : String} (word : IsWord (left ++ right)) : IsWord left := by
  intro c member
  apply word
  rw [String.toList_append]
  exact List.mem_append_left _ member

theorem withoutDot_eq_self_or_mem (text : List Char) :
    withoutDot text = text ∨ '_' ∈ withoutDot text := by
  induction text with
  | nil => exact Or.inl rfl
  | cons first rest inductionHypothesis =>
      rw [withoutDot]
      split
      · exact Or.inr (List.Mem.head _)
      · rcases inductionHypothesis with kept | written
        · exact Or.inl (congrArg (first :: ·) kept)
        · exact Or.inr (List.Mem.tail first written)

/-- A name that is a word is the name for itself only. -/
theorem eq_of_isWord_ofKey {key : String} (word : IsWord (ofKey key)) : ofKey key = key := by
  rcases withoutDot_eq_self_or_mem key.toList with kept | written
  · rw [ofKey, kept, String.ofList_toList]
  · have letter : '_'.isAlpha = true := by
      apply word
      rw [ofKey, String.toList_ofList]
      exact written
    exact absurd letter (by decide)

theorem ofKey_of_isWord {key : String} (word : IsWord key) : ofKey key = key := by
  have plain : ∀ c ∈ key.toList, isIdentifierPart c = true := by
    intro c member
    simp [isIdentifierPart, Char.isAlphanum, word c member]
  rw [ofKey, withoutDot_of_plain plain, String.ofList_toList]

theorem not_isAlpha_of_isDigit {c : Char} (digit : c.isDigit = true) : ¬c.isAlpha = true := by
  have below : c.toNat ≤ 57 := by
    simp only [Char.isDigit, Bool.and_eq_true, decide_eq_true_eq] at digit
    exact digit.2
  intro letter
  have either : c.isUpper = true ∨ c.isLower = true := Bool.or_eq_true_iff.mp letter
  have above : 65 ≤ c.toNat := by
    rcases either with upper | lower
    · exact (of_decide_eq_true upper).1
    · exact Nat.le_trans (by decide) (of_decide_eq_true (Bool.and_eq_true_iff.mp lower).1)
  omega

theorem not_isWord_numbered (name : String) (index : Nat) : ¬IsWord (numbered name index) := by
  intro word
  obtain ⟨c, member⟩ := List.exists_mem_of_ne_nil (Nat.toDigits 10 (index + 1)) Nat.toDigits_ne_nil
  have letter : c.isAlpha = true := by
    apply word
    rw [numbered, String.toList_append, Nat.toList_repr]
    exact List.mem_append_right _ member
  have digit := Nat.isDigit_of_mem_toDigits (by decide) (by decide) member
  exact not_isAlpha_of_isDigit digit letter

end Placeholder

namespace BoundCondition

theorem names_numbered (key : String) (items : List Value) :
    (numbered key items).map Prod.fst =
      (List.range items.length).map (Placeholder.numbered (Placeholder.ofKey key)) := by
  rw [numbered, List.map_map, List.range_eq_range', ← List.zipIdx_map_snd, List.map_map]
  rfl

theorem values_numbered (key : String) (items : List Value) :
    (numbered key items).map Prod.snd = items := by
  rw [numbered, List.map_map]
  exact List.zipIdx_map_fst 0 items

theorem nodup_names_numbered (key : String) (items : List Value) :
    ((numbered key items).map Prod.fst).Nodup := by
  rw [names_numbered]
  exact List.nodup_range.map (Placeholder.numbered_injective _)

end BoundCondition

end FilterSql
