import FilterSql.Value

/-!
# Agreement of values

Equality of values is symmetric and transitive, but a floating-point number that is not a number
equals nothing, not even itself. Two values agree when they are identical or equal. Agreement is an
equivalence, and a statement means the same when a placeholder is bound to a value that agrees.
-/

namespace FilterSql

namespace Binary64

theorem equal_symm {left right : Binary64}
    (same : equal left right = true) :
    equal right left = true := by
  simp only [equal, Bool.and_eq_true, Bool.or_eq_true, beq_iff_eq] at same ⊢
  obtain ⟨⟨leftNumber, rightNumber⟩, bits | ⟨leftZero, rightZero⟩⟩ := same
  · exact ⟨⟨rightNumber, leftNumber⟩, Or.inl bits.symm⟩
  · exact ⟨⟨rightNumber, leftNumber⟩, Or.inr ⟨rightZero, leftZero⟩⟩

theorem isZero_of_bits_eq {left right : Binary64}
    (bits : left.bits = right.bits) :
    left.isZero = right.isZero := by
  simp only [isZero, magnitude, bits]

theorem equal_trans {first second third : Binary64}
    (left : equal first second = true)
    (right : equal second third = true) :
    equal first third = true := by
  simp only [equal, Bool.and_eq_true, Bool.or_eq_true, beq_iff_eq] at left right ⊢
  obtain ⟨⟨firstNumber, _⟩, leftCase⟩ := left
  obtain ⟨⟨_, thirdNumber⟩, rightCase⟩ := right
  refine ⟨⟨firstNumber, thirdNumber⟩, ?_⟩
  rcases leftCase with leftBits | ⟨firstZero, secondZero⟩
  · rcases rightCase with rightBits | ⟨secondZero, thirdZero⟩
    · exact Or.inl (leftBits.trans rightBits)
    · exact Or.inr ⟨(isZero_of_bits_eq leftBits).trans secondZero, thirdZero⟩
  · rcases rightCase with rightBits | ⟨_, thirdZero⟩
    · exact Or.inr ⟨firstZero, (isZero_of_bits_eq rightBits).symm.trans secondZero⟩
    · exact Or.inr ⟨firstZero, thirdZero⟩

end Binary64

namespace Value

mutual

theorem equal_symm :
    ∀ {left right : Value}, equal left right = true → equal right left = true
  | null, null, _ => rfl
  | bool _, bool _, same => by
      simp only [equal, beq_iff_eq] at same ⊢
      exact same.symm
  | int _, int _, same => by
      simp only [equal, beq_iff_eq] at same ⊢
      exact same.symm
  | float _, float _, same => Binary64.equal_symm same
  | text _, text _, same => by
      simp only [equal, beq_iff_eq] at same ⊢
      exact same.symm
  | array _, array _, same => equalItems_symm same

theorem equalItems_symm :
    ∀ {left right : List Value}, equalItems left right = true → equalItems right left = true
  | [], [], _ => rfl
  | _ :: _, _ :: _, same => by
      simp only [equalItems, Bool.and_eq_true] at same ⊢
      exact ⟨equal_symm same.1, equalItems_symm same.2⟩

end

mutual

theorem equal_trans :
    ∀ {first second third : Value},
      equal first second = true → equal second third = true → equal first third = true
  | null, null, null, _, _ => rfl
  | bool _, bool _, bool _, left, right => by
      simp only [equal, beq_iff_eq] at left right ⊢
      exact left.trans right
  | int _, int _, int _, left, right => by
      simp only [equal, beq_iff_eq] at left right ⊢
      exact left.trans right
  | float _, float _, float _, left, right => Binary64.equal_trans left right
  | text _, text _, text _, left, right => by
      simp only [equal, beq_iff_eq] at left right ⊢
      exact left.trans right
  | array _, array _, array _, left, right => equalItems_trans left right

theorem equalItems_trans :
    ∀ {first second third : List Value},
      equalItems first second = true → equalItems second third = true →
        equalItems first third = true
  | [], [], [], _, _ => rfl
  | _ :: _, _ :: _, _ :: _, left, right => by
      simp only [equalItems, Bool.and_eq_true] at left right ⊢
      exact ⟨equal_trans left.1 right.1, equalItems_trans left.2 right.2⟩

end

instance : PartialEquivBEq Value where
  symm := equal_symm
  trans := equal_trans

/-- Values agree when they are identical or equal; only the first makes a value agree with itself
that is not a number. -/
def Agrees (left right : Value) : Prop :=
  left = right ∨ (left == right) = true

theorem Agrees.refl (value : Value) : Agrees value value :=
  Or.inl rfl

theorem Agrees.of_equal {left right : Value} (same : (left == right) = true) :
    Agrees left right :=
  Or.inr same

theorem Agrees.symm {left right : Value} (agreement : Agrees left right) :
    Agrees right left := by
  rcases agreement with identical | equal
  · exact Or.inl identical.symm
  · exact Or.inr (BEq.symm equal)

theorem Agrees.trans {first second third : Value}
    (left : Agrees first second) (right : Agrees second third) :
    Agrees first third := by
  rcases left with rfl | leftEqual
  · exact right
  · rcases right with rfl | rightEqual
    · exact Or.inr leftEqual
    · exact Or.inr (BEq.trans leftEqual rightEqual)

theorem Agrees.equal_of_equal {value left right : Value} (agreement : left.Agrees right)
    (same : (value == left) = true) : (value == right) = true := by
  rcases agreement with rfl | equal
  · exact same
  · exact BEq.trans same equal

end Value

namespace Parameters

/-- Nothing but a value that does not equal the given one counts as another value. -/
theorem bindsOther_eq_false_iff {parameters : Parameters} {name : String} {value : Value} :
    parameters.bindsOther name value = false ↔
      ∀ bound, parameters.get? name = some bound → (bound == value) = true := by
  cases found : parameters.get? name with
  | none => simp [bindsOther, found, bne]
  | some bound => simp [bindsOther, found, bne]

theorem bindsOther_eq_true_iff {parameters : Parameters} {name : String} {value : Value} :
    parameters.bindsOther name value = true ↔
      ∃ bound, parameters.get? name = some bound ∧ (bound == value) = false := by
  cases found : parameters.get? name with
  | none => simp [bindsOther, found, bne]
  | some bound => simp [bindsOther, found, bne]

end Parameters

end FilterSql
