import FilterSql.Proofs.Agreement
import FilterSql.Proofs.FilterCondition
import FilterSql.Proofs.OrderedMap
import FilterSql.Proofs.PlaceholderName

/-!
# The choice among conditions

Adding conditions to a clause keeps or drops each of them. A choice records the verdicts in order,
and the clause is read off it: the conditions are those kept, and the parameters are their bindings
inserted one after the other. What is bound stays bound to a value that agrees, and whatever is
dropped conflicts with something kept before it.
-/

namespace FilterSql

/-- Every name stays bound, to a value that agrees with the earlier one. -/
def Parameters.Extends (parameters later : Parameters) : Prop :=
  ∀ name value, parameters.get? name = some value →
    ∃ final, later.get? name = some final ∧ final.Agrees value

namespace Parameters.Extends

theorem refl (parameters : Parameters) : parameters.Extends parameters := by
  intro name value found
  exact ⟨value, found, Value.Agrees.refl value⟩

theorem trans {first second third : Parameters}
    (left : first.Extends second) (right : second.Extends third) :
    first.Extends third := by
  intro name value found
  obtain ⟨middle, middleFound, middleAgrees⟩ := left name value found
  obtain ⟨final, finalFound, finalAgrees⟩ := right name middle middleFound
  exact ⟨final, finalFound, finalAgrees.trans middleAgrees⟩

theorem mem_keys {parameters later : Parameters} (extension : parameters.Extends later)
    {name : String} (present : name ∈ parameters.keys) : name ∈ later.keys := by
  obtain ⟨value, found⟩ := OrderedMap.mem_keys_iff.mp present
  obtain ⟨final, finalFound, _⟩ := extension name value found
  exact OrderedMap.mem_keys_iff.mpr ⟨final, finalFound⟩

/-- Writing bindings keeps the earlier ones exactly when each agrees with what its name has. -/
theorem insertMany_iff {parameters : Parameters} {bindings : List (String × Value)}
    (distinct : (bindings.map Prod.fst).Nodup) :
    parameters.Extends (parameters.insertMany bindings) ↔
      ∀ name value, (name, value) ∈ bindings →
        ∀ bound, parameters.get? name = some bound → value.Agrees bound := by
  constructor
  · intro extension name value member bound found
    obtain ⟨final, bindsFinal, agrees⟩ := extension name bound found
    rw [OrderedMap.get?_insertMany_of_mem distinct member] at bindsFinal
    cases bindsFinal
    exact agrees
  · intro agreeing name bound found
    by_cases written : name ∈ bindings.map Prod.fst
    · obtain ⟨⟨_, value⟩, member, rfl⟩ := List.mem_map.mp written
      exact ⟨value, OrderedMap.get?_insertMany_of_mem distinct member,
        agreeing _ value member bound found⟩
    · refine ⟨bound, ?_, Value.Agrees.refl bound⟩
      rw [OrderedMap.get?_insertMany_of_not_mem written]
      exact found

theorem insertMany {parameters : Parameters} {bindings : List (String × Value)}
    (distinct : (bindings.map Prod.fst).Nodup)
    (compatible : ∀ binding ∈ bindings, parameters.bindsOther binding.1 binding.2 = false) :
    parameters.Extends (parameters.insertMany bindings) := by
  apply (insertMany_iff distinct).mpr
  intro name value member bound found
  have same : (bound == value) = true :=
    Parameters.bindsOther_eq_false_iff.mp (compatible (name, value) member) bound found
  exact (Value.Agrees.of_equal same).symm

/-- A binding that meets no other value leaves the earlier bindings in agreement. -/
theorem insert {parameters : Parameters} {name : String} {value : Value}
    (compatible : parameters.bindsOther name value = false) :
    parameters.Extends (parameters.insert name value) := by
  have written : parameters.insert name value = parameters.insertMany [(name, value)] := rfl
  have distinct : ([(name, value)].map Prod.fst).Nodup := List.nodup_singleton name
  rw [written]
  apply insertMany distinct
  intro binding member
  rw [List.mem_singleton.mp member]
  exact compatible

end Parameters.Extends

/-- Conditions in the order in which they are offered, each with whether it is kept. -/
abbrev Choice := List (BoundCondition × Bool)

namespace Choice

def offered (choice : Choice) : List BoundCondition :=
  choice.map Prod.fst

def kept (choice : Choice) : List BoundCondition :=
  (choice.filter Prod.snd).map Prod.fst

def dropped (choice : Choice) : List BoundCondition :=
  (choice.filter fun verdict => !verdict.2).map Prod.fst

/-- The bindings of the conditions that are kept. -/
def bindings (choice : Choice) : List (String × Value) :=
  choice.kept.flatMap BoundCondition.bindings

theorem kept_append (left right : Choice) : kept (left ++ right) = kept left ++ kept right := by
  rw [kept, List.filter_append, List.map_append, kept, kept]

theorem kept_sublist (choice : Choice) : choice.kept.Sublist choice.offered :=
  List.filter_sublist.map Prod.fst

end Choice

namespace Clause

/-- The verdicts on conditions that are added to a clause from left to right. -/
def choose (clause : Clause) : List BoundCondition → Choice
  | [] => []
  | bound :: rest => (bound, !clause.conflicts bound) :: (clause.add bound).value.choose rest

theorem add_of_conflict {clause : Clause} {bound : BoundCondition}
    (conflict : clause.conflicts bound = true) :
    clause.add bound = ⟨clause, [Clause.dropped bound.condition]⟩ := by
  rw [add, if_pos conflict]

theorem add_of_not_conflict {clause : Clause} {bound : BoundCondition}
    (compatible : clause.conflicts bound = false) :
    clause.add bound =
      .pure ⟨clause.conditions ++ [bound.condition],
        clause.parameters.insertMany bound.bindings⟩ := by
  rw [add, if_neg (by simp [compatible])]

@[simp]
theorem offered_choose (clause : Clause) (bounds : List BoundCondition) :
    (clause.choose bounds).offered = bounds := by
  induction bounds generalizing clause with
  | nil => rfl
  | cons bound rest inductionHypothesis =>
      exact congrArg (bound :: ·) (inductionHypothesis (clause.add bound).value)

theorem choose_append (clause : Clause) (left right : List BoundCondition) :
    clause.choose (left ++ right) =
      clause.choose left ++ (clause.addAll left).value.choose right := by
  induction left generalizing clause with
  | nil => rfl
  | cons bound rest inductionHypothesis =>
      exact congrArg ((bound, !clause.conflicts bound) :: ·)
        (inductionHypothesis (clause.add bound).value)

theorem conditions_addAll (clause : Clause) (bounds : List BoundCondition) :
    (clause.addAll bounds).value.conditions =
      clause.conditions ++ (clause.choose bounds).kept.map BoundCondition.condition := by
  induction bounds generalizing clause with
  | nil => exact (List.append_nil _).symm
  | cons bound rest inductionHypothesis =>
      rw [addAll, Reported.bind, inductionHypothesis, choose]
      cases verdict : clause.conflicts bound with
      | true => simp [add_of_conflict verdict, Choice.kept]
      | false => simp [add_of_not_conflict verdict, Choice.kept, Reported.pure]

theorem parameters_addAll (clause : Clause) (bounds : List BoundCondition) :
    (clause.addAll bounds).value.parameters =
      clause.parameters.insertMany (clause.choose bounds).bindings := by
  induction bounds generalizing clause with
  | nil => rfl
  | cons bound rest inductionHypothesis =>
      rw [addAll, Reported.bind, inductionHypothesis, choose]
      cases verdict : clause.conflicts bound with
      | true => simp [add_of_conflict verdict, Choice.bindings, Choice.kept]
      | false =>
          simp [add_of_not_conflict verdict, Choice.bindings, Choice.kept, Reported.pure,
            OrderedMap.insertMany]

theorem diagnostics_addAll (clause : Clause) (bounds : List BoundCondition) :
    (clause.addAll bounds).diagnostics =
      (clause.choose bounds).dropped.map fun bound => Clause.dropped bound.condition := by
  induction bounds generalizing clause with
  | nil => rfl
  | cons bound rest inductionHypothesis =>
      rw [addAll, Reported.bind, inductionHypothesis, choose]
      cases verdict : clause.conflicts bound with
      | true => simp [add_of_conflict verdict, Choice.dropped]
      | false => simp [add_of_not_conflict verdict, Choice.dropped, Reported.pure]

theorem extends_add {clause : Clause} {bound : BoundCondition}
    (distinct : (bound.bindings.map Prod.fst).Nodup) :
    clause.parameters.Extends (clause.add bound).value.parameters := by
  cases verdict : clause.conflicts bound with
  | true =>
      rw [add_of_conflict verdict]
      exact Parameters.Extends.refl clause.parameters
  | false =>
      rw [add_of_not_conflict verdict]
      apply Parameters.Extends.insertMany distinct
      intro binding member
      exact Bool.eq_false_iff.mpr (List.any_eq_false.mp verdict binding member)

theorem extends_addAll {clause : Clause} {bounds : List BoundCondition}
    (distinct : ∀ bound ∈ bounds, (bound.bindings.map Prod.fst).Nodup) :
    clause.parameters.Extends (clause.addAll bounds).value.parameters := by
  induction bounds generalizing clause with
  | nil => exact Parameters.Extends.refl clause.parameters
  | cons bound rest inductionHypothesis =>
      have first : clause.parameters.Extends (clause.add bound).value.parameters :=
        extends_add (distinct bound (List.Mem.head rest))
      exact first.trans
        (inductionHypothesis fun later member => distinct later (List.Mem.tail bound member))

/-- The bindings of a condition that is kept hold at the end. -/
theorem bound_of_kept {clause : Clause} {bounds : List BoundCondition}
    (distinct : ∀ bound ∈ bounds, (bound.bindings.map Prod.fst).Nodup)
    {name : String} {value : Value} (member : (name, value) ∈ (clause.choose bounds).bindings) :
    ∃ final, (clause.addAll bounds).value.parameters.get? name = some final ∧
      final.Agrees value := by
  induction bounds generalizing clause with
  | nil => exact absurd member List.not_mem_nil
  | cons bound rest inductionHypothesis =>
      have restDistinct : ∀ later ∈ rest, (later.bindings.map Prod.fst).Nodup :=
        fun later present => distinct later (List.Mem.tail bound present)
      rw [choose] at member
      cases verdict : clause.conflicts bound with
      | true =>
          rw [verdict] at member
          exact inductionHypothesis restDistinct member
      | false =>
          rw [verdict] at member
          rcases List.mem_append.mp member with here | later
          · have found : (clause.add bound).value.parameters.get? name = some value := by
              rw [add_of_not_conflict verdict]
              exact OrderedMap.get?_insertMany_of_mem
                (distinct bound (List.Mem.head rest)) here
            exact extends_addAll restDistinct name value found
          · exact inductionHypothesis restDistinct later

theorem eq_offered_of_choose {clause : Clause} {bounds : List BoundCondition}
    {before after : Choice} {verdict : BoundCondition × Bool}
    (shape : clause.choose bounds = before ++ verdict :: after) :
    bounds = before.offered ++ verdict.1 :: after.offered := by
  rw [← offered_choose clause bounds, shape]
  exact List.map_append

/-- Each verdict says whether the condition conflicts with the clause of those before it. -/
theorem verdict_of_choose {clause : Clause} {bounds : List BoundCondition}
    {before after : Choice} {verdict : BoundCondition × Bool}
    (shape : clause.choose bounds = before ++ verdict :: after) :
    clause.choose before.offered = before ∧
      verdict.2 = !(clause.addAll before.offered).value.conflicts verdict.1 := by
  rw [eq_offered_of_choose shape, choose_append] at shape
  have sameLength : (clause.choose before.offered).length = before.length := by
    simpa [Choice.offered] using congrArg List.length (offered_choose clause before.offered)
  obtain ⟨chosenBefore, chosenAfter⟩ := List.append_inj shape sameLength
  exact ⟨chosenBefore, (congrArg Prod.snd (List.cons.inj chosenAfter).1).symm⟩

theorem mem_bindings_of_get?_addAll {bounds : List BoundCondition} {name : String} {value : Value}
    (found : (addAll {} bounds).value.parameters.get? name = some value) :
    (name, value) ∈ (choose {} bounds).bindings := by
  rw [parameters_addAll] at found
  rcases OrderedMap.mem_of_get?_insertMany found with member | earlier
  · exact member
  · exact absurd earlier nofun

theorem conflict_of_dropped {bounds : List BoundCondition} {before after : Choice}
    {bound : BoundCondition} (shape : choose {} bounds = before ++ (bound, false) :: after) :
    ∃ name value other, (name, value) ∈ bound.bindings ∧
      (name, other) ∈ before.bindings ∧ (other == value) = false := by
  obtain ⟨chosenBefore, verdict⟩ := verdict_of_choose shape
  have conflict : (addAll {} before.offered).value.conflicts bound = true := by
    simpa using verdict
  obtain ⟨binding, member, bindsOther⟩ := List.any_eq_true.mp conflict
  obtain ⟨other, found, different⟩ := Parameters.bindsOther_eq_true_iff.mp bindsOther
  have earlier := mem_bindings_of_get?_addAll found
  rw [chosenBefore] at earlier
  exact ⟨binding.1, binding.2, other, member, earlier, different⟩

end Clause

end FilterSql
