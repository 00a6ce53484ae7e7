import Mathlib.Data.List.Induction
import FilterSql.Proofs.ValueShape

/-!
# Compatible conditions

Two conditions are compatible when they bind every name that they share to equal values. Adding
conditions from left to right compares each of them only with what is bound so far, and still drops
none exactly when every two of them are compatible. That does not depend on their order, so filters
that meet no conflict may be permuted: the clause has the same conditions and the same parameters.
-/

namespace FilterSql

namespace BoundCondition

/-- The values that two conditions bind to a name of both are equal. -/
def Compatible (left right : BoundCondition) : Prop :=
  ∀ name value other, (name, value) ∈ left.bindings → (name, other) ∈ right.bindings →
    (value == other) = true

theorem Compatible.symm {left right : BoundCondition} (compatible : Compatible left right) :
    Compatible right left := by
  intro name value other rightBinding leftBinding
  exact BEq.symm (compatible name other value leftBinding rightBinding)

end BoundCondition

open BoundCondition

namespace Choice

theorem dropped_append (left right : Choice) :
    dropped (left ++ right) = dropped left ++ dropped right := by
  rw [dropped, List.filter_append, List.map_append, dropped, dropped]

end Choice

namespace Clause

variable {bounds : List BoundCondition}

theorem choose_concat (clause : Clause) (bounds : List BoundCondition) (last : BoundCondition) :
    clause.choose (bounds ++ [last]) =
      clause.choose bounds ++ [(last, !(clause.addAll bounds).value.conflicts last)] := by
  rw [choose_append]
  rfl

/-- A condition that meets no conflict is compatible with everything that was kept before it. -/
theorem compatible_of_not_conflicts
    (distinct : ∀ bound ∈ bounds, (bound.bindings.map Prod.fst).Nodup) {last : BoundCondition}
    (accepted : (addAll {} bounds).value.conflicts last = false)
    {bound : BoundCondition} (kept : bound ∈ (choose {} bounds).kept) : Compatible bound last := by
  intro name value other binding lastBinding
  obtain ⟨final, found, agrees⟩ :=
    bound_of_kept distinct (List.mem_flatMap.mpr ⟨bound, kept, binding⟩)
  have unchanged : (addAll {} bounds).value.parameters.bindsOther name other = false :=
    Bool.eq_false_iff.mpr (List.any_eq_false.mp accepted (name, other) lastBinding)
  have same : (final == other) = true :=
    Parameters.bindsOther_eq_false_iff.mp unchanged final found
  rcases agrees with rfl | equal
  · exact same
  · exact BEq.trans (BEq.symm equal) same

theorem pairwise_compatible_of_dropped_eq_nil
    (distinct : ∀ bound ∈ bounds, (bound.bindings.map Prod.fst).Nodup)
    (nothing : (choose {} bounds).dropped = []) : bounds.Pairwise Compatible := by
  induction bounds using List.reverseRecOn with
  | nil => exact .nil
  | append_singleton bounds last inductionHypothesis =>
      rw [choose_concat, Choice.dropped_append, List.append_eq_nil_iff] at nothing
      obtain ⟨nothingBefore, lastKept⟩ := nothing
      have before : ∀ bound ∈ bounds, (bound.bindings.map Prod.fst).Nodup := fun bound member =>
        distinct bound (List.mem_append_left _ member)
      have accepted : (addAll {} bounds).value.conflicts last = false := by
        by_contra conflict
        simp [Choice.dropped, conflict] at lastKept
      have kept : (choose {} bounds).kept = bounds := by
        rw [Choice.kept_eq_offered nothingBefore, offered_choose]
      refine List.pairwise_append.mpr
        ⟨inductionHypothesis before nothingBefore, List.pairwise_singleton _ _, ?_⟩
      intro bound member other single
      rw [List.mem_singleton.mp single]
      exact compatible_of_not_conflicts before accepted (kept.symm ▸ member)

/-- Whatever is dropped gives a name another value than some condition before it. -/
theorem dropped_eq_nil_of_pairwise_compatible (compatible : bounds.Pairwise Compatible) :
    (choose {} bounds).dropped = [] := by
  apply List.eq_nil_iff_forall_not_mem.mpr
  intro dropped member
  obtain ⟨⟨bound, kept⟩, present, rfl⟩ := List.mem_map.mp member
  obtain ⟨chosen, rejected⟩ := List.mem_filter.mp present
  obtain rfl : kept = false := by simpa using rejected
  obtain ⟨before, after, shape⟩ := List.append_of_mem chosen
  obtain ⟨name, value, other, binding, earlier, different⟩ := conflict_of_dropped shape
  obtain ⟨source, sourceKept, sourceBinding⟩ := List.mem_flatMap.mp earlier
  rw [eq_offered_of_choose shape, List.pairwise_append] at compatible
  have offered : source ∈ Choice.offered before := (Choice.kept_sublist before).subset sourceKept
  have same : (other == value) = true :=
    compatible.2.2 source offered bound (List.Mem.head _) name other value sourceBinding binding
  rw [same] at different
  cases different

theorem dropped_choose_eq_nil_iff
    (distinct : ∀ bound ∈ bounds, (bound.bindings.map Prod.fst).Nodup) :
    (choose {} bounds).dropped = [] ↔ bounds.Pairwise Compatible :=
  ⟨pairwise_compatible_of_dropped_eq_nil distinct, dropped_eq_nil_of_pairwise_compatible⟩

end Clause

namespace Filters

variable {allowed : List String} {first second : Filters}

theorem dropped_eq_nil_iff {filters : Filters} :
    (filters.choice allowed).dropped = [] ↔
      ∀ diagnostic ∈ (filters.compile allowed).diagnostics, diagnostic.reportsConflict = false := by
  refine ⟨?_, dropped_eq_nil⟩
  intro nothing
  by_cases empty : allowed = []
  · rw [empty]
    intro diagnostic member
    rw [List.mem_singleton.mp member]
    rfl
  · have none := countP_reportsConflict_compile empty filters
    rw [nothing, List.length_nil, List.countP_eq_zero] at none
    exact fun diagnostic member => Bool.eq_false_iff.mpr (none diagnostic member)

theorem dropped_choice_eq_nil_iff {filters : Filters} :
    (filters.choice allowed).dropped = [] ↔
      (conditions allowed filters.entries).Pairwise Compatible :=
  Clause.dropped_choose_eq_nil_iff fun _ member => nodup_names_of_mem_conditions member

theorem perm_conditions (permuted : first.entries.Perm second.entries) :
    (conditions allowed first.entries).Perm (conditions allowed second.entries) :=
  permuted.filterMap _

theorem compatible_of_perm (permuted : first.entries.Perm second.entries)
    (compatible : ∀ diagnostic ∈ (first.compile allowed).diagnostics,
      diagnostic.reportsConflict = false) :
    ∀ diagnostic ∈ (second.compile allowed).diagnostics, diagnostic.reportsConflict = false := by
  rw [← dropped_eq_nil_iff, dropped_choice_eq_nil_iff] at compatible ⊢
  exact ((perm_conditions permuted).pairwise_iff Compatible.symm).mp compatible

/-- Whatever the first clause binds, the second one binds in agreement. -/
theorem extends_of_perm (permuted : first.entries.Perm second.entries)
    (compatible : ∀ diagnostic ∈ (first.compile allowed).diagnostics,
      diagnostic.reportsConflict = false) :
    (first.compile allowed).value.parameters.Extends
      (second.compile allowed).value.parameters := by
  intro name value found
  obtain ⟨condition, kept, binding⟩ := (settledBy_choice allowed first).source name value found
  rw [kept_eq_conditions compatible] at kept
  have keptSecond : condition ∈ (second.choice allowed).kept := by
    rw [kept_eq_conditions (compatible_of_perm permuted compatible)]
    exact (perm_conditions permuted).mem_iff.mp kept
  exact (settledBy_choice allowed second).bound condition keptSecond name value binding

theorem conditions_compile_eq_map {filters : Filters}
    (compatible : ∀ diagnostic ∈ (filters.compile allowed).diagnostics,
      diagnostic.reportsConflict = false) :
    (filters.compile allowed).value.conditions =
      (conditions allowed filters.entries).map BoundCondition.condition := by
  rw [conditions_compile_of_compatible compatible, List.map_map]
  rfl

end Filters

/-- Two clauses are written out of the same conditions up to their order, bind the same names, and
give each name values that agree. -/
structure Clause.Rearranges (first second : Clause) : Prop where
  firstText : first.Conjoins (first.conditions.map Condition.sql)
  secondText : second.Conjoins (second.conditions.map Condition.sql)
  conditions : first.conditions.Perm second.conditions
  names : ∀ name, name ∈ first.parameters.keys ↔ name ∈ second.parameters.keys
  values : ∀ name value other, first.parameters.get? name = some value →
    second.parameters.get? name = some other → value.Agrees other

namespace Filters

variable {allowed : List String} {first second : Filters}

/-- Filters that meet no conflict meet none in any order, and compile to the same clause up to the
order of its conditions, which is that of the filters. -/
theorem rearranges_compile_of_perm (permuted : first.entries.Perm second.entries)
    (compatible : ∀ diagnostic ∈ (first.compile allowed).diagnostics,
      diagnostic.reportsConflict = false) :
    (∀ diagnostic ∈ (second.compile allowed).diagnostics, diagnostic.reportsConflict = false) ∧
      (first.compile allowed).value.conditions =
        (conditions allowed first.entries).map BoundCondition.condition ∧
      (second.compile allowed).value.conditions =
        (conditions allowed second.entries).map BoundCondition.condition ∧
      (first.compile allowed).value.Rearranges (second.compile allowed).value := by
  have secondCompatible := compatible_of_perm permuted compatible
  have forth := extends_of_perm permuted compatible
  have back := extends_of_perm permuted.symm secondCompatible
  have firstConditions := conditions_compile_eq_map compatible
  have secondConditions := conditions_compile_eq_map secondCompatible
  have rearranged : (first.compile allowed).value.conditions.Perm
      (second.compile allowed).value.conditions := by
    rw [firstConditions, secondConditions]
    exact (perm_conditions permuted).map BoundCondition.condition
  refine ⟨secondCompatible, firstConditions, secondConditions, Clause.conjoins _,
    Clause.conjoins _, rearranged, fun name => ⟨forth.mem_keys, back.mem_keys⟩, ?_⟩
  intro name value other found otherFound
  obtain ⟨final, finalFound, agrees⟩ := forth name value found
  rw [otherFound] at finalFound
  cases finalFound
  exact agrees.symm

/-- Two zeros of different sign share a name, and what is not a number is bound once. -/
theorem rearranges_compile_of_perm_zeros :
    let allowed := ["id", "id1", "score"]
    let zero : Value := .float ⟨0⟩
    let negativeZero : Value := .float ⟨0x8000000000000000⟩
    let notANumber : Value := .float ⟨0x7ff8000000000000⟩
    let first : Filters := OrderedMap.empty.insertMany
      [("id", .array [zero]), ("not_score", notANumber), ("bogus", .null), ("id1", negativeZero)]
    let second : Filters := OrderedMap.empty.insertMany
      [("id1", negativeZero), ("bogus", .null), ("not_score", notANumber), ("id", .array [zero])]
    first.entries.Perm second.entries ∧
      (∀ diagnostic ∈ (first.compile allowed).diagnostics,
        diagnostic.reportsConflict = false) ∧
      (first.compile allowed).value.text =
        "WHERE id IN ($id1) AND score != $not_score AND id1 = $id1" ∧
      (second.compile allowed).value.text =
        "WHERE id1 = $id1 AND score != $not_score AND id IN ($id1)" ∧
      (first.compile allowed).value.Rearranges (second.compile allowed).value := by
  intro allowed zero negativeZero notANumber first second
  have permuted : first.entries.Perm second.entries := (List.reverse_perm first.entries).symm
  have compatible : ∀ diagnostic ∈ (first.compile allowed).diagnostics,
      diagnostic.reportsConflict = false := by decide
  obtain ⟨_, _, _, rearranged⟩ := rearranges_compile_of_perm permuted compatible
  exact ⟨permuted, compatible, by decide, by decide, rearranged⟩

end Filters

end FilterSql
