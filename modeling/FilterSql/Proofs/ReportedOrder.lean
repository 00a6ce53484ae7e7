import FilterSql.Diagnostic

/-!
# Diagnostics in the order of composition

Steps that report diagnostics compose associatively, and a value without a diagnostic is neutral on
both sides. The values of a list of computations may be put in front of those of the rest, or be
collected one after the other. Either way the values and the diagnostics stand in the order of the
list, and a list that is run in two parts gives what it gives as a whole.
-/

namespace FilterSql

namespace Reported

variable {α β γ : Type}

theorem pure_bind (value : α) (step : α → Reported β) : (pure value).bind step = step value := by
  simp [bind, pure]

theorem bind_pure (reported : Reported α) : reported.bind pure = reported := by
  simp [bind, pure]

theorem bind_assoc (reported : Reported α) (first : α → Reported β) (second : β → Reported γ) :
    (reported.bind first).bind second = reported.bind fun value => (first value).bind second := by
  simp [bind]

theorem map_bind (reported : Reported α) (change : α → β) (step : β → Reported γ) :
    (reported.map change).bind step = reported.bind fun value => step (change value) := by
  simp [bind, map]

theorem bind_map (reported : Reported α) (step : α → Reported β) (change : β → γ) :
    (reported.bind step).map change = reported.bind fun value => (step value).map change := by
  simp [bind, map]

theorem map_map (reported : Reported α) (first : α → β) (second : β → γ) :
    (reported.map first).map second = reported.map fun value => second (first value) := rfl

/-- Puts the value of a computation behind the values collected so far. -/
def collect (collected : Reported (List α)) (item : Reported α) : Reported (List α) :=
  collected.bind fun values => item.map fun value => values ++ [value]

/-- Collecting further values puts what they give as a list behind those collected so far. -/
theorem foldl_collect (items : List (Reported α)) (collected : Reported (List α)) :
    items.foldl collect collected =
      collected.bind fun values => (sequence items).map fun later => values ++ later := by
  -- The values collected so far change from item to item, so they are general in the induction.
  induction items generalizing collected with
  | nil => simp [sequence, bind, map, pure]
  | cons item rest inductionHypothesis =>
      rw [List.foldl_cons, inductionHypothesis, collect, bind_assoc]
      simp only [sequence, map_bind, bind_map, map_map, List.append_assoc, List.singleton_append]

theorem foldl_collect_pure (items : List (Reported α)) :
    items.foldl collect (pure []) = sequence items := by
  rw [foldl_collect, pure_bind]
  rfl

/-- A list in two parts is run part by part. -/
theorem sequence_append (left right : List (Reported α)) :
    sequence (left ++ right) =
      (sequence left).bind fun values => (sequence right).map fun later => values ++ later := by
  rw [← foldl_collect_pure, List.foldl_append, foldl_collect_pure, foldl_collect]

/-- Composition neither loses nor moves a diagnostic. A list of computations gives its values and
its diagnostics in its order, however it is run: value by value, or in two parts. Steps compose
associatively, what was reported earlier comes first, and a value without a diagnostic changes
nothing on either side. -/
theorem sequence_and_bind_laws :
    (∀ items : List (Reported α),
      (sequence items).value = items.map value ∧
        (sequence items).diagnostics = items.flatMap diagnostics ∧
        items.foldl collect (pure []) = sequence items) ∧
      (∀ left right : List (Reported α),
        sequence (left ++ right) =
          (sequence left).bind fun values => (sequence right).map fun later => values ++ later) ∧
      (∀ (reported : Reported α) (first : α → Reported β) (second : β → Reported γ),
        (reported.bind first).diagnostics =
            reported.diagnostics ++ (first reported.value).diagnostics ∧
          (reported.bind first).bind second =
            reported.bind fun value => (first value).bind second) ∧
      (∀ reported : Reported α, reported.bind pure = reported) ∧
      ∀ (value : α) (step : α → Reported β), (pure value).bind step = step value := by
  refine ⟨?_, sequence_append, ?_, bind_pure, pure_bind⟩
  · intro items
    exact ⟨value_sequence items, diagnostics_sequence items, foldl_collect_pure items⟩
  · intro reported first second
    exact ⟨rfl, bind_assoc reported first second⟩

end Reported

end FilterSql
