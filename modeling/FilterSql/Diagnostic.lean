/-!
# Diagnostics

Compiling filters never fails: a filter that is skipped, or written in a deprecated way, is noted
in a diagnostic. A summary groups the diagnostics of many filters for the caller. A computation that
reports diagnostics yields a value beside them, and its composition keeps every diagnostic: those of
the earlier step come first.
-/

namespace FilterSql

/-- What a diagnostic is about: a treatment the caller should know of, a key that was ignored, or
a list of allowed columns that is empty. -/
inductive DiagnosticKind where
  | warning
  | ignored
  | noneAllowed
  deriving DecidableEq

/-- The name under which a kind is shown and logged. -/
def DiagnosticKind.name : DiagnosticKind → String
  | warning => "warn"
  | ignored => "ignoring"
  | noneAllowed => "no searchable"

/-- A note on how a filter was treated. -/
structure Diagnostic where
  kind : DiagnosticKind
  message : String
  deriving DecidableEq

namespace Diagnostic

def warning (message : String) : Diagnostic :=
  ⟨.warning, message⟩

/-- The key of a filter that no allowed column answers to. -/
def ignored (key : String) : Diagnostic :=
  ⟨.ignored, key⟩

def noneAllowed : Diagnostic :=
  ⟨.noneAllowed, "There are no allowed columns, all columns will be ignored"⟩

/-- The line that shows a diagnostic to a reader. -/
def line (diagnostic : Diagnostic) : String :=
  diagnostic.kind.name ++ ": " ++ diagnostic.message

/-- Whether a diagnostic is of a kind. -/
def isOf (kind : DiagnosticKind) (diagnostic : Diagnostic) : Bool :=
  decide (diagnostic.kind = kind)

/-- One diagnostic for all ignored keys, which also names the columns that are allowed. -/
def ignoredTogether (keys allowed : List String) : Diagnostic :=
  .ignored ("Ignoring columns: [" ++ String.intercalate ", " keys ++
    "]. Allowed columns: [" ++ String.intercalate ", " allowed ++ "]")

/-- The warnings in their order, then one diagnostic for all ignored keys, then at most one for an
empty list of allowed columns. -/
def summary (allowed : List String) (diagnostics : List Diagnostic) : List Diagnostic :=
  let keys := (diagnostics.filter (isOf .ignored)).map Diagnostic.message
  diagnostics.filter (isOf .warning) ++
    (if keys.isEmpty then [] else [ignoredTogether keys allowed]) ++
    (diagnostics.find? (isOf .noneAllowed)).toList

end Diagnostic

/-- A value and the diagnostics reported on the way to it. -/
structure Reported (α : Type) where
  value : α
  diagnostics : List Diagnostic

namespace Reported

variable {α β : Type}

/-- A value without a diagnostic. -/
def pure (value : α) : Reported α :=
  ⟨value, []⟩

def map (change : α → β) (reported : Reported α) : Reported β :=
  ⟨change reported.value, reported.diagnostics⟩

/-- Runs a further step on the value; its diagnostics follow those reported so far. -/
def bind (reported : Reported α) (step : α → Reported β) : Reported β :=
  let next := step reported.value
  ⟨next.value, reported.diagnostics ++ next.diagnostics⟩

/-- The values of a list of computations, with all their diagnostics in the order of the list. -/
def sequence : List (Reported α) → Reported (List α)
  | [] => pure []
  | first :: rest => first.bind fun value => (sequence rest).map (value :: ·)

@[simp] theorem value_sequence (items : List (Reported α)) :
    (sequence items).value = items.map value := by
  induction items with
  | nil => rfl
  | cons first rest ih => simp [sequence, bind, map, ih]

@[simp] theorem diagnostics_sequence (items : List (Reported α)) :
    (sequence items).diagnostics = items.flatMap diagnostics := by
  induction items with
  | nil => rfl
  | cons first rest ih => simp [sequence, bind, map, ih]

end Reported

end FilterSql
