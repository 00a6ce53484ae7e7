import FilterSql.Condition
import FilterSql.Operation

/-!
# Clauses

A bound condition comes with the values of its placeholders. Each operation turns the key and the
value of a filter into a bound condition on the column that the key names. The column is taken as
it is: classification has seen to it that it is allowed.

Filters are compiled into a clause: conditions that all have to hold, with the parameters that they
refer to. A name is bound once. A condition that would bind it to another value is left out and
reported, so the conditions added first keep their meaning.
-/

namespace FilterSql

/-- A condition with the values of its placeholders. -/
structure BoundCondition where
  condition : Condition
  bindings : List (String × Value)

namespace BoundCondition

/-- A condition without placeholders. -/
def bare (condition : Condition) : BoundCondition :=
  ⟨condition, []⟩

/-- The condition on one placeholder, named for a key, with its value. -/
def ofKey (key : String) (value : Value) (condition : String → Condition) : BoundCondition :=
  let name := Placeholder.ofKey key
  ⟨condition name, [(name, value)]⟩

/-- The values of a list under the numbered names of a key. -/
def numbered (key : String) (items : List Value) : List (String × Value) :=
  items.zipIdx.map fun item =>
    (Placeholder.numbered (Placeholder.ofKey key) item.2, item.1)

/-- The warning about a text that asks for a test against null. -/
def deprecatedNullText : Diagnostic :=
  .warning ("Passing `IS (NOT) NULL` to filter value is deprecated, " ++
    "please pass null directly with not_ prefix if needed")

/-- Compares a column with a value. Null, and a text that asks for it, is tested for; a list is
searched; any other value is bound. -/
def comparison (polarity : Polarity) (key column : String) : Value → Reported BoundCondition
  | .null => .pure (bare (.null polarity column))
  | .array [] => .pure (bare (.noMember polarity))
  | .array items =>
      let bindings := numbered key items
      .pure ⟨.member polarity column (bindings.map Prod.fst), bindings⟩
  | .text content =>
      match NullText.ofString? content with
      | some test => ⟨bare (.nullText column test), [deprecatedNullText]⟩
      | none => .pure (ofKey key (.text content) (.compare polarity column))
  | value => .pure (ofKey key value (.compare polarity column))

def equal (key : String) (value : Value) : Reported BoundCondition :=
  comparison .positive key (Operation.equal.column key) value

def unequal (key : String) (value : Value) : Reported BoundCondition :=
  comparison .negative key (Operation.unequal.column key) value

def atLeast (key : String) (value : Value) : BoundCondition :=
  ofKey key value (.atLeast (Operation.atLeast.column key))

def atMost (key : String) (value : Value) : BoundCondition :=
  ofKey key value (.atMost (Operation.atMost.column key))

def like (key : String) (value : Value) : BoundCondition :=
  ofKey key value (.like .positive (Operation.like.column key))

def unlike (key : String) (value : Value) : BoundCondition :=
  ofKey key value (.like .negative (Operation.unlike.column key))

/-- The search of all allowed columns, if there are any. -/
def fullText? (allowed : List String) (value : Value) : Option BoundCondition :=
  if allowed.isEmpty then none
  else some (ofKey Operation.fullTextKey value (.anyLike allowed))

end BoundCondition

/-- The condition that a classified filter asks for. A discarded filter asks for none. -/
def Entry.condition? (allowed : List String) (entry : Entry) :
    Reported (Option BoundCondition) :=
  match entry.operation with
  | .equal => (BoundCondition.equal entry.key entry.value).map some
  | .unequal => (BoundCondition.unequal entry.key entry.value).map some
  | .atLeast => .pure (some (BoundCondition.atLeast entry.key entry.value))
  | .atMost => .pure (some (BoundCondition.atMost entry.key entry.value))
  | .like => .pure (some (BoundCondition.like entry.key entry.value))
  | .unlike => .pure (some (BoundCondition.unlike entry.key entry.value))
  | .fullText => .pure (BoundCondition.fullText? allowed entry.value)
  | .discarded => .pure none

/-- Conditions that all have to hold, and the values of their placeholders. -/
structure Clause where
  conditions : List Condition := []
  parameters : Parameters := ∅

/-- Joins conditions into the text of a clause, which is empty without conditions. -/
def Condition.allSql (conditions : List Condition) : String :=
  if conditions.isEmpty then ""
  else "WHERE " ++ String.intercalate " AND " (conditions.map sql)

namespace Clause

def text (clause : Clause) : String :=
  Condition.allSql clause.conditions

/-- The warning about a condition whose placeholder is bound to another value. -/
def dropped (condition : Condition) : Diagnostic :=
  .warning ("Placeholder already bound to another value, dropping `" ++ condition.sql ++ "`")

/-- Whether a condition binds a name that is bound to another value. -/
def conflicts (clause : Clause) (bound : BoundCondition) : Bool :=
  bound.bindings.any fun binding => clause.parameters.bindsOther binding.1 binding.2

/-- Adds a condition with its bindings, or reports it as dropped when it conflicts. -/
def add (clause : Clause) (bound : BoundCondition) : Reported Clause :=
  if clause.conflicts bound then ⟨clause, [dropped bound.condition]⟩
  else
    .pure
      { conditions := clause.conditions ++ [bound.condition]
        parameters := clause.parameters.insertMany bound.bindings }

/-- Adds conditions from left to right. -/
def addAll (clause : Clause) : List BoundCondition → Reported Clause
  | [] => .pure clause
  | bound :: rest => (clause.add bound).bind fun extended => extended.addAll rest

end Clause

/-- The bound conditions that the filters ask for, with what classifying and comparing reports. -/
def Filters.boundConditions (allowed : List String) (filters : Filters) :
    Reported (List BoundCondition) :=
  (Reported.sequence
    ((filters.classified allowed).map fun entry =>
      entry.bind (Entry.condition? allowed))).map (List.filterMap id)

/-- Compiles filters into a clause over the allowed columns. -/
def Filters.compile (allowed : List String) (filters : Filters) : Reported Clause :=
  if allowed.isEmpty then ⟨{}, [.noneAllowed]⟩
  else
    let compiled := (filters.boundConditions allowed).bind (Clause.addAll {})
    ⟨compiled.value, Diagnostic.summary allowed compiled.diagnostics⟩

end FilterSql
