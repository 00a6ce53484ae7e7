import FilterSql.Diagnostic
import FilterSql.Value

/-!
# Operations

The key of a filter names an allowed column, alone or behind a marker that says how the column is
compared. One key stands for a search of all allowed columns. Any other key is discarded.
-/

namespace FilterSql

/-- How a filter compares its column. -/
inductive Operation where
  | fullText
  | equal
  | unequal
  | atLeast
  | atMost
  | like
  | unlike
  | discarded
  deriving DecidableEq

/-- The text after a marker at the start of a key. -/
def afterMarker? (marker key : String) : Option String :=
  (marker.toList.isPrefixOf? key.toList).map String.ofList

theorem isPrefixOf?_eq_some_iff {marker key rest : List Char} :
    marker.isPrefixOf? key = some rest ↔ key = marker ++ rest := by
  induction marker generalizing key with
  | nil => exact ⟨fun whole => Option.some.inj whole, fun whole => congrArg some whole⟩
  | cons first marker ih =>
    cases key with
    | nil => exact ⟨nofun, nofun⟩
    | cons head key =>
      change (if first == head then marker.isPrefixOf? key else none) = some rest ↔ _
      by_cases same : first = head
      · simp [same, ih]
      · simp [same, Ne.symm same]

theorem afterMarker?_eq_some_iff {marker key rest : String} :
    afterMarker? marker key = some rest ↔ key = marker ++ rest := by
  simp only [afterMarker?, Option.map_eq_some_iff, isPrefixOf?_eq_some_iff]
  rw [← String.toList_inj, String.toList_append]
  constructor
  · rintro ⟨remainder, split, rfl⟩
    rw [split, String.toList_ofList]
  · intro split
    exact ⟨rest.toList, split, String.ofList_toList⟩

namespace Operation

/-- The key of the search of all allowed columns. -/
def fullTextKey : String := "match"

/-- The marker at the start of a key that selects the operation. -/
def marker? : Operation → Option String
  | unequal => some "not_"
  | atLeast => some "from_"
  | atMost => some "to_"
  | like => some "like_"
  | unlike => some "not_like_"
  | fullText | equal | discarded => none

/-- The operations selected by a marker, in the order in which markers are tried. -/
def marked : List Operation :=
  [unequal, atLeast, atMost, like, unlike]

/-- The column that a key names under an operation: the key without the marker, if it has one. -/
def column (operation : Operation) (key : String) : String :=
  (operation.marker?.bind (afterMarker? · key)).getD key

/-- Whether a key is the marker of the operation and an allowed column. -/
def marks (allowed : List String) (key : String) (operation : Operation) : Bool :=
  (operation.marker?.bind (afterMarker? · key)).any allowed.contains

/-- Classifies a key. The first of these that applies decides: no column is allowed, the key asks
for a search, the key is an allowed column, the key has a marker before an allowed column. -/
def ofKey (allowed : List String) (key : String) : Reported Operation :=
  if allowed.isEmpty then ⟨discarded, [.noneAllowed]⟩
  else if key = fullTextKey then .pure fullText
  else if allowed.contains key then .pure equal
  else
    match marked.find? (marks allowed key) with
    | some operation => .pure operation
    | none => ⟨discarded, [.ignored key]⟩

end Operation

/-- A filter with the operation that its key asks for. -/
structure Entry where
  operation : Operation
  key : String
  value : Value

/-- Every filter with its operation, in order. -/
def Filters.classified (allowed : List String) (filters : Filters) : List (Reported Entry) :=
  filters.entries.map fun filter =>
    (Operation.ofKey allowed filter.1).map fun operation => ⟨operation, filter.1, filter.2⟩

end FilterSql
