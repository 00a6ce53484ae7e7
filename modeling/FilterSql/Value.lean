import FilterSql.Binary64
import FilterSql.OrderedMap

/-!
# Values and filters

A filter compares a column with a scalar, with null, or with a list of values. Equality of values
is numeric on `Binary64`, so it is neither reflexive nor finer than what a column comparison sees,
and an integer never equals a floating-point number. Filters are what a caller asks for: values by
key. Parameters are what a statement is run with: values by the name of their placeholder. Both keep
the order of insertion.
-/

namespace FilterSql

/-- A value that a filter compares with or that a placeholder is bound to. -/
inductive Value where
  | null
  | bool (truth : Bool)
  | int (number : Int64)
  | float (number : Binary64)
  | text (content : String)
  | array (items : List Value)

namespace Value

def isNull : Value → Bool
  | null => true
  | _ => false

/-- The content of a text value. -/
def text? : Value → Option String
  | text content => some content
  | _ => none

mutual

/-- Equality of values, numeric on floating-point numbers. -/
def equal : Value → Value → Bool
  | null, null => true
  | bool left, bool right => left == right
  | int left, int right => left == right
  | float left, float right => left == right
  | text left, text right => left == right
  | array left, array right => equalItems left right
  | _, _ => false

/-- Equality of lists of values, item by item. -/
def equalItems : List Value → List Value → Bool
  | [], [] => true
  | left :: lefts, right :: rights => equal left right && equalItems lefts rights
  | _, _ => false

end

instance : BEq Value := ⟨equal⟩

end Value

/-- The types whose members stand for filter values. -/
class ToValue (α : Type) where
  toValue : α → Value

export ToValue (toValue)

instance : ToValue Bool := ⟨Value.bool⟩

instance : ToValue Int64 := ⟨Value.int⟩

instance : ToValue Int32 := ⟨fun number => .int number.toInt64⟩

instance : ToValue Binary64 := ⟨Value.float⟩

instance : ToValue String := ⟨Value.text⟩

instance {α : Type} [ToValue α] : ToValue (List α) :=
  ⟨fun items => .array (items.map toValue)⟩

/-- An absent member stands for null. -/
instance {α : Type} [ToValue α] : ToValue (Option α) :=
  ⟨fun member => member.elim .null toValue⟩

/-- Filter values by key, in the order in which the caller wrote them. -/
abbrev Filters := OrderedMap String Value

/-- Bound values by the name of their placeholder, in the order of first binding. -/
abbrev Parameters := OrderedMap String Value

/-- The filters whose key is one of the columns. -/
def Filters.restrictTo (columns : List String) (filters : Filters) : Filters :=
  filters.filter fun key _ => columns.contains key

/-- Whether a name is bound to a value that is not equal to the given one. -/
def Parameters.bindsOther (parameters : Parameters) (name : String) (value : Value) : Bool :=
  (parameters.get? name).any (· != value)

end FilterSql
