import FilterSql.Json.Reader
import FilterSql.Value

/-!
# Filters from JSON

Filters may be written as a JSON object. Its members become filters in the order of their keys; an
object inside of it, or an integer beyond 64 signed bits, is no filter value.
-/

namespace FilterSql

/-- Why a text does not stand for filters. -/
inductive ParseError where
  | invalidJson
  | notAnObject
  | unsupportedValue (key : String)
  deriving DecidableEq

def ParseError.message : ParseError → String
  | invalidJson => "Invalid JSON syntax or encoding"
  | notAnObject => "Expected JSON object"
  | unsupportedValue key =>
      "Filter '" ++ key ++ "' must be a scalar, null or an array of scalars"

namespace Json

/-- The filter value for a number, if there is one. -/
def Number.value? : Number → Option Value
  | signed value => some (.int value)
  | unsigned value => if value.toNat < 0x8000000000000000 then some (.int value.toInt64) else none
  | float value => some (.float value)

mutual

/-- The filter value for a document, if there is one. -/
def Document.value? : Document → Option Value
  | .null => some .null
  | .bool truth => some (.bool truth)
  | .number value => value.value?
  | .text content => some (.text content)
  | .array items => (Document.values? items).map .array
  | .object _ => none

/-- The filter values for all documents of a list, if each has one. -/
def Document.values? : List Document → Option (List Value)
  | [] => some []
  | document :: rest =>
      match Document.value? document with
      | none => none
      | some value => (Document.values? rest).map (value :: ·)

end

/-- The filter that a member stands for. -/
def memberFilter (member : String × Document) : Except ParseError (String × Value) :=
  match member.2.value? with
  | some value => .ok (member.1, value)
  | none => .error (.unsupportedValue member.1)

/-- The filters that a document stands for. -/
def Document.filters : Document → Except ParseError Filters
  | .object members => (members.mapM memberFilter).map .ofList
  | _ => .error .notAnObject

end Json

namespace Filters

/-- Reads filters from a JSON text. -/
def parse (text : String) : Except ParseError Filters :=
  match Json.Document.parse? text with
  | some document => document.filters
  | none => .error .invalidJson

/-- Reads filters from the bytes of a JSON text, which have to be UTF-8. -/
def parseBytes (bytes : ByteArray) : Except ParseError Filters :=
  match String.fromUTF8? bytes with
  | some text => parse text
  | none => .error .invalidJson

end Filters

end FilterSql
