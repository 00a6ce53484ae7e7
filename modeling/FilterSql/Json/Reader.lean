import FilterSql.Json.Document
import FilterSql.Json.Lexeme

/-!
# Reading JSON

The lexemes of a text are read by a machine that keeps the containers that have not ended on a
stack, so a document may be nested to any depth.
-/

namespace FilterSql

namespace Json

/-- A lexeme with its meaning. A text is kept apart from other documents as it may be a key. -/
inductive Token where
  | mark (mark : Mark)
  | text (content : String)
  | plain (document : Document)

/-- The document that a word stands for. -/
def wordDocument? (word : List Char) : Option Document :=
  if word = "null".toList then some .null
  else if word = "true".toList then some (.bool true)
  else if word = "false".toList then some (.bool false)
  else ((Numeral.ofWord? word).bind Numeral.number?).map .number

def Token.ofLexeme? : Lexeme → Option Token
  | .mark found => some (.mark found)
  | .quoted body => (unquote? body).map .text
  | .word body => (wordDocument? body).map .plain

/-- A container that has not ended. The items of an array are in reverse order; an object is
waiting for the value of a key. -/
inductive Frame where
  | array (items : List Document)
  | object (members : List (String × Document)) (key : String)

/-- What may come next inside of the containers that have not ended. -/
inductive Reading where
  | value (frames : List Frame)
  | firstItem (frames : List Frame)
  | firstKey (frames : List Frame)
  | key (frames : List Frame) (members : List (String × Document))
  | colon (frames : List Frame) (members : List (String × Document)) (key : String)
  | complete (frames : List Frame) (document : Document)

namespace Reading

/-- Reads the first token of a value. -/
def beginValue? (frames : List Frame) : Token → Option Reading
  | .mark .beginArray => some (firstItem frames)
  | .mark .beginObject => some (firstKey frames)
  | .text content => some (complete frames (.text content))
  | .plain document => some (complete frames document)
  | .mark _ => none

def step? : Reading → Token → Option Reading
  | value frames, token => beginValue? frames token
  | firstItem frames, .mark .endArray => some (complete frames (.array []))
  | firstItem frames, token => beginValue? (.array [] :: frames) token
  | firstKey frames, .mark .endObject => some (complete frames (.object []))
  | firstKey frames, .text content => some (colon frames [] content)
  | key frames members, .text content => some (colon frames members content)
  | colon frames members name, .mark .colon => some (value (.object members name :: frames))
  | complete (.array items :: frames) document, .mark .comma =>
      some (value (.array (document :: items) :: frames))
  | complete (.array items :: frames) document, .mark .endArray =>
      some (complete frames (.array (document :: items).reverse))
  | complete (.object members name :: frames) document, .mark .comma =>
      some (key frames (insertMember name document members))
  | complete (.object members name :: frames) document, .mark .endObject =>
      some (complete frames (.object (insertMember name document members)))
  | _, _ => none

/-- The document of a text that ends here. -/
def document? : Reading → Option Document
  | complete [] document => some document
  | _ => none

end Reading

/-- The document that a text stands for. -/
def Document.parse? (text : String) : Option Document := do
  let lexemes ← lexemes? text
  let tokens ← lexemes.mapM Token.ofLexeme?
  let reading ← tokens.foldlM Reading.step? (.value [])
  reading.document?

end Json

end FilterSql
