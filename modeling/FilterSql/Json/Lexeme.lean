/-!
# Lexemes of JSON

A text is split into marks, quoted texts and words by a machine that takes one character at a time.
A word is a longest run of characters that are neither blank, nor a mark, nor a quote; whether it
means anything is decided later.

The body of a quoted text consists of plain characters and escapes. An escape for a code unit of
UTF-16 stands for a character on its own or, when it is a surrogate, with its partner behind it.
-/

namespace FilterSql

namespace Json

inductive Mark where
  | beginArray
  | endArray
  | beginObject
  | endObject
  | colon
  | comma
  deriving DecidableEq

def Mark.ofChar? : Char → Option Mark
  | '[' => some beginArray
  | ']' => some endArray
  | '{' => some beginObject
  | '}' => some endObject
  | ':' => some colon
  | ',' => some comma
  | _ => none

/-- The blanks between lexemes. -/
def isBlank (c : Char) : Bool :=
  c == ' ' || c == '\n' || c == '\r' || c == '\t'

/-- A part of a JSON text; a quoted text is given without its quotes and still has its escapes. -/
inductive Lexeme where
  | mark (mark : Mark)
  | quoted (body : List Char)
  | word (body : List Char)
  deriving DecidableEq

/-- Where a scan stands. The characters read of a lexeme are in reverse order. -/
inductive ScanPlace where
  | between
  | inWord (read : List Char)
  | inQuotes (read : List Char)
  | afterBackslash (read : List Char)

/-- A scan of a text. The lexemes found so far are in reverse order. -/
structure Scan where
  place : ScanPlace := .between
  found : List Lexeme := []

namespace Scan

/-- Reads a character outside of words and quotes. -/
def stepBetween (found : List Lexeme) (c : Char) : Scan :=
  if isBlank c then ⟨.between, found⟩
  else if c = '"' then ⟨.inQuotes [], found⟩
  else
    match Mark.ofChar? c with
    | some mark => ⟨.between, .mark mark :: found⟩
    | none => ⟨.inWord [c], found⟩

/-- Whether a character ends a word. -/
def endsWord (c : Char) : Bool :=
  isBlank c || c == '"' || (Mark.ofChar? c).isSome

def step (scan : Scan) (c : Char) : Scan :=
  match scan.place with
  | .between => stepBetween scan.found c
  | .inWord read =>
      if endsWord c then stepBetween (.word read.reverse :: scan.found) c
      else ⟨.inWord (c :: read), scan.found⟩
  | .inQuotes read =>
      if c = '"' then ⟨.between, .quoted read.reverse :: scan.found⟩
      else if c = '\\' then ⟨.afterBackslash (c :: read), scan.found⟩
      else ⟨.inQuotes (c :: read), scan.found⟩
  | .afterBackslash read => ⟨.inQuotes (c :: read), scan.found⟩

/-- The lexemes of a text that ends here, unless it ends inside quotes. -/
def finish? (scan : Scan) : Option (List Lexeme) :=
  match scan.place with
  | .between => some scan.found.reverse
  | .inWord read => some (.word read.reverse :: scan.found).reverse
  | .inQuotes _ | .afterBackslash _ => none

end Scan

/-- The lexemes of a text. -/
def lexemes? (text : String) : Option (List Lexeme) :=
  (text.toList.foldl Scan.step {}).finish?

/-- A part of a quoted text: a character, or a code unit of UTF-16. -/
inductive Piece where
  | char (c : Char)
  | unit (value : Nat)

/-- The character that a one-letter escape stands for. -/
def escaped? : Char → Option Char
  | '"' => some '"'
  | '\\' => some '\\'
  | '/' => some '/'
  | 'b' => some '\x08'
  | 'f' => some '\x0c'
  | 'n' => some '\n'
  | 'r' => some '\r'
  | 't' => some '\t'
  | _ => none

/-- The value of a hexadecimal digit of either case. -/
def hexDigit? (c : Char) : Option Nat :=
  if '0' ≤ c ∧ c ≤ '9' then some (c.toNat - '0'.toNat)
  else if 'a' ≤ c ∧ c ≤ 'f' then some (c.toNat - 'a'.toNat + 10)
  else if 'A' ≤ c ∧ c ≤ 'F' then some (c.toNat - 'A'.toNat + 10)
  else none

/-- The number that hexadecimal digits stand for. -/
def hexNumber? (digits : List Char) : Option Nat :=
  digits.foldlM (fun number c => (hexDigit? c).map (16 * number + ·)) 0

/-- Splits a body into pieces; the pieces read so far are in reverse order. Control characters have
to be escaped. -/
def piecesFrom? (read : List Piece) : List Char → Option (List Piece)
  | [] => some read.reverse
  | '\\' :: 'u' :: a :: b :: c :: d :: rest =>
      match hexNumber? [a, b, c, d] with
      | some value => piecesFrom? (.unit value :: read) rest
      | none => none
  | '\\' :: c :: rest =>
      match escaped? c with
      | some char => piecesFrom? (.char char :: read) rest
      | none => none
  | '\\' :: [] => none
  | c :: rest => if c.toNat < 0x20 then none else piecesFrom? (.char c :: read) rest

def isHighSurrogate (unit : Nat) : Bool :=
  decide (0xd800 ≤ unit ∧ unit < 0xdc00)

def isLowSurrogate (unit : Nat) : Bool :=
  decide (0xdc00 ≤ unit ∧ unit < 0xe000)

/-- The character that a high and a low surrogate stand for together. -/
def joinSurrogates (high low : Nat) : Char :=
  .ofNat (0x10000 + (high - 0xd800) * 0x400 + (low - 0xdc00))

/-- The characters that pieces stand for; those read so far are in reverse order. A surrogate
without its partner stands for none. -/
def charsFrom? (read : List Char) : List Piece → Option (List Char)
  | [] => some read.reverse
  | .char c :: rest => charsFrom? (c :: read) rest
  | .unit high :: .unit low :: rest =>
      if isHighSurrogate high then
        if isLowSurrogate low then charsFrom? (joinSurrogates high low :: read) rest else none
      else if isLowSurrogate high then none
      else charsFrom? (.ofNat high :: read) (.unit low :: rest)
  | .unit value :: rest =>
      if isHighSurrogate value || isLowSurrogate value then none
      else charsFrom? (.ofNat value :: read) rest

/-- The text that the body of a quoted text stands for. -/
def unquote? (body : List Char) : Option String :=
  ((piecesFrom? [] body).bind (charsFrom? [])).map String.ofList

end Json

end FilterSql
