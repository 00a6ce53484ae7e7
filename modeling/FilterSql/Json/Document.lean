import FilterSql.Binary64

/-!
# JSON documents

A document is what a JSON text stands for. The members of an object have distinct keys and stand in
the order of the keys; of members with one key the last counts.

A numeral is read in two stages. The first splits it by the grammar. The second gathers its digits
in a significand of 64 bits, counts in a decimal exponent what does not fit, and scales the
significand by powers of ten, rounding at each step. Scaling in steps is part of the format that is
read here: a numeral with many digits or a large exponent may differ from the number nearest to it.
-/

namespace FilterSql

namespace Json

/-- A number: an integer of either sign, or a floating-point number. -/
inductive Number where
  | signed (value : Int64)
  | unsigned (value : UInt64)
  | float (value : Binary64)

inductive Document where
  | null
  | bool (truth : Bool)
  | number (value : Number)
  | text (content : String)
  | array (items : List Document)
  | object (members : List (String × Document))

/-- Puts a member in its place by key, over an earlier member with its key. -/
def insertMember (key : String) (document : Document) :
    List (String × Document) → List (String × Document)
  | [] => [(key, document)]
  | member :: rest =>
      if key < member.1 then (key, document) :: member :: rest
      else if key = member.1 then (key, document) :: rest
      else member :: insertMember key document rest

/-- The parts of a numeral: digits before and behind the point, and the exponent. -/
structure Numeral where
  negative : Bool
  whole : List Char
  fraction : Option (List Char)
  exponent : Option Int

namespace Numeral

def digitValue (c : Char) : Nat :=
  c.toNat - '0'.toNat

/-- Splits off the sign of an exponent. -/
def splitSign : List Char → Bool × List Char
  | '-' :: rest => (true, rest)
  | '+' :: rest => (false, rest)
  | rest => (false, rest)

/-- Reads an exponent: nothing, or a letter, an optional sign and digits up to the end. -/
def exponent? : List Char → Option (Option Int)
  | [] => some none
  | letter :: rest =>
      let (negative, digits) := splitSign rest
      if (letter = 'e' ∨ letter = 'E') ∧ digits ≠ [] ∧ digits.all Char.isDigit then
        let magnitude := digits.foldl (fun number c => 10 * number + digitValue c) 0
        some (some (if negative then -magnitude else magnitude))
      else none

/-- Whether digits may stand before the point: a zero leads only when it stands alone. -/
def isWhole : List Char → Bool
  | [] => false
  | ['0'] => true
  | first :: _ => first != '0'

/-- Reads a numeral that makes up a whole word. -/
def ofWord? (word : List Char) : Option Numeral :=
  let negative := word.head? == some '-'
  let unsigned := if negative then word.tail else word
  let whole := unsigned.takeWhile Char.isDigit
  if isWhole whole then
    match unsigned.dropWhile Char.isDigit with
    | '.' :: rest =>
        let fraction := rest.takeWhile Char.isDigit
        if fraction.isEmpty then none
        else (exponent? (rest.dropWhile Char.isDigit)).map (⟨negative, whole, some fraction, ·⟩)
    | rest => (exponent? rest).map (⟨negative, whole, none, ·⟩)
  else none

/-- The significand with one more digit, if that fits 64 bits. -/
def appendDigit? (significand : Nat) (digit : Char) : Option Nat :=
  let longer := 10 * significand + digitValue digit
  if longer < 0x10000000000000000 then some longer else none

/-- Gathers digits before the point. From the first that does not fit on, they are counted. -/
def gatherWhole (significand : Nat) : List Char → Nat × Nat
  | [] => (significand, 0)
  | digit :: rest =>
      match appendDigit? significand digit with
      | some longer => gatherWhole longer rest
      | none => (significand, rest.length + 1)

/-- Gathers digits behind the point, counting them. From the first that does not fit on, they are
dropped. -/
def gatherFraction (significand gathered : Nat) : List Char → Nat × Nat
  | [] => (significand, gathered)
  | digit :: rest =>
      match appendDigit? significand digit with
      | some longer => gatherFraction longer (gathered + 1) rest
      | none => (significand, gathered)

/-- The greatest exponent of a power of ten that is not infinite as a floating-point number. -/
def greatestPower : Nat := 308

/-- The number nearest to a power of ten. -/
def powerOfTen (exponent : Nat) : Binary64 :=
  .ofNat (Nat.pow 10 exponent)

/-- Divides by a power of ten, in several steps when that power is too great. -/
def lower (number : Binary64) (power : Nat) : Binary64 :=
  if power ≤ greatestPower then number.div (powerOfTen power)
  else if number.isZero then number
  else lower (number.div (powerOfTen greatestPower)) (power - greatestPower)
termination_by power
decreasing_by
  simp only [greatestPower] at *
  omega

/-- Multiplies by a power of ten, unless the product is too great for a number. -/
def raise? (number : Binary64) (power : Nat) : Option Binary64 :=
  if power ≤ greatestPower then
    let product := number.mul (powerOfTen power)
    if product.isInfinite then none else some product
  else if number.isZero then some number
  else none

/-- The floating-point number for a significand and a decimal exponent. -/
def scale? (significand : Nat) : Int → Option Binary64
  | .ofNat power => raise? (.ofNat significand) power
  | .negSucc power => some (lower (.ofNat significand) (power + 1))

/-- The number for an integer that fits 64 bits; a negative one may be too small to be signed. -/
def integer (negative : Bool) (magnitude : Nat) : Number :=
  if negative then
    if magnitude ≤ 0x8000000000000000 then .signed (.ofInt (-magnitude))
    else .float (Binary64.ofNat magnitude).neg
  else .unsigned (.ofNat magnitude)

/-- The number that a numeral stands for, if it is not too great. -/
def number? (numeral : Numeral) : Option Number :=
  let (whole, skipped) := gatherWhole 0 numeral.whole
  if skipped = 0 ∧ numeral.fraction = none ∧ numeral.exponent = none then
    some (integer numeral.negative whole)
  else
    let (significand, gathered) := gatherFraction whole 0 (numeral.fraction.getD [])
    let exponent : Int := numeral.exponent.getD 0 + skipped - gathered
    (scale? significand exponent).map fun number =>
      .float (if numeral.negative then number.neg else number)

end Numeral

end Json

end FilterSql
