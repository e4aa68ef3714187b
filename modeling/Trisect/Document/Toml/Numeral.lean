import Trisect.Decimal.Range
import Trisect.Document
import Trisect.Text.Hex

/-!
# Numbers, dates and times in TOML

A whole number is written in decimal, hexadecimal, octal or binary digits and lies between `-2 ^ 63`
and `2 ^ 63 - 1`; an underscore may stand between two digits. A number with a point or an exponent
is a fraction, and so are the infinities and what is not a number. Dates and times are checked
against the calendar and the clock. No value of this library is made from any of these but whole
numbers, so a fraction carries no payload, and a date is a record of which no decoder knows the
field.
-/

namespace Trisect.Toml

/-! ### Digits -/

/-- Whether a character is a decimal digit. -/
def isDigit (c : Char) : Bool := '0' ≤ c && c ≤ '9'

/-- Whether a character is a hexadecimal digit. -/
def isHexDigit (c : Char) : Bool := (Hex.digitValue? c).isSome

/-- Whether a character is an octal digit. -/
def isOctalDigit (c : Char) : Bool := '0' ≤ c && c ≤ '7'

/-- Whether a character is a binary digit. -/
def isBinaryDigit (c : Char) : Bool := c = '0' || c = '1'

/-- Reads digits, of which there has to be one; single underscores may stand between them. -/
def readDigits (isDigit : Char → Bool) : List Char → Option (List Char × List Char)
  | [] => none
  | [c] => if isDigit c then some ([c], []) else none
  | c :: d :: cs =>
    if !isDigit c then none
    else if d = '_' then (readDigits isDigit cs).map fun (ds, rest) => (c :: ds, rest)
    else if isDigit d then (readDigits isDigit (d :: cs)).map fun (ds, rest) => (c :: ds, rest)
    else some ([c], d :: cs)

/-- The number that a list of digits denotes in a base. -/
def valueIn (base : Nat) (digits : List Char) : Nat :=
  digits.foldl (fun n c => base * n + (Hex.digitValue? c).getD 0) 0

/-! ### Numbers -/

/-- A whole number, if it is not too large. -/
def wholeNumber? (n : Int) : Option Document :=
  if -9223372036854775808 ≤ n ∧ n ≤ 9223372036854775807 then some (.number n) else none

/-- Reads a whole number in a base other than ten, after the letter for the base. -/
def readInBase (base : Nat) (isDigit : Char → Bool) (cs : List Char) :
    Option (Document × List Char) := do
  let (digits, rest) ← readDigits isDigit cs
  return (← wholeNumber? (valueIn base digits), rest)

/-- Reads the digits before a point: a zero, or digits that do not begin with one. -/
def readLeadingDigits : List Char → Option (List Char × List Char)
  | '0' :: rest => some (['0'], rest)
  | cs => readDigits isDigit cs

/-- Reads a point and the digits after it, if there is a point. -/
def readPlaces? : List Char → Option (Option (List Char) × List Char)
  | '.' :: cs => (readDigits isDigit cs).map fun (ds, rest) => (some ds, rest)
  | cs => some (none, cs)

/-- Whether a list of characters begins with a minus sign, and what follows the sign that it begins
with, if any. -/
def readSign : List Char → Bool × List Char
  | '-' :: cs => (true, cs)
  | '+' :: cs => (false, cs)
  | cs => (false, cs)

/-- Reads an exponent, if there is one. -/
def readExponent? : List Char → Option (Option Int × List Char)
  | c :: cs =>
    if c = 'e' || c = 'E' then
      let (negative, cs) := readSign cs
      (readDigits isDigit cs).map fun (ds, rest) =>
        (some (if negative then -(valueIn 10 ds : Int) else valueIn 10 ds), rest)
    else some (none, c :: cs)
  | [] => some (none, [])

/-- Reads a number in decimal digits after its sign. A positive fraction has to be in the range of
double precision; a negative one need not be. -/
def readDecimal (negative : Bool) (cs : List Char) : Option (Document × List Char) := do
  let (whole, cs) ← readLeadingDigits cs
  let (places, cs) ← readPlaces? cs
  let (exponent, cs) ← readExponent? cs
  if places.isNone && exponent.isNone then
    let n := valueIn 10 whole
    return (← wholeNumber? (if negative then -n else n), cs)
  else
    let places := places.getD []
    if negative || Decimal.isInRange (valueIn 10 (whole ++ places))
        (exponent.getD 0 - places.length) then
      return (.fraction, cs)
    else none

/-- Reads a number after its sign. -/
def readUnsigned (negative : Bool) : List Char → Option (Document × List Char)
  | 'i' :: 'n' :: 'f' :: rest => some (.fraction, rest)
  | 'n' :: 'a' :: 'n' :: rest => some (.fraction, rest)
  | cs => readDecimal negative cs

/-- Reads a number. -/
def readNumber : List Char → Option (Document × List Char)
  | '0' :: 'x' :: cs => readInBase 16 isHexDigit cs
  | '0' :: 'o' :: cs => readInBase 8 isOctalDigit cs
  | '0' :: 'b' :: cs => readInBase 2 isBinaryDigit cs
  | cs => readUnsigned (readSign cs).1 (readSign cs).2

/-! ### Dates and times -/

/-- A date, a time, or both. -/
def moment : Document := .record [("$moment", .null)]

/-- Reads a number of the given number of digits that lies between two bounds. -/
def readField (digits low high : Nat) (cs : List Char) : Option (Nat × List Char) :=
  let ds := cs.take digits
  let n := valueIn 10 ds
  if ds.length = digits ∧ ds.all isDigit ∧ low ≤ n ∧ n ≤ high then some (n, cs.drop digits)
  else none

/-- Reads a character. -/
def readChar (c : Char) : List Char → Option (List Char)
  | d :: cs => if d = c then some cs else none
  | [] => none

/-- The number of days in a month. -/
def daysIn (year month : Nat) : Nat :=
  if month = 2 then
    if year % 4 = 0 ∧ (year % 100 ≠ 0 ∨ year % 400 = 0) then 29 else 28
  else if month = 4 ∨ month = 6 ∨ month = 9 ∨ month = 11 then 30
  else 31

/-- Reads a date. -/
def readDate (cs : List Char) : Option (List Char) := do
  let (year, cs) ← readField 4 0 9999 cs
  let (month, cs) ← readField 2 1 12 (← readChar '-' cs)
  let (_, cs) ← readField 2 1 (daysIn year month) (← readChar '-' cs)
  return cs

/-- Reads a time of day, which may be that of a leap second. -/
def readTime (cs : List Char) : Option (List Char) := do
  let (_, cs) ← readField 2 0 23 cs
  let (_, cs) ← readField 2 0 59 (← readChar ':' cs)
  let (_, cs) ← readField 2 0 60 (← readChar ':' cs)
  match cs with
  | '.' :: c :: rest => if isDigit c then return rest.dropWhile isDigit else none
  | _ => return cs

/-- Reads the difference from universal time, if it is given. -/
def readOffset : List Char → Option (List Char)
  | [] => some []
  | c :: cs =>
    if c = 'Z' ∨ c = 'z' then some cs
    else if c = '+' ∨ c = '-' then do
      let (_, cs) ← readField 2 0 23 cs
      let (_, cs) ← readField 2 0 59 (← readChar ':' cs)
      return cs
    else some (c :: cs)

/-- Whether a list of characters begins like a time of day. -/
def beginsTime : List Char → Bool
  | a :: b :: ':' :: _ => isDigit a && isDigit b
  | _ => false

/-- Whether a list of characters begins like a date. -/
def beginsDate : List Char → Bool
  | a :: b :: c :: d :: '-' :: _ => isDigit a && isDigit b && isDigit c && isDigit d
  | _ => false

/-- Reads a date and the time that follows it, if one does. -/
def readDateTime (cs : List Char) : Option (List Char) := do
  let cs ← readDate cs
  match cs with
  | c :: rest =>
    if (c = 'T' || c = 't' || c = ' ') && beginsTime rest then readOffset (← readTime rest)
    else return cs
  | [] => return []

/-- Reads a date, a time or a number. -/
def readScalar (cs : List Char) : Option (Document × List Char) :=
  if beginsDate cs then (readDateTime cs).map fun rest => (moment, rest)
  else if beginsTime cs then (readTime cs).map fun rest => (moment, rest)
  else readNumber cs

end Trisect.Toml
