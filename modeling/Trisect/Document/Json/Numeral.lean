import Trisect.Decimal.Range
import Trisect.Document

/-!
# Numbers in JSON

A number is a sign, an integer part without leading zeros, and optionally a fraction and an exponent
(`Trisect.Json.readNumber`). Only one that has neither of the two is a whole number; minus zero is
not. A number whose magnitude rounds beyond the greatest one of double precision has no meaning.
-/

namespace Trisect.Json

/-- Whether a character is one of the ten digits. -/
def isDigit (c : Char) : Bool := '0' ≤ c && c ≤ '9'

/-- The leading digits and what follows them. -/
def spanDigits (cs : List Char) : List Char × List Char :=
  (cs.takeWhile isDigit, cs.dropWhile isDigit)

/-- The number that a list of digits denotes. -/
def ofDigits (ds : List Char) : Nat := ds.foldl (fun n d => 10 * n + (d.toNat - 48)) 0

/-- The digits after a point, if there is one. -/
def readFraction : List Char → Option (List Char × List Char)
  | '.' :: rest =>
    match spanDigits rest with
    | ([], _) => none
    | (ds, rest) => some (ds, rest)
  | rest => some ([], rest)

/-- The exponent, if there is one. -/
def readExponent : List Char → Option (Option Int × List Char)
  | c :: rest =>
    if c = 'e' ∨ c = 'E' then
      let (negative, rest) := match rest with
        | '-' :: rest => (true, rest)
        | '+' :: rest => (false, rest)
        | rest => (false, rest)
      match spanDigits rest with
      | ([], _) => none
      | (ds, rest) =>
        let n : Int := ofDigits ds
        some (some (if negative then -n else n), rest)
    else some (none, c :: rest)
  | [] => some (none, [])

/-- The integer part: a single zero, or digits that do not start with one. -/
def readInteger (cs : List Char) : Option (List Char × List Char) :=
  match spanDigits cs with
  | ([], _) => none
  | (['0'], rest) => some (['0'], rest)
  | ('0' :: _, _) => none
  | (ds, rest) => some (ds, rest)

/-- Reads a number. -/
def readNumber (cs : List Char) : Option (Document × List Char) := do
  let (negative, cs) := match cs with
    | '-' :: rest => (true, rest)
    | rest => (false, rest)
  let (whole, cs) ← readInteger cs
  let (places, cs) ← readFraction cs
  let (exponent, cs) ← readExponent cs
  let n := ofDigits (whole ++ places)
  let value :=
    if !Decimal.isInRange n (exponent.getD 0 - places.length) then Document.meaningless
    else if places.isEmpty && exponent.isNone && !(negative && n == 0) then
      .number (if negative then -n else n)
    else .fraction
  return (value, cs)

/-- The digits of a number without leading zeros. -/
def digits (n : Nat) : List Char := Nat.toDigits 10 n

/-- The written form of a whole number. -/
def writeNumber : Int → List Char
  | .ofNat n => digits n
  | .negSucc n => '-' :: digits (n + 1)

end Trisect.Json
