import Trisect.Cell

/-!
# Plain decimals

Engines differ in how they write the same number: `2`, `2.0` and `2.00` are one value. Before cells
are compared they are brought to a common form, which touches **plain decimals** only – an optional
minus sign, digits, a point and digits – and leaves every other text alone.

`Trisect.Decimal.stripZeros` removes the zeros at the end of the fraction, and the point with them
if nothing is left behind it. `Trisect.Decimal.foldMinusZero` drops the sign of a zero; whether it
is applied is up to the dialect.
-/

namespace Trisect.Decimal

/-- Whether a character is one of the ten digits. -/
def isDigit (c : Char) : Bool := '0' ≤ c && c ≤ '9'

/-- What is left of a list of characters without the zeros at its end. -/
def dropEndZeros (cs : List Char) : List Char := (cs.reverse.dropWhile (· = '0')).reverse

/-- A text without its minus sign, if it starts with one. -/
def withoutSign : List Char → List Char
  | '-' :: cs => cs
  | cs => cs

/-- Whether the two sides of the first point of a text make it a plain decimal. -/
def isPlain (whole fraction : List Char) : Bool :=
  !(withoutSign whole).isEmpty && !fraction.isEmpty &&
    (withoutSign whole).all isDigit && fraction.all isDigit

/-- A plain decimal without the zeros at its end; any other list of characters as it is. -/
def stripZerosChars (cs : List Char) : List Char :=
  let whole := cs.takeWhile (· ≠ '.')
  match cs.dropWhile (· ≠ '.') with
  | [] => cs
  | _ :: fraction =>
    if isPlain whole fraction then
      match dropEndZeros fraction with
      | [] => whole
      | kept => whole ++ '.' :: kept
    else cs

/-- A plain decimal without the zeros at its end; any other text as it is. -/
def stripZeros (s : String) : String := String.ofList (stripZerosChars s.toList)

/-- Zero for the two spellings of minus zero; any other text as it is. -/
def foldMinusZero (s : String) : String :=
  if s = "-0.0" then "0.0" else if s = "-0" then "0" else s

end Trisect.Decimal

namespace Trisect.Cell

/-- The form in which cells are collected: plain decimals without zeros at their end. -/
def normalized (c : Cell) : Cell := c.map Decimal.stripZeros

/-- A cell with the sign of a zero dropped. -/
def foldMinusZero (c : Cell) : Cell := c.map Decimal.foldMinusZero

end Trisect.Cell
