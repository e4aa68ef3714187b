import Trisect.Decimal.Plain
import Trisect.Text.Blank

/-!
# Numbers that are close

An aggregate over a table and the same aggregate over the aggregates of its parts may differ in the
last digits. Two texts are taken for the same number if both denote one and the numbers differ by
little, relative to the larger of the two or absolutely near zero (`Trisect.Decimal.nearlyEqual`).

The texts that denote a number (`Trisect.Decimal.read?`) are digits with an optional sign, point and
exponent, and the names of infinity and of what is not a number, with blanks around them.
-/

namespace Trisect.Decimal

/-- The difference that is allowed, relative to the larger number. -/
def relativeTolerance : Float := 1e-4

/-- The difference that is allowed in any case. -/
def absoluteTolerance : Float := 1e-12

/-- A number as it is written. -/
inductive Reading
  /-- The digits without the point, and the power of ten that they are multiplied with. -/
  | finite (negative : Bool) (digits : Nat) (exponent : Int)
  | infinite (negative : Bool)
  | notANumber

/-- The number that a list of digits denotes. -/
def ofDigits (ds : List Char) : Nat := ds.foldl (fun n d => 10 * n + (d.toNat - 48)) 0

/-- A sign, if there is one, and what follows it. -/
def splitSign : List Char → Bool × List Char
  | '-' :: cs => (true, cs)
  | '+' :: cs => (false, cs)
  | cs => (false, cs)

/-- The exponent of a number, after its digits. -/
def readExponent? : List Char → Option Int
  | [] => some 0
  | c :: cs =>
    if c = 'e' ∨ c = 'E' then
      let (negative, ds) := splitSign cs
      if !ds.isEmpty && ds.all isDigit then
        some (if negative then -(ofDigits ds : Int) else ofDigits ds)
      else none
    else none

/-- Digits with an optional point and exponent. -/
def readFinite? (negative : Bool) (cs : List Char) : Option Reading :=
  let whole := cs.takeWhile isDigit
  let (places, rest) := match cs.dropWhile isDigit with
    | '.' :: rest => (rest.takeWhile isDigit, rest.dropWhile isDigit)
    | rest => ([], rest)
  if whole.isEmpty && places.isEmpty then none
  else (readExponent? rest).map fun e =>
    .finite negative (ofDigits (whole ++ places)) (e - places.length)

/-- Reads a number without blanks around it. -/
def read? (cs : List Char) : Option Reading :=
  let (negative, cs) := splitSign cs
  match String.ofList (cs.map Char.toLower) with
  | "inf" => some (.infinite negative)
  | "infinity" => some (.infinite negative)
  | "nan" => some .notANumber
  | _ => readFinite? negative cs

/-- The double nearest to `m · 10 ^ e`. -/
def magnitude (m : Nat) (e : Int) : Float :=
  if m = 0 then 0
  else
    let digits : Int := (Nat.toDigits 10 m).length
    if 310 < digits + e then 1 / 0
    else if digits + e < -330 then 0
    else
      match e with
      | .ofNat k => Float.ofScientific m false k
      | .negSucc k => Float.ofScientific m true (k + 1)

/-- The double nearest to a number. -/
def Reading.toFloat : Reading → Float
  | finite negative m e => if negative then -magnitude m e else magnitude m e
  | infinite negative => if negative then -1 / 0 else 1 / 0
  | notANumber => 0 / 0

/-- Whether two doubles are equal or differ by little. -/
def areClose (a b : Float) : Bool :=
  let larger := if a.abs < b.abs then b.abs else a.abs
  let difference := (a - b).abs
  a == b || difference ≤ absoluteTolerance || difference < relativeTolerance * larger

/-- Whether two texts denote numbers that are equal or differ by little. -/
def nearlyEqual (s t : String) : Bool :=
  match read? (Text.trim s.toList), read? (Text.trim t.toList) with
  | some a, some b => areClose a.toFloat b.toFloat
  | _, _ => false

end Trisect.Decimal
