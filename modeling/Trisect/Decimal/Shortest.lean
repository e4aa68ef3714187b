/-!
# The shortest decimal of a double

Many decimals round to the same double. `Trisect.Decimal.Magnitude.shortest` finds, among those with
the fewest digits, the one that is nearest to the double; if two are equally near, the greater. It
looks for it on one grid of multiples of a power of ten after the other, the coarsest first: if a
point of a grid rounds to the double, then so does one of the two points of the grid between which
the double lies. All of that is exact arithmetic of natural numbers.

`Trisect.Decimal.plain` writes the decimal without an exponent, whatever its size, and without a
point if it is whole.
-/

namespace Trisect.Decimal

/-- A positive double, `significand · 2 ^ exponent`. -/
structure Magnitude where
  significand : Nat
  exponent : Int
  /-- Whether the next lower double is only half as far as the next higher one. -/
  isPowerOfTwo : Bool

/-- What a double denotes. -/
inductive Double
  | zero (negative : Bool)
  | finite (negative : Bool) (magnitude : Magnitude)
  | infinite (negative : Bool)
  | notANumber

/-- The double with the given bits: a sign, eleven bits of exponent, fifty-two of significand. -/
def Double.ofBits (bits : UInt64) : Double :=
  let negative := bits >>> 63 = 1
  let exponent := ((bits >>> 52) &&& 0x7ff).toNat
  let fraction := (bits &&& 0xfffffffffffff).toNat
  if exponent = 0x7ff then if fraction = 0 then .infinite negative else .notANumber
  else if exponent = 0 then
    if fraction = 0 then .zero negative else .finite negative ⟨fraction, -1074, false⟩
  else
    .finite negative
      ⟨0x10000000000000 + fraction, (exponent : Int) - 1075, fraction = 0 && exponent ≠ 1⟩

namespace Magnitude

/-- The point of the grid of multiples of `10 ^ k` that is nearest to a double, among those that
round to it. -/
def onGrid? (x : Magnitude) (k : Int) : Option Nat :=
  let scale := Nat.pow 2 (x.exponent - 2).toNat * Nat.pow 10 (-k).toNat
  let step := Nat.pow 10 k.toNat * Nat.pow 2 (2 - x.exponent).toNat
  let value := 4 * x.significand * scale
  let low := (4 * x.significand - if x.isPowerOfTwo then 1 else 2) * scale
  let high := (4 * x.significand + 2) * scale
  let endsIncluded := x.significand % 2 = 0
  let below := value / step
  let above := below + 1
  let isBelowFit := if endsIncluded then low ≤ below * step else low < below * step
  let isAboveFit := if endsIncluded then above * step ≤ high else above * step < high
  if isBelowFit && (!isAboveFit || 2 * (value - below * step) < step) then some below
  else if isAboveFit then some above
  else none

/-- The first grid with a point that rounds to a double, and the point. -/
def firstGrid (x : Magnitude) : Nat → Int → Nat × Int
  | 0, k => (0, k)
  | fuel + 1, k =>
    match x.onGrid? k with
    | some d => (d, k)
    | none => firstGrid x fuel (k - 1)

/-- An upper bound for the number of digits before the point. -/
def wholeDigits (x : Magnitude) : Nat :=
  (Nat.toDigits 10 (x.significand * Nat.pow 2 x.exponent.toNat)).length

/-- The shortest decimal that rounds to a double, as `d · 10 ^ k`. No grid is finer than that of the
least double, which has 324 places. -/
def shortest (x : Magnitude) : Nat × Int := x.firstGrid (x.wholeDigits + 325) x.wholeDigits

end Magnitude

/-- The number `d · 10 ^ k` without an exponent. -/
def plainDigits (d : Nat) (k : Int) : List Char :=
  let digits := Nat.toDigits 10 d
  match k with
  | .ofNat n => digits ++ List.replicate n '0'
  | .negSucc n =>
    let padded := List.replicate (n + 2 - digits.length) '0' ++ digits
    let whole := padded.length - (n + 1)
    padded.take whole ++ '.' :: padded.drop whole

/-- The shortest text of a double. -/
def Double.plain : Double → String
  | zero negative => if negative then "-0" else "0"
  | finite negative x =>
    let (d, k) := x.shortest
    let text := String.ofList (plainDigits d k)
    if negative then "-" ++ text else text
  | infinite negative => if negative then "-inf" else "inf"
  | notANumber => "NaN"

end Trisect.Decimal
