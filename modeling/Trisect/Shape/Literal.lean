import Trisect.Random.Uniform

/-!
# Literals

The constants that appear in random statements: NULL, small whole numbers, numbers with two places,
short texts of the letters `a` to `c`, and a minus zero, which engines are prone to treat in a way
of their own.
-/

namespace Trisect

/-- A constant of a random statement. -/
inductive Literal
  | null
  | integer (n : Int)
  | decimal (n : Hundredths)
  | text (cs : List Char)
  | minusZero
  deriving DecidableEq

/-- A number in hundredths with its two places. -/
def Hundredths.render (n : Hundredths) : String :=
  (if n.negative then "-" else "") ++ toString (n.amount / 100) ++ "." ++
    toString (n.amount % 100 / 10) ++ toString (n.amount % 10)

namespace Literal

/-- The text of a literal in a statement. -/
def sql : Literal → String
  | null => "NULL"
  | integer n => toString n
  | decimal n => n.render
  | text cs => "'" ++ String.ofList cs ++ "'"
  | minusZero => "-0.0"

/-- The letter at a position of the alphabet. -/
def letter (n : Nat) : Char := Char.ofNat ('a'.toNat + n)

/-- Draws a text of at most three letters. -/
def drawText : Draw Literal := do
  let length ← Draw.belowShort 4
  return text (← Draw.many (letter <$> Draw.belowExact 3) length)

/-- Draws a literal. -/
def draw : Draw Literal := do
  match ← Draw.belowShort 6 with
  | 0 => return null
  | 1 | 2 => return integer ((← Draw.belowLong 11 : Nat) - 5)
  | 3 => return decimal (← Draw.hundredths)
  | 4 => drawText
  | _ => Draw.chooseFrom (integer 0) [integer 1, minusZero, text []]

end Literal

end Trisect
