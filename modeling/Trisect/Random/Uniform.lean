import Trisect.Random.Draw

/-!
# Decimals between minus ten and ten

A decimal with two places is drawn as a number of double precision between -10 and 10, which is then
rounded to hundredths. All numbers are kept as whole multiples of `2 ^ -100`, in which the scaling,
the shift and both roundings are exact (`Trisect.Draw.hundredths`).
-/

namespace Trisect

/-- The whole number nearest to a quotient; of two, the even one. -/
def roundQuotient (n d : Nat) : Nat :=
  let q := n / d
  let r := n % d
  if d < 2 * r || (2 * r == d && q % 2 == 1) then q + 1 else q

/-- The number with at most fifty-three significant bits that is nearest to a number; of two, the
one whose last bit is zero. -/
def roundToDouble (n : Nat) : Nat :=
  let unit := Nat.pow 2 (n.log2 + 1 - 53)
  roundQuotient n unit * unit

/-- A number in hundredths with a sign; the sign of a zero is kept. -/
structure Hundredths where
  negative : Bool
  amount : Nat
  deriving DecidableEq

namespace Hundredths

/-- The unit in which drawn numbers are kept. -/
def scale : Nat := Nat.pow 2 100

/-- The distance of the numbers that fifty-two random bits are scaled to. -/
def spacing : Nat := 20 * Nat.pow 2 48 + 1

/-- The number that fifty-two random bits stand for. -/
def ofBits (bits : Nat) : Hundredths :=
  let shifted := roundToDouble (bits * spacing)
  let distance := if shifted < 10 * scale then 10 * scale - shifted else shifted - 10 * scale
  ⟨shifted < 10 * scale, roundQuotient (roundToDouble distance * 100) scale⟩

end Hundredths

/-- A number between -10.00 and 10.00. -/
def Draw.hundredths : Draw Hundredths := return .ofBits ((← Draw.longWord) / 4096)

end Trisect
