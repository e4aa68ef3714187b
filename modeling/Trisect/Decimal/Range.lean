/-!
# The range of double precision

A decimal can be written that no double comes near. `Trisect.Decimal.isInRange` says whether the
double nearest to `m · 10 ^ e` is finite.
-/

namespace Trisect.Decimal

/-- Below this bound, half a unit above the greatest double, everything rounds to a finite one. -/
def rangeBound : Nat := Nat.pow 2 1024 - Nat.pow 2 970

/-- Whether `m · 10 ^ e` rounds to a finite double. Most numbers are settled by how many digits they
have before the point; the greatest double has 309. -/
def isInRange (m : Nat) (e : Int) : Bool :=
  if m = 0 then true
  else
    let digits : Int := (Nat.toDigits 10 m).length
    if digits + e < 308 then true
    else if 310 < digits + e then false
    else
      match e with
      | .ofNat k => m * Nat.pow 10 k < rangeBound
      | .negSucc k => m < rangeBound * Nat.pow 10 (k + 1)

end Trisect.Decimal
