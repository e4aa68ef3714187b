import Mathlib.Algebra.Group.Nat.Defs
import Trisect.Proofs.Random.Drawing

/-!
# The range of drawn decimals

A decimal is drawn as a number of double precision and rounded three times on its way to hundredths.
No rounding leads beyond a bound that is itself a number of the kind that is rounded to:
`Trisect.roundQuotient_le` says so for whole numbers and `Trisect.roundToDouble_le` for numbers of
double precision. What fifty-two bits are scaled to does not exceed twenty before it is rounded
(`Trisect.Hundredths.bits_le`), and so **a drawn decimal lies between -10.00 and 10.00**
(`Trisect.Draw.yields_hundredths`).
-/

namespace Trisect

/-- Rounding a quotient does not lead beyond a whole number that it does not exceed. -/
theorem roundQuotient_le {n d k : Nat} (hd : 0 < d) (h : n ≤ k * d) : roundQuotient n d ≤ k := by
  have hsplit : d * (n / d) + n % d = n := Nat.div_add_mod n d
  have hq : n / d ≤ k := Nat.div_le_of_le_mul (by rwa [Nat.mul_comm] at h)
  rw [roundQuotient]
  rcases Nat.lt_or_ge (n / d) k with hlt | hge
  · split
    · omega
    · omega
  · -- at the bound itself there is nothing left to round
    have heq : n / d = k := Nat.le_antisymm hq hge
    have hr : n % d = 0 := by
      rw [heq, Nat.mul_comm] at hsplit
      omega
    have hnot : ¬d < 2 * (n % d) := by omega
    have hne : ¬2 * (n % d) = d := by omega
    simp [hnot, hne, heq]

/-- Rounding to double precision does not lead beyond a number of that precision. -/
theorem roundToDouble_le {n m e : Nat} (h : n ≤ m) (hlog : n.log2 + 1 - 53 ≤ e)
    (hm : 2 ^ e ∣ m) : roundToDouble n ≤ m := by
  have hpos : 0 < 2 ^ (n.log2 + 1 - 53) := Nat.two_pow_pos _
  obtain ⟨k, rfl⟩ : 2 ^ (n.log2 + 1 - 53) ∣ m := Nat.dvd_trans (Nat.pow_dvd_pow 2 hlog) hm
  rw [Nat.mul_comm] at h ⊢
  exact Nat.mul_le_mul_right _ (roundQuotient_le hpos h)

theorem log2_le_of_lt {n k : Nat} (h : n < 2 ^ (k + 1)) : n.log2 ≤ k := by
  by_cases hn : n = 0
  · rw [hn, Nat.log2_zero]
    exact Nat.zero_le k
  · exact Nat.le_of_lt_succ ((Nat.log2_lt hn).2 h)

namespace Hundredths

/-- What fifty-two bits are scaled to does not exceed twenty. -/
theorem bits_le {bits : Nat} (h : bits < 2 ^ 52) : bits * spacing ≤ 20 * scale := by
  have hbits : bits ≤ 2 ^ 52 - 1 := by omega
  calc bits * spacing ≤ (2 ^ 52 - 1) * spacing := Nat.mul_le_mul_right _ hbits
    _ ≤ 20 * scale := by decide

/-- The shifted number is at most ten away from zero. -/
theorem shifted_le {bits : Nat} (h : bits < 2 ^ 52) :
    roundToDouble (bits * spacing) ≤ 20 * scale := by
  have hle := bits_le h
  have hlt : bits * spacing < 2 ^ (104 + 1) := Nat.lt_of_le_of_lt hle (by decide)
  have hlog := log2_le_of_lt hlt
  exact roundToDouble_le (e := 52) hle (by omega) (by decide)

theorem amount_ofBits_le {bits : Nat} (h : bits < 2 ^ 52) : (ofBits bits).amount ≤ 1000 := by
  have hshifted := shifted_le h
  -- ten is a number of double precision, and a thousand hundredths of it are whole
  have key : ∀ distance, distance ≤ 10 * scale →
      roundQuotient (roundToDouble distance * 100) scale ≤ 1000 := by
    intro distance hdistance
    have hlt : distance < 2 ^ (103 + 1) := Nat.lt_of_le_of_lt hdistance (by decide)
    have hlog := log2_le_of_lt hlt
    have hround : roundToDouble distance ≤ 10 * scale :=
      roundToDouble_le (e := 51) hdistance (by omega) (by decide)
    refine roundQuotient_le (Nat.two_pow_pos 100) ?_
    calc roundToDouble distance * 100 ≤ 10 * scale * 100 := Nat.mul_le_mul_right _ hround
      _ = 1000 * scale := by omega
  simp only [ofBits]
  refine key _ ?_
  split
  · omega
  · omega

end Hundredths

/-- **A drawn decimal** lies between -10.00 and 10.00. -/
theorem Draw.yields_hundredths : Draw.Yields Draw.hundredths fun n => n.amount ≤ 1000 := by
  refine Draw.yields_bind Draw.yields_longWord fun word hword => Draw.yields_pure ?_
  refine Hundredths.amount_ofBits_le ?_
  have hword' : word < 2 ^ 64 := hword
  omega

end Trisect
