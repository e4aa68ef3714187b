/-!
# Hexadecimal text

Bytes are written as two hexadecimal digits each, the high half first: `Trisect.Hex.lower` in
fingerprints, `Trisect.Hex.upper` in literals of byte strings. Either way the digits tell the bytes
(`Trisect.Hex.lower_injective`, `Trisect.Hex.upper_injective`).
-/

namespace Trisect.Hex

/-- The digit of a number below sixteen, with letters in lower case. -/
def lowerDigit (n : Nat) : Char :=
  if n < 10 then Char.ofNat (48 + n) else Char.ofNat (87 + n)

/-- The digit of a number below sixteen, with letters in upper case. -/
def upperDigit (n : Nat) : Char :=
  if n < 10 then Char.ofNat (48 + n) else Char.ofNat (55 + n)

/-- The value of a digit, letters in either case. -/
def digitValue? (c : Char) : Option Nat :=
  if '0' ≤ c ∧ c ≤ '9' then some (c.toNat - 48)
  else if 'a' ≤ c ∧ c ≤ 'f' then some (c.toNat - 87)
  else if 'A' ≤ c ∧ c ≤ 'F' then some (c.toNat - 55)
  else none

theorem digitValue?_lowerDigit : ∀ n, n < 16 → digitValue? (lowerDigit n) = some n := by decide

theorem digitValue?_upperDigit : ∀ n, n < 16 → digitValue? (upperDigit n) = some n := by decide

/-- The two digits of a byte. -/
def byteWith (digit : Nat → Char) (b : UInt8) : List Char :=
  [digit (b.toNat / 16), digit (b.toNat % 16)]

/-- Bytes in lower case. -/
def lower (bytes : List UInt8) : List Char := bytes.flatMap (byteWith lowerDigit)

/-- Bytes in upper case. -/
def upper (bytes : List UInt8) : List Char := bytes.flatMap (byteWith upperDigit)

section Injective

variable {digit : Nat → Char} (hvalue : ∀ n, n < 16 → digitValue? (digit n) = some n)

include hvalue

theorem digit_inj {m n : Nat} (hm : m < 16) (hn : n < 16) (h : digit m = digit n) : m = n := by
  have hsame := congrArg digitValue? h
  rw [hvalue m hm, hvalue n hn] at hsame
  exact Option.some.inj hsame

/-- A byte is told by its two digits. -/
theorem byteWith_injective : Function.Injective (byteWith digit) := by
  intro a b h
  obtain ⟨hhigh, hlow⟩ : digit (a.toNat / 16) = digit (b.toNat / 16) ∧
      digit (a.toNat % 16) = digit (b.toNat % 16) := by simpa [byteWith] using h
  have ha := a.toNat_lt
  have hb := b.toNat_lt
  have hquotient := digit_inj hvalue (by omega) (by omega) hhigh
  have hremainder := digit_inj hvalue (by omega) (by omega) hlow
  exact UInt8.toNat_inj.1 (by omega)

/-- **Different strings of bytes have different digits**, of whatever length they are. -/
theorem flatMap_byteWith_injective :
    Function.Injective fun bytes : List UInt8 => bytes.flatMap (byteWith digit) := by
  intro xs
  induction xs with
  | nil =>
    rintro (_ | ⟨y, ys⟩) h
    · rfl
    · simp [byteWith] at h
  | cons x xs ih =>
    rintro (_ | ⟨y, ys⟩) h
    · simp [byteWith] at h
    · dsimp only at h
      rw [List.flatMap_cons, List.flatMap_cons] at h
      obtain ⟨hbyte, hrest⟩ := List.append_inj h rfl
      rw [byteWith_injective hvalue hbyte, ih hrest]

end Injective

theorem lower_injective : Function.Injective lower :=
  flatMap_byteWith_injective digitValue?_lowerDigit

theorem upper_injective : Function.Injective upper :=
  flatMap_byteWith_injective digitValue?_upperDigit

/-- The number that a list of hexadecimal digits denotes, if all are digits. -/
def value? (digits : List Char) : Option Nat :=
  digits.foldl (fun n c => do return 16 * (← n) + (← digitValue? c)) (some 0)

/-- The digits of a number in lower case, without leading zeros. -/
def ofNat (n : Nat) : List Char := Nat.toDigits 16 n

end Trisect.Hex
