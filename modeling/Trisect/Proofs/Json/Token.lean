import Mathlib.Algebra.GroupWithZero.Nat
import Trisect.Document.Json.Numeral
import Trisect.Document.Json.Text

/-!
# Numbers and texts are read as they were written

The two tokens of JSON with a content are numbers and texts. Either is read back from its written
form, whatever comes after it: a whole number by `Trisect.Json.readNumber_writeNumber`, a text by
`Trisect.Json.readText_quote`.

A number has no closing mark, so what comes after must not go on with it
(`Trisect.Json.EndsNumber`); and it must have a meaning to begin with, that is, not be beyond the
range of double precision. A text may hold any characters at all. The writer has three ways to write
a character, and the reader cuts a text into units before it knows which characters they are; so
what is carried through the text is that every character becomes one unit that stands for it.
-/

namespace Trisect.Json

/-! ### Numbers -/

theorem isDigit_eq (c : Char) : isDigit c = c.isDigit := rfl

theorem isDigit_of_mem_digits {n : Nat} {d : Char} (h : d ∈ digits n) : isDigit d = true := by
  rw [isDigit_eq]
  exact Nat.isDigit_of_mem_toDigits (by omega) (by omega) h

theorem ofDigits_digits (n : Nat) : ofDigits (digits n) = n := by
  have hvalue := Nat.ofDigitChars_ten_toDigits (n := n)
  rwa [Nat.ofDigitChars_eq_foldl] at hvalue

theorem eq_of_digits_eq {m n : Nat} (h : digits m = digits n) : m = n := by
  rw [← ofDigits_digits m, h, ofDigits_digits]

/-- A numeral stands for one number only. -/
theorem eq_of_toString_eq {m n : Nat} (h : toString m = toString n) : m = n := by
  rw [Nat.toString_eq_ofList_toDigits, Nat.toString_eq_ofList_toDigits] at h
  exact eq_of_digits_eq (String.ofList_injective h)

/-- Only zero is written with a leading zero. -/
theorem eq_zero_of_head?_digits {n : Nat} (h : (digits n).head? = some '0') : n = 0 := by
  induction n using Nat.strongRecOn with
  | ind n ih =>
    rw [digits, Nat.toDigits_eq_if (by omega)] at h
    split at h
    · next hlt =>
      have hdigit : ∀ d, d < 10 → d.digitChar = '0' → d = 0 := by decide
      exact hdigit n hlt (by simpa using h)
    · next hge =>
      -- the leading digit is that of a smaller number, which would have to be zero
      rw [List.head?_append, Option.or_of_isSome (by simp [Nat.toDigits_ne_nil])] at h
      have hzero := ih (n / 10) (by omega) h
      omega

/-- What may come after a number: nothing that would go on with it. -/
def EndsNumber (rest : List Char) : Prop :=
  ∀ c ∈ rest.head?, isDigit c = false ∧ c ≠ '.' ∧ c ≠ 'e' ∧ c ≠ 'E'

theorem endsNumber_nil : EndsNumber [] := by simp [EndsNumber]

theorem endsNumber_cons {c : Char} {rest : List Char} :
    EndsNumber (c :: rest) ↔ isDigit c = false ∧ c ≠ '.' ∧ c ≠ 'e' ∧ c ≠ 'E' := by
  simp [EndsNumber]

section Numbers

variable {rest : List Char}

theorem spanDigits_append {ds : List Char} (hds : ∀ d ∈ ds, isDigit d = true)
    (hrest : EndsNumber rest) : spanDigits (ds ++ rest) = (ds, rest) := by
  rw [spanDigits, List.takeWhile_append_of_pos hds, List.dropWhile_append_of_pos hds]
  cases rest with
  | nil => simp
  | cons c cs => simp [(endsNumber_cons.1 hrest).1]

theorem readInteger_digits (n : Nat) (hrest : EndsNumber rest) :
    readInteger (digits n ++ rest) = some (digits n, rest) := by
  rw [readInteger, spanDigits_append (fun d => isDigit_of_mem_digits) hrest]
  split
  · next heq => exact absurd (Prod.mk.inj heq).1 Nat.toDigits_ne_nil
  · next heq =>
    obtain ⟨hds, rfl⟩ := Prod.mk.inj heq
    rw [hds]
  · next hne heq =>
    -- a leading zero means that the number is zero, and then it is the only digit
    obtain ⟨hds, rfl⟩ := Prod.mk.inj heq
    obtain rfl := eq_zero_of_head?_digits (n := n) (by rw [hds]; rfl)
    have hone : ['0'] = '0' :: _ := hds
    exact absurd (List.cons.inj hone).2.symm hne
  · next heq =>
    obtain ⟨hds, rfl⟩ := Prod.mk.inj heq
    rw [hds]

theorem readFraction_of_endsNumber (hrest : EndsNumber rest) :
    readFraction rest = some ([], rest) := by
  unfold readFraction
  split
  · exact absurd rfl (endsNumber_cons.1 hrest).2.1
  · rfl

theorem readExponent_of_endsNumber (hrest : EndsNumber rest) :
    readExponent rest = some (none, rest) := by
  cases rest with
  | nil => rfl
  | cons c cs =>
    obtain ⟨-, -, he, hE⟩ := endsNumber_cons.1 hrest
    simp [readExponent, he, hE]

/-- **A whole number is read as it was written**, if it is within the range of double precision. -/
theorem readNumber_writeNumber {n : Int} (hn : Decimal.isInRange n.natAbs 0 = true)
    (hrest : EndsNumber rest) : readNumber (writeNumber n ++ rest) = some (.number n, rest) := by
  have hparts : ∀ m : Nat, readInteger (digits m ++ rest) = some (digits m, rest) ∧
      readFraction rest = some ([], rest) ∧ readExponent rest = some (none, rest) := fun m =>
    ⟨readInteger_digits m hrest, readFraction_of_endsNumber hrest,
      readExponent_of_endsNumber hrest⟩
  cases n with
  | ofNat m =>
    obtain ⟨hinteger, hfraction, hexponent⟩ := hparts m
    have hn : Decimal.isInRange m 0 = true := hn
    -- the first character is a digit, and so no sign
    have hsign : ∀ cs, digits m ++ rest ≠ '-' :: cs := by
      intro cs hcs
      obtain ⟨d, ds, hds⟩ := List.exists_cons_of_ne_nil (Nat.toDigits_ne_nil (n := m) (b := 10))
      have hd : isDigit d = true := isDigit_of_mem_digits (n := m) (by rw [digits, hds]; simp)
      rw [digits, hds, List.cons_append] at hcs
      rw [(List.cons.inj hcs).1] at hd
      revert hd
      decide
    rw [writeNumber, readNumber.eq_def]
    split
    next negative cs heq =>
    split at heq
    · next heq' => exact absurd heq' (hsign _)
    · obtain ⟨rfl, rfl⟩ := Prod.mk.inj heq
      simp [hinteger, hfraction, hexponent, ofDigits_digits, hn]
  | negSucc m =>
    obtain ⟨hinteger, hfraction, hexponent⟩ := hparts (m + 1)
    have hn : Decimal.isInRange (m + 1) 0 = true := hn
    simp [writeNumber, readNumber, hinteger, hfraction, hexponent, ofDigits_digits, hn,
      Int.negSucc_eq]

/-- A word of 64 bits is within the range of double precision. -/
theorem isInRange_of_lt {n : Nat} (h : n < 2 ^ 64) : Decimal.isInRange n 0 = true := by
  unfold Decimal.isInRange
  have hlen : (Nat.toDigits 10 n).length ≤ 20 := by
    rw [Nat.length_toDigits_le_iff (by omega) (by omega)]
    omega
  split
  · rfl
  · rw [if_pos]
    omega

end Numbers

/-! ### Texts -/

/-- A unit that stands for a character, whichever units come after it. -/
def CodeUnit.StandsFor (u : CodeUnit) (c : Char) : Prop :=
  ∀ us, joinUnits (u :: us) = (joinUnits us).map (c :: ·)

theorem CodeUnit.standsFor_scalar (c : Char) : (scalar c).StandsFor c := fun _ => by
  rw [joinUnits]

/-- An escape with four digits below the surrogates stands for the character with that number. -/
theorem CodeUnit.standsFor_escaped {n : Nat} (hn : n < 0xd800) :
    (escaped n).StandsFor (Char.ofNat n) := by
  have hhigh : isHighSurrogate n = false := by
    simp only [isHighSurrogate, Bool.and_eq_false_iff, decide_eq_false_iff_not]
    omega
  have hlow : isLowSurrogate n = false := by
    simp only [isLowSurrogate, Bool.and_eq_false_iff, decide_eq_false_iff_not]
    omega
  intro us
  rcases us with _ | ⟨_ | m, us⟩
  · simp [joinUnits, hhigh, hlow]
  · simp [joinUnits, hhigh, hlow]
  · simp [joinUnits, hhigh, hlow]

/-- The four digits of a control character give its number. -/
theorem value?_controlDigits : ∀ n, n < 32 →
    Hex.value? ['0', '0', Hex.lowerDigit (n / 16), Hex.lowerDigit (n % 16)] = some n := by
  decide

/-- A short escape is one unit. -/
theorem readUnits_shortEscape {c e : Char} (cs : List Char) (hu : e ≠ 'u')
    (he : shortEscape? e = some c) :
    readUnits ('\\' :: e :: cs) = (readUnits cs).map fun x => (.scalar c :: x.1, x.2) := by
  rw [readUnits.eq_def]
  split
  · next heq => cases heq
  · next heq => exact absurd (List.cons.inj heq).1 (by decide)
  · next heq => exact absurd (List.cons.inj (List.cons.inj heq).2).1 hu
  · next heq =>
    obtain ⟨rfl, rfl⟩ := List.cons.inj (List.cons.inj heq).2
    rw [he]
    cases readUnits cs <;> rfl
  · next hescape heq =>
    obtain ⟨rfl, rfl⟩ := List.cons.inj heq
    exact absurd rfl (hescape e cs rfl)

/-- A control character is one unit. -/
theorem readUnits_control {n : Nat} (hn : n < 32) (cs : List Char) :
    readUnits ('\\' :: 'u' :: '0' :: '0' :: Hex.lowerDigit (n / 16) :: Hex.lowerDigit (n % 16) ::
      cs) = (readUnits cs).map fun x => (.escaped n :: x.1, x.2) := by
  rw [readUnits, value?_controlDigits n hn]
  cases readUnits cs <;> rfl

/-- A character that is not escaped is one unit. -/
theorem readUnits_scalar {c : Char} (cs : List Char) (hquote : c ≠ '"') (hescape : c ≠ '\\')
    (hcontrol : ¬ c.toNat < 32) :
    readUnits (c :: cs) = (readUnits cs).map fun x => (.scalar c :: x.1, x.2) := by
  rw [readUnits.eq_def]
  split
  · next heq => cases heq
  · next heq => exact absurd (List.cons.inj heq).1 hquote
  · next heq => exact absurd (List.cons.inj heq).1 hescape
  · next heq => exact absurd (List.cons.inj heq).1 hescape
  · next heq =>
    obtain ⟨rfl, rfl⟩ := List.cons.inj heq
    rw [if_neg (by simp [hcontrol, hescape])]

/-- **Every character is written as one unit** that stands for it. -/
theorem exists_unit_of_escape (c : Char) (cs : List Char) :
    ∃ u : CodeUnit, u.StandsFor c ∧
      readUnits (escape c ++ cs) = (readUnits cs).map fun x => (u :: x.1, x.2) := by
  have hshort : ∀ e, e ≠ 'u' → shortEscape? e = some c → ∃ u : CodeUnit, u.StandsFor c ∧
      readUnits (['\\', e] ++ cs) = (readUnits cs).map fun x => (u :: x.1, x.2) := fun e hu he =>
    ⟨.scalar c, CodeUnit.standsFor_scalar c, readUnits_shortEscape cs hu he⟩
  rw [escape]
  split
  · next h => exact hshort '"' (by decide) (by rw [h]; rfl)
  split
  · next h => exact hshort '\\' (by decide) (by rw [h]; rfl)
  split
  · next h => exact hshort 'b' (by decide) (by rw [h]; rfl)
  split
  · next h => exact hshort 'f' (by decide) (by rw [h]; rfl)
  split
  · next h => exact hshort 'n' (by decide) (by rw [h]; rfl)
  split
  · next h => exact hshort 'r' (by decide) (by rw [h]; rfl)
  split
  · next h => exact hshort 't' (by decide) (by rw [h]; rfl)
  split
  · next hcontrol =>
    refine ⟨.escaped c.toNat, ?_, readUnits_control hcontrol cs⟩
    have hstands := CodeUnit.standsFor_escaped (n := c.toNat) (by omega)
    rwa [Char.ofNat_toNat] at hstands
  · next hquote hescape _ _ _ _ _ hcontrol =>
    exact ⟨.scalar c, CodeUnit.standsFor_scalar c, readUnits_scalar cs hquote hescape hcontrol⟩

/-- The units of a written text stand for its characters. -/
theorem readUnits_flatMap_escape (s rest : List Char) :
    ∃ us, readUnits (s.flatMap escape ++ '"' :: rest) = some (us, rest) ∧
      joinUnits us = some s := by
  induction s with
  | nil => exact ⟨[], by simp [readUnits], by simp [joinUnits]⟩
  | cons c cs ih =>
    obtain ⟨us, hread, hjoin⟩ := ih
    obtain ⟨u, hu, hunit⟩ := exists_unit_of_escape c (cs.flatMap escape ++ '"' :: rest)
    refine ⟨u :: us, ?_, ?_⟩
    · rw [List.flatMap_cons, List.append_assoc, hunit, hread]
      rfl
    · rw [hu us, hjoin]
      rfl

/-- **A text is read as it was written**, whatever characters it holds. -/
theorem readText_quote (s : String) (rest : List Char) :
    readText (s.toList.flatMap escape ++ '"' :: rest) = some (some s, rest) := by
  obtain ⟨us, hread, hjoin⟩ := readUnits_flatMap_escape s.toList rest
  simp [readText, hread, hjoin]

end Trisect.Json
