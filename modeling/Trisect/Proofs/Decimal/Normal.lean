import Mathlib.Algebra.Order.Field.Rat
import Mathlib.Algebra.Order.Ring.Abs
import Mathlib.Data.List.DropRight
import Mathlib.Data.Nat.Digits.Defs
import Mathlib.Tactic.FieldSimp
import Mathlib.Tactic.NormNum.Pow
import Mathlib.Tactic.Positivity
import Trisect.Decimal.Plain

/-!
# Plain decimals are told apart by their numbers

Cells are compared as texts, so that two spellings of one number count as one value only if they are
brought to one form, and two numbers as two only if they are not. For plain decimals both is so.

A `Trisect.Decimal.Numeral` is a number as it is spelled: a sign, the digits before the point and
those after it. Its number `Trisect.Decimal.Numeral.value` does not change under the two steps that
a cell goes through, whatever it starts with: `Trisect.Decimal.Numeral.withoutEndZeros` leaves out
zeros at the end, `Trisect.Decimal.Numeral.withoutMinus` drops the sign of the two spellings of zero
that have one. If there are no leading zeros, what comes out is **normal**
(`Trisect.Decimal.Numeral.IsNormal`), and a number has one normal spelling only
(`Trisect.Decimal.Numeral.IsNormal.eq_of_value_eq`): a fraction that ends in no zero has as many
places as the number needs, so that both spellings have equally many, and digits that do not begin
with a zero are those of their number. Hence the main statement,
`Trisect.Decimal.normal_form_decides`: **two plain decimals become the same text if and only if they
denote the same number**.
-/

namespace Trisect.Decimal

/-! ### Digits -/

/-- The values of some digits, the last digit first. -/
def digitValues (ds : List Char) : List Nat := (ds.map fun d => d.toNat - 48).reverse

/-- The whole number that some digits denote. -/
def wholeNumber (ds : List Char) : Nat := Nat.ofDigits 10 (digitValues ds)

theorem toNat_of_isDigit {d : Char} (h : isDigit d = true) : 48 ≤ d.toNat ∧ d.toNat ≤ 57 := by
  simp only [isDigit, Bool.and_eq_true, decide_eq_true_eq, Char.le_def, UInt32.le_iff_toNat_le] at h
  exact h

section Digits

variable {ds es : List Char}

@[simp] theorem length_digitValues (ds : List Char) : (digitValues ds).length = ds.length := by
  simp [digitValues]

theorem digitValues_append (ds es : List Char) :
    digitValues (ds ++ es) = digitValues es ++ digitValues ds := by
  simp [digitValues]

theorem digitValues_lt (h : ∀ d ∈ ds, isDigit d = true) : ∀ v ∈ digitValues ds, v < 10 := by
  intro v hv
  simp only [digitValues, List.mem_reverse, List.mem_map] at hv
  obtain ⟨d, hd, rfl⟩ := hv
  have hrange := toNat_of_isDigit (h d hd)
  omega

/-- Digits are known by their values. -/
theorem ofNat_digitValues (h : ∀ d ∈ ds, isDigit d = true) :
    (digitValues ds).reverse.map (fun v => Char.ofNat (v + 48)) = ds := by
  have hdigit : ∀ d ∈ ds, Char.ofNat (d.toNat - 48 + 48) = d := by
    intro d hd
    have hrange := toNat_of_isDigit (h d hd)
    rw [Nat.sub_add_cancel hrange.1, Char.ofNat_toNat]
  rw [digitValues, List.reverse_reverse, List.map_map]
  exact (List.map_congr_left hdigit).trans (List.map_id ds)

theorem digitValues_inj (hds : ∀ d ∈ ds, isDigit d = true) (hes : ∀ d ∈ es, isDigit d = true)
    (h : digitValues ds = digitValues es) : ds = es := by
  rw [← ofNat_digitValues hds, h, ofNat_digitValues hes]

theorem wholeNumber_append (ds es : List Char) :
    wholeNumber (ds ++ es) = wholeNumber es + 10 ^ es.length * wholeNumber ds := by
  rw [wholeNumber, digitValues_append, Nat.ofDigits_append, length_digitValues]
  rfl

theorem wholeNumber_lt (h : ∀ d ∈ ds, isDigit d = true) : wholeNumber ds < 10 ^ ds.length := by
  rw [← length_digitValues]
  exact Nat.ofDigits_lt_base_pow_length (by omega) (digitValues_lt h)

@[simp] theorem wholeNumber_replicate (n : Nat) : wholeNumber (List.replicate n '0') = 0 := by
  simp [wholeNumber, digitValues]

/-- Digits of which there are equally many are known by their number. -/
theorem eq_of_wholeNumber_eq (hds : ∀ d ∈ ds, isDigit d = true) (hes : ∀ d ∈ es, isDigit d = true)
    (hlen : ds.length = es.length) (h : wholeNumber ds = wholeNumber es) : ds = es := by
  refine digitValues_inj hds hes ?_
  refine Nat.ofDigits_inj_of_len_eq (by omega) ?_ (digitValues_lt hds) (digitValues_lt hes) h
  rw [length_digitValues, length_digitValues, hlen]

/-- Only zeros denote zero. -/
theorem eq_replicate_of_wholeNumber_eq_zero (hds : ∀ d ∈ ds, isDigit d = true)
    (h : wholeNumber ds = 0) : ds = List.replicate ds.length '0' := by
  refine eq_of_wholeNumber_eq hds ?_ List.length_replicate.symm ?_
  · intro d hd
    rw [List.eq_of_mem_replicate hd]
    rfl
  · rw [h, wholeNumber_replicate]

/-- The value of the last digit is what is left over by ten. -/
theorem wholeNumber_concat (ds : List Char) {d : Char} (hd : isDigit d = true) :
    wholeNumber (ds ++ [d]) % 10 = d.toNat - 48 := by
  have hrange := toNat_of_isDigit hd
  have hone : wholeNumber [d] = d.toNat - 48 := by simp [wholeNumber, digitValues]
  rw [wholeNumber_append, hone, List.length_singleton, pow_one]
  omega

end Digits

/-! ### Numerals -/

/-- A number as it is spelled. -/
@[ext] structure Numeral where
  negative : Bool
  /-- The digits before the point. -/
  whole : List Char
  /-- The digits after the point; if there are none, there is no point. -/
  places : List Char
  whole_ne_nil : whole ≠ []
  isDigit_whole : ∀ d ∈ whole, isDigit d = true
  isDigit_places : ∀ d ∈ places, isDigit d = true
  deriving DecidableEq

namespace Numeral

variable {a b : Numeral}

/-- The sign of a numeral as it is written. -/
def sign (a : Numeral) : List Char := if a.negative then ['-'] else []

/-- The fraction of a numeral as it is written, with the point. -/
def fraction (a : Numeral) : List Char := if a.places = [] then [] else '.' :: a.places

/-- A numeral as it is written. -/
def text (a : Numeral) : String := String.ofList (a.sign ++ a.whole ++ a.fraction)

/-- The number of a numeral without its sign, in units of its last place. -/
def units (a : Numeral) : Nat := wholeNumber (a.whole ++ a.places)

/-- The number that a numeral denotes. -/
def value (a : Numeral) : Rat := (if a.negative then -1 else 1) * (a.units / 10 ^ a.places.length)

/-- The digits before the point do not begin with a zero, unless it is the only one. -/
def NoLeadingZero (a : Numeral) : Prop := a.whole.head? = some '0' → a.whole = ['0']

/-- A numeral without anything superfluous. -/
structure IsNormal (a : Numeral) : Prop where
  noLeadingZero : a.NoLeadingZero
  noEndZero : a.places.getLast? ≠ some '0'
  noMinusZero : a.negative = true → a.units ≠ 0

/-! ### The two steps -/

theorem isDigit_dropEndZeros {ds : List Char} (h : ∀ d ∈ ds, isDigit d = true) :
    ∀ d ∈ dropEndZeros ds, isDigit d = true := fun d hd =>
  h d ((List.rdropWhile_prefix (fun c => decide (c = '0')) ds).subset hd)

/-- A numeral without the zeros at the end of its fraction. -/
def withoutEndZeros (a : Numeral) : Numeral :=
  { a with
    places := dropEndZeros a.places
    isDigit_places := isDigit_dropEndZeros a.isDigit_places }

/-- The spelling of minus zero without a point. -/
def minusZero : Numeral := ⟨true, ['0'], [], by simp, List.all_eq_true.1 rfl, by simp⟩

/-- The spelling of minus zero with one place. -/
def minusZeroPlace : Numeral :=
  ⟨true, ['0'], ['0'], by simp, List.all_eq_true.1 rfl, List.all_eq_true.1 rfl⟩

/-- A numeral without its sign, if it is one of two spellings of minus zero. -/
def withoutMinus (a : Numeral) : Numeral :=
  if a = minusZero ∨ a = minusZeroPlace then { a with negative := false } else a

/-! #### As texts -/

theorem isDigit_ne {d : Char} (h : isDigit d = true) : d ≠ '.' ∧ d ≠ '-' := by
  refine ⟨?_, ?_⟩
  · rintro rfl
    revert h
    decide
  · rintro rfl
    revert h
    decide

theorem ne_point_of_mem {d : Char} (h : d ∈ a.sign ++ a.whole) : d ≠ '.' := by
  rcases List.mem_append.1 h with hsign | hwhole
  · rw [sign] at hsign
    split at hsign
    · rw [List.mem_singleton.1 hsign]
      decide
    · cases hsign
  · exact (isDigit_ne (a.isDigit_whole d hwhole)).1

/-- The first point of a numeral stands before its places. -/
theorem split_at_point (a : Numeral) :
    (a.sign ++ a.whole ++ a.fraction).takeWhile (· ≠ '.') = a.sign ++ a.whole ∧
      (a.sign ++ a.whole ++ a.fraction).dropWhile (· ≠ '.') = a.fraction := by
  have hne : ∀ d ∈ a.sign ++ a.whole, decide (d ≠ '.') = true := fun d hd => by
    simpa using ne_point_of_mem hd
  rw [List.takeWhile_append_of_pos hne, List.dropWhile_append_of_pos hne]
  by_cases hplaces : a.places = []
  · simp [fraction, hplaces]
  · simp [fraction, hplaces]

/-- The sign of a numeral is told from its digits. -/
theorem withoutSign_sign (a : Numeral) : withoutSign (a.sign ++ a.whole) = a.whole := by
  rcases hwhole : a.whole with _ | ⟨d, ds⟩
  · exact absurd hwhole a.whole_ne_nil
  · have hd : d ≠ '-' := (isDigit_ne (a.isDigit_whole d (by simp [hwhole]))).2
    rw [sign]
    split
    · rfl
    · rw [List.nil_append, withoutSign]
      rintro cs heq
      exact hd (List.cons.inj heq).1

theorem negative_eq_of_sign_eq (h : a.sign = b.sign) : a.negative = b.negative := by
  have hsign : ∀ c : Numeral, c.negative = true ↔ c.sign ≠ [] := fun c => by simp [sign]
  rw [Bool.eq_iff_iff, hsign a, hsign b, h]

theorem places_eq_of_fraction_eq (h : a.fraction = b.fraction) : a.places = b.places := by
  have hplaces : ∀ c : Numeral, c.fraction.tail = c.places := by
    intro c
    rw [fraction]
    split
    · next hnone => rw [hnone, List.tail_nil]
    · rfl
  rw [← hplaces a, h, hplaces b]

/-- Different numerals are written differently. -/
theorem text_injective (h : a.text = b.text) : a = b := by
  have hchars : a.sign ++ a.whole ++ a.fraction = b.sign ++ b.whole ++ b.fraction :=
    String.ofList_injective h
  obtain ⟨hwhole, hfraction⟩ := a.split_at_point
  rw [hchars, b.split_at_point.1] at hwhole
  rw [hchars, b.split_at_point.2] at hfraction
  have hdigits : a.whole = b.whole := by
    rw [← a.withoutSign_sign, ← hwhole, b.withoutSign_sign]
  have hsign : b.sign = a.sign := by
    rw [hdigits] at hwhole
    exact List.append_cancel_right hwhole
  exact Numeral.ext (negative_eq_of_sign_eq hsign.symm) hdigits
    (places_eq_of_fraction_eq hfraction.symm)

/-- Stripping the zeros of a numeral leaves out those at the end of its fraction. -/
theorem stripZeros_text (a : Numeral) : stripZeros a.text = a.withoutEndZeros.text := by
  obtain ⟨hwhole, hfraction⟩ := a.split_at_point
  rw [stripZeros, text, text, String.toList_ofList, stripZerosChars, hwhole, hfraction]
  congr 1
  rcases hplaces : a.places with _ | ⟨d, ds⟩
  · simp [fraction, hplaces, withoutEndZeros, dropEndZeros, sign]
  · have hplain : isPlain (a.sign ++ a.whole) (d :: ds) = true := by
      have hwhole' : a.whole.all isDigit = true := List.all_eq_true.2 a.isDigit_whole
      have hplaces' : (d :: ds).all isDigit = true :=
        List.all_eq_true.2 (hplaces ▸ a.isDigit_places)
      simp [isPlain, withoutSign_sign, a.whole_ne_nil, hwhole', hplaces']
    have hpoint : a.fraction = '.' :: d :: ds := by simp [fraction, hplaces]
    rw [hpoint]
    simp only [hplain, if_true]
    rcases hkept : dropEndZeros (d :: ds) with _ | ⟨e, es⟩
    · simp [fraction, withoutEndZeros, hplaces, hkept, sign]
    · simp [fraction, withoutEndZeros, hplaces, hkept, sign]

theorem foldMinusZero_text (a : Numeral) : foldMinusZero a.text = a.withoutMinus.text := by
  have htext : minusZero.text = "-0" ∧ minusZeroPlace.text = "-0.0" := by decide
  rw [foldMinusZero, withoutMinus, ← htext.1, ← htext.2]
  by_cases hplace : a = minusZeroPlace
  · rw [if_pos (congrArg text hplace), if_pos (Or.inr hplace), hplace]
    rfl
  · rw [if_neg fun h => hplace (text_injective h)]
    by_cases hzero : a = minusZero
    · rw [if_pos (congrArg text hzero), if_pos (Or.inl hzero), hzero]
      rfl
    · rw [if_neg fun h => hzero (text_injective h), if_neg (by simp [hplace, hzero])]

/-! #### As numbers -/

theorem exists_eq_dropEndZeros_append (ds : List Char) :
    ∃ n, ds = dropEndZeros ds ++ List.replicate n '0' := by
  refine ⟨(ds.rtakeWhile fun c => decide (c = '0')).length, ?_⟩
  have hzeros : ds.rtakeWhile (fun c => decide (c = '0')) =
      List.replicate (ds.rtakeWhile fun c => decide (c = '0')).length '0' := by
    refine List.eq_replicate_of_mem fun d hd => ?_
    simpa using List.mem_rtakeWhile_imp hd
  rw [← hzeros]
  exact List.rdropWhile_append_rtakeWhile.symm

theorem getLast?_dropEndZeros (ds : List Char) : (dropEndZeros ds).getLast? ≠ some '0' := by
  intro hlast
  obtain ⟨hne, hzero⟩ := List.mem_getLast?_eq_getLast hlast
  exact List.rdropWhile_last_not (fun c => decide (c = '0')) ds hne (decide_eq_true hzero.symm)

/-- Zeros at the end of the fraction do not change the number. -/
theorem value_withoutEndZeros (a : Numeral) : a.withoutEndZeros.value = a.value := by
  obtain ⟨n, hplaces⟩ := exists_eq_dropEndZeros_append a.places
  have hunits : a.units = 10 ^ n * a.withoutEndZeros.units := by
    rw [units, hplaces, ← List.append_assoc, wholeNumber_append, wholeNumber_replicate,
      List.length_replicate, zero_add]
    rfl
  have hlen : a.places.length = a.withoutEndZeros.places.length + n := by
    conv_lhs => rw [hplaces]
    rw [List.length_append, List.length_replicate]
    rfl
  have hmagnitude : (a.withoutEndZeros.units : Rat) / 10 ^ a.withoutEndZeros.places.length =
      a.units / 10 ^ a.places.length := by
    rw [hunits, hlen, pow_add]
    push_cast
    field_simp
  rw [value, value, hmagnitude]
  rfl

theorem value_eq_zero (h : a.units = 0) : a.value = 0 := by
  rw [value, h, Nat.cast_zero, zero_div, mul_zero]

/-- Zero has no sign. -/
theorem value_withoutMinus (a : Numeral) : a.withoutMinus.value = a.value := by
  rw [withoutMinus]
  split
  · next hzero =>
    have hunits : a.units = 0 := by
      rcases hzero with rfl | rfl
      · exact wholeNumber_replicate 1
      · exact wholeNumber_replicate 2
    have hpositive : { a with negative := false }.value = 0 := value_eq_zero hunits
    rw [hpositive, value_eq_zero hunits]
  · rfl

/-! ### Normal numerals -/

/-- Digits that denote zero without a leading zero are a zero. -/
theorem whole_eq_zero (ha : a.NoLeadingZero) (h : wholeNumber a.whole = 0) : a.whole = ['0'] := by
  have hzeros := eq_replicate_of_wholeNumber_eq_zero a.isDigit_whole h
  refine ha ?_
  rcases hwhole : a.whole with _ | ⟨d, ds⟩
  · exact absurd hwhole a.whole_ne_nil
  · rw [hwhole, List.length_cons, List.replicate_succ, List.cons.injEq] at hzeros
    rw [hzeros.1, List.head?_cons]

/-- Digits without a leading zero are those of their number. -/
theorem digits_wholeNumber (ha : a.NoLeadingZero) (h : wholeNumber a.whole ≠ 0) :
    Nat.digits 10 (wholeNumber a.whole) = digitValues a.whole := by
  refine Nat.digits_ofDigits 10 (by omega) _ (digitValues_lt a.isDigit_whole) fun hne hlast => h ?_
  rcases hwhole : a.whole with _ | ⟨d, ds⟩
  · exact absurd hwhole a.whole_ne_nil
  · -- the last value is that of the first digit, which would have to be a zero
    have hd := toNat_of_isDigit (a.isDigit_whole d (by simp [hwhole]))
    have hvalue : d.toNat - 48 = 0 := by simpa [digitValues, hwhole] using hlast
    have hcode : d.toNat = '0'.toNat := by
      have hzero : '0'.toNat = 48 := rfl
      omega
    have hdigit : d = '0' := Char.toNat_inj.1 hcode
    rw [← hwhole, ha (by rw [hwhole, hdigit, List.head?_cons])]
    exact wholeNumber_replicate 1

/-- Digits without a leading zero are known by their number. -/
theorem whole_eq_of_wholeNumber_eq (ha : a.NoLeadingZero) (hb : b.NoLeadingZero)
    (h : wholeNumber a.whole = wholeNumber b.whole) : a.whole = b.whole := by
  by_cases hzero : wholeNumber a.whole = 0
  · rw [whole_eq_zero ha hzero, whole_eq_zero hb (h ▸ hzero)]
  · refine digitValues_inj a.isDigit_whole b.isDigit_whole ?_
    rw [← digits_wholeNumber ha hzero, ← digits_wholeNumber hb (h ▸ hzero), h]

theorem abs_value (a : Numeral) : |a.value| = a.units / 10 ^ a.places.length := by
  have hpos : (0 : Rat) ≤ a.units / 10 ^ a.places.length := by positivity
  rw [value, abs_mul, abs_of_nonneg hpos]
  split <;> simp

/-- A number other than zero is negative if it has a minus sign. -/
theorem value_neg_iff (h : a.units ≠ 0) : a.value < 0 ↔ a.negative = true := by
  have hunits : (0 : Rat) < a.units := by exact_mod_cast Nat.pos_of_ne_zero h
  have hpos : (0 : Rat) < a.units / 10 ^ a.places.length := by positivity
  rw [value]
  split
  · next hneg => simp [hneg, hpos]
  · next hneg => simp [hneg, hpos.le]

theorem IsNormal.negative_eq_false (ha : a.IsNormal) (h : a.units = 0) : a.negative = false :=
  Bool.eq_false_iff.2 fun hneg => ha.noMinusZero hneg h

/-- The last place of a number that does not end in a zero is needed. -/
theorem places_length_le (hb : b.places.getLast? ≠ some '0')
    (h : a.units * 10 ^ b.places.length = b.units * 10 ^ a.places.length) :
    b.places.length ≤ a.places.length := by
  by_contra hlt
  obtain ⟨n, hn⟩ : ∃ n, b.places.length = a.places.length + (n + 1) :=
    ⟨b.places.length - a.places.length - 1, by omega⟩
  have hunits : b.units = 10 * (a.units * 10 ^ n) := by
    have hpow : 0 < 10 ^ a.places.length := by positivity
    refine Nat.eq_of_mul_eq_mul_right hpow ?_
    rw [← h, hn, pow_add, pow_succ]
    ring
  rcases List.eq_nil_or_concat b.places with hnil | ⟨ds, d, hplaces⟩
  · rw [hnil, List.length_nil] at hn
    omega
  · rw [List.concat_eq_append] at hplaces
    have hd : isDigit d = true := b.isDigit_places d (by simp [hplaces])
    have hlast : b.units % 10 = d.toNat - 48 := by
      rw [units, hplaces, ← List.append_assoc, wholeNumber_concat _ hd]
    have hrange := toNat_of_isDigit hd
    have hcode : d.toNat = '0'.toNat := by
      have hzero : '0'.toNat = 48 := rfl
      omega
    rw [hplaces, Char.toNat_inj.1 hcode] at hb
    exact hb (by simp)

/-- The digits before the point and those after it are known by the number in units of the last. -/
theorem wholeNumber_div_mod (a : Numeral) :
    a.units / 10 ^ a.places.length = wholeNumber a.whole ∧
      a.units % 10 ^ a.places.length = wholeNumber a.places := by
  have hlt := wholeNumber_lt a.isDigit_places
  rw [units, wholeNumber_append]
  refine ⟨?_, ?_⟩
  · rw [Nat.add_mul_div_left _ _ (by positivity), Nat.div_eq_of_lt hlt, zero_add]
  · rw [Nat.add_mul_mod_self_left, Nat.mod_eq_of_lt hlt]

/-- **A number has one normal spelling.** -/
theorem IsNormal.eq_of_value_eq (ha : a.IsNormal) (hb : b.IsNormal) (h : a.value = b.value) :
    a = b := by
  have hmagnitude : (a.units : Rat) / 10 ^ a.places.length = b.units / 10 ^ b.places.length := by
    rw [← abs_value, ← abs_value, h]
  have hcross : a.units * 10 ^ b.places.length = b.units * 10 ^ a.places.length := by
    rw [div_eq_div_iff (by positivity) (by positivity)] at hmagnitude
    exact_mod_cast hmagnitude
  have hlen : a.places.length = b.places.length :=
    Nat.le_antisymm (places_length_le ha.noEndZero hcross.symm)
      (places_length_le hb.noEndZero hcross)
  have hunits : a.units = b.units := by
    rw [hlen] at hcross
    exact Nat.eq_of_mul_eq_mul_right (by positivity) hcross
  obtain ⟨hawhole, haplaces⟩ := a.wholeNumber_div_mod
  obtain ⟨hbwhole, hbplaces⟩ := b.wholeNumber_div_mod
  have hwhole : a.whole = b.whole := by
    refine whole_eq_of_wholeNumber_eq ha.noLeadingZero hb.noLeadingZero ?_
    rw [← hawhole, ← hbwhole, hunits, hlen]
  have hplaces : a.places = b.places := by
    refine eq_of_wholeNumber_eq a.isDigit_places b.isDigit_places hlen ?_
    rw [← haplaces, ← hbplaces, hunits, hlen]
  have hsign : a.negative = b.negative := by
    by_cases hzero : a.units = 0
    · -- zero has no sign in either of them
      rw [ha.negative_eq_false hzero, hb.negative_eq_false (hunits ▸ hzero)]
    · rw [Bool.eq_iff_iff, ← value_neg_iff hzero, ← value_neg_iff (hunits ▸ hzero), h]
  exact Numeral.ext hsign hwhole hplaces

/-- The form in which a numeral is compared. -/
def normal (a : Numeral) : Numeral := a.withoutEndZeros.withoutMinus

theorem value_normal (a : Numeral) : a.normal.value = a.value := by
  rw [normal, value_withoutMinus, value_withoutEndZeros]

/-- What a cell with a numeral becomes before it is compared. -/
theorem foldMinusZero_normalized (a : Numeral) :
    Cell.foldMinusZero (Cell.normalized (some a.text)) = some a.normal.text := by
  rw [Cell.normalized, Option.map_some, stripZeros_text, Cell.foldMinusZero, Option.map_some,
    foldMinusZero_text, normal]

theorem isNormal_normal (ha : a.NoLeadingZero) : a.normal.IsNormal := by
  have hlast : a.withoutEndZeros.places.getLast? ≠ some '0' := getLast?_dropEndZeros a.places
  rw [normal, withoutMinus]
  split
  · exact ⟨ha, hlast, fun hneg => Bool.noConfusion hneg⟩
  · next hne =>
    refine ⟨ha, hlast, fun hneg hzero => hne (Or.inl ?_)⟩
    -- a zero that ends in no zero has no places, and then it is the one that has been excluded
    obtain ⟨hwhole, hplaces⟩ := a.withoutEndZeros.wholeNumber_div_mod
    rw [hzero, Nat.zero_div] at hwhole
    rw [hzero, Nat.zero_mod] at hplaces
    have hzeros := eq_replicate_of_wholeNumber_eq_zero a.withoutEndZeros.isDigit_places hplaces.symm
    have hnone : a.withoutEndZeros.places = [] := by
      rcases hlen : a.withoutEndZeros.places.length with _ | n
      · exact List.length_eq_zero_iff.1 hlen
      · rw [hlen] at hzeros
        rw [hzeros] at hlast
        exact absurd (by simp [List.getLast?_replicate]) hlast
    exact Numeral.ext hneg (whole_eq_zero ha hwhole.symm) hnone

end Numeral

/-- **Normal forms decide.** What two plain decimals without leading zeros become before they are
compared is the same text if and only if they denote the same number; and whatever zeros a plain
decimal begins with, it becomes one that denotes the same number. -/
theorem normal_form_decides :
    (∀ a b : Numeral, a.NoLeadingZero → b.NoLeadingZero →
      (Cell.foldMinusZero (Cell.normalized (some a.text)) =
          Cell.foldMinusZero (Cell.normalized (some b.text)) ↔ a.value = b.value)) ∧
      ∀ a : Numeral, ∃ b : Numeral,
        Cell.foldMinusZero (Cell.normalized (some a.text)) = some b.text ∧ b.value = a.value := by
  refine ⟨fun a b ha hb => ?_, fun a => ⟨a.normal, a.foldMinusZero_normalized, a.value_normal⟩⟩
  rw [a.foldMinusZero_normalized, b.foldMinusZero_normalized, Option.some_inj]
  constructor
  · intro h
    rw [← a.value_normal, Numeral.text_injective h, b.value_normal]
  · intro h
    have hvalue : a.normal.value = b.normal.value := by
      rw [a.value_normal, b.value_normal, h]
    rw [(Numeral.isNormal_normal ha).eq_of_value_eq (Numeral.isNormal_normal hb) hvalue]

example : ["-0", "-0.0", "-0.000", "0", "0.00"].map (fun s => (Cell.normalized s).foldMinusZero) =
    List.replicate 5 (some "0") := by decide

end Trisect.Decimal
