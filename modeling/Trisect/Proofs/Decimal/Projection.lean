import Trisect.Proofs.Decimal.Normal

/-!
# Bringing cells to their common form touches nothing else

Of all texts the two steps that a cell goes through change very few. Zeros are stripped from a plain
decimal that ends in one, `Trisect.Decimal.EndsInZero`, and from no other text
(`Trisect.Decimal.stripZeros_ne_iff`); what is left of it is its beginning, and is not of that kind
any more (`Trisect.Decimal.not_endsInZero_stripZeros`), so that a second time nothing happens.

For this a text that is changed has to be taken for the numeral it spells
(`Trisect.Decimal.exists_numeral_of_stripZeros_ne`), whatever other characters and points there
might be in it; the rest is known of numerals. The second step drops the sign of two texts, of which
the first step leaves only one. The main statement is `Trisect.Decimal.normalizing_projects`.
-/

namespace Trisect.Decimal

variable {s : String}

/-- **A plain decimal that ends in a zero**: perhaps a minus sign, at least one digit, a point, and
digits of which the last is a zero. -/
def EndsInZero (s : String) : Prop :=
  ∃ sign whole places : List Char, (sign = [] ∨ sign = ['-']) ∧ whole ≠ [] ∧
    (∀ d ∈ whole, isDigit d = true) ∧ (∀ d ∈ places, isDigit d = true) ∧
    s.toList = sign ++ whole ++ '.' :: (places ++ ['0'])

/-! ### Numerals that end in a zero -/

namespace Numeral

variable {a : Numeral}

/-- A numeral has zeros to strip if its last place is one. -/
theorem withoutEndZeros_ne_iff : a.withoutEndZeros ≠ a ↔ a.places.getLast? = some '0' := by
  constructor
  · intro hne
    by_contra hlast
    refine hne (Numeral.ext rfl rfl ?_)
    refine List.rdropWhile_eq_self_iff.2 fun hplaces hzero => hlast ?_
    rw [List.getLast?_eq_some_getLast hplaces, of_decide_eq_true hzero]
  · intro hlast heq
    have hkept := getLast?_dropEndZeros a.places
    rw [congrArg Numeral.places heq.symm] at hlast
    exact hkept hlast

/-- What is left of a numeral is its beginning. -/
theorem prefix_text_withoutEndZeros (a : Numeral) :
    a.withoutEndZeros.text.toList <+: a.text.toList := by
  have hplaces : dropEndZeros a.places <+: a.places := List.rdropWhile_prefix _ _
  have hfraction : a.withoutEndZeros.fraction <+: a.fraction := by
    rw [fraction]
    split
    · exact List.nil_prefix
    · next hkept =>
      have hne : a.places ≠ [] := fun hnil => hkept (List.prefix_nil.1 (hnil ▸ hplaces))
      rw [fraction, if_neg hne]
      exact List.prefix_cons_inj '.' |>.2 hplaces
  rw [text, text, String.toList_ofList, String.toList_ofList]
  exact (List.prefix_append_right_inj _).2 hfraction

end Numeral

/-- Plain decimals that end in a zero are numerals of which the last place is one. -/
theorem endsInZero_iff :
    EndsInZero s ↔ ∃ a : Numeral, s = a.text ∧ a.places.getLast? = some '0' := by
  constructor
  · rintro ⟨sign, whole, places, hsign, hwhole, hdigits, hplaces, hs⟩
    have hends : ∀ d ∈ places ++ ['0'], isDigit d = true := by
      intro d hd
      rcases List.mem_append.1 hd with hd | hd
      · exact hplaces d hd
      · rw [List.mem_singleton.1 hd]
        rfl
    refine ⟨⟨decide (sign = ['-']), whole, places ++ ['0'], hwhole, hdigits, hends⟩, ?_, by simp⟩
    rw [← String.toList_inj, hs, Numeral.text, String.toList_ofList]
    rcases hsign with rfl | rfl <;> simp [Numeral.sign, Numeral.fraction]
  · rintro ⟨a, rfl, hlast⟩
    obtain ⟨places, hplaces⟩ := List.getLast?_eq_some_iff.1 hlast
    refine ⟨a.sign, a.whole, places, ?_, a.whole_ne_nil, a.isDigit_whole, ?_, ?_⟩
    · rw [Numeral.sign]
      split <;> simp
    · exact fun d hd => a.isDigit_places d (by simp [hplaces, hd])
    · rw [Numeral.text, String.toList_ofList]
      simp [Numeral.fraction, hplaces]

/-! ### Stripping zeros -/

/-- The two sides of the first point of a plain decimal make a numeral. -/
theorem exists_numeral_of_isPlain {whole places : List Char} (h : isPlain whole places = true) :
    ∃ a : Numeral, a.sign ++ a.whole = whole ∧ a.places = places := by
  simp only [isPlain, Bool.and_eq_true, Bool.not_eq_true', List.isEmpty_eq_false_iff,
    List.all_eq_true] at h
  obtain ⟨⟨⟨hne, -⟩, hwhole⟩, hplaces⟩ := h
  refine ⟨⟨decide (whole.head? = some '-'), withoutSign whole, places, hne, hwhole, hplaces⟩, ?_,
    rfl⟩
  rw [Numeral.sign]
  cases whole with
  | nil => rfl
  | cons c cs =>
    by_cases hc : c = '-'
    · subst hc
      rfl
    · have hsame : withoutSign (c :: cs) = c :: cs := by
        rw [withoutSign]
        rintro ds heq
        exact hc (List.cons.inj heq).1
      simp [hc, hsame]

/-- **A text that loses zeros is a numeral.** -/
theorem exists_numeral_of_stripZeros_ne (h : stripZeros s ≠ s) : ∃ a : Numeral, s = a.text := by
  have hchars : stripZerosChars s.toList ≠ s.toList := fun heq => h (by
    rw [stripZeros, heq, String.ofList_toList])
  have hsplit := List.takeWhile_append_dropWhile (p := (· ≠ '.')) (l := s.toList)
  rw [stripZerosChars] at hchars
  split at hchars
  · exact absurd rfl hchars
  · next point places hpoint =>
    split at hchars
    · next hplain =>
      obtain ⟨a, hwhole, hplaces⟩ := exists_numeral_of_isPlain hplain
      have hdot : point = '.' := by
        have hhead := List.head?_dropWhile_not (fun c => decide (c ≠ '.')) s.toList
        rw [hpoint] at hhead
        simpa using hhead
      have hne : a.places ≠ [] := by
        rw [hplaces]
        rintro rfl
        simp [isPlain] at hplain
      have hfraction : a.fraction = s.toList.dropWhile (· ≠ '.') := by
        rw [Numeral.fraction, if_neg hne, hplaces, hpoint, hdot]
      refine ⟨a, ?_⟩
      rw [← String.toList_inj, Numeral.text, String.toList_ofList, hwhole, hfraction, hsplit]
    · exact absurd rfl hchars

/-- **Zeros are stripped from plain decimals that end in one**, and from nothing else. -/
theorem stripZeros_ne_iff : stripZeros s ≠ s ↔ EndsInZero s := by
  rw [endsInZero_iff]
  constructor
  · intro hne
    obtain ⟨a, rfl⟩ := exists_numeral_of_stripZeros_ne hne
    rw [a.stripZeros_text] at hne
    exact ⟨a, rfl, Numeral.withoutEndZeros_ne_iff.1 fun heq => hne (congrArg Numeral.text heq)⟩
  · rintro ⟨a, rfl, hlast⟩
    rw [a.stripZeros_text]
    exact fun heq => Numeral.withoutEndZeros_ne_iff.2 hlast (Numeral.text_injective heq)

theorem stripZeros_of_not_endsInZero (h : ¬EndsInZero s) : stripZeros s = s :=
  not_not.1 (mt stripZeros_ne_iff.1 h)

/-- A text without a point keeps its zeros. -/
theorem stripZeros_of_no_point (h : '.' ∉ s.toList) : stripZeros s = s := by
  refine stripZeros_of_not_endsInZero ?_
  rintro ⟨sign, whole, places, -, -, -, -, hs⟩
  exact h (by simp [hs])

/-- **No zero is left to strip.** -/
theorem not_endsInZero_stripZeros (s : String) : ¬EndsInZero (stripZeros s) := by
  by_cases hs : EndsInZero s
  · obtain ⟨a, rfl, -⟩ := endsInZero_iff.1 hs
    rw [a.stripZeros_text]
    intro hends
    obtain ⟨b, htext, hlast⟩ := endsInZero_iff.1 hends
    rw [← Numeral.text_injective htext] at hlast
    exact Numeral.getLast?_dropEndZeros a.places hlast
  · rwa [stripZeros_of_not_endsInZero hs]

/-- What is left of a text is its beginning. -/
theorem prefix_stripZeros (s : String) : (stripZeros s).toList <+: s.toList := by
  by_cases hs : EndsInZero s
  · obtain ⟨a, rfl, -⟩ := endsInZero_iff.1 hs
    rw [a.stripZeros_text]
    exact a.prefix_text_withoutEndZeros
  · rw [stripZeros_of_not_endsInZero hs]

theorem stripZeros_idempotent (s : String) : stripZeros (stripZeros s) = stripZeros s :=
  stripZeros_of_not_endsInZero (not_endsInZero_stripZeros s)

/-! ### Dropping the sign of a zero -/

/-- Other texts than the two spellings of minus zero stay as they are. -/
theorem foldMinusZero_of_ne (h : s ≠ "-0.0") (h' : s ≠ "-0") : foldMinusZero s = s := by
  rw [foldMinusZero, if_neg h, if_neg h']

theorem foldMinusZero_idempotent (s : String) :
    foldMinusZero (foldMinusZero s) = foldMinusZero s := by
  by_cases hplace : s = "-0.0"
  · subst hplace
    decide
  · by_cases hzero : s = "-0"
    · subst hzero
      decide
    · rw [foldMinusZero_of_ne hplace hzero, foldMinusZero_of_ne hplace hzero]

/-- Of the two spellings of minus zero, one does not outlast the first step. -/
theorem stripZeros_ne_minusZero (s : String) : stripZeros s ≠ "-0.0" := by
  intro heq
  refine not_endsInZero_stripZeros s ⟨['-'], ['0'], [], Or.inr rfl, by simp, ?_, by simp, ?_⟩
  · simp [isDigit]
  · rw [heq]
    rfl

/-- A text in its common form stays in it. -/
theorem foldMinusZero_stripZeros_idempotent (s : String) :
    foldMinusZero (stripZeros (foldMinusZero (stripZeros s))) = foldMinusZero (stripZeros s) := by
  by_cases hzero : stripZeros s = "-0"
  · rw [hzero]
    decide
  · have hsame : foldMinusZero (stripZeros s) = stripZeros s :=
      foldMinusZero_of_ne (stripZeros_ne_minusZero s) hzero
    rw [hsame, stripZeros_idempotent, hsame]

/-- **What a text has to be to be changed.** -/
theorem foldMinusZero_stripZeros_ne_iff :
    foldMinusZero (stripZeros s) ≠ s ↔ EndsInZero s ∨ s = "-0" := by
  constructor
  · intro hne
    by_contra hnot
    obtain ⟨hends, hzero⟩ := not_or.1 hnot
    have hsame := stripZeros_of_not_endsInZero hends
    rw [hsame, foldMinusZero_of_ne (hsame ▸ stripZeros_ne_minusZero s) hzero] at hne
    exact hne rfl
  · rintro (hends | rfl)
    · intro heq
      by_cases hzero : stripZeros s = "-0"
      · -- then it has become the text of zero, which had no zeros to lose
        rw [hzero] at heq
        rw [← heq] at hzero
        exact absurd hzero (by decide)
      · rw [foldMinusZero_of_ne (stripZeros_ne_minusZero s) hzero] at heq
        exact stripZeros_ne_iff.2 hends heq
    · decide

/-- **Normalizing is a projection that touches nothing else.** Zeros are stripped from the plain
decimals that end in one and from no other text; what is left of a text is its beginning, and is not
of that kind, or not any more. Either step changes nothing the second time, nor do the two one after
the other, and NULL stays what it is. And the two together leave every text as it is that is neither
a plain decimal ending in a zero nor minus zero. -/
theorem normalizing_projects :
    (∀ s, stripZeros s ≠ s ↔ EndsInZero s) ∧
      (∀ s, (stripZeros s).toList <+: s.toList ∧ ¬EndsInZero (stripZeros s)) ∧
      (∀ c : Cell, c.normalized.normalized = c.normalized ∧
        c.foldMinusZero.foldMinusZero = c.foldMinusZero ∧
        c.normalized.foldMinusZero.normalized.foldMinusZero = c.normalized.foldMinusZero) ∧
      ∀ s : String, Cell.foldMinusZero (Cell.normalized (some s)) ≠ some s ↔
        EndsInZero s ∨ s = "-0" := by
  refine ⟨fun s => stripZeros_ne_iff, fun s => ⟨prefix_stripZeros s, not_endsInZero_stripZeros s⟩,
    fun c => ?_, fun s => ?_⟩
  · cases c with
    | none => exact ⟨rfl, rfl, rfl⟩
    | some s =>
      exact ⟨congrArg some (stripZeros_idempotent s), congrArg some (foldMinusZero_idempotent s),
        congrArg some (foldMinusZero_stripZeros_idempotent s)⟩
  · rw [← foldMinusZero_stripZeros_ne_iff]
    exact not_congr Option.some_inj

/-- The other way round the steps have to be gone twice. -/
example :
    let turned (c : Cell) : Cell := c.foldMinusZero.normalized
    turned (some "-0.00") = some "-0" ∧ turned (turned (some "-0.00")) = some "0" := by decide

end Trisect.Decimal
