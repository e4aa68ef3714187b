import Mathlib.Data.List.DropRight
import Trisect.Document.Json.Reading
import Trisect.Document.Json.Writing
import Trisect.Proofs.Json.Token

/-!
# Spellings of a document

One document can be spelled in many ways, since blanks may stand between any two tokens.
`Trisect.Json.Spells` says which texts spell a document. It is what the reader and the two writers
have in common: the reader reads a document off every text that spells it
(`Trisect.Json.readDocument_of_spells`), and both the compact and the pretty layout spell the
document that is laid out (`Trisect.Json.spells_writeCompact`, `Trisect.Json.spells_writePretty`).
So either layout is read back (`Trisect.Document.spells_of_mem`,
`Trisect.Document.ofJson?_of_spells`), and nothing about the one is proved again for the other.

Only a document of which every node has a written form of its own can be spelled
(`Trisect.Document.Spellable`): a fraction and a node without a meaning have none, and a whole
number beyond the range of double precision is read as a number without a meaning.
-/

namespace Trisect

namespace Json

/-! ### Blanks -/

/-- A text of blanks. -/
def AllBlank (b : List Char) : Prop := ∀ c ∈ b, isBlank c = true

theorem allBlank_nil : AllBlank [] := by simp [AllBlank]

theorem allBlank_newLine (level : Nat) : AllBlank (newLine level) := by
  intro c hc
  rcases List.mem_cons.1 hc with rfl | hc
  · rfl
  · rw [List.eq_of_mem_replicate hc]
    rfl

/-- The leading blanks are skipped, up to the first character that is none. -/
theorem skipBlanks_append {b : List Char} (hb : AllBlank b) {c : Char} (hc : isBlank c = false)
    (cs : List Char) : skipBlanks (b ++ c :: cs) = c :: cs := by
  rw [skipBlanks, List.dropWhile_append_of_pos hb, List.dropWhile_cons, hc]
  rfl

theorem skipBlanks_skipBlanks (cs : List Char) : skipBlanks (skipBlanks cs) = skipBlanks cs := by
  rw [skipBlanks, skipBlanks, List.dropWhile_idempotent]

/-- What follows a value in a list or a record ends a number: a comma or a closing mark, with
blanks before it. -/
theorem endsNumber_append {b : List Char} (hb : AllBlank b) {c : Char}
    (hc : c = ',' ∨ c = ']' ∨ c = '}') (cs : List Char) : EndsNumber (b ++ c :: cs) := by
  cases b with
  | nil =>
    rw [List.nil_append, endsNumber_cons]
    rcases hc with rfl | rfl | rfl <;> decide
  | cons d ds =>
    have hd := hb d List.mem_cons_self
    simp only [isBlank, Bool.or_eq_true, decide_eq_true_eq] at hd
    rw [List.cons_append, endsNumber_cons]
    rcases hd with ((rfl | rfl) | rfl) | rfl <;> decide

/-! ### Spellings -/

/-- What a stretch of a JSON text may stand for. -/
inductive Piece
  /-- A value. -/
  | value (d : Document)
  /-- The items of a list that has at least one, up to its closing bracket. -/
  | items (ds : List Document)
  /-- The fields of a record that has at least one, up to its closing brace. -/
  | fields (fs : List (String × Document))

/-- **The texts that spell a piece.** Blanks may stand between any two tokens, and texts are escaped
as the writer does it. -/
inductive Spells : Piece → List Char → Prop
  | null : Spells (.value .null) ['n', 'u', 'l', 'l']
  | yes : Spells (.value (.boolean true)) ['t', 'r', 'u', 'e']
  | no : Spells (.value (.boolean false)) ['f', 'a', 'l', 's', 'e']
  | number {n : Int} (hn : Decimal.isInRange n.natAbs 0 = true) :
      Spells (.value (.number n)) (writeNumber n)
  | text (s : String) : Spells (.value (.text s)) (quote s.toList)
  | emptyList {b : List Char} (hb : AllBlank b) : Spells (.value (.list [])) ('[' :: b ++ [']'])
  | list {ds : List Document} {cs : List Char} (h : Spells (.items ds) cs) :
      Spells (.value (.list ds)) ('[' :: cs)
  | emptyRecord {b : List Char} (hb : AllBlank b) :
      Spells (.value (.record [])) ('{' :: b ++ ['}'])
  | record {fs : List (String × Document)} {cs : List Char} (h : Spells (.fields fs) cs) :
      Spells (.value (.record fs)) ('{' :: cs)
  | lastItem {d : Document} {b cs b' : List Char} (hb : AllBlank b) (h : Spells (.value d) cs)
      (hb' : AllBlank b') : Spells (.items [d]) (b ++ cs ++ b' ++ [']'])
  | item {d : Document} {ds : List Document} {b cs b' ts : List Char} (hb : AllBlank b)
      (h : Spells (.value d) cs) (hb' : AllBlank b') (hrest : Spells (.items ds) ts) :
      Spells (.items (d :: ds)) (b ++ cs ++ b' ++ ',' :: ts)
  | lastField {k : String} {d : Document} {b₁ b₂ b₃ cs b₄ : List Char} (hb₁ : AllBlank b₁)
      (hb₂ : AllBlank b₂) (hb₃ : AllBlank b₃) (h : Spells (.value d) cs) (hb₄ : AllBlank b₄) :
      Spells (.fields [(k, d)]) (b₁ ++ quote k.toList ++ b₂ ++ ':' :: b₃ ++ cs ++ b₄ ++ ['}'])
  | field {k : String} {d : Document} {fs : List (String × Document)}
      {b₁ b₂ b₃ cs b₄ ts : List Char} (hb₁ : AllBlank b₁) (hb₂ : AllBlank b₂) (hb₃ : AllBlank b₃)
      (h : Spells (.value d) cs) (hb₄ : AllBlank b₄) (hrest : Spells (.fields fs) ts) :
      Spells (.fields ((k, d) :: fs))
        (b₁ ++ quote k.toList ++ b₂ ++ ':' :: b₃ ++ cs ++ b₄ ++ ',' :: ts)

/-! ### Reading -/

/-- A character with which a value may begin. -/
def BeginsValue (c : Char) : Prop := isBlank c = false ∧ c ≠ ']'

instance (c : Char) : Decidable (BeginsValue c) :=
  inferInstanceAs (Decidable (isBlank c = false ∧ c ≠ ']'))

/-- A character with which a number may begin. -/
def BeginsNumber (c : Char) : Prop := c = '-' ∨ isDigit c = true

instance (c : Char) : Decidable (BeginsNumber c) :=
  inferInstanceAs (Decidable (c = '-' ∨ isDigit c = true))

theorem BeginsNumber.beginsValue {c : Char} (h : BeginsNumber c) : BeginsValue c := by
  rcases h with rfl | h
  · decide
  · constructor
    · simp only [isBlank, Bool.or_eq_false_iff, decide_eq_false_iff_not]
      refine ⟨⟨⟨?_, ?_⟩, ?_⟩, ?_⟩ <;> rintro rfl <;> exact absurd h (by decide)
    · rintro rfl
      exact absurd h (by decide)

theorem exists_cons_of_writeNumber (n : Int) :
    ∃ c cs, writeNumber n = c :: cs ∧ BeginsNumber c := by
  cases n with
  | ofNat n =>
    obtain ⟨d, ds, hds⟩ := List.exists_cons_of_ne_nil (Nat.toDigits_ne_nil (n := n) (b := 10))
    exact ⟨d, ds, hds, Or.inr (isDigit_of_mem_digits (n := n) (by rw [digits, hds]; simp))⟩
  | negSucc n => exact ⟨'-', digits (n + 1), rfl, Or.inl rfl⟩

/-- **A value begins with a character of its own**, neither a blank nor a closing bracket. -/
theorem Spells.exists_cons {d : Document} {cs : List Char} (h : Spells (.value d) cs) :
    ∃ c ts, cs = c :: ts ∧ BeginsValue c := by
  cases h with
  | null => exact ⟨'n', _, rfl, by decide⟩
  | yes => exact ⟨'t', _, rfl, by decide⟩
  | no => exact ⟨'f', _, rfl, by decide⟩
  | @number n hn =>
    obtain ⟨c, ts, hcs, hc⟩ := exists_cons_of_writeNumber n
    exact ⟨c, ts, hcs, hc.beginsValue⟩
  | text s => exact ⟨'"', _, rfl, by decide⟩
  | emptyList hb => exact ⟨'[', _, rfl, by decide⟩
  | list h => exact ⟨'[', _, rfl, by decide⟩
  | emptyRecord hb => exact ⟨'{', _, rfl, by decide⟩
  | record h => exact ⟨'{', _, rfl, by decide⟩

/-- The blanks before a value are skipped, and no more. -/
theorem Spells.skipBlanks_append {d : Document} {b cs : List Char} (hb : AllBlank b)
    (h : Spells (.value d) cs) (rest : List Char) :
    skipBlanks (b ++ (cs ++ rest)) = cs ++ rest := by
  obtain ⟨c, ts, rfl, hc⟩ := h.exists_cons
  exact Json.skipBlanks_append hb hc.1 (ts ++ rest)

/-- The items of a list are not mistaken for the end of an empty one. -/
theorem Spells.exists_cons_items {ds : List Document} {cs : List Char} (h : Spells (.items ds) cs)
    (rest : List Char) : ∃ c ts, skipBlanks (cs ++ rest) = c :: ts ∧ c ≠ ']' := by
  have hfirst : ∀ {d b vs} (more : List Char), AllBlank b → Spells (.value d) vs →
      ∃ c ts, skipBlanks (b ++ (vs ++ more)) = c :: ts ∧ c ≠ ']' := by
    intro d b vs more hb hvs
    obtain ⟨c, ts, rfl, hc⟩ := hvs.exists_cons
    exact ⟨c, ts ++ more, Json.skipBlanks_append hb hc.1 _, hc.2⟩
  cases h with
  | lastItem hb h hb' => simpa using hfirst _ hb h
  | item hb h hb' hrest => simpa using hfirst _ hb h

/-- The fields of a record begin with the quotation mark of a key. -/
theorem Spells.exists_cons_fields {fs : List (String × Document)} {cs : List Char}
    (h : Spells (.fields fs) cs) (rest : List Char) :
    ∃ ts, skipBlanks (cs ++ rest) = '"' :: ts := by
  cases h with
  | lastField hb₁ hb₂ hb₃ h hb₄ =>
    simp only [List.append_assoc, quote, List.cons_append]
    exact ⟨_, Json.skipBlanks_append hb₁ (by decide) _⟩
  | field hb₁ hb₂ hb₃ h hb₄ hrest =>
    simp only [List.append_assoc, quote, List.cons_append]
    exact ⟨_, Json.skipBlanks_append hb₁ (by decide) _⟩

/-- A value that begins like a number is read as one. -/
theorem readValue_eq_readNumber {c : Char} (hc : BeginsNumber c) (fuel : Nat) (cs : List Char) :
    readValue (fuel + 1) (c :: cs) = readNumber (c :: cs) := by
  -- no other value begins with such a character
  have hne : ∀ {e : Char} {ts ts' : List Char}, c :: ts = e :: ts' → BeginsNumber e := by
    rintro e ts ts' heq
    rwa [← (List.cons.inj heq).1]
  rw [readValue.eq_def]
  split
  · omega
  · next heq => cases heq
  · next heq => exact absurd (hne heq) (by decide)
  · next heq => exact absurd (hne heq) (by decide)
  · next heq => exact absurd (hne heq) (by decide)
  · next heq => exact absurd (hne heq) (by decide)
  · next heq => exact absurd (hne heq) (by decide)
  · next heq => exact absurd (hne heq) (by decide)
  · rfl

theorem readItems_skipBlanks (fuel : Nat) (cs : List Char) :
    readItems fuel (skipBlanks cs) = readItems fuel cs := by
  cases fuel with
  | zero => rfl
  | succ fuel => rw [readItems, readItems, skipBlanks_skipBlanks]

theorem readFields_skipBlanks (fuel : Nat) (cs : List Char) :
    readFields fuel (skipBlanks cs) = readFields fuel cs := by
  cases fuel with
  | zero => rfl
  | succ fuel => rw [readFields, readFields, skipBlanks_skipBlanks]

section Steps

variable {d : Document} {b cs more rest : List Char} {n : Nat}

/-- An item is read, and the closing bracket after it ends the list. -/
theorem readItems_last (hb : AllBlank b) (h : Spells (.value d) cs)
    (hvalue : readValue n (cs ++ more) = some (d, more)) (hmore : skipBlanks more = ']' :: rest) :
    readItems (n + 1) (b ++ (cs ++ more)) = some ([d], rest) := by
  rw [readItems, h.skipBlanks_append hb, hvalue]
  simp [hmore]

/-- An item is read, and after the comma there are more. -/
theorem readItems_next {ds : List Document} {ts : List Char} (hb : AllBlank b)
    (h : Spells (.value d) cs) (hvalue : readValue n (cs ++ more) = some (d, more))
    (hmore : skipBlanks more = ',' :: ts) (hrest : readItems n ts = some (ds, rest)) :
    readItems (n + 1) (b ++ (cs ++ more)) = some (d :: ds, rest) := by
  rw [readItems, h.skipBlanks_append hb, hvalue]
  simp [hmore, hrest]

variable {k : String} {b₁ b₂ b₃ : List Char}

/-- A key and its value are read, and then what comes after them decides. -/
theorem readFields_key (hb₁ : AllBlank b₁) (hb₂ : AllBlank b₂) (hb₃ : AllBlank b₃)
    (h : Spells (.value d) cs) (hvalue : readValue n (cs ++ more) = some (d, more)) :
    readFields (n + 1) (b₁ ++ (quote k.toList ++ (b₂ ++ ':' :: (b₃ ++ (cs ++ more))))) =
      match skipBlanks more with
      | '}' :: rest => some ([(some k, d)], rest)
      | ',' :: rest => do
        let (fields, rest) ← readFields n rest
        return ((some k, d) :: fields, rest)
      | _ => none := by
  have hkey : readText (k.toList.flatMap escape ++ ['"'] ++ (b₂ ++ ':' :: (b₃ ++ (cs ++ more)))) =
      some (some k, b₂ ++ ':' :: (b₃ ++ (cs ++ more))) := by
    rw [List.append_assoc, List.singleton_append, readText_quote]
  rw [quote, List.cons_append, List.cons_append, readFields, skipBlanks_append hb₁ (by decide)]
  simp only [hkey, Option.bind_eq_bind, Option.bind_some]
  rw [skipBlanks_append hb₂ (by decide)]
  simp only [h.skipBlanks_append hb₃, hvalue, Option.bind_some]
  rfl

end Steps

/-- A record whose keys all have a meaning has one. -/
theorem makeRecord_some (fs : List (String × Document)) :
    makeRecord (fs.map fun f => (some f.1, f.2)) = .record fs := by
  simp [makeRecord, Function.comp_def]

/-- That a piece is read off the beginning of a text, up to a given rest. -/
def Piece.IsRead (fuel : Nat) (cs rest : List Char) : Piece → Prop
  | value d => readValue fuel cs = some (d, rest)
  | items ds => readItems fuel cs = some (ds, rest)
  | fields fs => readFields fuel cs = some (fs.map fun f => (some f.1, f.2), rest)

/-- A reader that may go as deep as a text is long may go one step down at each of its characters.
-/
theorem exists_fuel {cs cs' : List Char} {c : Char} {fuel : Nat}
    (h : (cs ++ c :: cs').length ≤ fuel) : ∃ n, fuel = n + 1 ∧ cs.length + cs'.length ≤ n := by
  rw [List.length_append, List.length_cons] at h
  exact ⟨fuel - 1, by omega, by omega⟩

theorem exists_fuel_cons {cs : List Char} {c : Char} {fuel : Nat}
    (h : (c :: cs).length ≤ fuel) : ∃ n, fuel = n + 1 ∧ cs.length ≤ n := by
  obtain ⟨n, rfl, hn⟩ := @exists_fuel [] cs c fuel h
  exact ⟨n, rfl, by simpa using hn⟩

/-- **Every spelling is read**, whatever comes after it, if the reader may go as deep as the text is
long. -/
theorem isRead_of_spells {p : Piece} {cs : List Char} (h : Spells p cs) {fuel : Nat}
    {rest : List Char} (hfuel : cs.length ≤ fuel) (hrest : EndsNumber rest) :
    p.IsRead fuel (cs ++ rest) rest := by
  induction h generalizing fuel rest with
  | null =>
    obtain ⟨n, rfl, -⟩ := exists_fuel_cons hfuel
    rfl
  | yes =>
    obtain ⟨n, rfl, -⟩ := exists_fuel_cons hfuel
    rfl
  | no =>
    obtain ⟨n, rfl, -⟩ := exists_fuel_cons hfuel
    rfl
  | @number m hm =>
    obtain ⟨c, ts, hcs, hc⟩ := exists_cons_of_writeNumber m
    have hread := readNumber_writeNumber hm hrest
    rw [hcs] at hread hfuel ⊢
    obtain ⟨n, rfl, -⟩ := exists_fuel_cons hfuel
    exact (readValue_eq_readNumber hc n _).trans hread
  | text s =>
    obtain ⟨n, rfl, -⟩ := exists_fuel_cons hfuel
    change (readText (s.toList.flatMap escape ++ ['"'] ++ rest)).map _ = _
    rw [List.append_assoc, List.singleton_append, readText_quote]
    rfl
  | emptyList hb =>
    obtain ⟨n, rfl, -⟩ := exists_fuel_cons hfuel
    simp [Piece.IsRead, readValue, skipBlanks_append hb (show isBlank ']' = false by decide)]
  | @list ds cs h ih =>
    obtain ⟨n, rfl, hn⟩ := exists_fuel_cons hfuel
    obtain ⟨c, ts, hts, hc⟩ := h.exists_cons_items rest
    have hitems : readItems n (c :: ts) = some (ds, rest) := by
      rw [← hts, readItems_skipBlanks]
      exact ih hn hrest
    simp [Piece.IsRead, readValue, hts, hc, hitems]
  | emptyRecord hb =>
    obtain ⟨n, rfl, -⟩ := exists_fuel_cons hfuel
    simp [Piece.IsRead, readValue, skipBlanks_append hb (show isBlank '}' = false by decide)]
  | @record fs cs h ih =>
    obtain ⟨n, rfl, hn⟩ := exists_fuel_cons hfuel
    obtain ⟨ts, hts⟩ := h.exists_cons_fields rest
    have hfields : readFields n ('"' :: ts) = some (fs.map fun f => (some f.1, f.2), rest) := by
      rw [← hts, readFields_skipBlanks]
      exact ih hn hrest
    simp [Piece.IsRead, readValue, hts, hfields, makeRecord_some]
  | @lastItem d b cs b' hb h hb' ih =>
    obtain ⟨n, rfl, hn⟩ := exists_fuel hfuel
    simp only [List.length_append, List.length_nil] at hn
    have hvalue : readValue n (cs ++ (b' ++ ']' :: rest)) = some (d, b' ++ ']' :: rest) :=
      ih (by omega) (endsNumber_append hb' (by decide) rest)
    have htext : b ++ cs ++ b' ++ [']'] ++ rest = b ++ (cs ++ (b' ++ ']' :: rest)) := by simp
    change readItems (n + 1) _ = _
    rw [htext]
    exact readItems_last hb h hvalue (skipBlanks_append hb' (by decide) rest)
  | @item d ds b cs b' ts hb h hb' hmore ih ihmore =>
    obtain ⟨n, rfl, hn⟩ := exists_fuel hfuel
    simp only [List.length_append] at hn
    have hvalue : readValue n (cs ++ (b' ++ ',' :: (ts ++ rest))) =
        some (d, b' ++ ',' :: (ts ++ rest)) :=
      ih (by omega) (endsNumber_append hb' (by decide) _)
    have hitems : readItems n (ts ++ rest) = some (ds, rest) := ihmore (by omega) hrest
    have htext : b ++ cs ++ b' ++ ',' :: ts ++ rest =
        b ++ (cs ++ (b' ++ ',' :: (ts ++ rest))) := by simp
    change readItems (n + 1) _ = _
    rw [htext]
    exact readItems_next hb h hvalue (skipBlanks_append hb' (by decide) _) hitems
  | @lastField k d b₁ b₂ b₃ cs b₄ hb₁ hb₂ hb₃ h hb₄ ih =>
    obtain ⟨n, rfl, hn⟩ := exists_fuel hfuel
    simp only [List.length_append, List.length_cons, List.length_nil] at hn
    have hvalue : readValue n (cs ++ (b₄ ++ '}' :: rest)) = some (d, b₄ ++ '}' :: rest) :=
      ih (by omega) (endsNumber_append hb₄ (by decide) rest)
    have htext : b₁ ++ quote k.toList ++ b₂ ++ ':' :: b₃ ++ cs ++ b₄ ++ ['}'] ++ rest =
        b₁ ++ (quote k.toList ++ (b₂ ++ ':' :: (b₃ ++ (cs ++ (b₄ ++ '}' :: rest))))) := by simp
    change readFields (n + 1) _ = _
    rw [htext, readFields_key hb₁ hb₂ hb₃ h hvalue, skipBlanks_append hb₄ (by decide)]
    rfl
  | @field k d fs b₁ b₂ b₃ cs b₄ ts hb₁ hb₂ hb₃ h hb₄ hmore ih ihmore =>
    obtain ⟨n, rfl, hn⟩ := exists_fuel hfuel
    simp only [List.length_append, List.length_cons] at hn
    have hvalue : readValue n (cs ++ (b₄ ++ ',' :: (ts ++ rest))) =
        some (d, b₄ ++ ',' :: (ts ++ rest)) :=
      ih (by omega) (endsNumber_append hb₄ (by decide) _)
    have hfields : readFields n (ts ++ rest) = some (fs.map fun f => (some f.1, f.2), rest) :=
      ihmore (by omega) hrest
    have htext : b₁ ++ quote k.toList ++ b₂ ++ ':' :: b₃ ++ cs ++ b₄ ++ ',' :: ts ++ rest =
        b₁ ++ (quote k.toList ++ (b₂ ++ ':' :: (b₃ ++ (cs ++ (b₄ ++ ',' :: (ts ++ rest)))))) := by
      simp
    change readFields (n + 1) _ = _
    rw [htext, readFields_key hb₁ hb₂ hb₃ h hvalue, skipBlanks_append hb₄ (by decide)]
    simp [hfields]

/-- **A document is read off every text that spells it.** -/
theorem readDocument_of_spells {d : Document} {cs : List Char} (h : Spells (.value d) cs) :
    readDocument cs = some d := by
  have hread : readValue (cs.length + 1) (cs ++ []) = some (d, []) :=
    isRead_of_spells h (by omega) endsNumber_nil
  have hskip : skipBlanks cs = cs := by
    have := h.skipBlanks_append allBlank_nil []
    rwa [List.nil_append, List.append_nil] at this
  rw [List.append_nil] at hread
  rw [readDocument, hskip, hread]
  rfl

/-! ### Writing -/

end Json

/-- A document of which every node has a written form of its own. -/
inductive Document.Spellable : Document → Prop
  | null : Spellable .null
  | boolean (b : Bool) : Spellable (.boolean b)
  | number {n : Int} (h : Decimal.isInRange n.natAbs 0 = true) : Spellable (.number n)
  | text (s : String) : Spellable (.text s)
  | list {ds : List Document} (h : ∀ d ∈ ds, Spellable d) : Spellable (.list ds)
  | record {fs : List (String × Document)} (h : ∀ f ∈ fs, Spellable f.2) : Spellable (.record fs)

namespace Json

section Layout

variable {write : Document → List Char} {separator close : List Char}

/-- **A layout of items** spells them, if it spells each of them: it puts the same blanks after
every comma, and blanks before the closing bracket. -/
theorem spells_items {after : List Document → List Char} (hseparator : AllBlank separator)
    (hclose : AllBlank close) (hnil : after [] = close ++ [']'])
    (hcons : ∀ d ds, after (d :: ds) = ',' :: separator ++ write d ++ after ds) (d : Document)
    (ds : List Document) (h : ∀ e ∈ d :: ds, Spells (.value e) (write e)) :
    Spells (.items (d :: ds)) (separator ++ write d ++ after ds) := by
  induction ds generalizing d with
  | nil =>
    rw [hnil, ← List.append_assoc]
    exact .lastItem hseparator (h d List.mem_cons_self) hclose
  | cons e es ih =>
    have hrest := ih e fun x hx => h x (List.mem_cons_of_mem _ hx)
    have hitem := Spells.item hseparator (h d List.mem_cons_self) allBlank_nil hrest
    rw [hcons]
    simpa using hitem

/-- **A layout of fields** spells them, if it spells the value of each of them: it puts the same
blanks after every comma, the same after every colon, and blanks before the closing brace. -/
theorem spells_fields {gap : List Char} {after : List (String × Document) → List Char}
    (hseparator : AllBlank separator) (hgap : AllBlank gap) (hclose : AllBlank close)
    (hnil : after [] = close ++ ['}'])
    (hcons : ∀ k d fs, after ((k, d) :: fs) =
      ',' :: separator ++ quote k.toList ++ ':' :: (gap ++ write d) ++ after fs)
    (k : String) (d : Document) (fs : List (String × Document))
    (h : ∀ f ∈ (k, d) :: fs, Spells (.value f.2) (write f.2)) :
    Spells (.fields ((k, d) :: fs))
      (separator ++ quote k.toList ++ ':' :: (gap ++ write d) ++ after fs) := by
  induction fs generalizing k d with
  | nil =>
    have hfield := Spells.lastField (k := k) hseparator allBlank_nil hgap
      (h _ List.mem_cons_self) hclose
    rw [hnil]
    simpa using hfield
  | cons f fs ih =>
    obtain ⟨l, e⟩ := f
    have hrest := ih l e fun x hx => h x (List.mem_cons_of_mem _ hx)
    have hfield := Spells.field (k := k) hseparator allBlank_nil hgap (h _ List.mem_cons_self)
      allBlank_nil hrest
    rw [hcons]
    simpa using hfield

end Layout

/-- **The compact layout spells the document.** -/
theorem spells_writeCompact {d : Document} (h : d.Spellable) :
    Spells (.value d) (writeCompact d) := by
  induction h with
  | null => exact .null
  | boolean b =>
    cases b with
    | false => exact .no
    | true => exact .yes
  | number hn => exact .number hn
  | text s => exact .text s
  | @list ds _ ih =>
    cases ds with
    | nil => exact .emptyList allBlank_nil
    | cons d ds =>
      exact .list (spells_items allBlank_nil allBlank_nil rfl (fun _ _ => rfl) d ds ih)
  | @record fs _ ih =>
    cases fs with
    | nil => exact .emptyRecord allBlank_nil
    | cons f fs =>
      exact .record (spells_fields allBlank_nil allBlank_nil allBlank_nil rfl
        (fun _ _ _ => rfl) f.1 f.2 fs ih)

/-- **The pretty layout spells the document**, at every nesting level. -/
theorem spells_writePretty {d : Document} (h : d.Spellable) (level : Nat) :
    Spells (.value d) (writePretty level d) := by
  induction h generalizing level with
  | null => exact .null
  | boolean b =>
    cases b with
    | false => exact .no
    | true => exact .yes
  | number hn => exact .number hn
  | text s => exact .text s
  | @list ds _ ih =>
    cases ds with
    | nil => exact .emptyList allBlank_nil
    | cons d ds =>
      exact .list (spells_items (allBlank_newLine _) (allBlank_newLine level) rfl
        (fun _ _ => rfl) d ds fun e he => ih e he _)
  | @record fs _ ih =>
    have hgap : AllBlank [' '] := by simp [AllBlank, isBlank]
    cases fs with
    | nil => exact .emptyRecord allBlank_nil
    | cons f fs =>
      exact .record (spells_fields (allBlank_newLine _) hgap (allBlank_newLine level) rfl
        (fun _ _ _ => rfl) f.1 f.2 fs fun g hg => ih g hg _)

end Json

namespace Document

variable {d : Document}

/-- **Either text of a document spells it.** -/
theorem spells_of_mem {written : String} (h : d.Spellable)
    (hwritten : written ∈ [d.compact, d.pretty]) : Json.Spells (.value d) written.toList := by
  rcases List.mem_pair.1 hwritten with rfl | rfl
  · rw [compact, String.toList_ofList]
    exact Json.spells_writeCompact h
  · rw [pretty, String.toList_ofList]
    exact Json.spells_writePretty h 0

/-- **A document is read back from a text that spells it.** -/
theorem ofJson?_of_spells {written : String} (h : Json.Spells (.value d) written.toList) :
    ofJson? written = some d :=
  Json.readDocument_of_spells h

end Document

end Trisect
