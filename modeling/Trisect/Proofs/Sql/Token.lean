import Trisect.Proofs.Json.Token
import Trisect.Shape.Condition

/-!
# The tokens of a condition

Before its structure comes into play, the text of a condition is cut into tokens: keywords, columns
with their tables, literals, comparisons, and the marks `(`, `)` and `,`. `Trisect.Sql.scan` does so
without knowing what conditions look like; it takes the longest token that is there and skips
blanks.

A token is found again in its text only if names are plain and texts have no quotation mark
(`Trisect.Sql.Token.Legible`), and if what comes after it does not go on with it
(`Trisect.Sql.Ends`). Under these provisos **a token is scanned as it was written**, whatever comes
after it (`Trisect.Sql.scan_token`). A name may well be one of the keywords: it is known by the
point between a table and its column.
-/

namespace Trisect

namespace Sql

/-! ### Tokens -/

/-- The words in conditions that are no names. -/
inductive Keyword
  | not
  | and
  | or
  | is
  | null
  | between
  | isIn
  deriving DecidableEq

/-- A keyword as it is written. -/
def Keyword.chars : Keyword → List Char
  | not => ['N', 'O', 'T']
  | and => ['A', 'N', 'D']
  | or => ['O', 'R']
  | is => ['I', 'S']
  | null => ['N', 'U', 'L', 'L']
  | between => ['B', 'E', 'T', 'W', 'E', 'E', 'N']
  | isIn => ['I', 'N']

/-- The keyword that is written in a way, if there is one. -/
def Keyword.ofChars? (cs : List Char) : Option Keyword :=
  [not, and, or, is, null, between, isIn].find? fun k => k.chars = cs

/-- A token of a condition. -/
inductive Token
  | keyword (k : Keyword)
  /-- A column with its table. -/
  | column (c : ColumnRef)
  /-- A literal other than NULL, which is a keyword. -/
  | literal (l : Literal)
  | comparator (op : Comparator)
  | opening
  | closing
  | comma
  deriving DecidableEq

/-- A token as it is written. -/
def Token.chars : Token → List Char
  | keyword k => k.chars
  | column c => c.sql.toList
  | literal l => l.sql.toList
  | comparator op => op.sql.toList
  | opening => ['(']
  | closing => [')']
  | comma => [',']

/-- Whether a character may begin a plain name: a letter, an underscore, or any character beyond
ASCII. -/
def beginsName (c : Char) : Bool := c.isAlpha || c = '_' || 128 ≤ c.toNat

/-- Whether a character may stand in a plain name. -/
def isNamePart (c : Char) : Bool := beginsName c || Json.isDigit c || c = '$'

/-- Whether a text is a plain name. -/
def isName (s : String) : Bool :=
  match s.toList with
  | [] => false
  | c :: cs => beginsName c && cs.all isNamePart

/-! ### Scanning -/

/-- Reads a keyword, or the names of a table and a column with a point between them. -/
def readWord (cs : List Char) : Option (Token × List Char) :=
  let name := cs.takeWhile isNamePart
  match cs.dropWhile isNamePart with
  | '.' :: rest =>
    some (.column ⟨String.ofList name, String.ofList (rest.takeWhile isNamePart)⟩,
      rest.dropWhile isNamePart)
  | rest => (Keyword.ofChars? name).map fun k => (.keyword k, rest)

/-- Reads a number after its sign: a whole number, one with two places, or minus zero. -/
def readNumber (negative : Bool) (cs : List Char) : Option (Token × List Char) :=
  match Json.spanDigits cs with
  | (whole, '.' :: rest) =>
    match Json.spanDigits rest with
    | ([d, e], rest) => some (.literal (.decimal ⟨negative, Json.ofDigits (whole ++ [d, e])⟩), rest)
    | (['0'], rest) => if negative && whole = ['0'] then some (.literal .minusZero, rest) else none
    | _ => none
  | (whole, rest) =>
    let n : Int := Json.ofDigits whole
    some (.literal (.integer (if negative then -n else n)), rest)

/-- Reads a text after its first quotation mark. Within it, two quotation marks stand for one. -/
def readText : List Char → Option (List Char × List Char)
  | '\x27' :: '\x27' :: rest => (readText rest).map fun (cs, rest) => ('\x27' :: cs, rest)
  | '\x27' :: rest => some ([], rest)
  | c :: rest => (readText rest).map fun (cs, rest) => (c :: cs, rest)
  | [] => none

/-- Reads a mark, a comparison, a text, or a number with a sign. -/
def readSign : List Char → Option (Token × List Char)
  | '(' :: rest => some (.opening, rest)
  | ')' :: rest => some (.closing, rest)
  | ',' :: rest => some (.comma, rest)
  | '=' :: rest => some (.comparator .eq, rest)
  | '<' :: '>' :: rest => some (.comparator .ne, rest)
  | '<' :: '=' :: rest => some (.comparator .le, rest)
  | '<' :: rest => some (.comparator .lt, rest)
  | '>' :: '=' :: rest => some (.comparator .ge, rest)
  | '>' :: rest => some (.comparator .gt, rest)
  | '-' :: rest => readNumber true rest
  | '\x27' :: rest => (readText rest).map fun (cs, rest) => (.literal (.text cs), rest)
  | _ => none

/-- Reads the token that a text begins with. -/
def readToken : List Char → Option (Token × List Char)
  | [] => none
  | c :: rest =>
    if Json.isDigit c then readNumber false (c :: rest)
    else if beginsName c then readWord (c :: rest)
    else readSign (c :: rest)

/-- Cuts a text into tokens with blanks between them. -/
def scan (cs : List Char) : Option (List Token) :=
  match cs with
  | [] => some []
  | c :: rest =>
    if c = ' ' then scan rest
    else
      match readToken (c :: rest) with
      | some (t, rest') => if rest'.length ≤ rest.length then (scan rest').map (t :: ·) else none
      | none => none
termination_by cs.length

@[simp] theorem scan_nil : scan [] = some [] := by rw [scan]

@[simp] theorem scan_blank (cs : List Char) : scan (' ' :: cs) = scan cs := by
  rw [scan, if_pos rfl]

/-- One token after the other. -/
theorem scan_of_readToken {c : Char} {cs rest : List Char} {t : Token} (hc : c ≠ ' ')
    (hlen : rest.length ≤ cs.length) (h : readToken (c :: cs) = some (t, rest)) :
    scan (c :: cs) = (scan rest).map (t :: ·) := by
  rw [scan, if_neg hc, h]
  exact if_pos hlen

/-! ### Tokens as they are written -/

/-- What may come after a token: nothing, or a character that no token goes on with. -/
def Ends (rest : List Char) : Prop := ∀ c ∈ rest.head?, c = ' ' ∨ c = ')' ∨ c = ','

theorem ends_nil : Ends [] := by simp [Ends]

@[simp] theorem ends_cons {c : Char} {rest : List Char} :
    Ends (c :: rest) ↔ c = ' ' ∨ c = ')' ∨ c = ',' := by
  simp [Ends]

section Ends

variable {rest : List Char}

theorem Ends.head_ne (h : Ends rest) {c : Char} (hc : c ≠ ' ' ∧ c ≠ ')' ∧ c ≠ ',')
    (cs : List Char) : rest ≠ c :: cs := by
  rintro rfl
  rcases ends_cons.1 h with hblank | hclosing | hcomma
  · exact hc.1 hblank
  · exact hc.2.1 hclosing
  · exact hc.2.2 hcomma

/-- The longest run of some characters ends where another one comes. -/
theorem takeWhile_append_of_head {p : Char → Bool} {cs : List Char} (hcs : ∀ c ∈ cs, p c = true)
    (hrest : ∀ c ∈ rest.head?, p c = false) :
    (cs ++ rest).takeWhile p = cs ∧ (cs ++ rest).dropWhile p = rest := by
  rw [List.takeWhile_append_of_pos hcs, List.dropWhile_append_of_pos hcs]
  cases rest with
  | nil => simp
  | cons c rest => simp [hrest c rfl]

theorem Ends.takeWhile_append {p : Char → Bool} (hp : p ' ' = false ∧ p ')' = false ∧ p ',' = false)
    {cs : List Char} (hcs : ∀ c ∈ cs, p c = true) (h : Ends rest) :
    (cs ++ rest).takeWhile p = cs ∧ (cs ++ rest).dropWhile p = rest := by
  refine takeWhile_append_of_head hcs fun c hc => ?_
  rcases h c hc with rfl | rfl | rfl
  · exact hp.1
  · exact hp.2.1
  · exact hp.2.2

/-- What comes after a token does not go on with a number. -/
theorem Ends.endsNumber (h : Ends rest) : Json.EndsNumber rest := by
  intro c hc
  rcases h c hc with rfl | rfl | rfl
  · decide
  · decide
  · decide

end Ends

/-! ### Cutting texts -/

section Cuts

variable {α : Type} {cut : List Char → Option (List α)} {a b : List Char} {ts us : List α}

/-- A text is cut into some parts, whatever comes after it. -/
def Cuts (cut : List Char → Option (List α)) (cs : List Char) (ts : List α) : Prop :=
  ∀ rest, Ends rest → cut (cs ++ rest) = (cut rest).map (ts ++ ·)

/-- A mark is cut off wherever it stands. -/
def CutsMark (cut : List Char → Option (List α)) (c : Char) (t : α) : Prop :=
  ∀ rest, cut (c :: rest) = (cut rest).map (t :: ·)

theorem Cuts.blank (hblank : ∀ cs, cut (' ' :: cs) = cut cs) (ha : Cuts cut a ts)
    (hb : Cuts cut b us) : Cuts cut (a ++ ' ' :: b) (ts ++ us) := by
  intro rest hrest
  rw [List.append_assoc, List.cons_append, ha _ (by simp), hblank, hb rest hrest, Option.map_map]
  simp only [Function.comp_def, List.append_assoc]

theorem Cuts.comma {comma : α} (hblank : ∀ cs, cut (' ' :: cs) = cut cs)
    (hcomma : CutsMark cut ',' comma) (ha : Cuts cut a ts) (hb : Cuts cut b us) :
    Cuts cut (a ++ ',' :: ' ' :: b) (ts ++ comma :: us) := by
  intro rest hrest
  rw [List.append_assoc, List.cons_append, List.cons_append, ha _ (by simp), hcomma, hblank,
    hb rest hrest, Option.map_map, Option.map_map]
  simp only [Function.comp_def, List.append_assoc, List.cons_append]

theorem Cuts.parens {opening closing : α} (hopening : CutsMark cut '(' opening)
    (hclosing : CutsMark cut ')' closing) (ha : Cuts cut a ts) :
    Cuts cut ('(' :: (a ++ [')'])) (opening :: (ts ++ [closing])) := by
  intro rest _
  have htext : '(' :: (a ++ [')']) ++ rest = '(' :: (a ++ ')' :: rest) := by simp
  rw [htext, hopening, ha _ (by simp), hclosing, Option.map_map, Option.map_map]
  simp only [Function.comp_def, List.cons_append, List.append_assoc, List.nil_append]

end Cuts

end Sql

/-- The table and the column have plain names. -/
def ColumnRef.IsPlain (c : ColumnRef) : Prop :=
  Sql.isName c.table = true ∧ Sql.isName c.column = true

instance (c : ColumnRef) : Decidable c.IsPlain := inferInstanceAs (Decidable (_ ∧ _))

/-- A literal that can be read again: a text without quotation marks, or any other. -/
def Literal.Legible : Literal → Prop
  | null => True
  | integer _ => True
  | decimal _ => True
  | text cs => '\x27' ∉ cs
  | minusZero => True

namespace Sql

/-- A token that can be read again. -/
def Token.Legible : Token → Prop
  | column c => c.IsPlain
  | literal l => l ≠ .null ∧ l.Legible
  | _ => True

section Written

variable {rest : List Char}

theorem exists_cons_of_isName {s : String} (h : isName s = true) :
    ∃ c cs, s.toList = c :: cs ∧ beginsName c = true ∧ ∀ d ∈ c :: cs, isNamePart d = true := by
  rw [isName] at h
  split at h
  · cases h
  · next c cs heq =>
    obtain ⟨hc, hcs⟩ := (Bool.and_eq_true _ _).mp h
    refine ⟨c, cs, heq, hc, fun d hd => ?_⟩
    rcases List.mem_cons.1 hd with rfl | hd
    · simp [isNamePart, hc]
    · exact List.all_eq_true.1 hcs d hd

/-- A character that begins a name is no digit. -/
theorem isDigit_of_beginsName {c : Char} (h : beginsName c = true) : Json.isDigit c = false := by
  -- letters lie between 65 and 90 or between 97 and 122, and digits between 48 and 57
  have halpha : c.isAlpha = (decide (65 ≤ c.val ∧ c.val ≤ 90) ||
      (decide (97 ≤ c.val) && decide (c.val ≤ 122))) := rfl
  simp only [beginsName, halpha, UInt32.le_iff_toNat_le, Bool.or_eq_true, Bool.and_eq_true,
    decide_eq_true_eq] at h
  simp only [Json.isDigit, Bool.and_eq_false_iff, decide_eq_false_iff_not, Char.le_def,
    UInt32.le_iff_toNat_le, Char.reduceVal]
  have hnat : c.val.toNat = c.toNat := rfl
  rcases h with ((h | h) | rfl) | h
  · simp at h ⊢
    omega
  · simp at h ⊢
    omega
  · decide
  · simp at h ⊢
    omega

theorem readToken_of_beginsName {c : Char} (hc : beginsName c = true) (cs : List Char) :
    readToken (c :: cs) = readWord (c :: cs) := by
  rw [readToken, if_neg (by simp [isDigit_of_beginsName hc]), if_pos hc]

/-- A keyword is found again by the way it is written. -/
theorem ofChars?_chars (k : Keyword) : Keyword.ofChars? k.chars = some k := by
  cases k <;> rfl

theorem readToken_keyword (k : Keyword) (hrest : Ends rest) :
    readToken (k.chars ++ rest) = some (.keyword k, rest) := by
  obtain ⟨c, cs, hchars, hc⟩ : ∃ c cs, k.chars = c :: cs ∧ beginsName c = true := by
    cases k <;> exact ⟨_, _, rfl, by decide⟩
  have hname : k.chars.all isNamePart = true := by
    cases k <;> rfl
  obtain ⟨htake, hdrop⟩ := hrest.takeWhile_append (p := isNamePart) (by decide)
    (List.all_eq_true.1 hname)
  have hpoint : ∀ cs, rest ≠ '.' :: cs := hrest.head_ne (by decide)
  rw [hchars, List.cons_append, readToken_of_beginsName hc, ← List.cons_append, ← hchars, readWord,
    htake, hdrop]
  split
  · exact absurd rfl (hpoint _)
  · rw [ofChars?_chars]
    rfl

theorem readToken_column {c : ColumnRef} (hc : c.IsPlain) (hrest : Ends rest) :
    readToken (c.sql.toList ++ rest) = some (.column c, rest) := by
  obtain ⟨t, ts, htable, ht, htpart⟩ := exists_cons_of_isName hc.1
  obtain ⟨d, ds, hcolumn, hd, hdpart⟩ := exists_cons_of_isName hc.2
  have htext : c.sql.toList ++ rest = (t :: ts) ++ '.' :: ((d :: ds) ++ rest) := by
    simp [ColumnRef.sql, String.toList_append, htable, hcolumn]
  have hpoint : isNamePart '.' = false := by decide
  obtain ⟨htake, hdrop⟩ := hrest.takeWhile_append (p := isNamePart) (by decide) hdpart
  rw [htext, List.cons_append, readToken_of_beginsName ht, ← List.cons_append, readWord,
    List.takeWhile_append_of_pos htpart, List.dropWhile_append_of_pos htpart,
    List.takeWhile_cons_of_neg (by simp [hpoint]), List.dropWhile_cons_of_neg (by simp [hpoint]),
    List.append_nil]
  simp only [htake, hdrop]
  rw [← htable, ← hcolumn, String.ofList_toList, String.ofList_toList]

theorem readToken_comparator (op : Comparator) (hrest : Ends rest) :
    readToken (op.sql.toList ++ rest) = some (.comparator op, rest) := by
  -- a comparison may go on with one of these two signs
  have hgreater : ∀ cs, rest ≠ '>' :: cs := hrest.head_ne (by decide)
  have hequal : ∀ cs, rest ≠ '=' :: cs := hrest.head_ne (by decide)
  have hlt : readToken ('<' :: rest) = readSign ('<' :: rest) := rfl
  have hgt : readToken ('>' :: rest) = readSign ('>' :: rest) := rfl
  cases op with
  | eq => rfl
  | ne => rfl
  | le => rfl
  | ge => rfl
  | lt =>
    change readToken ('<' :: rest) = _
    rw [hlt, readSign]
    · exact hgreater
    · exact hequal
  | gt =>
    change readToken ('>' :: rest) = _
    rw [hgt, readSign]
    · exact hequal

/-! ### Literals as they are written -/

theorem readText_append {cs : List Char} (hcs : '\x27' ∉ cs) (hrest : Ends rest) :
    readText (cs ++ '\x27' :: rest) = some (cs, rest) := by
  induction cs with
  | nil =>
    have hquote : ∀ cs, rest ≠ '\x27' :: cs := hrest.head_ne (by decide)
    rw [List.nil_append, readText.eq_def]
    split
    · next heq => exact absurd (List.cons.inj heq).2 (hquote _)
    · next heq => rw [(List.cons.inj heq).2]
    · next hne heq => exact absurd (List.cons.inj heq).1.symm hne
    · next heq => cases heq
  | cons c cs ih =>
    have hc : c ≠ '\x27' := fun h => hcs (by simp [h])
    have hcs' : '\x27' ∉ cs := fun h => hcs (List.mem_cons_of_mem _ h)
    rw [List.cons_append, readText.eq_def]
    split
    · next heq => exact absurd (List.cons.inj heq).1 hc
    · next heq => exact absurd (List.cons.inj heq).1 hc
    · next heq =>
      obtain ⟨rfl, rfl⟩ := List.cons.inj heq
      rw [ih hcs']
      rfl
    · next heq => cases heq

/-- A whole number after its sign. -/
theorem readNumber_digits (negative : Bool) (n : Nat) (hrest : Ends rest) :
    readNumber negative (Json.digits n ++ rest) =
      some (.literal (.integer (if negative then -(n : Int) else n)), rest) := by
  have hspan := Json.spanDigits_append (fun d => Json.isDigit_of_mem_digits (n := n))
    hrest.endsNumber
  have hpoint : ∀ cs, rest ≠ '.' :: cs := hrest.head_ne (by decide)
  rw [readNumber, hspan]
  split
  · next heq =>
    obtain ⟨-, rfl⟩ := Prod.mk.inj heq
    exact absurd rfl (hpoint _)
  · next heq =>
    obtain ⟨rfl, rfl⟩ := Prod.mk.inj heq
    rw [Json.ofDigits_digits]

theorem ofDigits_concat (ds : List Char) {d : Nat} (hd : d < 10) :
    Json.ofDigits (ds ++ [d.digitChar]) = 10 * Json.ofDigits ds + d := by
  have hvalue : ∀ d, d < 10 → d.digitChar.toNat - 48 = d := by decide
  rw [Json.ofDigits, List.foldl_append, List.foldl_cons, List.foldl_nil, hvalue d hd, Json.ofDigits]

/-- A number with two places after its sign. -/
theorem readNumber_places (negative : Bool) (amount : Nat) (hrest : Ends rest) :
    readNumber negative (Json.digits (amount / 100) ++ '.' :: (amount % 100 / 10).digitChar ::
      (amount % 10).digitChar :: rest) = some (.literal (.decimal ⟨negative, amount⟩), rest) := by
  have htens : amount % 100 / 10 < 10 := by omega
  have hones : amount % 10 < 10 := by omega
  have hdigit : ∀ d, d < 10 → Json.isDigit d.digitChar = true := by decide
  have hplaces :
      Json.spanDigits ((amount % 100 / 10).digitChar :: (amount % 10).digitChar :: rest) =
      ([(amount % 100 / 10).digitChar, (amount % 10).digitChar], rest) := by
    have hboth : ∀ d ∈ [(amount % 100 / 10).digitChar, (amount % 10).digitChar],
        Json.isDigit d = true := by
      intro d hd
      simp only [List.mem_cons, List.not_mem_nil, or_false] at hd
      rcases hd with rfl | rfl
      · exact hdigit _ htens
      · exact hdigit _ hones
    exact Json.spanDigits_append hboth hrest.endsNumber
  have hwhole : ∀ cs, Json.spanDigits (Json.digits (amount / 100) ++ '.' :: cs) =
      (Json.digits (amount / 100), '.' :: cs) := by
    intro cs
    have hdigits : ∀ d ∈ Json.digits (amount / 100), Json.isDigit d = true := fun d =>
      Json.isDigit_of_mem_digits
    have hpoint : Json.isDigit '.' = false := by decide
    rw [Json.spanDigits, List.takeWhile_append_of_pos hdigits, List.dropWhile_append_of_pos hdigits]
    simp [hpoint]
  have hvalue : Json.ofDigits (Json.digits (amount / 100) ++
      [(amount % 100 / 10).digitChar, (amount % 10).digitChar]) = amount := by
    have hsplit : Json.digits (amount / 100) ++
        [(amount % 100 / 10).digitChar, (amount % 10).digitChar] =
        (Json.digits (amount / 100) ++ [(amount % 100 / 10).digitChar]) ++
          [(amount % 10).digitChar] := by simp
    rw [hsplit, ofDigits_concat _ hones, ofDigits_concat _ htens, Json.ofDigits_digits]
    omega
  rw [readNumber, hwhole]
  simp only [hplaces, hvalue]

/-- A number begins with a digit or its sign, and is told by that from any other token. -/
theorem readToken_number (negative : Bool) {d : Char} (hd : Json.isDigit d = true)
    (cs : List Char) :
    readToken ((if negative then ['-'] else []) ++ d :: cs) = readNumber negative (d :: cs) := by
  cases negative with
  | true => rfl
  | false => simp [readToken, hd]

theorem exists_cons_digits (n : Nat) : ∃ d ds, Json.digits n = d :: ds ∧ Json.isDigit d = true := by
  obtain ⟨d, ds, hds⟩ := List.exists_cons_of_ne_nil (Nat.toDigits_ne_nil (n := n) (b := 10))
  exact ⟨d, ds, hds, Json.isDigit_of_mem_digits (n := n) (by rw [Json.digits, hds]; simp)⟩

theorem toList_toString_nat (n : Nat) : (toString n).toList = Json.digits n := by
  rw [Nat.toString_eq_ofList_toDigits, String.toList_ofList, Json.digits]

/-- A whole number is written as its sign and its digits. -/
theorem toList_toString_int (n : Int) :
    (toString n).toList = (if n < 0 then ['-'] else []) ++ Json.digits n.natAbs := by
  cases n with
  | ofNat n => exact toList_toString_nat n
  | negSucc n =>
    have hneg : Int.negSucc n < 0 := Int.negSucc_lt_zero n
    have htext : toString (Int.negSucc n) = "-" ++ toString (n + 1) := rfl
    rw [htext, String.toList_append, toList_toString_nat, if_pos hneg]
    rfl

/-- A number with two places is written as its sign, its whole part and the places. -/
theorem toList_render (n : Hundredths) :
    n.render.toList = (if n.negative then ['-'] else []) ++ (Json.digits (n.amount / 100) ++
      ['.', (n.amount % 100 / 10).digitChar, (n.amount % 10).digitChar]) := by
  have hplace : ∀ d, d < 10 → Json.digits d = [d.digitChar] := fun d hd =>
    Nat.toDigits_of_lt_base hd
  have htens : n.amount % 100 / 10 < 10 := by omega
  have hones : n.amount % 10 < 10 := by omega
  have hsign : (if n.negative then "-" else "").toList = if n.negative then ['-'] else [] := by
    split
    · rfl
    · rfl
  simp only [Hundredths.render, String.toList_append, toList_toString_nat, hsign, hplace _ htens,
    hplace _ hones]
  simp

theorem readToken_literal {l : Literal} (hl : l.Legible) (hnull : l ≠ .null) (hrest : Ends rest) :
    readToken (l.sql.toList ++ rest) = some (.literal l, rest) := by
  cases l with
  | null => exact absurd rfl hnull
  | integer n =>
    obtain ⟨d, ds, hds, hd⟩ := exists_cons_digits n.natAbs
    have hnumber := readNumber_digits (decide (n < 0)) n.natAbs hrest
    rw [hds, List.cons_append] at hnumber
    have hsign : (if n < 0 then ['-'] else []) = if decide (n < 0) = true then ['-'] else [] := by
      simp
    have hvalue : (if decide (n < 0) = true then -(n.natAbs : Int) else n.natAbs) = n := by
      simp only [decide_eq_true_eq]
      omega
    rw [Literal.sql, toList_toString_int, hsign, List.append_assoc, hds, List.cons_append,
      readToken_number _ hd, hnumber, hvalue]
  | decimal n =>
    obtain ⟨d, ds, hds, hd⟩ := exists_cons_digits (n.amount / 100)
    have hnumber := readNumber_places n.negative n.amount hrest
    rw [hds, List.cons_append] at hnumber
    rw [Literal.sql, toList_render, List.append_assoc, hds, List.append_assoc, List.cons_append,
      readToken_number _ hd]
    exact hnumber
  | text cs =>
    have htext : (Literal.text cs).sql.toList ++ rest = '\x27' :: (cs ++ '\x27' :: rest) := by
      simp [Literal.sql, String.toList_append]
    have hquote : readToken ('\x27' :: (cs ++ '\x27' :: rest)) =
        (readText (cs ++ '\x27' :: rest)).map fun (cs, rest) => (.literal (.text cs), rest) := rfl
    rw [htext, hquote, readText_append hl hrest]
    rfl
  | minusZero =>
    have hzero : ∀ d ∈ ['0'], Json.isDigit d = true := List.all_eq_true.1 rfl
    have hplace : Json.spanDigits ('0' :: rest) = (['0'], rest) :=
      Json.spanDigits_append hzero hrest.endsNumber
    have hwhole : Json.spanDigits ('0' :: '.' :: '0' :: rest) = (['0'], '.' :: '0' :: rest) := rfl
    change readNumber true ('0' :: '.' :: '0' :: rest) = _
    rw [readNumber, hwhole]
    simp [hplace]

/-! ### Scanning what was written -/

theorem readToken_chars {t : Token} (ht : t.Legible) (hrest : Ends rest) :
    readToken (t.chars ++ rest) = some (t, rest) := by
  cases t with
  | keyword k => exact readToken_keyword k hrest
  | column c => exact readToken_column ht hrest
  | literal l => exact readToken_literal ht.2 ht.1 hrest
  | comparator op => exact readToken_comparator op hrest
  | opening => rfl
  | closing => rfl
  | comma => rfl

/-- A token has a first character, and that is no blank: else nothing would be read. -/
theorem exists_cons_chars {t : Token} (ht : t.Legible) :
    ∃ c cs, t.chars = c :: cs ∧ c ≠ ' ' := by
  have hread := readToken_chars ht ends_nil
  rcases hchars : t.chars with _ | ⟨c, cs⟩
  · rw [hchars] at hread
    cases hread
  · refine ⟨c, cs, rfl, ?_⟩
    rintro rfl
    rw [hchars] at hread
    cases hread

/-- **A token is scanned as it was written**, whatever comes after it, so long as that does not go
on with it. -/
theorem scan_token {t : Token} (ht : t.Legible) (hrest : Ends rest) :
    scan (t.chars ++ rest) = (scan rest).map (t :: ·) := by
  have hread := readToken_chars ht hrest
  obtain ⟨c, cs, hchars, hblank⟩ := exists_cons_chars ht
  rw [hchars, List.cons_append] at hread
  rw [hchars, List.cons_append]
  exact scan_of_readToken hblank (by simp) hread

end Written

/-! Marks need no provisos. -/

@[simp] theorem scan_opening (rest : List Char) :
    scan ('(' :: rest) = (scan rest).map (.opening :: ·) :=
  scan_of_readToken (by decide) (Nat.le_refl _) rfl

@[simp] theorem scan_closing (rest : List Char) :
    scan (')' :: rest) = (scan rest).map (.closing :: ·) :=
  scan_of_readToken (by decide) (Nat.le_refl _) rfl

@[simp] theorem scan_comma (rest : List Char) :
    scan (',' :: rest) = (scan rest).map (.comma :: ·) :=
  scan_of_readToken (by decide) (Nat.le_refl _) rfl

end Sql

end Trisect
