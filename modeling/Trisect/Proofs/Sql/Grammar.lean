import Trisect.Proofs.Sql.Token

/-!
# Conditions are read as they were written

`Trisect.Condition.read` reads a text by the rules that SQL has for conditions: OR binds less
tightly than AND, AND less than NOT, and NOT less than a test for NULL; operators of one kind
associate to the left. It has not been told that the generator sets parentheses around every
operand, and makes sense of `t.a = 1 OR NOT t.b = 2 AND t.c IS NULL` as well.

With these rules a text may well be read as another condition than the one that it was meant for.
That **a condition is read from its text as it was written** (`Trisect.Condition.read_sql`)
therefore says that the parentheses are where they need to be, at any depth: around what AND, OR and
NOT apply to, and around what is tested for NULL, while those of a list after IN, and the AND after
BETWEEN, do not get in their way. The proof goes through the tokens of a condition
(`Trisect.Condition.tokens`), which the text is cut into, and from which the condition is read.
-/

namespace Trisect

open Sql (Token)

/-! ### The tokens of a condition -/

/-- A literal as a token: NULL is a keyword. -/
def Literal.token : Literal → Token
  | null => .keyword .null
  | l => .literal l

/-- An operand as a token. -/
def Operand.token : Operand → Token
  | column c => .column c
  | literal l => l.token

/-- Tokens with parentheses around them. -/
def Sql.parens (ts : List Token) : List Token := .opening :: (ts ++ [.closing])

/-- The tokens of a test. -/
def Leaf.tokens : Leaf → List Token
  | isNull c => [.column c, .keyword .is, .keyword .null]
  | isNotNull c => [.column c, .keyword .is, .keyword .not, .keyword .null]
  | between c low high => [.column c, .keyword .between, low.token, .keyword .and, high.token]
  | isIn c items =>
    .column c :: .keyword .isIn :: Sql.parens ((items.map Literal.token).intersperse .comma)
  | compare c op right => [.column c, .comparator op, right.token]

/-- The tokens of a condition. -/
def Condition.tokens : Condition → List Token
  | leaf l => l.tokens
  | not p => .keyword .not :: Sql.parens p.tokens
  | and p q => Sql.parens p.tokens ++ .keyword .and :: Sql.parens q.tokens
  | or p q => Sql.parens p.tokens ++ .keyword .or :: Sql.parens q.tokens
  | isNull p => Sql.parens p.tokens ++ [.keyword .is, .keyword .null]

/-! ### Reading -/

namespace Sql

/-- The literal that a token is, if it is one. -/
def Token.literal? : Token → Option Literal
  | keyword .null => some .null
  | literal l => some l
  | _ => none

/-- The operand that a token is, if it is one. -/
def Token.operand? : Token → Option Operand
  | column c => some (.column c)
  | t => t.literal?.map .literal

/-- Reads literals with commas between them, and the parenthesis after them. -/
def readItems : List Token → Option (List Literal × List Token)
  | t :: .comma :: ts => do
    let l ← t.literal?
    let (items, ts) ← readItems ts
    return (l :: items, ts)
  | t :: .closing :: ts => t.literal?.map fun l => ([l], ts)
  | _ => none

/-- Reads what a column is tested for. -/
def readLeaf (c : ColumnRef) : List Token → Option (Leaf × List Token)
  | .keyword .is :: .keyword .null :: ts => some (.isNull c, ts)
  | .keyword .is :: .keyword .not :: .keyword .null :: ts => some (.isNotNull c, ts)
  | .keyword .between :: low :: .keyword .and :: high :: ts => do
    return (.between c (← low.literal?) (← high.literal?), ts)
  | .keyword .isIn :: .opening :: ts => (readItems ts).map fun (items, ts) => (.isIn c items, ts)
  | .comparator op :: right :: ts => right.operand?.map fun right => (.compare c op right, ts)
  | _ => none

/-- What reads a condition from some tokens and leaves those after it. -/
abbrev Reader := List Token → Option (Condition × List Token)

section Levels

/- The levels of binding are readers that are built on one another. What all of them rest on is the
reader of a condition between parentheses. -/

variable (inner : Reader)

/-- Reads a test of a column, or a condition in parentheses, which may be tested for NULL. -/
def readTest : Reader
  | .column c :: ts => (readLeaf c ts).map fun (l, ts) => (.leaf l, ts)
  | .opening :: ts =>
    match inner ts with
    | some (p, .closing :: .keyword .is :: .keyword .null :: ts) => some (.isNull p, ts)
    | some (p, .closing :: ts) => some (p, ts)
    | _ => none
  | _ => none

/-- Reads a test after any number of negations. -/
def readNegation : Reader
  | .keyword .not :: ts => (readNegation ts).map fun (p, ts) => (.not p, ts)
  | ts => readTest inner ts

/-- Goes on with a chain of operands with the same operator between them, of which there are no more
than `count`. -/
def readChain (operator : Keyword) (join : Condition → Condition → Condition) (operand : Reader) :
    (count : Nat) → Condition → Reader
  | count + 1, p, .keyword k :: ts =>
    if k = operator then
      (operand ts).bind fun (q, ts) => readChain operator join operand count (join p q) ts
    else some (p, .keyword k :: ts)
  | _, p, ts => some (p, ts)

/-- Reads negations with AND between them. -/
def readConjunction : Reader := fun ts =>
  (readNegation inner ts).bind fun (p, rest) =>
    readChain .and .and (readNegation inner) ts.length p rest

/-- Reads conjunctions with OR between them. -/
def readDisjunction : Reader := fun ts =>
  (readConjunction inner ts).bind fun (p, rest) =>
    readChain .or .or (readConjunction inner) ts.length p rest

end Levels

/-- Reads a condition in which fewer parentheses than `depth` are nested in one another. -/
def readNested : (depth : Nat) → Reader
  | 0 => fun _ => none
  | depth + 1 => readDisjunction (readNested depth)

/-- Without parentheses a condition falls apart as SQL has it: `a = 1 OR NOT b = 2 AND c IS NULL`.
-/
example (a b c : ColumnRef) :
    readNested 1 [.column a, .comparator .eq, .literal (.integer 1), .keyword .or, .keyword .not,
      .column b, .comparator .eq, .literal (.integer 2), .keyword .and, .column c, .keyword .is,
      .keyword .null] =
    some (.or (.leaf (.compare a .eq (.literal (.integer 1))))
      (.and (.not (.leaf (.compare b .eq (.literal (.integer 2))))) (.leaf (.isNull c))), []) := rfl

end Sql

/-- Reads a condition from a text. -/
def Condition.read (s : String) : Option Condition :=
  match Sql.scan s.toList with
  | some ts =>
    match Sql.readNested (ts.length + 1) ts with
    | some (p, []) => some p
    | _ => none
  | none => none

/-! ### Scanning a condition -/

/-- An operand that can be read again. -/
def Operand.Legible : Operand → Prop
  | column c => c.IsPlain
  | literal l => l.Legible

/-- A test that can be read again: names are plain, texts have no quotation mark, and lists are not
empty. -/
def Leaf.Legible : Leaf → Prop
  | isNull c => c.IsPlain
  | isNotNull c => c.IsPlain
  | between c low high => c.IsPlain ∧ low.Legible ∧ high.Legible
  | isIn c items => c.IsPlain ∧ items ≠ [] ∧ ∀ l ∈ items, l.Legible
  | compare c _ right => c.IsPlain ∧ right.Legible

/-- A condition that can be read again: so can all of its tests. -/
def Condition.Legible : Condition → Prop
  | leaf l => l.Legible
  | not p => p.Legible
  | and p q => p.Legible ∧ q.Legible
  | or p q => p.Legible ∧ q.Legible
  | isNull p => p.Legible

namespace Sql

/-- A text is cut into some tokens, whatever comes after it. -/
def Scans (cs : List Char) (ts : List Token) : Prop :=
  ∀ rest, Ends rest → scan (cs ++ rest) = (scan rest).map (ts ++ ·)

section Scans

variable {a b : List Char} {ts us : List Token}

theorem scans_token (t : Token) (ht : t.Legible) : Scans t.chars [t] := fun _ => scan_token ht

theorem scans_keyword (k : Keyword) : Scans k.chars [.keyword k] :=
  scans_token (.keyword k) trivial

theorem scans_column {c : ColumnRef} (hc : c.IsPlain) : Scans c.sql.toList [.column c] :=
  scans_token (.column c) hc

theorem scans_literal {l : Literal} (hl : l.Legible) : Scans l.sql.toList [l.token] := by
  by_cases hnull : l = .null
  · rw [hnull]
    exact scans_keyword .null
  · have htoken : l.token = .literal l := by
      cases l with
      | null => exact absurd rfl hnull
      | _ => rfl
    rw [htoken]
    exact scans_token (.literal l) ⟨hnull, hl⟩

theorem scans_operand {o : Operand} (ho : o.Legible) : Scans o.sql.toList [o.token] := by
  cases o with
  | column c => exact scans_column ho
  | literal l => exact scans_literal ho

theorem Scans.blank (ha : Scans a ts) (hb : Scans b us) : Scans (a ++ ' ' :: b) (ts ++ us) :=
  Cuts.blank scan_blank ha hb

theorem Scans.comma (ha : Scans a ts) (hb : Scans b us) :
    Scans (a ++ ',' :: ' ' :: b) (ts ++ .comma :: us) :=
  Cuts.comma scan_blank scan_comma ha hb

theorem Scans.parens (ha : Scans a ts) : Scans ('(' :: (a ++ [')'])) (parens ts) :=
  Cuts.parens scan_opening scan_closing ha

theorem scans_items {items : List Literal} (hne : items ≠ []) (h : ∀ l ∈ items, l.Legible) :
    Scans (", ".intercalate (items.map Literal.sql)).toList
      ((items.map Literal.token).intersperse .comma) := by
  induction items with
  | nil => exact absurd rfl hne
  | cons l items ih =>
    have hl : Scans l.sql.toList [l.token] := scans_literal (h l (by simp))
    rcases items with _ | ⟨m, items⟩
    · simpa [String.toList_intercalate] using hl
    · have hitems := ih (by simp) fun k hk => h k (List.mem_cons_of_mem _ hk)
      simpa [String.toList_intercalate, List.intercalate_cons_cons] using hl.comma hitems

end Scans

theorem scans_leaf {l : Leaf} (hl : l.Legible) : Scans l.sql.toList l.tokens := by
  cases l with
  | isNull c =>
    have h := ((scans_column hl).blank (scans_keyword .is)).blank (scans_keyword .null)
    simpa [Leaf.sql, Leaf.tokens, String.toList_append, Keyword.chars] using h
  | isNotNull c =>
    have h := (((scans_column hl).blank (scans_keyword .is)).blank (scans_keyword .not)).blank
      (scans_keyword .null)
    simpa [Leaf.sql, Leaf.tokens, String.toList_append, Keyword.chars] using h
  | between c low high =>
    obtain ⟨hc, hlow, hhigh⟩ := hl
    have h := (((scans_column hc).blank (scans_keyword .between)).blank (scans_literal hlow)).blank
      ((scans_keyword .and).blank (scans_literal hhigh))
    simpa [Leaf.sql, Leaf.tokens, String.toList_append, Keyword.chars] using h
  | isIn c items =>
    obtain ⟨hc, hne, hitems⟩ := hl
    have h := ((scans_column hc).blank (scans_keyword .isIn)).blank (scans_items hne hitems).parens
    simpa [Leaf.sql, Leaf.tokens, String.toList_append, Keyword.chars] using h
  | compare c op right =>
    obtain ⟨hc, hright⟩ := hl
    have hop : Scans op.sql.toList [.comparator op] := scans_token (.comparator op) trivial
    have h := ((scans_column hc).blank hop).blank (scans_operand hright)
    simpa [Leaf.sql, Leaf.tokens, String.toList_append] using h

/-- **A condition is cut into its tokens**, whatever comes after it. -/
theorem scans_condition {p : Condition} (hp : p.Legible) : Scans p.sql.toList p.tokens := by
  induction p with
  | leaf l => exact scans_leaf hp
  | not p ih =>
    have h := (scans_keyword .not).blank (ih hp).parens
    simpa [Condition.sql, Condition.tokens, String.toList_append, Keyword.chars] using h
  | and p q ihp ihq =>
    have h := (ihp hp.1).parens.blank ((scans_keyword .and).blank (ihq hp.2).parens)
    simpa [Condition.sql, Condition.tokens, String.toList_append, Keyword.chars] using h
  | or p q ihp ihq =>
    have h := (ihp hp.1).parens.blank ((scans_keyword .or).blank (ihq hp.2).parens)
    simpa [Condition.sql, Condition.tokens, String.toList_append, Keyword.chars] using h
  | isNull p ih =>
    have h := (ih hp).parens.blank ((scans_keyword .is).blank (scans_keyword .null))
    simpa [Condition.sql, Condition.tokens, String.toList_append, Keyword.chars] using h

/-! ### Reading a condition from its tokens -/

theorem literal?_token (l : Literal) : l.token.literal? = some l := by
  cases l <;> rfl

theorem operand?_token (o : Operand) : o.token.operand? = some o := by
  cases o with
  | column c => rfl
  | literal l => cases l <;> rfl

theorem readItems_intersperse {items : List Literal} (hne : items ≠ []) (rest : List Token) :
    readItems ((items.map Literal.token).intersperse .comma ++ .closing :: rest) =
      some (items, rest) := by
  induction items with
  | nil => exact absurd rfl hne
  | cons l items ih =>
    rcases items with _ | ⟨m, items⟩
    · simp [readItems, literal?_token]
    · have hitems := ih (by simp)
      simp only [List.map_cons, List.intersperse_cons_cons, List.cons_append] at hitems ⊢
      simp [readItems, literal?_token, hitems]

/-- A test is read from its tokens, whatever comes after it. -/
theorem readTest_leaf (inner : Reader) {l : Leaf} (hl : l.Legible) (rest : List Token) :
    readTest inner (l.tokens ++ rest) = some (.leaf l, rest) := by
  cases l with
  | isNull c => rfl
  | isNotNull c => rfl
  | between c low high =>
    simp [Leaf.tokens, readTest, readLeaf, literal?_token]
  | isIn c items =>
    simp [Leaf.tokens, parens, readTest, readLeaf, readItems_intersperse hl.2.1]
  | compare c op right =>
    simp [Leaf.tokens, readTest, readLeaf, operand?_token]

/-- What comes after a whole condition: nothing, or the parenthesis that closes it. -/
def Closes (rest : List Token) : Prop := ∀ t ∈ rest.head?, t = .closing

/-- A reader reads a condition from some tokens. -/
def Reads (read : Reader) (ts : List Token) (p : Condition) : Prop :=
  ∀ rest, Closes rest → read (ts ++ rest) = some (p, rest)

section Reads

variable {inner : Reader} {ts us rest : List Token} {p q : Condition}

theorem readTest_parens (h : Reads inner ts p) (hrest : ∀ k ∈ rest.head?, k ≠ .keyword .is) :
    readTest inner (parens ts ++ rest) = some (p, rest) := by
  have hinner := h (.closing :: rest) (by simp [Closes])
  rw [parens, List.cons_append, List.append_assoc, readTest]
  simp only [List.singleton_append, hinner]
  rcases rest with _ | ⟨t, rest⟩
  · rfl
  · have ht : t ≠ .keyword .is := hrest t (by simp)
    split
    · next heq =>
      simp only [Option.some.injEq, Prod.mk.injEq, List.cons.injEq] at heq
      exact absurd heq.2.2.1 ht
    · next heq =>
      simp only [Option.some.injEq, Prod.mk.injEq, List.cons.injEq] at heq
      rw [heq.1, heq.2.2]
    · next hne => exact absurd rfl (hne _ _)

theorem readTest_parens_isNull (h : Reads inner ts p) (rest : List Token) :
    readTest inner (parens ts ++ .keyword .is :: .keyword .null :: rest) =
      some (.isNull p, rest) := by
  have hinner := h (.closing :: .keyword .is :: .keyword .null :: rest) (by simp [Closes])
  rw [parens, List.cons_append, List.append_assoc, readTest]
  simp only [List.singleton_append, hinner]

theorem readNegation_of_head (h : ∀ t ∈ ts.head?, t ≠ .keyword .not) :
    readNegation inner ts = readTest inner ts := by
  rw [readNegation]
  rintro us rfl
  exact h _ (by simp) rfl

/-- A condition in parentheses is as good an operand as a test is. -/
theorem readNegation_parens (h : Reads inner ts p) (hrest : ∀ k ∈ rest.head?, k ≠ .keyword .is) :
    readNegation inner (parens ts ++ rest) = some (p, rest) := by
  rw [readNegation_of_head (by simp [parens]), readTest_parens h hrest]

/-! A chain ends where its operator does not come next. -/

section Chain

variable {operator : Keyword} {join : Condition → Condition → Condition} {operand : Reader}

theorem readChain_stop (count : Nat) (h : ∀ t ∈ rest.head?, t ≠ .keyword operator) :
    readChain operator join operand count p rest = some (p, rest) := by
  rw [readChain.eq_def]
  split
  · next k us =>
    have hk : k ≠ operator := fun hk => h (.keyword k) (by simp) (by rw [hk])
    exact if_neg hk
  · rfl

theorem readChain_join {count : Nat} (hcount : 0 < count) (hq : operand ts = some (q, rest))
    (h : ∀ t ∈ rest.head?, t ≠ .keyword operator) :
    readChain operator join operand count p (.keyword operator :: ts) =
      some (join p q, rest) := by
  obtain ⟨count, rfl⟩ := Nat.exists_eq_succ_of_ne_zero (Nat.pos_iff_ne_zero.1 hcount)
  rw [readChain, if_pos rfl, hq]
  exact readChain_stop count h

end Chain

theorem readConjunction_of_readNegation (h : readNegation inner ts = some (p, rest))
    (hrest : ∀ t ∈ rest.head?, t ≠ .keyword .and) : readConjunction inner ts = some (p, rest) := by
  rw [readConjunction, h]
  exact readChain_stop _ hrest

theorem readDisjunction_of_readConjunction (h : readConjunction inner ts = some (p, rest))
    (hrest : ∀ t ∈ rest.head?, t ≠ .keyword .or) : readDisjunction inner ts = some (p, rest) := by
  rw [readDisjunction, h]
  exact readChain_stop _ hrest

theorem Closes.head_ne (h : Closes rest) (k : Keyword) : ∀ t ∈ rest.head?, t ≠ .keyword k := by
  intro t ht hk
  have hclosing := h t ht
  rw [hk] at hclosing
  cases hclosing

theorem readDisjunction_of_readNegation (h : readNegation inner ts = some (p, rest))
    (hrest : Closes rest) : readDisjunction inner ts = some (p, rest) :=
  readDisjunction_of_readConjunction (readConjunction_of_readNegation h (hrest.head_ne .and))
    (hrest.head_ne .or)

end Reads

section Connectives

variable {inner : Reader} {ts us : List Token} {p q : Condition}

theorem reads_leaf {l : Leaf} (hl : l.Legible) :
    Reads (readDisjunction inner) l.tokens (.leaf l) := by
  intro rest hrest
  have hhead : ∀ t ∈ (l.tokens ++ rest).head?, t ≠ .keyword .not := by
    cases l <;> simp [Leaf.tokens]
  have hread : readNegation inner (l.tokens ++ rest) = some (.leaf l, rest) := by
    rw [readNegation_of_head hhead, readTest_leaf inner hl]
  exact readDisjunction_of_readNegation hread hrest

theorem reads_not (h : Reads inner ts p) :
    Reads (readDisjunction inner) (.keyword .not :: parens ts) (.not p) := by
  intro rest hrest
  have hread : readNegation inner (.keyword .not :: parens ts ++ rest) = some (.not p, rest) := by
    rw [List.cons_append, readNegation, readNegation_parens h (hrest.head_ne .is)]
    rfl
  exact readDisjunction_of_readNegation hread hrest

theorem reads_isNull (h : Reads inner ts p) :
    Reads (readDisjunction inner) (parens ts ++ [.keyword .is, .keyword .null]) (.isNull p) := by
  intro rest hrest
  have hread : readNegation inner (parens ts ++ [.keyword .is, .keyword .null] ++ rest) =
      some (.isNull p, rest) := by
    rw [readNegation_of_head (by simp [parens]), List.append_assoc]
    exact readTest_parens_isNull h rest
  exact readDisjunction_of_readNegation hread hrest

theorem reads_and (hp : Reads inner ts p) (hq : Reads inner us q) :
    Reads (readDisjunction inner) (parens ts ++ .keyword .and :: parens us) (.and p q) := by
  intro rest hrest
  have hleft : readNegation inner (parens ts ++ .keyword .and :: (parens us ++ rest)) =
      some (p, .keyword .and :: (parens us ++ rest)) := readNegation_parens hp (by simp)
  have hright := readNegation_parens hq (hrest.head_ne .is)
  have hcount : 0 < (parens ts ++ .keyword .and :: (parens us ++ rest)).length := by
    simp only [List.length_append, List.length_cons]
    omega
  have hread : readConjunction inner (parens ts ++ .keyword .and :: parens us ++ rest) =
      some (.and p q, rest) := by
    rw [List.append_assoc, List.cons_append, readConjunction, hleft]
    exact readChain_join hcount hright (hrest.head_ne .and)
  exact readDisjunction_of_readConjunction hread (hrest.head_ne .or)

theorem reads_or (hp : Reads inner ts p) (hq : Reads inner us q) :
    Reads (readDisjunction inner) (parens ts ++ .keyword .or :: parens us) (.or p q) := by
  intro rest hrest
  have hfirst : readNegation inner (parens ts ++ .keyword .or :: (parens us ++ rest)) =
      some (p, .keyword .or :: (parens us ++ rest)) := readNegation_parens hp (by simp)
  have hleft := readConjunction_of_readNegation hfirst (by simp)
  have hright := readConjunction_of_readNegation (readNegation_parens hq (hrest.head_ne .is))
    (hrest.head_ne .and)
  have hcount : 0 < (parens ts ++ .keyword .or :: (parens us ++ rest)).length := by
    simp only [List.length_append, List.length_cons]
    omega
  rw [List.append_assoc, List.cons_append, readDisjunction, hleft]
  exact readChain_join hcount hright (hrest.head_ne .or)

end Connectives

/-- What is read at some depth is read between the parentheses of one more. -/
theorem reads_readNested {ts : List Token} {p : Condition} {n depth : Nat}
    (h : ∀ d, n ≤ d → Reads (readDisjunction (readNested d)) ts p) (hdepth : n < depth) :
    Reads (readNested depth) ts p := by
  rcases depth with _ | depth
  · omega
  · exact h depth (by omega)

/-- **A condition is read from its tokens.** No more parentheses are nested than there are tokens.
-/
theorem reads_tokens {p : Condition} (hp : p.Legible) :
    ∀ depth, p.tokens.length ≤ depth → Reads (readDisjunction (readNested depth)) p.tokens p := by
  induction p with
  | leaf l =>
    intro depth _
    exact reads_leaf hp
  | not p ih =>
    intro depth hdepth
    simp only [Condition.tokens, parens, List.length_cons, List.length_append] at hdepth
    exact reads_not (reads_readNested (ih hp) (by omega))
  | and p q ihp ihq =>
    intro depth hdepth
    simp only [Condition.tokens, parens, List.length_cons, List.length_append] at hdepth
    exact reads_and (reads_readNested (ihp hp.1) (by omega))
      (reads_readNested (ihq hp.2) (by omega))
  | or p q ihp ihq =>
    intro depth hdepth
    simp only [Condition.tokens, parens, List.length_cons, List.length_append] at hdepth
    exact reads_or (reads_readNested (ihp hp.1) (by omega)) (reads_readNested (ihq hp.2) (by omega))
  | isNull p ih =>
    intro depth hdepth
    simp only [Condition.tokens, parens, List.length_cons, List.length_append] at hdepth
    exact reads_isNull (reads_readNested (ih hp) (by omega))

end Sql

namespace Condition

/-- **A condition is read from its text as it was written**, at any depth. -/
theorem read_sql {p : Condition} (hp : p.Legible) : read p.sql = some p := by
  have hscan : Sql.scan p.sql.toList = some p.tokens := by
    have h := Sql.scans_condition hp [] Sql.ends_nil
    simpa using h
  have hread : Sql.readNested (p.tokens.length + 1) p.tokens = some (p, []) := by
    have h := Sql.reads_tokens hp p.tokens.length (Nat.le_refl _) [] (by simp [Sql.Closes])
    rwa [List.append_nil] at h
  rw [read, hscan]
  simp only [hread]

/-- No two conditions have the same text. -/
theorem sql_injective {p q : Condition} (hp : p.Legible) (hq : q.Legible) (h : p.sql = q.sql) :
    p = q := by
  have hread : read q.sql = some p := by
    rw [← h]
    exact read_sql hp
  rw [read_sql hq] at hread
  exact (Option.some.inj hread).symm

end Condition

end Trisect
