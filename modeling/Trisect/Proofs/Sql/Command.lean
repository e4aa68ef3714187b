import Trisect.Engine
import Trisect.Proofs.Sql.Grammar

/-!
# Statements that set a database up are read as they were written

`Trisect.Sql.Command.read` makes sense of the two kinds of statements that set a database up: those
that create a table with some columns, and those that put a row of literals into a table. A text is
cut into words and other tokens (`Trisect.Sql.lex`), of which only the position tells a name from a
word of the language; between two of them there may be any number of blanks, or none.

A name is plain, a type is absent or a plain name, and there is at least one column and at least one
value (`Trisect.Sql.Command.Legible`). Under these provisos **a statement is read from its text as
it was written** (`Trisect.Sql.Command.read_sql`).
-/

namespace Trisect

/-- A column as it is defined: its name, and its type if it has one. -/
def Column.sql (c : Column) : String :=
  if c.typeName = "" then c.name else c.name ++ " " ++ c.typeName

/-- The name of the column is plain, and so is its type if it has one. -/
def Column.IsPlain (c : Column) : Prop :=
  Sql.isName c.name = true ∧ (c.typeName ≠ "" → Sql.isName c.typeName = true)

namespace Sql

/-! ### Commands -/

/-- What a statement tells an engine to do. -/
inductive Command
  /-- To create a table. -/
  | create (table : Table)
  /-- To put a row into the table with a name. -/
  | insert (table : String) (values : List Literal)
  deriving DecidableEq

namespace Command

/-- The text of a command. -/
def sql : Command → String
  | create table =>
    "CREATE TABLE " ++ table.name ++ "(" ++ ", ".intercalate (table.columns.map Column.sql) ++ ")"
  | insert table values =>
    "INSERT INTO " ++ table ++ " VALUES (" ++ ", ".intercalate (values.map Literal.sql) ++ ")"

@[simp] theorem sql_create (table : Table) : (create table).sql =
    "CREATE TABLE " ++ table.name ++ "(" ++ ", ".intercalate (table.columns.map Column.sql) ++
      ")" := rfl

@[simp] theorem sql_insert (table : String) (values : List Literal) : (insert table values).sql =
    "INSERT INTO " ++ table ++ " VALUES (" ++ ", ".intercalate (values.map Literal.sql) ++ ")" :=
  rfl

/-- Whether a command changes the schema, or only the rows of a table. -/
def changesSchema : Command → Bool
  | create _ => true
  | insert _ _ => false

/-- A command that can be read again. -/
def Legible : Command → Prop
  | create table =>
    isName table.name = true ∧ table.columns ≠ [] ∧ ∀ c ∈ table.columns, c.IsPlain
  | insert table values => isName table = true ∧ values ≠ [] ∧ ∀ l ∈ values, l.Legible

end Command

/-! ### Words and other tokens -/

/-- A word, or a token that does not begin like one. -/
inductive Lexeme
  | word (s : String)
  | token (t : Token)
  deriving DecidableEq

/-- Reads the word or other token that a text begins with. -/
def readLexeme : List Char → Option (Lexeme × List Char)
  | [] => none
  | c :: rest =>
    if beginsName c then
      some (.word (String.ofList ((c :: rest).takeWhile isNamePart)),
        (c :: rest).dropWhile isNamePart)
    else (readToken (c :: rest)).map fun (t, rest) => (.token t, rest)

/-- Cuts a text into words and other tokens, with blanks between them. -/
def lex (cs : List Char) : Option (List Lexeme) :=
  match cs with
  | [] => some []
  | c :: rest =>
    if c = ' ' then lex rest
    else
      match readLexeme (c :: rest) with
      | some (l, rest') => if rest'.length ≤ rest.length then (lex rest').map (l :: ·) else none
      | none => none
termination_by cs.length

@[simp] theorem lex_nil : lex [] = some [] := by rw [lex]

@[simp] theorem lex_blank (cs : List Char) : lex (' ' :: cs) = lex cs := by
  rw [lex, if_pos rfl]

/-- One word or other token after the other. -/
theorem lex_of_readLexeme {c : Char} {cs rest : List Char} {l : Lexeme} (hc : c ≠ ' ')
    (hlen : rest.length ≤ cs.length) (h : readLexeme (c :: cs) = some (l, rest)) :
    lex (c :: cs) = (lex rest).map (l :: ·) := by
  rw [lex, if_neg hc, h]
  exact if_pos hlen

/-! ### Reading -/

/-- The literal that a lexeme is, if it is one. -/
def Lexeme.literal? : Lexeme → Option Literal
  | word s => if s = "NULL" then some .null else none
  | token t => t.literal?

/-- Reads definitions of columns with commas between them, up to the parenthesis at the end. -/
def readColumns : List Lexeme → Option (List Column)
  | .word name :: .token .comma :: ls => (readColumns ls).map (⟨name, ""⟩ :: ·)
  | .word name :: .word type :: .token .comma :: ls => (readColumns ls).map (⟨name, type⟩ :: ·)
  | [.word name, .token .closing] => some [⟨name, ""⟩]
  | [.word name, .word type, .token .closing] => some [⟨name, type⟩]
  | _ => none

/-- Reads literals with commas between them, up to the parenthesis at the end. -/
def readValues : List Lexeme → Option (List Literal)
  | l :: .token .comma :: ls => do
    let value ← l.literal?
    return value :: (← readValues ls)
  | [l, .token .closing] => l.literal?.map ([·])
  | _ => none

/-- Reads what comes after the name of a table that is created. -/
def readDefinition : List Lexeme → Option (List Column)
  | .token .opening :: ls => readColumns ls
  | _ => none

/-- Reads what comes after the name of a table that a row is put into. -/
def readRow : List Lexeme → Option (List Literal)
  | .word w :: .token .opening :: ls => if w = "VALUES" then readValues ls else none
  | _ => none

/-- Reads a command. -/
def readCommand : List Lexeme → Option Command
  | .word verb :: .word object :: .word table :: ls =>
    if verb = "CREATE" ∧ object = "TABLE" then
      (readDefinition ls).map fun columns => .create ⟨table, columns⟩
    else if verb = "INSERT" ∧ object = "INTO" then (readRow ls).map (.insert table)
    else none
  | _ => none

/-- Reads a command from a text. -/
def Command.read (s : String) : Option Command := (lex s.toList).bind readCommand

/-! ### Lexemes as they are written -/

section Written

variable {rest : List Char}

/-- **A word is cut off** where no character follows that a name goes on with. -/
theorem lex_word {s : String} (hs : isName s = true)
    (hrest : ∀ c ∈ rest.head?, isNamePart c = false) :
    lex (s.toList ++ rest) = (lex rest).map (.word s :: ·) := by
  obtain ⟨c, cs, hchars, hc, hparts⟩ := exists_cons_of_isName hs
  have hblank : c ≠ ' ' := by
    rintro rfl
    revert hc
    decide
  obtain ⟨htake, hdrop⟩ := takeWhile_append_of_head hparts hrest
  have hread : readLexeme (c :: (cs ++ rest)) = some (.word s, rest) := by
    rw [readLexeme, if_pos hc, ← List.cons_append, htake, hdrop, ← hchars, String.ofList_toList]
  rw [hchars, List.cons_append]
  exact lex_of_readLexeme hblank (by simp) hread

/-- A literal that the rules for conditions find does not begin with a word. -/
theorem beginsName_of_readToken {c : Char} {cs : List Char} {l : Literal}
    (h : readToken (c :: cs) = some (.literal l, rest)) : beginsName c = false := by
  refine Bool.eq_false_iff.2 fun hname => ?_
  rw [readToken_of_beginsName hname, readWord] at h
  split at h
  · cases h
  · simp at h

end Written

end Sql

/-- A literal as a lexeme: NULL is a word. -/
def Literal.lexeme : Literal → Sql.Lexeme
  | null => .word "NULL"
  | l => .token (.literal l)

/-- The lexemes of the definition of a column. -/
def Column.lexemes (c : Column) : List Sql.Lexeme :=
  .word c.name :: if c.typeName = "" then [] else [.word c.typeName]

namespace Sql

/-- The lexemes of several items with commas between them. -/
def listed (items : List (List Lexeme)) : List Lexeme := [.token .comma].intercalate items

@[simp] theorem listed_singleton (ls : List Lexeme) : listed [ls] = ls := by simp [listed]

@[simp] theorem listed_cons_cons (ls ms : List Lexeme) (items : List (List Lexeme)) :
    listed (ls :: ms :: items) = ls ++ .token .comma :: listed (ms :: items) := by
  simp [listed, List.intercalate_cons_cons]

/-- Lexemes with parentheses around them. -/
def enclosed (ls : List Lexeme) : List Lexeme := .token .opening :: (ls ++ [.token .closing])

/-- The lexemes of a command. -/
def Command.lexemes : Command → List Lexeme
  | create table =>
    .word "CREATE" :: .word "TABLE" :: .word table.name ::
      enclosed (listed (table.columns.map Column.lexemes))
  | insert table values =>
    .word "INSERT" :: .word "INTO" :: .word table :: .word "VALUES" ::
      enclosed (listed (values.map fun l => [l.lexeme]))

/-- A text is cut into some lexemes, whatever comes after it. -/
def Lexes (cs : List Char) (ls : List Lexeme) : Prop := Cuts lex cs ls

section Lexes

variable {a b : List Char} {ls ms : List Lexeme}

theorem lexes_word {s : String} (hs : isName s = true) : Lexes s.toList [.word s] := by
  intro rest hrest
  refine lex_word hs fun c hc => ?_
  rcases hrest c hc with rfl | rfl | rfl
  · decide
  · decide
  · decide

theorem lexes_literal {l : Literal} (hl : l.Legible) : Lexes l.sql.toList [l.lexeme] := by
  by_cases hnull : l = .null
  · rw [hnull]
    exact lexes_word (s := "NULL") (by decide)
  · have hlexeme : l.lexeme = .token (.literal l) := by
      cases l with
      | null => exact absurd rfl hnull
      | _ => rfl
    intro rest hrest
    obtain ⟨c, cs, hchars, hblank⟩ := exists_cons_chars (t := .literal l) ⟨hnull, hl⟩
    replace hchars : l.sql.toList = c :: cs := hchars
    have hread := readToken_literal hl hnull hrest
    rw [hchars, List.cons_append] at hread
    have hlex : readLexeme (c :: (cs ++ rest)) = some (l.lexeme, rest) := by
      rw [readLexeme, if_neg (by simp [beginsName_of_readToken hread]), hread, hlexeme]
      rfl
    rw [hchars, List.cons_append]
    exact lex_of_readLexeme hblank (by simp) hlex

theorem Lexes.blank (ha : Lexes a ls) (hb : Lexes b ms) : Lexes (a ++ ' ' :: b) (ls ++ ms) :=
  Cuts.blank lex_blank ha hb

theorem lex_comma : CutsMark lex ',' (.token .comma) := fun _ =>
  lex_of_readLexeme (by decide) (Nat.le_refl _) rfl

theorem lex_opening : CutsMark lex '(' (.token .opening) := fun _ =>
  lex_of_readLexeme (by decide) (Nat.le_refl _) rfl

theorem lex_closing : CutsMark lex ')' (.token .closing) := fun _ =>
  lex_of_readLexeme (by decide) (Nat.le_refl _) rfl

theorem Lexes.comma (ha : Lexes a ls) (hb : Lexes b ms) :
    Lexes (a ++ ',' :: ' ' :: b) (ls ++ .token .comma :: ms) :=
  Cuts.comma lex_blank lex_comma ha hb

theorem Lexes.enclosed (ha : Lexes a ls) : Lexes ('(' :: (a ++ [')'])) (enclosed ls) :=
  Cuts.parens lex_opening lex_closing ha

/-- A name ends where a parenthesis is opened. -/
theorem Lexes.called {name : String} (hname : isName name = true) (ha : Lexes a ls) :
    Lexes (name.toList ++ '(' :: (a ++ [')'])) (.word name :: Sql.enclosed ls) := by
  intro rest hrest
  have hpart : isNamePart '(' = false := by decide
  have hword : lex (name.toList ++ ('(' :: (a ++ [')']) ++ rest)) =
      (lex ('(' :: (a ++ [')']) ++ rest)).map (.word name :: ·) :=
    lex_word hname (by simp [hpart])
  rw [List.append_assoc, hword, ha.enclosed rest hrest, Option.map_map]
  rfl

/-- Items with commas between them are cut into what each of them is cut into. -/
theorem lexes_listed {α : Type} {text : α → String} {lexemes : α → List Lexeme} {items : List α}
    (hne : items ≠ []) (h : ∀ x ∈ items, Lexes (text x).toList (lexemes x)) :
    Lexes (", ".intercalate (items.map text)).toList (listed (items.map lexemes)) := by
  induction items with
  | nil => exact absurd rfl hne
  | cons x items ih =>
    have hx := h x (by simp)
    rcases items with _ | ⟨y, items⟩
    · simpa [String.toList_intercalate] using hx
    · have hitems := ih (by simp) fun z hz => h z (List.mem_cons_of_mem _ hz)
      simpa [String.toList_intercalate, List.intercalate_cons_cons] using hx.comma hitems

theorem lexes_column {c : Column} (hc : c.IsPlain) : Lexes c.sql.toList c.lexemes := by
  rw [Column.sql, Column.lexemes]
  split
  · exact lexes_word hc.1
  · next htype =>
    simpa [String.toList_append] using (lexes_word hc.1).blank (lexes_word (hc.2 htype))

/-- **A command is cut into its lexemes.** -/
theorem lexes_command {c : Command} (hc : c.Legible) : Lexes c.sql.toList c.lexemes := by
  have hword : ∀ s, isName s = true → Lexes s.toList [.word s] := fun _ => lexes_word
  cases c with
  | create table =>
    obtain ⟨hname, hne, hcolumns⟩ := hc
    have hlist := lexes_listed hne fun c hc => lexes_column (hcolumns c hc)
    have htext : (Command.create table).sql.toList =
        "CREATE".toList ++ ' ' :: ("TABLE".toList ++ ' ' :: (table.name.toList ++ '(' ::
          ((", ".intercalate (table.columns.map Column.sql)).toList ++ [')']))) := by
      simp [String.toList_append]
    rw [htext]
    exact (hword "CREATE" (by decide)).blank ((hword "TABLE" (by decide)).blank
      (hlist.called hname))
  | insert table values =>
    obtain ⟨hname, hne, hvalues⟩ := hc
    have hlist := lexes_listed hne fun l hl => lexes_literal (hvalues l hl)
    have htext : (Command.insert table values).sql.toList =
        "INSERT".toList ++ ' ' :: ("INTO".toList ++ ' ' :: (table.toList ++ ' ' ::
          ("VALUES".toList ++ ' ' ::
            ('(' :: ((", ".intercalate (values.map Literal.sql)).toList ++ [')']))))) := by
      simp [String.toList_append]
    rw [htext]
    exact (hword "INSERT" (by decide)).blank ((hword "INTO" (by decide)).blank
      ((hword table hname).blank ((hword "VALUES" (by decide)).blank hlist.enclosed)))

end Lexes

/-! ### Reading lexemes -/

theorem literal?_lexeme (l : Literal) : l.lexeme.literal? = some l := by
  cases l <;> rfl

theorem readColumns_comma (c : Column) (ls : List Lexeme) :
    readColumns (c.lexemes ++ .token .comma :: ls) = (readColumns ls).map (c :: ·) := by
  obtain ⟨name, type⟩ := c
  by_cases htype : type = ""
  · simp [Column.lexemes, htype, readColumns]
  · simp [Column.lexemes, htype, readColumns]

theorem readColumns_closing (c : Column) :
    readColumns (c.lexemes ++ [.token .closing]) = some [c] := by
  obtain ⟨name, type⟩ := c
  by_cases htype : type = ""
  · simp [Column.lexemes, htype, readColumns]
  · simp [Column.lexemes, htype, readColumns]

theorem readColumns_listed {columns : List Column} (hne : columns ≠ []) :
    readColumns (listed (columns.map Column.lexemes) ++ [.token .closing]) = some columns := by
  induction columns with
  | nil => exact absurd rfl hne
  | cons c columns ih =>
    rcases columns with _ | ⟨d, columns⟩
    · simp [readColumns_closing]
    · have hcolumns := ih (by simp)
      rw [List.map_cons] at hcolumns
      rw [List.map_cons, List.map_cons, listed_cons_cons, List.append_assoc, List.cons_append,
        readColumns_comma, hcolumns]
      rfl

theorem readValues_listed {values : List Literal} (hne : values ≠ []) :
    readValues (listed (values.map fun l => [l.lexeme]) ++ [.token .closing]) = some values := by
  induction values with
  | nil => exact absurd rfl hne
  | cons l values ih =>
    rcases values with _ | ⟨m, values⟩
    · simp [readValues, literal?_lexeme]
    · have hvalues := ih (by simp)
      rw [List.map_cons] at hvalues
      rw [List.map_cons, List.map_cons, listed_cons_cons, List.append_assoc, List.cons_append,
        List.nil_append, List.cons_append, readValues, literal?_lexeme, hvalues]
      rfl

theorem readCommand_lexemes {c : Command} (hc : c.Legible) : readCommand c.lexemes = some c := by
  cases c with
  | create table =>
    have hcolumns := readColumns_listed hc.2.1
    rw [Command.lexemes, readCommand, if_pos ⟨rfl, rfl⟩, enclosed, readDefinition, hcolumns]
    rfl
  | insert table values =>
    have hvalues := readValues_listed hc.2.1
    rw [Command.lexemes, readCommand, if_neg (by simp), if_pos ⟨rfl, rfl⟩, enclosed, readRow,
      if_pos rfl, hvalues]
    rfl

namespace Command

/-- **A command is read from its text as it was written.** -/
theorem read_sql {c : Command} (hc : c.Legible) : read c.sql = some c := by
  have hlex : lex c.sql.toList = some c.lexemes := by
    have h := lexes_command hc [] ends_nil
    simpa using h
  rw [read, hlex, Option.bind_some, readCommand_lexemes hc]

end Command

end Sql

end Trisect
