import Trisect.Document.Toml.Numeral
import Trisect.Document.Toml.Table
import Trisect.Document.Toml.Text

/-!
# Reading TOML

A text in TOML is a sequence of lines: headers of tables, values with their keys, and lines with
nothing but a comment. `Trisect.Toml.readStatements` reads them, and `Trisect.Toml.assemble` builds
the tables. Together they are `Trisect.Document.ofToml?`, which is strict: text that is not TOML 1.0
gives no document.

Every value is longer than its parts, so the length of the text bounds the depth of the recursion;
how deeply lists and tables may be nested within a value is limited besides.
-/

namespace Trisect

namespace Toml

/-- What follows blanks, line ends and comments. A comment has to end before the text does. -/
def skipLines (inComment : Bool) : List Char → Option (List Char)
  | [] => if inComment then none else some []
  | '\n' :: cs => skipLines false cs
  | '\r' :: '\n' :: cs => skipLines false cs
  | c :: cs =>
    if inComment then if isVisible c then skipLines true cs else none
    else if isBlank c then skipLines false cs
    else if c = '#' then skipLines true cs
    else some (c :: cs)

/-- What follows the rest of a line, which holds nothing but blanks and a comment. -/
def endLine (cs : List Char) : Option (List Char) :=
  let cs := skipBlanks cs
  let cs := if cs.head? = some '#' then cs.dropWhile isVisible else cs
  match cs with
  | [] => some []
  | '\n' :: rest => some rest
  | '\r' :: '\n' :: rest => some rest
  | _ => none

/-- A table of which all values are given at once. -/
def inlineTable (fields : List (List String × Document)) : Option Document :=
  (fields.foldlM (fun es field => assign [] field.1 field.2 es) ([] : Entries)).map fun es =>
    .record (fieldsOf es)

mutual

/-- Reads a value in which lists and tables are nested to less than the given depth. -/
def readValue : Nat → Nat → List Char → Option (Document × List Char)
  | 0, _, _ => none
  | _ + 1, _, [] => none
  | _ + 1, _, 't' :: 'r' :: 'u' :: 'e' :: rest => some (.boolean true, rest)
  | _ + 1, _, 'f' :: 'a' :: 'l' :: 's' :: 'e' :: rest => some (.boolean false, rest)
  | fuel + 1, depth, c :: cs =>
    if c = '"' ∨ c = '\x27' then (readText (c :: cs)).map fun (s, rest) => (.text s, rest)
    else if c = '[' then
      match depth with
      | 0 => none
      | depth + 1 => (readItems fuel depth cs).map fun (items, rest) => (.list items, rest)
    else if c = '\x7b' then
      match depth with
      | 0 => none
      | depth + 1 => do
        let (fields, rest) ←
          match skipBlanks cs with
          | '\x7d' :: rest => some ([], rest)
          | cs => readFields fuel depth cs
        return (← inlineTable fields, rest)
    else readScalar (c :: cs)

/-- Reads the items of a list up to the closing bracket. A comma may stand behind the last one. -/
def readItems : Nat → Nat → List Char → Option (List Document × List Char)
  | 0, _, _ => none
  | fuel + 1, depth, cs => do
    match ← skipLines false cs with
    | ']' :: rest => return ([], rest)
    | cs =>
      let (item, cs) ← readValue fuel depth cs
      match ← skipLines false cs with
      | ',' :: cs =>
        let (items, rest) ← readItems fuel depth cs
        return (item :: items, rest)
      | ']' :: rest => return ([item], rest)
      | _ => none

/-- Reads the fields of a table that has at least one, up to the closing brace. They stand on one
line, and no comma stands behind the last one. -/
def readFields : Nat → Nat → List Char → Option (List (List String × Document) × List Char)
  | 0, _, _ => none
  | fuel + 1, depth, cs => do
    let (path, cs) ← readPath cs
    match cs with
    | '=' :: cs =>
      let (value, cs) ← readValue fuel depth (skipBlanks cs)
      match skipBlanks cs with
      | ',' :: cs =>
        let (fields, rest) ← readFields fuel depth cs
        return ((path, value) :: fields, rest)
      | '\x7d' :: rest => return ([(path, value)], rest)
      | _ => none
    | _ => none

end

/-- A line that says something. -/
inductive Statement
  /-- The header of a table. -/
  | header (path : List String)
  /-- The header of the next table of a list. -/
  | nextHeader (path : List String)
  /-- A value with its key. -/
  | assignment (path : List String) (value : Document)

/-- Reads what a line says, up to the rest of the line. -/
def readStatement : List Char → Option (Statement × List Char)
  | '[' :: '[' :: cs => do
    let (path, cs) ← readPath cs
    match cs with
    | ']' :: ']' :: rest => return (.nextHeader path, rest)
    | _ => none
  | '[' :: cs => do
    let (path, cs) ← readPath cs
    match cs with
    | ']' :: rest => return (.header path, rest)
    | _ => none
  | cs => do
    let (path, cs) ← readPath cs
    match cs with
    | '=' :: cs =>
      let (value, rest) ← readValue (cs.length + 1) (nestingLimit - 1) (skipBlanks cs)
      return (.assignment path value, rest)
    | _ => none

/-- Whether a line, after its blanks, says nothing. -/
def isIdle : List Char → Bool
  | c :: _ => c = '\n' || c = '\r' || c = '#'
  | [] => true

/-- Reads all lines. There are at most as many as characters. -/
def readStatements : Nat → List Char → Option (List Statement)
  | 0, _ => none
  | fuel + 1, cs =>
    match skipBlanks cs with
    | [] => some []
    | cs =>
      if isIdle cs then do readStatements fuel (← endLine cs)
      else do
        let (statement, cs) ← readStatement cs
        return statement :: (← readStatements fuel (← endLine cs))

/-- What lines say together. The first argument is the table that was opened last. -/
def assemble : List String → List Statement → Entries → Option Entries
  | _, [], root => some root
  | _, .header path :: rest, root => (declare path root).bind (assemble path rest)
  | _, .nextHeader path :: rest, root => (declareNext path root).bind (assemble path rest)
  | header, .assignment path value :: rest, root =>
    (assign header path value root).bind (assemble header rest)

/-- A text without the mark of byte order that it may begin with. -/
def dropByteOrderMark : List Char → List Char
  | '\ufeff' :: cs => cs
  | cs => cs

end Toml

/-- Reads a text in TOML. -/
def Document.ofToml? (s : String) : Option Document :=
  let cs := Toml.dropByteOrderMark s.toList
  ((Toml.readStatements (cs.length + 1) cs).bind fun lines =>
    Toml.assemble [] lines []).map fun es =>
    .record (Toml.fieldsOf es)

end Trisect
