import Trisect.Document.Json.Numeral
import Trisect.Document.Json.Text

/-!
# Reading JSON

`Trisect.Document.ofJson?` reads a text that holds one JSON value and blanks around it. It is
strict: no comments, no trailing commas, no bare control characters in texts, no leading zeros.
Every value is one character longer than its parts, so the length of the text bounds the depth of
the recursion.
-/

namespace Trisect

namespace Json

/-- Whether a character may stand between the tokens of JSON. -/
def isBlank (c : Char) : Bool := c = ' ' || c = '\n' || c = '\t' || c = '\r'

/-- What follows the leading blanks. -/
def skipBlanks (cs : List Char) : List Char := cs.dropWhile isBlank

/-- A record, which has no meaning if one of its keys has none. -/
def makeRecord (fields : List (Option String × Document)) : Document :=
  if fields.all (·.1.isSome) then .record (fields.map fun f => (f.1.getD "", f.2)) else .meaningless

mutual

/-- Reads a value after its leading blanks. -/
def readValue : Nat → List Char → Option (Document × List Char)
  | 0, _ => none
  | _ + 1, [] => none
  | _ + 1, 'n' :: 'u' :: 'l' :: 'l' :: rest => some (.null, rest)
  | _ + 1, 't' :: 'r' :: 'u' :: 'e' :: rest => some (.boolean true, rest)
  | _ + 1, 'f' :: 'a' :: 'l' :: 's' :: 'e' :: rest => some (.boolean false, rest)
  | _ + 1, '"' :: rest =>
    (readText rest).map fun (s, rest) => (s.elim .meaningless .text, rest)
  | fuel + 1, '[' :: rest =>
    match skipBlanks rest with
    | ']' :: rest => some (.list [], rest)
    | rest => (readItems fuel rest).map fun (items, rest) => (.list items, rest)
  | fuel + 1, '{' :: rest =>
    match skipBlanks rest with
    | '}' :: rest => some (.record [], rest)
    | rest => (readFields fuel rest).map fun (fields, rest) => (makeRecord fields, rest)
  | _ + 1, cs => readNumber cs

/-- Reads the items of a list that has at least one, up to the closing bracket. -/
def readItems : Nat → List Char → Option (List Document × List Char)
  | 0, _ => none
  | fuel + 1, cs => do
    let (item, cs) ← readValue fuel (skipBlanks cs)
    match skipBlanks cs with
    | ']' :: rest => return ([item], rest)
    | ',' :: rest =>
      let (items, rest) ← readItems fuel rest
      return (item :: items, rest)
    | _ => none

/-- Reads the fields of a record that has at least one, up to the closing brace. -/
def readFields : Nat → List Char → Option (List (Option String × Document) × List Char)
  | 0, _ => none
  | fuel + 1, cs =>
    match skipBlanks cs with
    | '"' :: cs => do
      let (key, cs) ← readText cs
      match skipBlanks cs with
      | ':' :: cs =>
        let (value, cs) ← readValue fuel (skipBlanks cs)
        match skipBlanks cs with
        | '}' :: rest => return ([(key, value)], rest)
        | ',' :: rest =>
          let (fields, rest) ← readFields fuel rest
          return ((key, value) :: fields, rest)
        | _ => none
      | _ => none
    | _ => none

end

/-- Reads a value with blanks around it. -/
def readDocument (cs : List Char) : Option Document :=
  match readValue (cs.length + 1) (skipBlanks cs) with
  | some (d, rest) => if (skipBlanks rest).isEmpty then some d else none
  | none => none

end Json

/-- Reads a JSON text. -/
def Document.ofJson? (s : String) : Option Document := Json.readDocument s.toList

end Trisect
