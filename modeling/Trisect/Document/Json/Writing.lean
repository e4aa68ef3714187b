import Trisect.Document.Json.Numeral
import Trisect.Document.Json.Text

/-!
# Writing JSON

A document is written in one of two layouts. `Trisect.Document.compact` puts no blank between
tokens. `Trisect.Document.pretty` gives every item and every field a line of its own, indented by
two spaces for each list and record around it; a list or record without any stays closed, `[]`.
Fractions and nodes without a meaning are written as `null`; no value of this library holds them.
-/

namespace Trisect

namespace Json

mutual

/-- A value without any blanks. -/
def writeCompact : Document → List Char
  | .null => ['n', 'u', 'l', 'l']
  | .boolean true => ['t', 'r', 'u', 'e']
  | .boolean false => ['f', 'a', 'l', 's', 'e']
  | .number n => writeNumber n
  | .text s => quote s.toList
  | .list [] => ['[', ']']
  | .list (d :: ds) => '[' :: writeCompact d ++ compactItems ds
  | .record [] => ['{', '}']
  | .record ((k, d) :: fs) => '{' :: quote k.toList ++ ':' :: writeCompact d ++ compactFields fs
  | .fraction => ['n', 'u', 'l', 'l']
  | .meaningless => ['n', 'u', 'l', 'l']

/-- The items after the first, and the closing bracket. -/
def compactItems : List Document → List Char
  | [] => [']']
  | d :: ds => ',' :: writeCompact d ++ compactItems ds

/-- The fields after the first, and the closing brace. -/
def compactFields : List (String × Document) → List Char
  | [] => ['}']
  | (k, d) :: fs => ',' :: quote k.toList ++ ':' :: writeCompact d ++ compactFields fs

end

/-- The start of a line at a nesting level. -/
def newLine (level : Nat) : List Char := '\n' :: List.replicate (2 * level) ' '

mutual

/-- A value whose lines, the first apart, are indented for a nesting level. -/
def writePretty (level : Nat) : Document → List Char
  | .null => ['n', 'u', 'l', 'l']
  | .boolean true => ['t', 'r', 'u', 'e']
  | .boolean false => ['f', 'a', 'l', 's', 'e']
  | .number n => writeNumber n
  | .text s => quote s.toList
  | .list [] => ['[', ']']
  | .list (d :: ds) =>
    '[' :: newLine (level + 1) ++ writePretty (level + 1) d ++ prettyItems level ds
  | .record [] => ['{', '}']
  | .record ((k, d) :: fs) =>
    '{' :: newLine (level + 1) ++ quote k.toList ++ ':' :: ' ' :: writePretty (level + 1) d ++
      prettyFields level fs
  | .fraction => ['n', 'u', 'l', 'l']
  | .meaningless => ['n', 'u', 'l', 'l']

/-- The items after the first, and the closing bracket. -/
def prettyItems (level : Nat) : List Document → List Char
  | [] => newLine level ++ [']']
  | d :: ds => ',' :: newLine (level + 1) ++ writePretty (level + 1) d ++ prettyItems level ds

/-- The fields after the first, and the closing brace. -/
def prettyFields (level : Nat) : List (String × Document) → List Char
  | [] => newLine level ++ ['}']
  | (k, d) :: fs =>
    ',' :: newLine (level + 1) ++ quote k.toList ++ ':' :: ' ' :: writePretty (level + 1) d ++
      prettyFields level fs

end

end Json

/-- The JSON text of a document without blanks. -/
def Document.compact (d : Document) : String := String.ofList (Json.writeCompact d)

/-- The JSON text of a document over indented lines. -/
def Document.pretty (d : Document) : String := String.ofList (Json.writePretty 0 d)

end Trisect
