import Trisect.Pattern.CharSet
import Trisect.Text.Categories
import Trisect.Text.Scripts

/-!
# Properties of characters

A pattern may ask for the characters with a property of Unicode. The property is given by a name of
its own, as in `Greek` or `Lu`, or as the value of one of the two properties that sort characters
into kinds, as in `Script=Greek` or `gc=Lu`. Names are the same if they differ only in case, in what
stands between their words, and in a leading `is` (`Trisect.Pattern.looseName`).

Known are the general categories with their groups, the scripts, and of the properties that a
character has or has not, those of being alphabetic, blank, or in one of the two cases.
-/

namespace Trisect.Pattern

namespace CharSet

/-- The characters that lie in one of several tables. -/
def ofTables (tables : List Text.RangeTable) : CharSet :=
  tables.foldr (fun ranges a => union (table ranges) a) empty

/-- The letters that come in pairs, or have a form for titles. -/
def casedLetter : CharSet :=
  ofTables [Text.uppercaseLetterRanges, Text.lowercaseLetterRanges, Text.titlecaseLetterRanges]

/-- The letters. -/
def letter : CharSet :=
  union casedLetter (ofTables [Text.modifierLetterRanges, Text.otherLetterRanges])

/-- The marks. -/
def mark : CharSet :=
  ofTables [Text.nonspacingMarkRanges, Text.spacingMarkRanges, Text.enclosingMarkRanges]

/-- The numbers. -/
def number : CharSet := union digit (ofTables [Text.letterNumberRanges, Text.otherNumberRanges])

/-- The punctuation. -/
def punctuation : CharSet :=
  ofTables [Text.connectorRanges, Text.dashRanges, Text.openingRanges, Text.closingRanges,
    Text.initialQuoteRanges, Text.finalQuoteRanges, Text.otherPunctuationRanges]

/-- The symbols. -/
def symbol : CharSet :=
  ofTables [Text.mathSymbolRanges, Text.currencyRanges, Text.modifierSymbolRanges,
    Text.otherSymbolRanges]

/-- The separators: the spaces, and the one character each between lines and paragraphs. -/
def separator : CharSet := ofTables [Text.spaceSeparatorRanges, [(0x2028, 0x2029)]]

/-- The control characters. -/
def control : CharSet := table [(0, 0x1f), (0x7f, 0x9f)]

/-- The characters that are left to private agreement. -/
def privateUse : CharSet :=
  table [(0xe000, 0xf8ff), (0xf0000, 0xffffd), (0x100000, 0x10fffd)]

/-- The characters that mean something, if only by private agreement. -/
def assigned : CharSet :=
  [letter, mark, number, punctuation, symbol, separator, control, table Text.formatRanges,
    privateUse].foldr union empty

end CharSet

/-! ### Names -/

/-- What is left of a name when it is compared: no leading `is`, no blanks, hyphens and low lines,
and nothing outside ASCII; and capital letters are made small. -/
def looseName (name : List Char) : String :=
  let marked := name.take 2 |>.map Char.toLower |> (· = ['i', 's'])
  let kept := (if marked then name.drop 2 else name).filter fun c =>
    c ≠ ' ' && c ≠ '_' && c ≠ '-' && c.toNat < 128
  -- the two letters belong to the one name that would otherwise be that of a category
  if marked && kept = ['c'] then "isc" else String.ofList (kept.map Char.toLower)

/-- The characters of a general category, of a group of them, or of all. -/
def category? : String → Option CharSet
  | "any" => some (.table [(0, 0x10ffff)])
  | "ascii" => some (.table [(0, 0x7f)])
  | "assigned" => some .assigned
  | "l" | "letter" => some .letter
  | "lc" | "casedletter" => some .casedLetter
  | "lu" | "uppercaseletter" => some (.table Text.uppercaseLetterRanges)
  | "ll" | "lowercaseletter" => some (.table Text.lowercaseLetterRanges)
  | "lt" | "titlecaseletter" => some (.table Text.titlecaseLetterRanges)
  | "lm" | "modifierletter" => some (.table Text.modifierLetterRanges)
  | "lo" | "otherletter" => some (.table Text.otherLetterRanges)
  | "m" | "mark" | "combiningmark" => some .mark
  | "mn" | "nonspacingmark" => some (.table Text.nonspacingMarkRanges)
  | "mc" | "spacingmark" => some (.table Text.spacingMarkRanges)
  | "me" | "enclosingmark" => some (.table Text.enclosingMarkRanges)
  | "n" | "number" => some .number
  | "nd" | "decimalnumber" | "digit" => some .digit
  | "nl" | "letternumber" => some (.table Text.letterNumberRanges)
  | "no" | "othernumber" => some (.table Text.otherNumberRanges)
  | "p" | "punctuation" | "punct" => some .punctuation
  | "pc" | "connectorpunctuation" => some (.table Text.connectorRanges)
  | "pd" | "dashpunctuation" => some (.table Text.dashRanges)
  | "ps" | "openpunctuation" => some (.table Text.openingRanges)
  | "pe" | "closepunctuation" => some (.table Text.closingRanges)
  | "pi" | "initialpunctuation" => some (.table Text.initialQuoteRanges)
  | "pf" | "finalpunctuation" => some (.table Text.finalQuoteRanges)
  | "po" | "otherpunctuation" => some (.table Text.otherPunctuationRanges)
  | "s" | "symbol" => some .symbol
  | "sm" | "mathsymbol" => some (.table Text.mathSymbolRanges)
  | "sc" | "currencysymbol" => some (.table Text.currencyRanges)
  | "sk" | "modifiersymbol" => some (.table Text.modifierSymbolRanges)
  | "so" | "othersymbol" => some (.table Text.otherSymbolRanges)
  | "z" | "separator" => some .separator
  | "zs" | "spaceseparator" => some (.table Text.spaceSeparatorRanges)
  | "zl" | "lineseparator" => some (.single '\u2028')
  | "zp" | "paragraphseparator" => some (.single '\u2029')
  | "c" | "other" =>
    some (.union (.complement .assigned) (.union (.table Text.formatRanges)
      (.union .control .privateUse)))
  | "cc" | "control" | "cntrl" => some .control
  | "cf" | "format" => some (.table Text.formatRanges)
  | "cn" | "unassigned" => some (.complement .assigned)
  | "co" | "privateuse" => some .privateUse
  | _ => none

/-- The characters of a script. -/
def script? (name : String) : Option CharSet :=
  (Text.scripts.find? fun s => s.1.contains name).map fun s => .table s.2

/-- The characters that have a property which others have not. -/
def binary? : String → Option CharSet
  | "alphabetic" | "alpha" => some (.table Text.alphabeticRanges)
  | "whitespace" | "wspace" | "space" => some .space
  | "uppercase" | "upper" =>
    some (.ofTables [Text.uppercaseLetterRanges, Text.otherUppercaseRanges])
  | "lowercase" | "lower" =>
    some (.ofTables [Text.lowercaseLetterRanges, Text.otherLowercaseRanges])
  | _ => none

/-- The characters with a property that is given by a name alone. -/
def property? (name : List Char) : Option CharSet :=
  let name := looseName name
  binary? name <|> category? name <|> script? name

/-- The characters for which a property has a value. -/
def propertyValue? (name value : List Char) : Option CharSet :=
  match looseName name with
  | "generalcategory" | "gc" => category? (looseName value)
  | "script" | "sc" => script? (looseName value)
  | _ => none

end Trisect.Pattern
