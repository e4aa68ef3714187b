import Trisect.Text.Hex
import Trisect.Text.Printable

/-!
# Quoted text for readers

Text within a message is put between quotation marks, with an escape for everything that a reader
could not see or would misread: the quotation mark, the backslash, line ends and tabs, and every
character that has no shape of its own or extends the one before it. Apostrophes stay as they are.
-/

namespace Trisect.Text

/-- A character by its code point. -/
def escapeByNumber (c : Char) : List Char :=
  ['\\', 'u', '\x7b'] ++ Hex.ofNat c.toNat ++ ['\x7d']

/-- A character of a quoted text. -/
def quoteChar (c : Char) : List Char :=
  if c = '"' then ['\\', '"']
  else if c = '\\' then ['\\', '\\']
  else if c = '\n' then ['\\', 'n']
  else if c = '\r' then ['\\', 'r']
  else if c = '\t' then ['\\', 't']
  else if c.toNat = 0 then ['\\', '0']
  else if isExtender c || !isPrintable c then escapeByNumber c
  else [c]

/-- A text between quotation marks. -/
def quoted (s : String) : String :=
  String.ofList ('"' :: s.toList.flatMap quoteChar ++ ['"'])

end Trisect.Text
