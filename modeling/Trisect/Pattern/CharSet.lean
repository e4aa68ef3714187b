import Trisect.Text.Blank
import Trisect.Text.CaseFolding
import Trisect.Text.Letters

/-!
# Sets of characters

A pattern tests single characters against sets that it builds from ranges and from the classes of
digits, blanks and word characters, by union, intersection, difference, complement, and by closing a
set under changes of case. `Trisect.Pattern.CharSet` is such a set as it was built;
`Trisect.Pattern.CharSet.contains` decides membership.
-/

namespace Trisect.Pattern

/-- A set of characters. -/
inductive CharSet
  | empty
  /-- The characters from the first to the last, both included. -/
  | range (first last : Char)
  /-- The characters whose code points lie in a table. -/
  | table (ranges : Text.RangeTable)
  /-- Decimal digits of any script. -/
  | digit
  /-- Blanks of any script. -/
  | space
  /-- Characters of words of any script. -/
  | word
  | union (a b : CharSet)
  | inter (a b : CharSet)
  | diff (a b : CharSet)
  | symmDiff (a b : CharSet)
  | complement (a : CharSet)
  /-- The characters that are the same as a member but for case. -/
  | anyCase (a : CharSet)
  /-- The characters that are the same as a member but for the case of the letters from A to Z. -/
  | anyAsciiCase (a : CharSet)

namespace CharSet

/-- The two cases of a letter from A to Z. -/
def asciiVariants (c : Char) : List Char := [c, c.toLower, c.toUpper]

/-- Whether a character is a member. -/
def contains : CharSet → Char → Bool
  | empty, _ => false
  | range first last, c => first ≤ c && c ≤ last
  | table ranges, c => Text.inRanges c.toNat ranges
  | digit, c => Text.isDecimalDigit c
  | space, c => Text.isBlank c
  | word, c => Text.isWord c
  | union a b, c => a.contains c || b.contains c
  | inter a b, c => a.contains c && b.contains c
  | diff a b, c => a.contains c && !b.contains c
  | symmDiff a b, c => a.contains c != b.contains c
  | complement a, c => !a.contains c
  | anyCase a, c => (Text.caseVariants c).any fun d => a.contains d
  | anyAsciiCase a, c => (asciiVariants c).any fun d => a.contains d

/-- A single character. -/
def single (c : Char) : CharSet := range c c

/-- A set or, if `negated`, its complement. -/
def signed (negated : Bool) (a : CharSet) : CharSet := if negated then complement a else a

/-- Roughly how many states a machine takes that reads the bytes of a member. -/
def weight : CharSet → Nat
  | empty => 1
  | range first last =>
    if last.toNat < 128 then 1 else if first = last then first.utf8Size else 6
  | table ranges => 1 + ranges.length / 4
  | digit => 162
  | space => 21
  | word => 1572
  | union a b | inter a b | diff a b | symmDiff a b => a.weight + b.weight
  | complement a => a.weight + 30
  | anyCase a | anyAsciiCase a => 2 * a.weight

end CharSet

end Trisect.Pattern
