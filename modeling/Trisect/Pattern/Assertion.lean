import Trisect.Text.Letters

/-!
# Assertions about positions

Some parts of a pattern consume nothing but hold only at certain positions of the text: its ends,
the ends of its lines, and the boundaries of its words. `Trisect.Pattern.Assertion.holds` decides
whether one holds between the character before a position and the one behind it.
-/

namespace Trisect.Pattern

/-- Where a word may begin or end. -/
inductive WordPlace
  /-- Between a character of a word and one that is not, in either order. -/
  | boundary
  /-- Between two characters of words, or between two that are not. -/
  | inside
  | start
  | finish
  /-- Behind a character that is not one of a word. -/
  | startHalf
  /-- Before a character that is not one of a word. -/
  | finishHalf
  deriving DecidableEq

/-- A condition on a position. -/
inductive Assertion
  | textStart
  | textEnd
  | lineStart
  | lineEnd
  /-- The start of a line where a line ends with a line feed, a carriage return or both. -/
  | lineStartAnyEnd
  /-- The end of a line where a line ends with a line feed, a carriage return or both. -/
  | lineEndAnyEnd
  /-- A place relative to words; `ascii` says that only the letters from A to Z, the ten digits and
  the low line make words. -/
  | word (place : WordPlace) (ascii : Bool)
  deriving DecidableEq

/-- Whether a character is a letter from A to Z, one of the ten digits or the low line. -/
def isAsciiWord (c : Char) : Bool := c.isAlphanum || c = '_'

namespace Assertion

/-- Whether a neighbour of a position is part of a word. -/
def isWordChar (ascii : Bool) : Option Char → Bool
  | none => false
  | some c => if ascii then isAsciiWord c else Text.isWord c

/-- Whether an assertion holds between two neighbours, `none` being an end of the text. -/
def holds (before after : Option Char) : Assertion → Bool
  | textStart => before.isNone
  | textEnd => after.isNone
  | lineStart => before.isNone || before == some '\n'
  | lineEnd => after.isNone || after == some '\n'
  | lineStartAnyEnd =>
    before.isNone || before == some '\n' || (before == some '\r' && after != some '\n')
  | lineEndAnyEnd =>
    after.isNone || after == some '\r' || (after == some '\n' && before != some '\r')
  | word place ascii =>
    let b := isWordChar ascii before
    let a := isWordChar ascii after
    match place with
    | .boundary => b != a
    | .inside => b == a
    | .start => !b && a
    | .finish => b && !a
    | .startHalf => !b
    | .finishHalf => !a

end Assertion

/-- For every position of a text, in order, whether an assertion holds there. -/
def assertionFlags (a : Assertion) : Option Char → List Char → List Bool
  | before, [] => [a.holds before none]
  | before, c :: cs => a.holds before (some c) :: assertionFlags a (some c) cs

end Trisect.Pattern
