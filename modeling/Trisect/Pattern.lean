/-!
# Patterns

A `Trisect.Pattern` is what is left of a written pattern once it has been read: the texts in which
it finds a match. How patterns are written, and what is said about one that cannot be read, is up to
a `Trisect.PatternReader`. A set of expected errors, a dialect, a validation and a session all read
their patterns with the reader at hand, whichever it is. The one that reads regular expressions is
`Trisect.Pattern.regular`.
-/

namespace Trisect

/-- A pattern that has been read. -/
structure Pattern where
  /-- Whether it finds a match somewhere in a text. -/
  occursIn : String → Bool

/-- **A reader of patterns.** -/
class PatternReader where
  /-- The pattern that is written, or the text of what is wrong with it. -/
  compile : String → Except String Pattern

end Trisect
