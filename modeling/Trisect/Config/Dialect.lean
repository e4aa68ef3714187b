import Trisect.ExpectedErrors

/-!
# Dialects

A `Trisect.Dialect` says what an engine accepts and which of its messages are benign. The dialect of
SQLite, `Trisect.Dialect.sqlite`, is the one that a configuration starts from.
-/

namespace Trisect

/-- What is particular to an engine. -/
structure Dialect where
  name : String
  /-- Whether the engine takes `q1 UNION q2 UNION q3` to eliminate duplicates. -/
  bareUnion : Bool
  /-- Whether the engine takes `UNION ALL` between queries that order their rows. -/
  unionAllInOrderByContext : Bool
  /-- Whether the sign of a zero is dropped before cells are compared. -/
  canonicalizeNegativeZero : Bool
  /-- Texts that occur in benign messages. -/
  expectedErrors : List String
  /-- Patterns that occur in benign messages. -/
  expectedErrorPatterns : List String
  deriving DecidableEq

namespace Dialect

/-- The dialect of SQLite. -/
def sqlite : Dialect where
  name := "sqlite"
  bareUnion := true
  unionAllInOrderByContext := false
  canonicalizeNegativeZero := true
  expectedErrors := [
    "misuse of aggregate",
    "misuse of window function",
    "integer overflow",
    "ambiguous column name",
    "GROUP BY term out of range",
    "ORDER BY term out of range",
    "a GROUP BY clause is required before HAVING",
    "HAVING clause on a non-aggregate query",
    "aggregate functions are not allowed in the GROUP BY clause",
    "Expression tree is too large",
    "parser stack overflow",
    "string or blob too big",
    "too many terms in compound SELECT",
    "wrong number of arguments to function"]
  expectedErrorPatterns := ["no such (table|column|function)"]

/-- The matchers of a dialect in their written form. -/
def matchers (d : Dialect) : MatcherList := ⟨d.expectedErrors, d.expectedErrorPatterns⟩

/-- The messages that are benign in a dialect. -/
def errors [PatternReader] (d : Dialect) : Except OracleError ExpectedErrors :=
  ExpectedErrors.ofMatchers d.matchers

end Dialect

end Trisect
