import Trisect.Error
import Trisect.Pattern
import Trisect.Text.Occurrence
import Trisect.Text.Quoted

/-!
# Expected errors

Engines refuse much randomly made SQL for reasons that have nothing to do with logic bugs. A
`Trisect.ExpectedErrors` says which of their messages are of that kind: those that contain one of
its literals, or in which one of its patterns occurs (`Trisect.ExpectedErrors.expects`). Matchers
can be added but not taken away. An empty matcher is refused, since it would expect every message,
and so is a pattern that the reader of patterns cannot read.
-/

namespace Trisect

/-- Matchers for the messages that do not count as failures. -/
structure ExpectedErrors where
  /-- The literals, each once. -/
  literals : List String := []
  /-- The patterns, as often as they were added. -/
  patterns : List Pattern := []

/-- The written form of a set of matchers. -/
structure MatcherList where
  literals : List String := []
  patterns : List String := []
  deriving DecidableEq

namespace MatcherList

/-- The list with further literals. -/
def withLiterals (literals : List String) (m : MatcherList) : MatcherList :=
  { m with literals := m.literals ++ literals }

/-- The list with further patterns. -/
def withPatterns (patterns : List String) (m : MatcherList) : MatcherList :=
  { m with patterns := m.patterns ++ patterns }

end MatcherList

namespace ExpectedErrors

/-- The set without matchers. -/
def empty : ExpectedErrors := {}

instance : EmptyCollection ExpectedErrors := ⟨empty⟩

instance : Inhabited ExpectedErrors := ⟨empty⟩

/-- Puts a literal into a list, unless it is there already. -/
def addTo (literal : String) (literals : List String) : List String :=
  if literal ∈ literals then literals else literals ++ [literal]

/-- What is wrong with a literal, if anything is. -/
def literalFault? (literal : String) : Option OracleError :=
  if literal.isEmpty then some (.invalidArgument "expected-error literal must be non-empty")
  else none

/-- The error for a pattern that cannot be used. -/
def patternError (source fault : String) : OracleError :=
  .invalidArgument ("bad expected-error pattern " ++ Text.quoted source ++ ": " ++ fault)

/-- Adds a literal. -/
def addLiteral (errors : ExpectedErrors) (literal : String) : Except OracleError ExpectedErrors :=
  match literalFault? literal with
  | some fault => .error fault
  | none => .ok { errors with literals := addTo literal errors.literals }

/-- Reads a pattern. -/
def compilePattern [PatternReader] (source : String) : Except OracleError Pattern :=
  if source.isEmpty then .error (.invalidArgument "expected-error pattern must be non-empty")
  else
    match PatternReader.compile source with
    | .ok p => .ok p
    | .error fault => .error (patternError source fault)

/-- Adds a pattern that has been read. -/
def addCompiled (errors : ExpectedErrors) (p : Pattern) : ExpectedErrors :=
  { errors with patterns := errors.patterns ++ [p] }

/-- Adds a pattern in its written form. -/
def addPattern [PatternReader] (errors : ExpectedErrors) (source : String) :
    Except OracleError ExpectedErrors :=
  match compilePattern source with
  | .ok p => .ok (errors.addCompiled p)
  | .error fault => .error fault

/-- Adds the members of a list one by one, up to the first that is refused. The answer is the set
with what was added, together with the error that stopped it, if one did. -/
def addAll (add : ExpectedErrors → String → Except OracleError ExpectedErrors)
    (errors : ExpectedErrors) : List String → ExpectedErrors × Except OracleError Unit
  | [] => (errors, .ok ())
  | m :: ms =>
    match add errors m with
    | .ok errors => addAll add errors ms
    | .error fault => (errors, .error fault)

/-- Adds literals, up to the first that is refused. -/
def extendLiterals (errors : ExpectedErrors) (literals : List String) :
    ExpectedErrors × Except OracleError Unit :=
  addAll addLiteral errors literals

/-- Adds patterns, up to the first that is refused. -/
def extendPatterns [PatternReader] (errors : ExpectedErrors) (patterns : List String) :
    ExpectedErrors × Except OracleError Unit :=
  addAll addPattern errors patterns

/-- Adds literals and then patterns, up to the first that is refused. -/
def extend [PatternReader] (errors : ExpectedErrors) (matchers : MatcherList) :
    ExpectedErrors × Except OracleError Unit :=
  match errors.extendLiterals matchers.literals with
  | (errors, .ok ()) => errors.extendPatterns matchers.patterns
  | (errors, .error fault) => (errors, .error fault)

/-- The set of the given matchers. -/
def ofMatchers [PatternReader] (matchers : MatcherList) : Except OracleError ExpectedErrors :=
  match empty.extend matchers with
  | (errors, .ok ()) => .ok errors
  | (_, .error fault) => .error fault

/-- The matchers of two sets. -/
def merge (a b : ExpectedErrors) : ExpectedErrors :=
  ⟨b.literals.foldl (fun literals l => addTo l literals) a.literals, a.patterns ++ b.patterns⟩

/-- Whether a message is expected. -/
def expects (errors : ExpectedErrors) (message : String) : Bool :=
  errors.literals.any (fun l => Text.occursIn l.toList message.toList) ||
    errors.patterns.any (fun p => p.occursIn message)

/-- Whether a message is expected; there has to be one. -/
def classify (errors : ExpectedErrors) : Option String → Except OracleError Bool
  | some message => .ok (errors.expects message)
  | none => .error (.invalidArgument "error message to classify must be present")

/-- The number of matchers. -/
def size (errors : ExpectedErrors) : Nat := errors.literals.length + errors.patterns.length

/-- Whether there are no matchers. -/
def isEmpty (errors : ExpectedErrors) : Bool := errors.literals.isEmpty && errors.patterns.isEmpty

end ExpectedErrors

end Trisect
