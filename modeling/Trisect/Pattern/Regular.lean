import Trisect.Pattern
import Trisect.Pattern.Meaning
import Trisect.Pattern.Parsing

/-!
# Regular expressions

The patterns of `Trisect.Pattern.regular` are regular expressions. One cannot be used for one of two
reasons: its written form is not right, or the machine for it would be too large. In which way a
form is not right is left unsaid.

The notation has literals, alternation, groups, greedy and reluctant repetition (which make no
difference to whether a match exists), classes with nesting and set operations, classes of
characters with a property of Unicode, anchors and word boundaries, and flags. There is neither
look-around nor reference to groups, so that a search takes one pass over the expression.
-/

namespace Trisect.Pattern

/-- Why a regular expression cannot be used. -/
inductive Fault
  /-- The written form is not right. -/
  | malformed
  /-- The machine for it would be too large. -/
  | tooLarge
  deriving DecidableEq

/-- The wording of a fault. -/
def Fault.message : Fault → String
  | malformed => "regex parse error"
  | tooLarge =>
    "Compiled regex exceeds size limit of " ++ toString sizeLimit ++ " bytes."

/-- Whether some part of a text has a meaning. -/
def Meaning.occursIn (meaning : Meaning) (s : String) : Bool :=
  let cs := s.toList
  let resolved := meaning.resolve
    (fun a => positions (cs.map a.contains))
    (fun a => positions (assertionFlags a none cs))
  resolved.advance cs.length (Nat.pow 2 (cs.length + 1) - 1) != 0

/-- The meaning of a regular expression, if it can be used. -/
def meaningOf (source : String) : Except Fault Meaning :=
  match (parse? source).bind Ast.meaning? with
  | none => .error .malformed
  | some meaning => if meaning.size ≤ sizeLimit then .ok meaning else .error .tooLarge

/-- The reader of regular expressions, for those who open the namespace. -/
scoped instance regular : PatternReader where
  compile source :=
    match meaningOf source with
    | .ok meaning => .ok ⟨meaning.occursIn⟩
    | .error fault => .error fault.message

end Trisect.Pattern
