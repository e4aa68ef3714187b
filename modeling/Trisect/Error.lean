import Trisect.Report

/-!
# Why a round or a session ends early

A round that reaches no verdict ends in an `Trisect.OracleError`, which says why. One kind of them
is not a failure: a **skip** says that the round was inconclusive and the session goes on with the
next, for the reason in its `Trisect.SkipReason`. Every other error is fatal, a logic bug included.

Errors are kept as causes; `Trisect.OracleError.message` is their only wording.
-/

namespace Trisect

/-- Why a round was given up without a verdict. -/
inductive SkipReason
  /-- A statement had no result set. -/
  | noResultSet
  /-- The engine failed with one of the messages that were expected. -/
  | expectedError
  /-- A value of the result could not be converted. -/
  | valueConversion
  /-- There is no table to select from. -/
  | emptySchema
  /-- The shape at hand cannot be partitioned. -/
  | inapplicableShape
  deriving DecidableEq, Inhabited

namespace SkipReason

/-- The name of a reason in messages, counters and documents. -/
def tag : SkipReason → String
  | noResultSet => "no_result_set"
  | expectedError => "expected_error"
  | valueConversion => "value_conversion"
  | emptySchema => "empty_schema"
  | inapplicableShape => "inapplicable_shape"

/-- All reasons. -/
def all : List SkipReason :=
  [noResultSet, expectedError, valueConversion, emptySchema, inapplicableShape]

theorem mem_all (r : SkipReason) : r ∈ all := by cases r <;> decide

/-- Two reasons with the same tag are the same. -/
theorem tag_injective {r s : SkipReason} (h : r.tag = s.tag) : r = s := by
  cases r <;> cases s <;> first | rfl | exact absurd h (by decide)

end SkipReason

/-- A failure of the file system, or of what stands in for it. -/
inductive IoError
  | notFound
  | alreadyExists
  | notADirectory
  | isADirectory
  | nameTooLong
  | zeroByteInName
  /-- A failure that comes with a text of its own. -/
  | other (text : String)
  deriving DecidableEq

/-- The text of a file system failure. -/
def IoError.message : IoError → String
  | notFound => "No such file or directory (os error 2)"
  | alreadyExists => "File exists (os error 17)"
  | notADirectory => "Not a directory (os error 20)"
  | isADirectory => "Is a directory (os error 21)"
  | nameTooLong => "File name too long (os error 36)"
  | zeroByteInName => "file name contained an unexpected NUL byte"
  | other text => text

/-- Why a round or a session ended without passing. -/
inductive OracleError
  /-- The round is inconclusive. -/
  | skip (reason : SkipReason)
  /-- Two equivalent executions disagreed. -/
  | logicBug (report : BugReport)
  /-- The engine failed with a message that was not expected, or with none. -/
  | unexpectedEngineError (query : String) (text : Option String)
  /-- An argument is missing or malformed. -/
  | invalidArgument (detail : String)
  /-- The configuration cannot be read or is not valid. -/
  | config (detail : String)
  /-- The engine failed outside a round. -/
  | engine (detail : String)
  /-- A log or a file could not be written. -/
  | io (cause : IoError)
  /-- The library broke a promise to itself. -/
  | internal (detail : String)
  deriving DecidableEq

namespace OracleError

/-- The wording of an error. -/
def message : OracleError → String
  | skip reason => "round skipped: " ++ reason.tag
  | logicBug report => "logic bug: " ++ report.display
  | unexpectedEngineError query text =>
    "unexpected engine error for `" ++ query ++ "`: " ++ text.getD "<no message>"
  | invalidArgument detail => "invalid argument: " ++ detail
  | config detail => "configuration error: " ++ detail
  | engine detail => "engine error: " ++ detail
  | io cause => "I/O error: " ++ cause.message
  | internal detail => "internal error: " ++ detail

/-- The reason, if the error is a skip. -/
def skipReason? : OracleError → Option SkipReason
  | skip reason => some reason
  | _ => none

/-- Whether the error only skips the round. -/
def isSkip (e : OracleError) : Bool := e.skipReason?.isSome

/-- Whether the error is a logic bug. -/
def isLogicBug : OracleError → Bool
  | logicBug _ => true
  | _ => false

/-- Whether the error ends the session: all but a skip do. -/
def isFatal (e : OracleError) : Bool := !e.isSkip

end OracleError

end Trisect
