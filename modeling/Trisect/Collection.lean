import Trisect.Decimal.Plain
import Trisect.ExpectedErrors
import Trisect.Session.State

/-!
# Sending statements to the engine

`Trisect.collect` runs a query and gives the cells of its first column in normal form;
`Trisect.execute` runs a statement for its effect. Both note the statement first. A failure of the
engine is sorted by `Trisect.EngineError.classify`: one that was to be expected only skips the
round.
-/

namespace Trisect

/-- What a failure of the engine over a statement means for the round. -/
def EngineError.classify (sql : String) (errors : ExpectedErrors) : EngineError → OracleError
  | conversion _ => .skip .valueConversion
  | silent => .unexpectedEngineError sql none
  | rejected text =>
    if errors.expects text then .skip .expectedError else .unexpectedEngineError sql (some text)

/-- What the answer to a query means for the round. -/
def collected (sql : String) (errors : ExpectedErrors) :
    Except EngineError QueryOutput → Except OracleError (List Cell)
  | .ok (.rows cells) => .ok (cells.map Cell.normalized)
  | .ok .noResultSet => .error (.skip .noResultSet)
  | .error failure => .error (failure.classify sql errors)

/-- Runs a query and gives the cells of its first column in normal form. -/
def collect (errors : ExpectedErrors) (sql : String) : SessionM (List Cell) := do
  SessionM.recordQuery sql
  SessionM.ofExcept (collected sql errors (← SessionM.ask (.query sql)))

/-- Runs a statement and says whether it succeeded. One that does is kept for the replay; one that
fails as was to be expected is passed over. -/
def execute (errors : ExpectedErrors) (sql : String) : SessionM Bool := do
  SessionM.recordQuery sql
  match ← SessionM.ask (.execute sql) with
  | .ok () =>
    SessionM.recordStatements [sql]
    return true
  | .error failure =>
    match failure.classify sql errors with
    | .skip _ => return false
    | e => throw e

end Trisect
