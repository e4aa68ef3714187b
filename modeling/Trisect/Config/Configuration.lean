import Trisect.Config.Options
import Trisect.Text.Blank

/-!
# Configurations

A `Trisect.Configuration` is the options of a session together with a dialect. `validate` accepts it
only if nothing in it can keep a session from running: names are not blank, counts are not zero,
some oracle takes turns, and the matchers of the dialect can be read. The first thing that is wrong
is reported.
-/

namespace Trisect

/-- The options of a session and the dialect of the engine. -/
structure Configuration where
  session : SessionOptions := {}
  dialect : Dialect := Dialect.sqlite
  deriving DecidableEq

namespace Configuration

/-- An error unless a condition holds. -/
def require (condition : Bool) (detail : String) : Except OracleError Unit :=
  if condition then .ok () else .error (.config detail)

/-- Accepts a configuration, or says what is wrong with it first. -/
def validate [PatternReader] (c : Configuration) : Except OracleError Unit := do
  require (!Text.isAllBlank c.session.databaseName) "session.database_name must be non-empty"
  require (!c.session.oracles.isEmpty) "session.oracles must name at least one oracle"
  require (c.session.sessions != 0) "session.sessions must be at least 1"
  require (c.session.tables != 0) "session.tables must be at least 1"
  require (c.session.maxExpressionDepth != 0) "session.max_expression_depth must be at least 1"
  require (!Text.isAllBlank c.dialect.name) "dialect.name must be non-empty"
  match c.dialect.errors with
  | .ok _ => .ok ()
  | .error e => .error (.config ("dialect expected errors: " ++ e.message))

end Configuration

end Trisect
