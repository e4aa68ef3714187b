import Trisect.Document.Configuration
import Trisect.Document.Toml.Reading
import Trisect.Storage.FileSystem

/-!
# Loading configurations

A configuration is kept in a file in TOML. What is loaded is validated, so that whoever holds a
loaded configuration can run a session with it. If a text is not TOML, or not a configuration, then
what is wrong with it is worded by the reader of TOML, of which nothing more is known here.
-/

namespace Trisect

namespace Configuration

/-- Reads and validates a configuration, where `explain` says what is wrong with a text that cannot
be read. -/
def ofToml [PatternReader] (explain : String → String) (s : String) :
    Except OracleError Configuration :=
  match (Document.ofToml? s).bind (ofDocument? .toml) with
  | none => .error (.config ("config_parse_failed error=" ++ explain s))
  | some c => c.validate.map fun _ => c

/-- The error of a file that cannot be read. -/
def readFailure (path detail : String) : OracleError :=
  .config ("config_read_failed path=" ++ path ++ " error=" ++ detail)

/-- Reads and validates the configuration that a file holds. -/
def load [PatternReader] (explain : String → String) (path : String) (fs : FileSystem) :
    Except OracleError Configuration :=
  match fs.readFile path with
  | .error e => .error (readFailure path e.message)
  | .ok bytes =>
    match String.fromUTF8? bytes with
    | none => .error (readFailure path "stream did not contain valid UTF-8")
    | some s => ofToml explain s

end Configuration

end Trisect
