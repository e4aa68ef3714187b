import Trisect.Dialogue
import Trisect.Text.Quoted

/-!
# The state of a session

What a session carries from one statement to the next is small: whether every statement is noted in
the log before it is sent, and what is needed to replay the session up to its failure
(`Trisect.Session`). The steps of a session are actions in `Trisect.SessionM`: they ask the
collaborators, change that state, and may end in an error; the state survives the error.
-/

namespace Trisect

/-- What is needed to replay a session. -/
structure ReplayState where
  databaseName : String
  seed : UInt64
  /-- The version of the engine, if it says so. -/
  databaseVersion : Option String := none
  /-- The statements that succeeded in setting the database up, and the annotated statements of a
  mismatch, in order. -/
  statements : List String := []
  deriving DecidableEq

/-- The state of a session. -/
structure Session where
  /-- Whether every statement is noted before it is sent. -/
  logEachSelect : Bool
  replay : ReplayState

namespace Session

/-- A session at its beginning. -/
def new (logEachSelect : Bool) (databaseName : String) (seed : UInt64) : Session :=
  ⟨logEachSelect, { databaseName, seed }⟩

/-- A session for single checks, of which nothing is kept. -/
def detached : Session := new false "detached" 0

/-- Sets the version of the engine. -/
def withVersion (s : Session) (version : Option String) : Session :=
  { s with replay := { s.replay with databaseVersion := version } }

/-- Adds statements to the replay. -/
def record (s : Session) (statements : List String) : Session :=
  { s with replay := { s.replay with statements := s.replay.statements ++ statements } }

/-- A description of the session for whoever looks for a fault in it. -/
def describe (s : Session) : String :=
  let version := match s.replay.databaseVersion with
    | none => "None"
    | some v => "Some(" ++ Text.quoted v ++ ")"
  "SessionContext \x7b log_each_select: " ++ toString s.logEachSelect ++
    ", repro: ReproState \x7b database_name: " ++ Text.quoted s.replay.databaseName ++
    ", seed: " ++ toString s.replay.seed ++ ", database_version: " ++ version ++
    ", statements: [" ++ ", ".intercalate (s.replay.statements.map Text.quoted) ++ "] \x7d, .. \x7d"

end Session

/-- A step of a session. -/
abbrev SessionM := ExceptT OracleError (StateT Session Dialogue)

namespace SessionM

/-- Asks a collaborator. -/
def ask (r : Request) : SessionM r.Answer := fun s =>
  (Dialogue.request r).bind fun a => .done (.ok a, s)

/-- Ends in an error, if there is one. -/
def ofExcept {α : Type} : Except OracleError α → SessionM α
  | .ok a => pure a
  | .error e => throw e

/-- Ends in an error, if a file operation failed. -/
def ofIo : Except IoError Unit → SessionM Unit
  | .ok () => pure ()
  | .error cause => throw (.io cause)

/-- Notes a statement in the log and makes sure that it is there, if every statement is noted. -/
def recordQuery (sql : String) : SessionM Unit := do
  if (← get).logEachSelect then
    ofIo (← ask (.writeQuery sql))
    ofIo (← ask .flush)

/-- Adds statements to the replay. -/
def recordStatements (statements : List String) : SessionM Unit :=
  modify fun s => s.record statements

/-- Appends a diagnostic to the log. -/
def appendDiagnostic (text : String) : SessionM Unit := do
  ofIo (← ask (.writeDiagnostic text))

end SessionM

end Trisect
