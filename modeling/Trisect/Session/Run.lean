import Trisect.Oracle.Rotation
import Trisect.Session.Summary
import Trisect.Shape.Random

/-!
# Running a session

A session reads the matchers of its dialect, opens its log, asks the engine for its version and the
source to read the schema, and then runs the statements that set the database up. If one of these
that succeeded may have changed the schema, the source reads it again. After that the oracles take
turns, round by round, until the budget is spent or a round ends in a bug or a failure
(`Trisect.playRounds`). A bug is written to a report, if there is a directory for it.

`Trisect.Session.play` is the whole of that, as a dialogue with the collaborators. A failure before
the first round is an error; one in a round is part of the summary.
-/

namespace Trisect

namespace Session

/-- Runs the statements that set the database up, and says whether one that succeeded may have
changed the schema. -/
def setUp (errors : ExpectedErrors) : List SetupStatement → SessionM Bool
  | [] => return false
  | statement :: rest => do
    let succeeded ← execute errors statement.text
    let changed ← setUp errors rest
    return (succeeded && statement.affectsSchema) || changed

/-- Everything between the opening of the log and the first round. -/
def prepare (errors : ExpectedErrors) (setup : List SetupStatement) : SessionM Unit := do
  let version ← SessionM.ask .version
  modify fun s => s.withVersion version
  SessionM.ofExcept (← SessionM.ask .refreshSchema)
  if ← setUp errors setup then
    SessionM.ofExcept (← SessionM.ask .refreshSchema)

/-- Runs rounds until the budget is spent or a round ends the session. The outcomes so far come the
last one first; all of them come back in order. -/
def playRounds (rotation : Rotation) (outcomes : List RoundOutcome) :
    Nat → StateT Session Dialogue (List RoundOutcome)
  | 0 => return outcomes.reverse
  | budget + 1 => do
    let outcome ← rotation.current.runRound
    if outcome.isTerminal then return (outcome :: outcomes).reverse
    else playRounds rotation.advance (outcome :: outcomes) budget

/-- Opens the log of a session, if it has a directory. -/
def openLog (options : SessionOptions) : Dialogue (Except OracleError Unit) :=
  match options.logDirectory with
  | none => .done (.ok ())
  | some directory => .request (.openLog directory options.databaseName)

/-- Writes the report of a bug, if a round found one and there is a directory for it. That a report
cannot be written is no failure of the session. -/
def writeReport (options : SessionOptions) (last : Option RoundOutcome) :
    Dialogue (Option String) :=
  match options.logDirectory, last with
  | some directory, some (.bug report) => do
    match ← Dialogue.request (.writeReport directory options.databaseName report) with
    | .ok path => return some path
    | .error _ => return none
  | _, _ => return none

/-- Runs the rounds of a session that has been prepared, and sums it up. -/
def playPrepared (options : SessionOptions) (rotation : Rotation) (s : Session) :
    Dialogue SessionSummary := do
  let (outcomes, s) ← (playRounds rotation [] options.rounds.toNat).run s
  let path ← writeReport options outcomes.getLast?
  return .ofOutcomes options outcomes path s.replay

/-- Runs a session. -/
def play [PatternReader] (options : SessionOptions) (dialect : Dialect)
    (setup : List SetupStatement) : Dialogue (Except OracleError SessionSummary) :=
  match dialect.errors with
  | .error e => return .error e
  | .ok errors => do
    match ← openLog options with
    | .error e => return .error e
    | .ok () =>
      let s := Session.new options.logEachSelect options.databaseName options.seed
      match ← (prepare errors setup).run.run s with
      | (.error e, _) => return .error e
      | (.ok (), s) =>
        match Rotation.ofKinds options.oracles errors dialect with
        | .error e => return .error e
        | .ok rotation => return .ok (← playPrepared options rotation s)

/-- The source of a session that makes its own shapes. -/
def randomSource (options : SessionOptions) : RandomShapes :=
  .new options.seed options.maxExpressionDepth.toNat

/-- A session that makes its own database and its own shapes: the dialogue, and the source that it
begins with. -/
def generated [PatternReader] (options : SessionOptions) (dialect : Dialect) :
    Dialogue (Except OracleError SessionSummary) × RandomShapes :=
  let (setup, source) := (randomSource options).database options.tables.toNat
  (play options dialect setup, source)

end Session

end Trisect
