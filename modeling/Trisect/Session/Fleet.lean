import Trisect.Config.Configuration
import Trisect.Session.Run
import Trisect.Session.World

/-!
# Sessions side by side

A configuration may ask for several sessions at once. Each of these **workers** opens a connection
of its own and runs a session that makes its own database and shapes; what they share is the
directory of their logs. Since no two workers have a name in common they write to different files,
so that it does not matter how their steps are interleaved: `Trisect.Fleet.run` runs them one after
the other.

A worker whose connection breaks down has an error for its result, and takes no other worker with
it.
-/

namespace Trisect

namespace Session

variable {γ σ : Type}

/-- Runs a session whose log is in files, and closes the log, also after a breakdown. -/
def runWithFiles (c : Connection γ) (source : ShapeSource σ)
    (d : Dialogue (Except OracleError SessionSummary)) (w : World γ σ FileJournal) :
    Option (Except OracleError SessionSummary) × World γ σ FileJournal :=
  let (result, w) := d.run (World.handler c source FileJournal.journal) w
  (result, { w with journal := w.journal.close })

/-- Who answers a session that makes its own database and shapes, and whose log is in files. -/
def generatedHandler (c : Connection γ) : Handler (World γ RandomShapes FileJournal) :=
  World.handler c RandomShapes.source FileJournal.journal

/-- Runs a session that makes its own database and shapes. -/
def runGenerated [PatternReader] (c : Connection γ) (options : SessionOptions) (dialect : Dialect)
    (engine : γ) (files : FileSystem) :
    Option (Except OracleError SessionSummary) × World γ RandomShapes FileJournal :=
  let (d, source) := generated options dialect
  runWithFiles c RandomShapes.source d ⟨engine, source, { files }⟩

end Session

namespace Fleet

variable [PatternReader] {γ : Type}

/-- What is left of a worker: its result, and its connection if it could be opened. -/
structure WorkerResult (γ : Type) where
  result : Except OracleError SessionSummary
  connection : Option γ

/-- The result of a worker that broke down. -/
def breakdown : OracleError := .internal "session thread panicked"

/-- Runs a worker. Opening a connection may fail, and it may break down as well. -/
def runWorker (c : Connection γ) (openConnection : SessionOptions → Option (Except OracleError γ))
    (options : SessionOptions) (dialect : Dialect) (files : FileSystem) :
    WorkerResult γ × FileSystem :=
  match openConnection options with
  | none => (⟨.error breakdown, none⟩, files)
  | some (.error e) => (⟨.error e, none⟩, files)
  | some (.ok engine) =>
    let (result, w) := Session.runGenerated c options dialect engine files
    (⟨result.getD (.error breakdown), some w.engine⟩, w.journal.files)

/-- The options of all workers. There is at least one. -/
def workers (options : SessionOptions) : List SessionOptions :=
  (List.range (max options.sessions.toNat 1)).map options.forWorker

/-- Runs all workers. Their results come in the order of the workers. -/
def run (c : Connection γ) (openConnection : SessionOptions → Option (Except OracleError γ))
    (config : Configuration) (files : FileSystem) : List (WorkerResult γ) × FileSystem :=
  (workers config.session).foldl
    (fun (results, files) options =>
      let (result, files) := runWorker c openConnection options config.dialect files
      (results ++ [result], files))
    ([], files)

end Fleet

end Trisect
