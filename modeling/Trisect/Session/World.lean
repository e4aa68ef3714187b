import Trisect.Shape.Source
import Trisect.Storage.SessionLog

/-!
# Who answers a session

A session talks to an engine over a `Trisect.Connection`, to a `Trisect.ShapeSource`, and to a
`Trisect.Journal`. Each keeps a state of its own, and only the connection can break down. Together
they are the handler of a session's dialogues (`Trisect.World.handler`). A source that learns the
schema does so over the connection (`Trisect.SchemaReading.run`).

Two journals are built in: one that keeps everything in memory (`Trisect.MemoryLog.journal`) and one
that writes files (`Trisect.FileJournal.journal`). A journal of files to which no log has been
opened takes everything and keeps nothing. The files of one to which a log has been opened take
everything as well: a file system whose files refuse what is written to them, a full one for
instance, is another `Trisect.Journal`, and what is said of all journals is said of it too.
-/

namespace Trisect

/-- An engine under test; `none` is a breakdown of the connection. -/
structure Connection (γ : Type) where
  query : String → γ → Option (Except EngineError QueryOutput) × γ
  execute : String → γ → Option (Except EngineError Unit) × γ
  /-- The tables of the database and their columns. -/
  tables : γ → Option (Except EngineError (List Table)) × γ
  version : γ → Option (Option String) × γ

/-- Something that takes what a session wants to be kept. -/
structure Journal (κ : Type) where
  openLog : String → String → κ → Except OracleError Unit × κ
  writeQuery : String → κ → Except IoError Unit × κ
  flush : κ → Except IoError Unit × κ
  writeDiagnostic : String → κ → Except IoError Unit × κ
  writeReport : String → String → BugReport → κ → Except OracleError String × κ

/-- The answer to a question that is asked over a connection. -/
def Connection.answer {γ : Type} (c : Connection γ) : (q : Inquiry) → γ → Option q.Answer × γ
  | .query sql => c.query sql
  | .execute sql => c.execute sql
  | .tables => c.tables
  | .version => c.version

@[simp] theorem Connection.answer_tables {γ : Type} (c : Connection γ) :
    c.answer .tables = c.tables := rfl

namespace SchemaReading

variable {α γ : Type} (c : Connection γ)

/-- The result of learning a schema over a connection, and the state of the connection after it. -/
def run : SchemaReading α → γ → Option α × γ
  | done a, s => (some a, s)
  | ask q next, s =>
    match c.answer q s with
    | (some answer, s) => (next answer).run s
    | (none, s) => (none, s)

/-- The statements that are sent over a connection while a schema is learned, in order. -/
def sent : SchemaReading α → γ → List String
  | done _, _ => []
  | ask q next, s =>
    q.statement?.toList ++
      match c.answer q s with
      | (some answer, s) => (next answer).sent s
      | (none, _) => []

end SchemaReading

/-- The states of the three collaborators of a session. -/
structure World (γ σ κ : Type) where
  engine : γ
  source : σ
  journal : κ

namespace World

variable {γ σ κ : Type}

/-- The answer of an engine, put into the world. -/
def engineAnswer {α : Type} (w : World γ σ κ) (p : Option α × γ) : Option α × World γ σ κ :=
  (p.1, { w with engine := p.2 })

/-- The answer of a source, put into the world. -/
def sourceAnswer {α : Type} (w : World γ σ κ) (p : α × σ) : Option α × World γ σ κ :=
  (some p.1, { w with source := p.2 })

/-- The answer of a journal, put into the world. -/
def journalAnswer {α : Type} (w : World γ σ κ) (p : α × κ) : Option α × World γ σ κ :=
  (some p.1, { w with journal := p.2 })

/-- What learning the schema does to the world. -/
def refresh (c : Connection γ) (source : ShapeSource σ) (w : World γ σ κ) :
    Option (Except OracleError Unit) × World γ σ κ :=
  match (source.refresh w.source).run c w.engine with
  | (some (answer, s), g) => (some answer, { w with engine := g, source := s })
  | (none, g) => (none, { w with engine := g })

/-- The three collaborators as one handler. -/
def handler (c : Connection γ) (source : ShapeSource σ) (journal : Journal κ) :
    Handler (World γ σ κ)
  | .query sql, w => w.engineAnswer (c.query sql w.engine)
  | .execute sql, w => w.engineAnswer (c.execute sql w.engine)
  | .version, w => w.engineAnswer (c.version w.engine)
  | .refreshSchema, w => refresh c source w
  | .baseSelect, w => w.sourceAnswer (source.baseSelect w.source)
  | .predicate, w => w.sourceAnswer (source.predicate w.source)
  | .groupPredicate groupBy, w => w.sourceAnswer (source.groupPredicate groupBy w.source)
  | .aggregate, w => w.sourceAnswer (source.aggregate w.source)
  | .openLog directory databaseName, w =>
    w.journalAnswer (journal.openLog directory databaseName w.journal)
  | .writeQuery sql, w => w.journalAnswer (journal.writeQuery sql w.journal)
  | .flush, w => w.journalAnswer (journal.flush w.journal)
  | .writeDiagnostic text, w => w.journalAnswer (journal.writeDiagnostic text w.journal)
  | .writeReport directory databaseName report, w =>
    w.journalAnswer (journal.writeReport directory databaseName report w.journal)

end World

/-! ### A journal in memory -/

/-- What a session wanted to be kept. -/
structure MemoryLog where
  queries : List String := []
  diagnostics : String := ""
  flushes : Nat := 0

/-- A journal that keeps everything in memory, and reports nowhere. -/
def MemoryLog.journal : Journal MemoryLog where
  openLog _ _ m := (.ok (), m)
  writeQuery sql m := (.ok (), { m with queries := m.queries ++ [sql] })
  flush m := (.ok (), { m with flushes := m.flushes + 1 })
  writeDiagnostic text m := (.ok (), { m with diagnostics := m.diagnostics ++ text })
  writeReport _ _ _ m := (.error (.io .notFound), m)

/-! ### A journal of files -/

/-- The files, and the log that is open, if one is. -/
structure FileJournal where
  files : FileSystem
  log : Option SessionLog := none

namespace FileJournal

/-- Does something with the log that is open; without one, nothing. -/
def withLog (f : SessionLog → FileSystem → SessionLog × FileSystem) (j : FileJournal) :
    FileJournal :=
  match j.log with
  | none => j
  | some log =>
    let (log, files) := f log j.files
    ⟨files, some log⟩

/-- Closes the log that is open, if one is. -/
def close (j : FileJournal) : FileJournal :=
  match j.log with
  | none => j
  | some log => ⟨log.close j.files, none⟩

/-- Opens a log. The one that was open is closed, but only when the new one is there; if that cannot
be opened, the old one stays. -/
def openLog (directory databaseName : String) (j : FileJournal) :
    Except OracleError Unit × FileJournal :=
  match SessionLog.create directory databaseName j.files with
  | (.error e, files) => (.error e, { j with files })
  | (.ok log, files) => (.ok (), { close { j with files } with log := some log })

/-- The journal of files. -/
def journal : Journal FileJournal where
  openLog := openLog
  writeQuery sql j := (.ok (), j.withLog (SessionLog.writeQuery sql))
  flush j := (.ok (), j.withLog SessionLog.flush)
  writeDiagnostic text j := (.ok (), j.withLog (SessionLog.writeDiagnostic text))
  writeReport directory databaseName report j :=
    let (answer, files) := SessionLog.writeReport directory databaseName report j.files
    (answer, { j with files })

end FileJournal

end Trisect
