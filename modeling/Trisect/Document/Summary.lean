import Trisect.Document.Report
import Trisect.Session.Summary

/-!
# Summaries as documents

A summary is a record that holds how the session ended, tagged by its `status`, and the state for a
replay. The two optional parts differ when they are absent: the version of the engine is left out,
and the path of a report is written as null. Either may be missing when a record is read.
-/

namespace Trisect

namespace ReplayState

/-- A replay state as a record. -/
def toDocument (r : ReplayState) : Document := .record (
  [("database_name", .text r.databaseName), ("seed", .natural r.seed.toNat)] ++
    (r.databaseVersion.map fun v => ("database_version", Document.text v)).toList ++
    [("statements", .texts r.statements)])

/-- A replay state from a document. -/
def ofDocument? (d : Document) : Option ReplayState := do
  match ← d.parts? ["database_name", "seed", "database_version", "statements"] with
  | [databaseName, seed, version, statements] =>
    return {
      databaseName := ← (← databaseName).toText?
      seed := .ofNat (← (← seed).toWord?)
      databaseVersion :=
        ← Document.orDefault none (Document.toOptional? Document.toText?) version
      statements := ← (← statements).toListOf? Document.toText? }
  | _ => none

/-- A replay state from a JSON text. -/
def ofJson? (s : String) : Option ReplayState := (Document.ofJson? s).bind ofDocument?

end ReplayState

namespace SessionOutcome

/-- How a session ended, as a record. -/
def toDocument : SessionOutcome → Document
  | completed => .record [("status", .text "completed")]
  | logicBug report path => .record [
      ("status", .text "logic_bug"),
      ("report", report.toDocument),
      ("report_path", .textOrNull path)]
  | failed message => .record [("status", .text "failed"), ("message", .text message)]

/-- How a session ended, from a tagged document. -/
def ofDocument? (d : Document) : Option SessionOutcome := do
  match ← d.tagged? false "status" ["completed", "logic_bug", "failed"] with
  | (0, .list (_ :: _)) => none
  | (0, _) => return .completed
  | (1, parts) =>
    match ← parts.parts? ["report", "report_path"] with
    | [report, path] =>
      return .logicBug (← BugReport.ofDocument? true (← report))
        (← Document.orDefault none (Document.toOptional? Document.toText?) path)
    | _ => none
  | (_, parts) =>
    match ← parts.parts? ["message"] with
    | [message] => return .failed (← (← message).toText?)
    | _ => none

end SessionOutcome

namespace TagCounts

/-- Counts as a record, in the order of their tags. -/
def toDocument (c : TagCounts) : Document := .record (c.entries.map fun e => (e.1, .natural e.2))

/-- Counts from a record; of a tag that is given twice the later count holds. -/
def ofDocument? : Document → Option TagCounts
  | .record fields => do
    return ofList (← fields.mapM fun f => do return (f.1, ← f.2.toWord?))
  | _ => none

end TagCounts

namespace SessionSummary

/-- A summary as a record. -/
def toDocument (s : SessionSummary) : Document := .record [
  ("database_name", .text s.databaseName),
  ("seed", .natural s.seed.toNat),
  ("rounds_run", .natural s.roundsRun),
  ("passed", .natural s.passed),
  ("skipped", .natural s.skipped),
  ("skip_reasons", s.skipReasons.toDocument),
  ("outcome", s.outcome.toDocument),
  ("repro", s.replay.toDocument)]

/-- The names of the fields of a summary. -/
def fieldNames : List String :=
  ["database_name", "seed", "rounds_run", "passed", "skipped", "skip_reasons", "outcome", "repro"]

/-- A summary from a document. -/
def ofDocument? (d : Document) : Option SessionSummary := do
  match ← d.parts? fieldNames with
  | [databaseName, seed, roundsRun, passed, skipped, skipReasons, outcome, replay] =>
    return {
      databaseName := ← (← databaseName).toText?
      seed := .ofNat (← (← seed).toWord?)
      roundsRun := ← (← roundsRun).toWord?
      passed := ← (← passed).toWord?
      skipped := ← (← skipped).toWord?
      skipReasons := ← TagCounts.ofDocument? (← skipReasons)
      outcome := ← SessionOutcome.ofDocument? (← outcome)
      replay := ← ReplayState.ofDocument? (← replay) }
  | _ => none

/-- A summary from a JSON text. -/
def ofJson? (s : String) : Option SessionSummary := (Document.ofJson? s).bind ofDocument?

end SessionSummary

end Trisect
