import Trisect.Decimal.Plain
import Trisect.Session.State

/-!
# Comparing two results

`Trisect.Mismatch.between?` compares the cells of the result of a whole query with those of its
reconstruction. The numbers of rows are compared first; only if they agree are the sets of distinct
cells. How often a cell occurs is not compared beyond that.

`Trisect.assertEqual` does so within a session. If the sides disagree it writes the diagnostic of
the report to the log, keeps the annotated statements for the replay, and ends in the report; that
the log cannot be written does not stand in the way of a bug.
-/

namespace Trisect

/-- How two lists of cells disagree, if they do. -/
def Mismatch.between? (first second : List Cell) : Option Mismatch :=
  if first.length ≠ second.length then some (.cardinality first.length second.length)
  else
    let a := CellSet.ofList first
    let b := CellSet.ofList second
    if a = b then none else some (.content (a.diff b) (b.diff a))

/-- Ends in a report unless the two sides of a comparison agree. -/
def assertEqual (whole : String) (reconstructed : List String) (first second : List Cell) :
    SessionM Unit := do
  match Mismatch.between? first second with
  | none => return
  | some mismatch =>
    let report : BugReport := ⟨whole, reconstructed, mismatch⟩
    let _ ← SessionM.ask (.writeDiagnostic report.diagnostic)
    SessionM.recordStatements report.statements
    throw (.logicBug report)

/-- Ends in a report unless the two sides of a comparison agree after a function has been applied to
every cell. -/
def assertEqualUnder (f : Cell → Cell) (whole : String) (reconstructed : List String)
    (first second : List Cell) : SessionM Unit :=
  assertEqual whole reconstructed (first.map f) (second.map f)

end Trisect
