import Trisect.Document.Decoding
import Trisect.Document.Json.Reading
import Trisect.Document.Json.Writing
import Trisect.Error

/-!
# Reports and skip reasons as documents

A report is a record of its two sides and its mismatch; a mismatch is tagged by its `kind`. The
sets of missing cells are lists in the order of the set; a list that is read may repeat cells and
give them in any order.
-/

namespace Trisect

namespace CellSet

/-- The cells in order, NULL as null. -/
def toDocument (s : CellSet) : Document := .list (s.toList.map .textOrNull)

/-- A set from a list of texts and nulls. -/
def ofDocument? (d : Document) : Option CellSet :=
  (d.toListOf? (Document.toOptional? Document.toText?)).map ofList

end CellSet

namespace Mismatch

/-- A mismatch as a record, its kind first. -/
def toDocument : Mismatch → Document
  | cardinality whole combined => .record [
      ("kind", .text "cardinality"),
      ("original", .natural whole),
      ("combined", .natural combined)]
  | content wholeMisses combinedMisses => .record [
      ("kind", .text "content"),
      ("original_misses", wholeMisses.toDocument),
      ("combined_misses", combinedMisses.toDocument)]

/-- A mismatch from a tagged document. -/
def ofDocument? (nested : Bool) (d : Document) : Option Mismatch := do
  match ← d.tagged? nested "kind" ["cardinality", "content"] with
  | (0, parts) =>
    match ← parts.parts? ["original", "combined"] with
    | [whole, combined] => return .cardinality (← (← whole).toWord?) (← (← combined).toWord?)
    | _ => none
  | (_, parts) =>
    match ← parts.parts? ["original_misses", "combined_misses"] with
    | [whole, combined] =>
      return .content (← CellSet.ofDocument? (← whole)) (← CellSet.ofDocument? (← combined))
    | _ => none

end Mismatch

namespace BugReport

/-- A report as a record. -/
def toDocument (r : BugReport) : Document := .record [
  ("original_query", .text r.wholeQuery),
  ("reconstructed_queries", .texts r.reconstructedQueries),
  ("mismatch", r.mismatch.toDocument)]

/-- A report from a document, which may be part of a tagged one. -/
def ofDocument? (nested : Bool) (d : Document) : Option BugReport := do
  match ← d.parts? ["original_query", "reconstructed_queries", "mismatch"] with
  | [query, queries, mismatch] =>
    return ⟨← (← query).toText?, ← (← queries).toListOf? Document.toText?,
      ← Mismatch.ofDocument? nested (← mismatch)⟩
  | _ => none

/-- The JSON text of a report without blanks. -/
def compact (r : BugReport) : String := r.toDocument.compact

/-- The JSON text of a report over indented lines. -/
def pretty (r : BugReport) : String := r.toDocument.pretty

/-- A report from its JSON text. -/
def ofJson? (s : String) : Option BugReport := (Document.ofJson? s).bind (ofDocument? false)

end BugReport

namespace SkipReason

/-- A reason from its tag. -/
def ofDocument? (format : Document.Format) (d : Document) : Option SkipReason :=
  (d.choice? format (all.map tag)).bind fun i => all[i]?

/-- A reason from a JSON text. -/
def ofJson? (s : String) : Option SkipReason := (Document.ofJson? s).bind (ofDocument? .json)

end SkipReason

end Trisect
