import Trisect.Document.Report
import Trisect.Proofs.Json.Parts

/-!
# A bug report survives being written and read

A report is written as a text to be kept and to be read again, without blanks or over indented
lines. Both texts give back the report (`Trisect.BugReport.ofJson?_of_written`), whatever its
queries and cells are made of and whichever way the two sides disagree; and with it the name of its
pair of queries and what a reader is shown.

The sizes of a mismatch have to fit into words of 64 bits (`Trisect.Mismatch.SizesFit`), as they do
in every report of a round. A set of cells is written in order, and nothing of the order in which it
is read matters, so that a set is the same again because it has the same members.
-/

namespace Trisect

/-! ### Cell sets -/

namespace CellSet

theorem ofDocument?_toDocument (s : CellSet) : ofDocument? s.toDocument = some s := by
  rw [ofDocument?, toDocument, Document.toListOf?_map Document.toOptional?_textOrNull,
    Option.map_some, ofList_toList]

theorem spellable_toDocument (s : CellSet) : s.toDocument.Spellable := by
  refine .list fun d hd => ?_
  obtain ⟨c, -, rfl⟩ := List.mem_map.1 hd
  exact Document.spellable_textOrNull c

theorem depth_toDocument_le (s : CellSet) : s.toDocument.depth ≤ 1 := by
  refine Document.depth_list_le fun d hd => ?_
  obtain ⟨c, -, rfl⟩ := List.mem_map.1 hd
  exact Nat.le_of_eq (Document.depth_textOrNull c)

end CellSet

/-! ### Mismatches -/

namespace Mismatch

/-- The numbers of rows in a mismatch fit into words of 64 bits. -/
def SizesFit : Mismatch → Prop
  | cardinality whole combined => whole < 2 ^ 64 ∧ combined < 2 ^ 64
  | content _ _ => True

instance : (m : Mismatch) → Decidable m.SizesFit
  | cardinality _ _ => inferInstanceAs (Decidable (_ ∧ _))
  | content _ _ => inferInstanceAs (Decidable True)

variable {m : Mismatch}

theorem spellable_toDocument (h : m.SizesFit) : m.toDocument.Spellable := by
  cases m with
  | cardinality whole combined =>
    refine .record ?_
    simp [Document.Spellable.text, Document.spellable_natural h.1, Document.spellable_natural h.2]
  | content wholeMisses combinedMisses =>
    refine .record ?_
    simp [Document.Spellable.text, CellSet.spellable_toDocument]

theorem depth_toDocument_le (m : Mismatch) : m.toDocument.depth ≤ 2 := by
  cases m with
  | cardinality whole combined =>
    refine Document.depth_record_le ?_
    simp [Document.natural, Document.depth]
  | content wholeMisses combinedMisses =>
    refine Document.depth_record_le ?_
    simp [Document.depth, CellSet.depth_toDocument_le]

/-- **A mismatch is made from its document**, inside of a tagged value and on its own. -/
theorem ofDocument?_toDocument (h : m.SizesFit) (nested : Bool) :
    ofDocument? nested m.toDocument = some m := by
  have hwait : m.toDocument.canWait = true :=
    Document.canWait_of_spellable (spellable_toDocument h)
      (Nat.le_trans m.depth_toDocument_le (by decide))
  cases m with
  | cardinality whole combined =>
    have htagged : Document.tagged? nested "kind" ["cardinality", "content"]
        (toDocument (cardinality whole combined)) =
        some (0, .record [("original", .natural whole), ("combined", .natural combined)]) :=
      Document.tagged?_record (fun _ => hwait) (by simp) (by decide)
    have hparts : Document.parts? ["original", "combined"]
        (.record [("original", .natural whole), ("combined", .natural combined)]) =
        some [some (.natural whole), some (.natural combined)] :=
      Document.parts?_record (by simp) _
    simp [ofDocument?, htagged, hparts, Document.toWord?_natural h.1, Document.toWord?_natural h.2]
  | content wholeMisses combinedMisses =>
    have htagged : Document.tagged? nested "kind" ["cardinality", "content"]
        (toDocument (content wholeMisses combinedMisses)) =
        some (1, .record [("original_misses", wholeMisses.toDocument),
          ("combined_misses", combinedMisses.toDocument)]) :=
      Document.tagged?_record (fun _ => hwait) (by simp) (by decide)
    have hparts : Document.parts? ["original_misses", "combined_misses"]
        (.record [("original_misses", wholeMisses.toDocument),
          ("combined_misses", combinedMisses.toDocument)]) =
        some [some wholeMisses.toDocument, some combinedMisses.toDocument] :=
      Document.parts?_record (by simp) _
    simp [ofDocument?, htagged, hparts, CellSet.ofDocument?_toDocument]

end Mismatch

/-! ### Reports -/

namespace BugReport

variable {r : BugReport}

theorem spellable_toDocument (h : r.mismatch.SizesFit) : r.toDocument.Spellable := by
  refine .record ?_
  simp [Document.Spellable.text, Document.spellable_texts, Mismatch.spellable_toDocument h]

theorem depth_toDocument_le (r : BugReport) : r.toDocument.depth ≤ 3 := by
  have hqueries : (Document.texts r.reconstructedQueries).depth ≤ 2 :=
    Nat.le_trans (Document.depth_texts_le _) (by decide)
  refine Document.depth_record_le ?_
  simp [Document.depth, hqueries, Mismatch.depth_toDocument_le]

/-- **A report is made from its document**, inside of a tagged value and on its own. -/
theorem ofDocument?_toDocument (h : r.mismatch.SizesFit) (nested : Bool) :
    ofDocument? nested r.toDocument = some r := by
  have hparts : Document.parts? ["original_query", "reconstructed_queries", "mismatch"]
      r.toDocument =
      some [some (.text r.wholeQuery), some (.texts r.reconstructedQueries),
        some r.mismatch.toDocument] :=
    Document.parts?_record (by simp) _
  simp [ofDocument?, hparts, Document.toText?, Document.toListOf?_texts,
    Mismatch.ofDocument?_toDocument h]

/-- Either text of a report gives it back. -/
theorem ofJson?_eq_some {written : String} (h : r.mismatch.SizesFit)
    (hwritten : written ∈ [r.compact, r.pretty]) : ofJson? written = some r := by
  have hspells : Json.Spells (.value r.toDocument) written.toList :=
    Document.spells_of_mem (spellable_toDocument h) hwritten
  rw [ofJson?, Document.ofJson?_of_spells hspells, Option.bind_some, ofDocument?_toDocument h]

/-- **A report is read back from either of its texts.** Each of them spells the record of the
report, and the report that is read has the same fingerprint and the same text for a reader. -/
theorem ofJson?_of_written (r : BugReport) (h : r.mismatch.SizesFit) :
    ∀ written ∈ [r.compact, r.pretty], Json.Spells (.value r.toDocument) written.toList ∧
      ∃ read, ofJson? written = some read ∧ read = r ∧
        read.fingerprint = r.fingerprint ∧ read.display = r.display := by
  intro written hwritten
  have hspells : Json.Spells (.value r.toDocument) written.toList :=
    Document.spells_of_mem (spellable_toDocument h) hwritten
  have hdocument : Document.ofJson? written = some r.toDocument :=
    Document.ofJson?_of_spells hspells
  have hread : ofJson? written = some r := by
    rw [ofJson?, hdocument, Option.bind_some, ofDocument?_toDocument h]
  exact ⟨hspells, r, hread, rfl, rfl, rfl⟩

/-- A report with a quotation mark, a backslash, control characters and an empty statement, and with
the greatest of all sizes, is read back. -/
theorem ofJson?_of_quotes :
    let r : BugReport := {
      wholeQuery := "SELECT \"a\\b\" FROM t\x01\t"
      reconstructedQueries := ["", "SELECT '/é\n' FROM t\x7f"]
      mismatch := .cardinality 18446744073709551615 0 }
    r.mismatch.SizesFit ∧
      ∀ written ∈ [r.compact, r.pretty], Json.Spells (.value r.toDocument) written.toList ∧
        ∃ read, ofJson? written = some read ∧ read = r ∧
          read.fingerprint = r.fingerprint ∧ read.display = r.display := by
  intro r
  have hsizes : r.mismatch.SizesFit := ⟨by decide, by decide⟩
  exact ⟨hsizes, ofJson?_of_written r hsizes⟩

end BugReport

end Trisect
