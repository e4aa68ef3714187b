import Trisect.Cell
import Trisect.Hash.Sha256
import Trisect.Text.Hex

/-!
# Reports of logic bugs

When a query and its reconstruction disagree, the two texts and the way they disagree make a
`Trisect.BugReport`. The disagreement is a `Trisect.Mismatch`: either the two sides have different
numbers of rows, or the same number of rows but different sets of cells.

A report has two texts of its own. `Trisect.BugReport.display` is what a reader sees: a headline and
the two statements, each annotated with a comment. `Trisect.BugReport.fingerprint` names the pair of
queries, whatever the mismatch was, and is the SHA-256 hash of
`Trisect.BugReport.fingerprintInput`, in which a zero byte stands before every reconstructed query.
-/

namespace Trisect

/-- How the result of a whole query and its reconstruction disagree. -/
inductive Mismatch
  /-- The two sides have different numbers of rows. -/
  | cardinality (whole combined : Nat)
  /-- The sides have equally many rows; the cells each side has and the other lacks. -/
  | content (wholeMisses combinedMisses : CellSet)
  deriving DecidableEq

/-- A divergence between a query and what its partitions add up to. -/
structure BugReport where
  /-- The query that was not partitioned. -/
  wholeQuery : String
  /-- The statements that were run to rebuild its result, in order. -/
  reconstructedQueries : List String
  /-- How the two results disagree. -/
  mismatch : Mismatch
  deriving DecidableEq

namespace Mismatch

/-- The comment on the whole query. -/
def wholeNote : Mismatch → String
  | cardinality whole _ => "cardinality: " ++ toString whole
  | content wholeMisses _ => "misses: " ++ wholeMisses.render

/-- The comment on the reconstructed statements. -/
def combinedNote : Mismatch → String
  | cardinality _ combined => "cardinality: " ++ toString combined
  | content _ combinedMisses => "misses: " ++ combinedMisses.render

end Mismatch

/-- A statement followed by a comment, as it is kept for a replay. -/
def annotate (statement note : String) : String := statement ++ "; -- " ++ note

/-- A statement and a comment as a block of comments, as it is written to a log. -/
def commentBlock (statement note : String) : String :=
  "-- " ++ statement ++ ";\n-- " ++ note ++ "\n\n\n"

namespace BugReport

/-- The reconstructed queries as one text. -/
def combinedText (r : BugReport) : String := ";".intercalate r.reconstructedQueries

/-- The two annotated statements, the whole query first. -/
def statements (r : BugReport) : List String :=
  [annotate r.wholeQuery r.mismatch.wholeNote,
    annotate r.combinedText r.mismatch.combinedNote]

/-- What a reader is shown: a headline, and the two sides with what was found on each. -/
def display (r : BugReport) : String :=
  match r.mismatch with
  | .cardinality whole combined =>
    "the size of the result sets mismatch (" ++ toString whole ++ " and " ++ toString combined ++
      ")!\n" ++ r.wholeQuery ++ "; -- cardinality: " ++ toString whole ++ "\n" ++
      r.combinedText ++ "; -- cardinality: " ++ toString combined
  | .content wholeMisses combinedMisses =>
    "the content of the result sets mismatch!\n" ++ r.wholeQuery ++ "; -- misses: " ++
      wholeMisses.render ++ "\n" ++ r.combinedText ++ "; -- misses: " ++ combinedMisses.render

/-- The block of comments for the log: the whole query, then the other. -/
def diagnostic (r : BugReport) : String :=
  commentBlock r.wholeQuery r.mismatch.wholeNote ++
    commentBlock r.combinedText r.mismatch.combinedNote

/-- The bytes that are hashed: the whole query, and every reconstructed query after a zero
byte. -/
def fingerprintInput (r : BugReport) : List UInt8 :=
  r.wholeQuery.toUTF8.toList ++ r.reconstructedQueries.flatMap fun q => 0 :: q.toUTF8.toList

/-- The name of the pair of queries: a hash of them as sixty-four hexadecimal digits. -/
def fingerprint (r : BugReport) : String :=
  String.ofList (Hex.lower (Sha256.digest r.fingerprintInput))

/-- The first sixteen digits of the fingerprint. -/
def shortFingerprint (r : BugReport) : String :=
  String.ofList (r.fingerprint.toList.take 16)

end BugReport

end Trisect
