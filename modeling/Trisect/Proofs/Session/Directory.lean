import Trisect.Pattern.Regular
import Trisect.Proofs.Fleet.Confined
import Trisect.Proofs.Json.Summary
import Trisect.Proofs.Session.Hearing
import Trisect.Proofs.Storage.Contents

/-!
# What a session leaves in its directory

A session that is given a directory leaves two files there, and a third if it has found a bug. The
first has the statements that were sent, or nothing if they are not noted. The second has the
diagnostic of the bug and is otherwise empty. The third is the report of the bug, from which it can
be read again. What was in these files before is gone, and no other file is touched. This is
`Trisect.Session.directory_of_run`, about every run that comes to a summary, with any engine and any
source, provided that the report could be written and that the source reports no bug of its own.

Three things are put together. What the log hears of a session is read off its transcript
(`Trisect.Journal.hears_of_run`). What it makes of that is in its files, as long as they are in use
for nothing else: `Trisect.SessionLog.InUse` is the invariant, which is established when the log is
opened, kept by every exchange (`Trisect.FileJournal.keeping_of_notices`) and by the report, and
used up when the log is closed (`Trisect.FileJournal.reads_of_close`). And what there is to hear is
known from the course of the session (`Trisect.Session.Course.exists_keeping`).
-/

namespace Trisect

open FileSystem (AgreeOff join placeOf)

/-! ### The texts of the files -/

/-- Statements as they are in a log: each on a line of its own, closed by a semicolon. -/
def linesOf (statements : List String) : String :=
  String.join (statements.map fun sql => sql ++ ";\n")

theorem linesOf_append (first second : List String) :
    linesOf (first ++ second) = linesOf first ++ linesOf second := by
  rw [linesOf, List.map_append, String.join_append, linesOf, linesOf]

/-- Bytes with those of a text behind them, and with those of another behind that. -/
theorem append_toUTF8_append (bytes : ByteArray) (first second : String) :
    bytes ++ first.toUTF8 ++ second.toUTF8 = bytes ++ (first ++ second).toUTF8 := by
  have htext : (first ++ second).toUTF8 = first.toUTF8 ++ second.toUTF8 :=
    String.toByteArray_append
  rw [htext, ByteArray.append_assoc]

/-! ### A log that is in use -/

/-- **A log that is in use** for a database in a directory: what it holds, and that since the files
were as they were at first only those at places of a kind have changed, its own among them. -/
structure SessionLog.InUse (S : Place → Prop) (first : FileSystem) (directory databaseName : String)
    (log : SessionLog) (fs : FileSystem) (statements diagnostics : ByteArray) : Prop where
  holds : log.Holds fs statements diagnostics
  settles : log.Settles fs directory databaseName
  own : ∀ p, log.At p → S p
  frame : ∀ p, ¬ S p → fs.content? p = first.content? p

/-- A file that is not one of those of the log, and can be read. -/
structure SessionLog.Beside (directory databaseName : String) (fs : FileSystem) (path : String)
    (content : ByteArray) : Prop where
  leads : fs.Leads path (placeOf path)
  content : fs.content? (placeOf path) = some content
  statements : placeOf path ≠ placeOf (join directory (statementsName databaseName))
  diagnostics : placeOf path ≠ placeOf (join directory (diagnosticsName databaseName))

/-- A journal whose log is in use. -/
def FileJournal.Keeping (S : Place → Prop) (first : FileSystem) (directory databaseName : String)
    (statements diagnostics : ByteArray) (j : FileJournal) : Prop :=
  ∃ log, j.log = some log ∧
    log.InUse S first directory databaseName j.files statements diagnostics

section InUse

variable {S : Place → Prop} {first fs : FileSystem} {directory databaseName : String}
  {statements diagnostics statements' diagnostics' : ByteArray}

/-- What is written to a log leaves it in use. -/
theorem SessionLog.InUse.step {log : SessionLog}
    (h : log.InUse S first directory databaseName fs statements diagnostics)
    {f : FileSystem → SessionLog × FileSystem} (hf : WritesOnly log.At log.SamePlaces f)
    (hholds : (f fs).1.Holds (f fs).2 statements' diagnostics') :
    (f fs).1.InUse S first directory databaseName (f fs).2 statements' diagnostics' := by
  obtain ⟨⟨hstatements, hdiagnostics⟩, hagree⟩ := hf.agreeOff fun p => h.holds.isDirectory
  refine ⟨hholds, ⟨?_, ?_⟩, fun p hp => h.own p ?_, fun p hp => ?_⟩
  · rw [hstatements]
    exact h.settles.statements.of_agreeOff hagree
  · rw [hdiagnostics]
    exact h.settles.diagnostics.of_agreeOff hagree
  · exact hp.imp (fun hp => hp.trans hstatements) fun hp => hp.trans hdiagnostics
  · exact (hagree.content? fun hat => hp (h.own p hat)).trans (h.frame p hp)

/-- **When a report is written**, it is in its file, and the log is in use as before. -/
theorem SessionLog.InUse.reported {log : SessionLog} (hname : databaseName ≠ "")
    (h : log.InUse S first directory databaseName fs statements diagnostics) {report : BugReport}
    {path : String} {fs' : FileSystem}
    (hS : S (placeOf (join directory (reportName databaseName report))))
    (hwrite : writeReport directory databaseName report fs = (.ok path, fs')) :
    path = join directory (reportName databaseName report) ∧
      log.InUse S first directory databaseName fs' statements diagnostics ∧
      Beside directory databaseName fs' path report.pretty.toUTF8 := by
  obtain ⟨rfl, p, hleads, hcontent, hagree⟩ := written_of_writeReport hwrite
  obtain ⟨hne, hne'⟩ := placeOf_report_ne hname report
  have hplace : p = placeOf (join directory (reportName databaseName report)) := hleads.eq_placeOf
  rw [← hplace] at hne hne' hS
  refine ⟨rfl, ⟨?_, ⟨?_, ?_⟩, h.own, fun q hq => ?_⟩, ?_⟩
  · refine h.holds.of_agreeOff hagree ?_
    rintro q (rfl | rfl)
    · rw [h.settles.statements.eq_placeOf]
      exact Ne.symm hne
    · rw [h.settles.diagnostics.eq_placeOf]
      exact Ne.symm hne'
  · exact h.settles.statements.of_agreeOff hagree
  · exact h.settles.diagnostics.of_agreeOff hagree
  · have hother : q ≠ p := fun heq => hq (heq ▸ hS)
    exact (hagree.content? hother).trans (h.frame q hq)
  · rw [hplace] at hleads hcontent hne hne'
    exact ⟨hleads, hcontent, hne, hne'⟩

namespace FileJournal

variable {j j' : FileJournal} {x : Exchange} {t : List Exchange}

/-- **One exchange**: what it has for the log is added to what the log holds. -/
theorem keeping_of_notices (h : Keeping S first directory databaseName statements diagnostics j)
    (hnotices : journal.Notices j x j') (hx : x.request.Unfiled) :
    Keeping S first directory databaseName (statements ++ (linesOf (notesOf [x])).toUTF8)
      (diagnostics ++ (String.join (diagnosticsOf [x])).toUTF8) j' := by
  obtain ⟨log, hlog, hinUse⟩ := h
  obtain ⟨files, _⟩ := j
  obtain rfl := hlog
  obtain ⟨r, answer⟩ := x
  have hnothing : ∀ bytes : ByteArray, bytes ++ "".toUTF8 = bytes := fun _ => ByteArray.append_empty
  cases r with
  | writeQuery sql =>
    obtain ⟨-, rfl⟩ := hnotices
    have hline : linesOf (notesOf [⟨.writeQuery sql, answer⟩]) = sql ++ ";\n" := rfl
    have hquiet : String.join (diagnosticsOf [⟨.writeQuery sql, answer⟩]) = "" := rfl
    rw [hline, hquiet, hnothing]
    exact ⟨_, rfl, hinUse.step (log.writesOnly_writeQuery sql)
      (SessionLog.holds_writeQuery hinUse.holds sql)⟩
  | flush =>
    obtain ⟨-, rfl⟩ := hnotices
    have hline : linesOf (notesOf [⟨.flush, answer⟩]) = "" := rfl
    have hquiet : String.join (diagnosticsOf [⟨.flush, answer⟩]) = "" := rfl
    rw [hline, hquiet, hnothing, hnothing]
    exact ⟨_, rfl, hinUse.step log.writesOnly_flush (SessionLog.holds_flush hinUse.holds)⟩
  | writeDiagnostic text =>
    obtain ⟨-, rfl⟩ := hnotices
    have hline : linesOf (notesOf [⟨.writeDiagnostic text, answer⟩]) = "" := rfl
    have htext : String.join (diagnosticsOf [⟨.writeDiagnostic text, answer⟩]) = text := by
      simp [diagnosticsOf, Request.diagnostic?]
    rw [hline, htext, hnothing]
    exact ⟨_, rfl, hinUse.step (log.writesOnly_writeDiagnostic text)
      (SessionLog.holds_writeDiagnostic hinUse.holds text)⟩
  | openLog | writeReport => exact hx.elim
  | _ =>
    -- the log takes no notice
    obtain rfl := hnotices
    have hinUse' := hinUse
    rw [← hnothing statements, ← hnothing diagnostics] at hinUse'
    exact ⟨log, rfl, hinUse'⟩

/-- **A run of exchanges**: the log holds, in order, what they have for it. -/
theorem keeping_of_hears (h : Keeping S first directory databaseName statements diagnostics j)
    (hhears : journal.Hears j t j') (ht : ∀ x ∈ t, x.request.Unfiled) :
    Keeping S first directory databaseName (statements ++ (linesOf (notesOf t)).toUTF8)
      (diagnostics ++ (String.join (diagnosticsOf t)).toUTF8) j' := by
  induction hhears generalizing statements diagnostics with
  | nil j =>
    have hnothing : ∀ bytes : ByteArray, bytes ++ "".toUTF8 = bytes := fun _ =>
      ByteArray.append_empty
    rwa [← hnothing statements, ← hnothing diagnostics] at h
  | @cons j j₁ j' x t hnotices _ ih =>
    have hfirst := keeping_of_notices h hnotices (ht x List.mem_cons_self)
    have hrest := ih hfirst fun y hy => ht y (List.mem_cons_of_mem _ hy)
    have hnotes : notesOf (x :: t) = notesOf [x] ++ notesOf t := notesOf_append [x] t
    have hdiagnostics : diagnosticsOf (x :: t) = diagnosticsOf [x] ++ diagnosticsOf t :=
      diagnosticsOf_append [x] t
    rw [append_toUTF8_append, append_toUTF8_append, ← linesOf_append, ← String.join_append,
      ← hnotes, ← hdiagnostics] at hrest
    exact hrest

/-- **When the log is opened**, it holds nothing. -/
theorem keeping_of_openLog
    (h : FileJournal.openLog directory databaseName { files := first } = (.ok (), j))
    (hstatements : S (placeOf (join directory (SessionLog.statementsName databaseName))))
    (hdiagnostics : S (placeOf (join directory (SessionLog.diagnosticsName databaseName)))) :
    databaseName ≠ "" ∧
      Keeping S first directory databaseName ByteArray.empty ByteArray.empty j := by
  rw [openLog] at h
  split at h
  · cases h
  next log files hcreate =>
  obtain ⟨-, rfl⟩ := Prod.mk.inj h
  obtain ⟨hname, hholds, hsettles, hframe⟩ := SessionLog.created_of_create hcreate
  have hown : ∀ p, log.At p → S p := by
    rintro p (rfl | rfl)
    · rw [hsettles.statements.eq_placeOf]
      exact hstatements
    · rw [hsettles.diagnostics.eq_placeOf]
      exact hdiagnostics
  exact ⟨hname, log, rfl, hholds, hsettles, hown, fun p hp => hframe p fun hat => hp (hown p hat)⟩

/-- **When the log is closed**, what it holds can be read. -/
theorem reads_of_close
    (h : Keeping S first directory databaseName statements diagnostics j) :
    j.close.files.readFile (join directory (SessionLog.statementsName databaseName)) =
        .ok statements ∧
      j.close.files.readFile (join directory (SessionLog.diagnosticsName databaseName)) =
        .ok diagnostics ∧
      ∀ p, ¬ S p → j.close.files.content? p = first.content? p := by
  obtain ⟨log, hlog, hinUse⟩ := h
  obtain ⟨files, _⟩ := j
  obtain rfl := hlog
  have hsettles := hinUse.settles
  obtain ⟨hstatements, hdiagnostics, hagree⟩ := SessionLog.contents_of_close hinUse.holds
  refine ⟨?_, ?_, fun p hp => ?_⟩
  · exact FileSystem.readFile_of_leads (hsettles.statements.of_agreeOff hagree) hstatements
  · exact FileSystem.readFile_of_leads (hsettles.diagnostics.of_agreeOff hagree) hdiagnostics
  · exact (hagree.content? fun hat => hp (hinUse.own p hat)).trans (hinUse.frame p hp)

/-- A file beside those of the log can be read then as well. -/
theorem reads_beside_of_close
    (h : Keeping S first directory databaseName statements diagnostics j) {path : String}
    {content : ByteArray}
    (hbeside : SessionLog.Beside directory databaseName j.files path content) :
    j.close.files.readFile path = .ok content := by
  obtain ⟨log, hlog, hinUse⟩ := h
  obtain ⟨files, _⟩ := j
  obtain rfl := hlog
  obtain ⟨-, -, hagree⟩ := SessionLog.contents_of_close hinUse.holds
  have hapart : ¬ log.At (placeOf path) := by
    rintro (heq | heq)
    · exact hbeside.statements (heq.trans hinUse.settles.statements.eq_placeOf)
    · exact hbeside.diagnostics (heq.trans hinUse.settles.diagnostics.eq_placeOf)
  exact FileSystem.readFile_of_leads (hbeside.leads.of_agreeOff hagree)
    ((hagree.content? hapart).trans hbeside.content)

theorem keeping_of_writeReport (hname : databaseName ≠ "")
    (h : Keeping S first directory databaseName statements diagnostics j) {report : BugReport}
    {path : String} (hS : S (placeOf (join directory (SessionLog.reportName databaseName report))))
    (hwrite : journal.writeReport directory databaseName report j = (.ok path, j')) :
    path = join directory (SessionLog.reportName databaseName report) ∧
      Keeping S first directory databaseName statements diagnostics j' ∧
      SessionLog.Beside directory databaseName j'.files path report.pretty.toUTF8 := by
  obtain ⟨log, hlog, hinUse⟩ := h
  obtain ⟨files, _⟩ := j
  obtain rfl := hlog
  rcases hreport : SessionLog.writeReport directory databaseName report files with ⟨answer, files'⟩
  simp only [journal, hreport] at hwrite
  obtain ⟨rfl, rfl⟩ := Prod.mk.inj hwrite
  obtain ⟨hpath, hinUse', hbeside⟩ := hinUse.reported hname hS hreport
  exact ⟨hpath, ⟨log, rfl, hinUse'⟩, hbeside⟩

end FileJournal

end InUse

/-! ### Sessions -/

/-- What a session leaves in the file of diagnostics: nothing, unless it is a bug. Of that it leaves
two blocks of comments, the query with its note and then, in one line, the reconstruction with its
own. -/
def SessionOutcome.diagnostic : SessionOutcome → String
  | logicBug report _ =>
    "-- " ++ report.wholeQuery ++ ";\n-- " ++ report.mismatch.notes.1 ++ "\n\n\n" ++
      ("-- " ++ ";".intercalate report.reconstructedQueries ++ ";\n-- " ++
        report.mismatch.notes.2 ++ "\n\n\n")
  | _ => ""

theorem SessionOutcome.diagnostic_logicBug (report : BugReport) (path : Option String) :
    (logicBug report path).diagnostic = report.diagnostic := by
  rw [BugReport.diagnostic, commentBlock, commentBlock, Mismatch.wholeNote_eq,
    Mismatch.combinedNote_eq]
  rfl

/-- The name of the file with the report of a bug: it has the first sixteen digits of the
fingerprint. -/
def BugReport.fileName (databaseName : String) (report : BugReport) : String :=
  databaseName ++ "-bug-" ++ String.ofList (report.fingerprint.toList.take 16) ++ ".json"

theorem SessionLog.reportName_eq (databaseName : String) (report : BugReport) :
    reportName databaseName report = report.fileName databaseName := rfl

/-- The paths of the files that a session writes for a database into a directory. -/
def SessionOutcome.files (directory databaseName : String) : SessionOutcome → List String
  | logicBug report _ =>
    [join directory (databaseName ++ "-cur.log"), join directory (databaseName ++ ".log"),
      join directory (report.fileName databaseName)]
  | _ => [join directory (databaseName ++ "-cur.log"), join directory (databaseName ++ ".log")]

theorem SessionOutcome.mem_files (directory databaseName : String) (o : SessionOutcome) :
    join directory (SessionLog.statementsName databaseName) ∈ o.files directory databaseName ∧
      join directory (SessionLog.diagnosticsName databaseName) ∈
        o.files directory databaseName := by
  cases o <;> simp [files, SessionLog.statementsName, SessionLog.diagnosticsName]

/-- Whether a report was written, if an exchange is about one. -/
def Exchange.isWritten : Exchange → Bool
  | ⟨.writeReport _ _ _, some (.error _)⟩ => false
  | _ => true

namespace Session

section Courses

variable [PatternReader] {options : SessionOptions} {dialect : Dialect}
  {setup : List SetupStatement} {t : List Exchange} {summary : SessionSummary} {directory : String}

/-- **A session ends in a bug** with its last round, and is not heard of before; or it does not, and
is not heard of at all. -/
theorem Course.ends (c : Course options dialect setup t summary) :
    let outcomes := c.rounds.map PlayedRound.outcome
    (∃ earlier report, outcomes = earlier ++ [.bug report] ∧ (∀ o ∈ earlier, o.heard = []) ∧
        summary.outcome = .logicBug report c.path) ∨
      (∀ o ∈ outcomes, o.heard = []) ∧ ∀ report path, summary.outcome ≠ .logicBug report path := by
  intro outcomes
  obtain ⟨hgoes, -⟩ | ⟨earlier, last, houtcomes, hearlier, hlast⟩ := c.outcomes_cases
  · refine Or.inr ⟨fun o ho => RoundOutcome.heard_of_not_isTerminal (hgoes o ho), ?_⟩
    have hcompleted : summary.outcome = .completed := by
      rw [c.summary_eq]
      exact SessionSummary.outcome_foldl hgoes _
    intro report path hbug
    cases hcompleted.symm.trans hbug
  · have hquiet : ∀ o ∈ earlier, o.heard = [] := fun o ho =>
      RoundOutcome.heard_of_not_isTerminal (hearlier o ho)
    have houtcome : summary.outcome = last.verdict c.path := by
      refine (congrArg SessionSummary.outcome c.summary_eq).trans ?_
      rw [houtcomes]
      exact SessionSummary.outcome_ofOutcomes hlast
    cases last with
    | bug report => exact Or.inl ⟨earlier, report, houtcomes, hquiet, houtcome⟩
    | failed e =>
      refine Or.inr ⟨fun o ho => ?_, fun report path hbug => ?_⟩
      · rw [show outcomes = earlier ++ [.failed e] from houtcomes] at ho
        rcases List.mem_append.1 ho with ho | ho
        · exact hquiet o ho
        · rw [List.mem_singleton.1 ho]
          rfl
      · cases houtcome.symm.trans hbug
    | passed => cases hlast
    | skipped reason => cases hlast

theorem Course.opening_eq (c : Course options dialect setup t summary)
    (hdirectory : options.logDirectory = some directory) :
    c.opening = [⟨.openLog directory options.databaseName, some (.ok ())⟩] := by
  have hopened := c.opened
  rw [openLog, hdirectory] at hopened
  obtain ⟨answer, t', h', hcons⟩ := Dialogue.path_ask_iff.1 hopened
  obtain ⟨rfl, rfl⟩ := Dialogue.path_done_iff.1 h'
  exact hcons

/-- Without a bug no report is written. -/
theorem Course.closing_eq_nil (c : Course options dialect setup t summary)
    (h : ∀ o ∈ c.rounds.map PlayedRound.outcome, o.heard = []) : c.closing = [] := by
  have hreported := c.reported
  unfold writeReport at hreported
  split at hreported
  · next report _ hlast =>
    have hnone := h _ (List.mem_of_getLast? hlast)
    cases hnone
  · exact (Dialogue.path_done_iff.1 hreported).1

/-- With a bug its report is written, and if it could be, the summary says where it is. -/
theorem Course.closing_eq (c : Course options dialect setup t summary)
    (hdirectory : options.logDirectory = some directory) {earlier : List RoundOutcome}
    {report : BugReport} (h : c.rounds.map PlayedRound.outcome = earlier ++ [.bug report]) :
    ∃ answer : Except OracleError String,
      c.closing = [⟨.writeReport directory options.databaseName report, some answer⟩] ∧
        c.path = answer.toOption := by
  have hreported := c.reported
  rw [h, List.getLast?_concat] at hreported
  simp only [writeReport, hdirectory, Dialogue.bind_eq] at hreported
  obtain ⟨answer, t', h', hcons⟩ := Dialogue.path_ask_iff.1 hreported
  refine ⟨answer, ?_⟩
  rcases answer with e | path
  · obtain ⟨rfl, hpath⟩ := Dialogue.path_done_iff.1 h'
    exact ⟨hcons, hpath⟩
  · obtain ⟨rfl, hpath⟩ := Dialogue.path_done_iff.1 h'
    exact ⟨hcons, hpath⟩

/-- Before and in its rounds a session concerns no files but those of its log. -/
theorem Course.unfiled (c : Course options dialect setup t summary) :
    ∀ x ∈ c.preparation ++ c.rounds.flatMap PlayedRound.exchanges, x.request.Unfiled := by
  intro x hx
  rcases List.mem_append.1 hx with hx | hx
  · exact Fleet.unfiled_of_begun (Or.inl ((asks_prepare setup).of_mem_path c.prepared hx))
  · obtain ⟨round, hround, hx⟩ := List.mem_flatMap.1 hx
    obtain ⟨o, s₁, s₂, hpath⟩ := c.played.exists_path hround
    exact Fleet.unfiled_of_begun (Or.inr (o.asks_runRound.of_mem_path hpath hx))

/-- What is heard of a session before it is closed is the diagnostic of its bug. -/
theorem Course.diagnosticsOf_eq (c : Course options dialect setup t summary)
    (hsource : ∀ x ∈ t, ∀ report, x.refusal? ≠ some (.logicBug report)) :
    String.join (diagnosticsOf (c.preparation ++ c.rounds.flatMap PlayedRound.exchanges)) =
      summary.outcome.diagnostic := by
  have hpreparation : diagnosticsOf c.preparation = [] := by
    refine diagnosticsOf_eq_nil fun x hx => ?_
    have hasked := (asks_prepare setup).of_mem_path c.prepared hx
    obtain ⟨r, answer⟩ := x
    cases r with
    | writeDiagnostic => exact hasked.elim
    | _ => rfl
  have hrounds := diagnosticsOf_of_plays c.played fun x hx => hsource x (by
    rw [c.transcript_eq]
    exact List.mem_append_left _ (List.mem_append_right _ hx))
  rw [diagnosticsOf_append, hpreparation, List.nil_append, hrounds]
  obtain ⟨earlier, report, houtcomes, hquiet, houtcome⟩ | ⟨hquiet, hnone⟩ := c.ends
  · rw [houtcomes, List.flatMap_append, List.flatMap_eq_nil_iff.2 hquiet, houtcome,
      SessionOutcome.diagnostic_logicBug]
    simp [RoundOutcome.heard]
  · rw [List.flatMap_eq_nil_iff.2 hquiet]
    cases houtcome : summary.outcome with
    | logicBug report path => exact absurd houtcome (hnone report path)
    | _ => rfl

/-- The notes of a session are those of its preparation and of its rounds. -/
theorem Course.notesOf_eq (c : Course options dialect setup t summary)
    (hdirectory : options.logDirectory = some directory) :
    notesOf t = notesOf (c.preparation ++ c.rounds.flatMap PlayedRound.exchanges) := by
  have hopening : notesOf c.opening = [] := by
    rw [c.opening_eq hdirectory]
    rfl
  have hclosing : notesOf c.closing = [] := by
    refine List.filterMap_eq_nil_iff.2 fun x hx => ?_
    obtain ⟨directory', report, -, hasked⟩ := (asks_writeReport options _).of_mem_path c.reported hx
    rw [hasked]
    rfl
  rw [congrArg notesOf c.transcript_eq, List.append_assoc c.opening, notesOf_append, notesOf_append,
    hopening, hclosing, List.nil_append, List.append_nil]

/-- **When a session is about to be closed**, its log holds what was noted in it and the diagnostic
of its bug. -/
theorem Course.exists_keeping (c : Course options dialect setup t summary)
    (hdirectory : options.logDirectory = some directory)
    (hsource : ∀ x ∈ t, ∀ report, x.refusal? ≠ some (.logicBug report)) {S : Place → Prop}
    (hstatements : S (placeOf (join directory (SessionLog.statementsName options.databaseName))))
    (hdiagnostics : S (placeOf (join directory (SessionLog.diagnosticsName options.databaseName))))
    {files : FileSystem} {j : FileJournal} (hhears : FileJournal.journal.Hears { files } t j) :
    options.databaseName ≠ "" ∧ ∃ j₁,
      FileJournal.Keeping S files directory options.databaseName (linesOf (notesOf t)).toUTF8
        summary.outcome.diagnostic.toUTF8 j₁ ∧
      FileJournal.journal.Hears j₁ c.closing j := by
  rw [c.transcript_eq, List.append_assoc c.opening] at hhears
  -- the journal after the opening, before the closing, and at the end
  obtain ⟨j₁, hhears, hclosing⟩ := Journal.hears_append_iff.1 hhears
  obtain ⟨j₀, hopening, hbetween⟩ := Journal.hears_append_iff.1 hhears
  rw [c.opening_eq hdirectory, Journal.hears_singleton_iff] at hopening
  obtain ⟨hanswer, rfl⟩ := hopening
  have hopened := FileJournal.keeping_of_openLog (Prod.ext (Option.some.inj hanswer).symm rfl)
    hstatements hdiagnostics
  obtain ⟨hname, hkeeping⟩ := hopened
  have hkept := FileJournal.keeping_of_hears hkeeping hbetween c.unfiled
  rw [ByteArray.empty_append, ByteArray.empty_append, ← c.notesOf_eq hdirectory,
    c.diagnosticsOf_eq hsource] at hkept
  exact ⟨hname, j₁, hkept, hclosing⟩

end Courses

/-- Files take every note. -/
theorem isNoted_of_hears {t : List Exchange} {j j' : FileJournal}
    (h : FileJournal.journal.Hears j t j') : ∀ x ∈ t, x.isNoted = true := by
  induction h with
  | nil => simp
  | @cons _ _ _ x t hnotices _ ih =>
    refine List.forall_mem_cons.2 ⟨?_, ih⟩
    obtain ⟨r, answer⟩ := x
    cases r with
    | writeQuery | flush =>
      obtain ⟨rfl, -⟩ := hnotices
      rfl
    | _ => rfl

/-- **What a session leaves in its directory**, whatever was there before. If it comes to a summary,
the source reports no bug of its own, and the report could be written if there was one to write,
then the statements that were sent are in the first file, in order, if they are to be noted, and
nothing otherwise; the diagnostic of the bug is in the second, if there is one; a bug has a report,
which is where the summary says and from which it can be read, its numbers being words of 64 bits;
and all other files are as they were. -/
theorem directory_of_run [PatternReader] {γ σ : Type} (c : Connection γ) (source : ShapeSource σ)
    (options : SessionOptions) (dialect : Dialect) (setup : List SetupStatement) (engine : γ)
    (start : σ) (files : FileSystem) (directory : String) (summary : SessionSummary)
    (w' : World γ σ FileJournal) (hdirectory : options.logDirectory = some directory)
    (hrun : runWithFiles c source (play options dialect setup) ⟨engine, start, { files }⟩ =
      (some (.ok summary), w'))
    (hsource : ∀ x ∈ (play options dialect setup).transcript
      (World.handler c source FileJournal.journal) ⟨engine, start, { files }⟩,
      ∀ report, x.refusal? ≠ some (.logicBug report))
    (hwrites : ∀ x ∈ (play options dialect setup).transcript
      (World.handler c source FileJournal.journal) ⟨engine, start, { files }⟩,
      x.isWritten = true) :
    let t := (play options dialect setup).transcript
      (World.handler c source FileJournal.journal) ⟨engine, start, { files }⟩
    let name := options.databaseName
    let after := w'.journal.files
    after.readFile (join directory (name ++ "-cur.log")) =
        .ok (if options.logEachSelect then linesOf (statementsOf t) else "").toUTF8 ∧
      after.readFile (join directory (name ++ ".log")) = .ok summary.outcome.diagnostic.toUTF8 ∧
      (∀ report path, summary.outcome = .logicBug report path →
        path = some (join directory (report.fileName name)) ∧
          ∃ written : String,
            after.readFile (join directory (report.fileName name)) = .ok written.toUTF8 ∧
            (report.mismatch.SizesFit → BugReport.ofJson? written = some report)) ∧
      ∀ p, p ∉ (summary.outcome.files directory name).map placeOf →
        after.content? p = files.content? p := by
  intro t name after
  rcases hplay : (play options dialect setup).run (World.handler c source FileJournal.journal)
    ⟨engine, start, { files }⟩ with ⟨result, w⟩
  rw [runWithFiles, hplay] at hrun
  obtain ⟨rfl, rfl⟩ := Prod.mk.inj hrun
  obtain ⟨course⟩ := exists_course (Dialogue.path_of_run hplay)
  have hhears : FileJournal.journal.Hears { files } t w.journal :=
    Journal.hears_of_run c source hplay
  have hlines : linesOf (notesOf t) =
      if options.logEachSelect then linesOf (statementsOf t) else "" := by
    rw [notesOf_of_run hplay (isNoted_of_hears hhears)]
    split
    · rfl
    · rfl
  obtain ⟨hstatements, hdiagnostics⟩ := summary.outcome.mem_files directory name
  obtain ⟨hname, j, hkept, hclosing⟩ := course.exists_keeping
    (S := fun p => p ∈ (summary.outcome.files directory name).map placeOf) hdirectory hsource
    (List.mem_map_of_mem hstatements) (List.mem_map_of_mem hdiagnostics) hhears
  rw [hlines] at hkept
  obtain ⟨earlier, report, houtcomes, -, houtcome⟩ | ⟨hquiet, hnone⟩ := course.ends
  · -- the report of the bug is the last thing that is written
    obtain ⟨answer, hwritten, hpath⟩ := course.closing_eq hdirectory houtcomes
    have hlast : ⟨.writeReport directory name report, some answer⟩ ∈ t := by
      rw [show t = _ from course.transcript_eq, hwritten]
      exact List.mem_append_right _ List.mem_cons_self
    rw [hwritten, Journal.hears_singleton_iff] at hclosing
    obtain ⟨hanswer, hjournal⟩ := hclosing
    obtain e | path := answer
    · cases hwrites _ hlast
    have hreport : join directory (SessionLog.reportName name report) ∈
        summary.outcome.files directory name := by
      rw [houtcome, SessionLog.reportName_eq]
      simp [SessionOutcome.files]
    obtain ⟨rfl, hkept', hbeside⟩ := FileJournal.keeping_of_writeReport hname hkept
      (List.mem_map_of_mem hreport) (Prod.ext (Option.some.inj hanswer).symm hjournal.symm)
    obtain ⟨hreads, hreads', hframe⟩ := FileJournal.reads_of_close hkept'
    refine ⟨hreads, hreads', fun report' path' hbug => ?_, hframe⟩
    obtain ⟨rfl, rfl⟩ := SessionOutcome.logicBug.inj (houtcome.symm.trans hbug)
    exact ⟨hpath, _, FileJournal.reads_beside_of_close hkept' hbeside,
      fun hsizes => BugReport.ofJson?_eq_some hsizes (by simp)⟩
  · rw [course.closing_eq_nil hquiet] at hclosing
    cases hclosing
    obtain ⟨hreads, hreads', hframe⟩ := FileJournal.reads_of_close hkept
    exact ⟨hreads, hreads', fun report path hbug => absurd hbug (hnone report path), hframe⟩

section

open scoped Pattern

/-- A session whose one round has a row too few, in a directory with a log of an earlier session and
with a file that is not of its making. -/
theorem directory_of_short_session :
    let x : Offer := ⟨{ fetch := ["t.a"], tables := ["t"] }, "t.b > 0", default⟩
    let options : SessionOptions :=
      { rounds := 5, oracles := [.whereClause], databaseName := "db", logDirectory := some "logs",
        logEachSelect := true }
    let setup : List SetupStatement := [⟨"CREATE TABLE t (a, b)", true⟩]
    let files : FileSystem :=
      ⟨[(["logs"], .directory), (["logs", "db-cur.log"], .file "earlier".toUTF8),
        (["logs", "notes"], .file "kept".toUTF8)]⟩
    let w : World (List EngineAnswer) Unit FileJournal :=
      ⟨[.ok (.rows [some "1"]), .ok (.rows [])], (), { files }⟩
    let t := (play options .strict setup).transcript
      (World.handler Connection.scripted x.source FileJournal.journal) w
    let parts := "SELECT t.a FROM t WHERE t.b > 0 UNION ALL " ++
      "SELECT t.a FROM t WHERE NOT (t.b > 0) UNION ALL " ++
      "SELECT t.a FROM t WHERE (t.b > 0) IS NULL"
    let report : BugReport := ⟨"SELECT t.a FROM t", [parts], .cardinality 1 0⟩
    let path := join "logs" "db-bug-07f0acdba3dc7a4c.json"
    ∃ summary w', runWithFiles Connection.scripted x.source (play options .strict setup) w =
        (some (.ok summary), w') ∧
      (∀ x ∈ t, ∀ report, x.refusal? ≠ some (.logicBug report)) ∧
      (∀ x ∈ t, x.isWritten = true) ∧
      let after := w'.journal.files
      after.readFile (join "logs" "db-cur.log") =
          .ok ("CREATE TABLE t (a, b);\nSELECT t.a FROM t;\n" ++ parts ++ ";\n").toUTF8 ∧
        after.readFile (join "logs" "db.log") =
          .ok ("-- SELECT t.a FROM t;\n-- cardinality: 1\n\n\n" ++
            "-- " ++ parts ++ ";\n-- cardinality: 0\n\n\n").toUTF8 ∧
        summary.outcome = .logicBug report (some path) ∧
        (∃ written : String, after.readFile path = .ok written.toUTF8 ∧
          BugReport.ofJson? written = some report) ∧
        after.content? ["logs", "notes"] = some "kept".toUTF8 := by
  intro x options setup files w t parts report path
  have hname : report.fileName "db" = "db-bug-07f0acdba3dc7a4c.json" := by decide +kernel
  have hsent : linesOf (statementsOf t) =
        "CREATE TABLE t (a, b);\nSELECT t.a FROM t;\n" ++ parts ++ ";\n" ∧
      ∀ x ∈ t, x.refusal? = none ∧ x.isWritten = true := by decide +kernel
  obtain ⟨hstatements, hsmooth⟩ := hsent
  have hdiagnostic : (SessionOutcome.logicBug report (some path)).diagnostic =
      "-- SELECT t.a FROM t;\n-- cardinality: 1\n\n\n" ++
        "-- " ++ parts ++ ";\n-- cardinality: 0\n\n\n" := by decide +kernel
  have hother : ["logs", "notes"] ∉
      ((SessionOutcome.logicBug report (some path)).files "logs" "db").map placeOf := by
    rw [SessionOutcome.files, hname]
    decide
  have hbugless : ∀ x ∈ t, ∀ report, x.refusal? ≠ some (.logicBug report) := by
    intro x hx report
    rw [(hsmooth x hx).1]
    simp
  have hwrites : ∀ x ∈ t, x.isWritten = true := fun x hx => (hsmooth x hx).2
  obtain ⟨summary, w', hrun, houtcome⟩ := exists_summary_of_any
    (x := runWithFiles Connection.scripted x.source (play options .strict setup) w)
    (P := fun summary => summary.outcome = .logicBug report (some path)) (by decide +kernel)
  obtain ⟨hreads, hreads', hreport, hframe⟩ := directory_of_run Connection.scripted x.source options
    .strict setup _ _ files "logs" summary w' rfl hrun hbugless hwrites
  obtain ⟨-, written, hwritten, hread⟩ := hreport report _ houtcome
  rw [hname] at hwritten
  rw [houtcome, hdiagnostic] at hreads'
  rw [houtcome] at hframe
  refine ⟨summary, w', hrun, hbugless, hwrites, ?_, hreads', houtcome, ⟨written, hwritten, ?_⟩, ?_⟩
  · exact hreads.trans (by rw [if_pos rfl, hstatements])
  · exact hread ⟨by decide, by decide⟩
  · exact (hframe _ hother).trans rfl

end

end Session

end Trisect
