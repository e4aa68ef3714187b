import Trisect.Proofs.Fleet.Site

/-!
# What is in the files of a log

What a log is given is in its files in the end, in order and with nothing else. For the diagnostics
that is so at any time, since they are written at once. Statements are held back, and what is in
their file is only a beginning of them until they are flushed. That a file **holds** some bytes
means for the one what is in it (`Trisect.Handle.Holds`), and for the other what is in it together
with what is still held back (`Trisect.BufferedFile.Holds`).

Each operation of a log adds what it is given to what one of its files holds, and leaves the other
one alone (`Trisect.SessionLog.Holds`). That nothing is changed but these two files comes from the
lists of writes that the operations are (`Trisect.WritesOnly.agreeOff`). A log that is created holds
nothing, whatever was in its files before (`Trisect.SessionLog.created_of_create`).
-/

namespace Trisect

open FileSystem (AgreeOff join namesOf placeOf)

/-! ### Contents -/

namespace FileSystem

variable {S : Place → Prop} {a b fs fs' : FileSystem} {p : Place} {path : String}
  {content : ByteArray}

theorem content?_eq_some_iff :
    fs.content? p = some content ↔ fs.node? p = some (.file content) := by
  rw [content?]
  split
  · next written heq => simp [heq]
  · next hnone =>
    constructor
    · intro h
      cases h
    · intro h
      exact absurd h (hnone content)

theorem isDirectory_of_content? (h : fs.content? p = some content) : fs.isDirectory p = false := by
  rw [isDirectory, content?_eq_some_iff.1 h]

theorem content?_put_self (h : fs.isDirectory p = false) (content : ByteArray) :
    (fs.put p (.file content)).content? p = some content :=
  content?_eq_some_iff.2 (node?_put_self fs (ne_nil_of_isDirectory_eq_false h) _)

theorem AgreeOff.content? (h : AgreeOff S a b) (hp : ¬ S p) : b.content? p = a.content? p :=
  content?_congr (h.nodes p hp).symm

/-- **A path that can be followed** to a place. -/
structure Leads (fs : FileSystem) (path : String) (p : Place) : Prop where
  fault : pathFault? path = none
  locate : fs.locate [] (namesOf path) = .ok p

theorem Leads.of_directories (h : a.Leads path p)
    (hdir : ∀ p, a.isDirectory p = true → b.isDirectory p = true) : b.Leads path p :=
  ⟨h.fault, locate_of_directories hdir h.locate⟩

theorem Leads.of_agreeOff (h : a.Leads path p) (hab : AgreeOff S a b) : b.Leads path p :=
  h.of_directories fun p hp => (hab.directories p).symm.trans hp

theorem Leads.eq_placeOf (h : fs.Leads path p) : p = placeOf path := eq_placeOf_of_locate h.locate

theorem readFile_of_leads (h : fs.Leads path p) (hcontent : fs.content? p = some content) :
    fs.readFile path = .ok content := by
  rw [readFile, h.fault]
  dsimp only
  rw [h.locate]
  dsimp only
  rw [content?_eq_some_iff.1 hcontent]

/-- **A file that is created** is empty, and nothing else is changed. -/
theorem createFile_eq_ok_iff :
    fs.createFile path = .ok (p, fs') ↔
      fs.Leads path p ∧ fs.isDirectory p = false ∧ fs' = fs.put p (.file ByteArray.empty) := by
  rw [Site.createFile_eq]
  constructor
  · intro h
    split at h
    · cases h
    next hfault =>
    split at h
    · cases h
    next q hlocate =>
    split at h
    · cases h
    next hfree =>
    obtain ⟨rfl, rfl⟩ := Prod.mk.inj (Except.ok.inj h)
    exact ⟨⟨hfault, hlocate⟩, by simpa using hfree, rfl⟩
  · rintro ⟨⟨hfault, hlocate⟩, hfree, rfl⟩
    simp [hfault, hlocate, hfree]

end FileSystem

/-- What is done to files at places of a kind changes nothing else. -/
theorem WritesOnly.agreeOff {α : Type} {S : Place → Prop} {Q : α → Prop}
    {f : FileSystem → α × FileSystem} (h : WritesOnly S Q f) {fs : FileSystem}
    (hfree : ∀ p, S p → fs.isDirectory p = false) : Q (f fs).1 ∧ AgreeOff S fs (f fs).2 := by
  obtain ⟨a, writes, ha, hwrites, hf⟩ := h
  rw [hf]
  exact ⟨ha, FileSystem.agreeOff_writeAll (fun w hw => hfree _ (hwrites w hw)) hwrites⟩

/-! ### Files that are being written -/

section Files

variable {S : Place → Prop} {a b fs : FileSystem} {content : ByteArray}

/-- **A file that is being written** holds what is in it, and the next bytes come behind that. -/
structure Handle.Holds (h : Handle) (fs : FileSystem) (bytes : ByteArray) : Prop where
  content : fs.content? h.place = some bytes
  offset : h.offset = bytes.size

theorem Handle.Holds.of_agreeOff {h : Handle} (hh : h.Holds a content) (hab : AgreeOff S a b)
    (hS : ¬ S h.place) : h.Holds b content :=
  ⟨(hab.content? hS).trans hh.content, hh.offset⟩

theorem Handle.holds_write {h : Handle} (hh : h.Holds fs content) (bytes : ByteArray) :
    (h.write bytes fs).1.Holds (h.write bytes fs).2 (content ++ bytes) := by
  have hfree := FileSystem.isDirectory_of_content? hh.content
  have hwhole : FileSystem.overwrite content h.offset bytes = content ++ bytes := by
    rw [FileSystem.overwrite, if_pos hh.offset]
  refine ⟨?_, ?_⟩
  · show (fs.writeAt h.place h.offset bytes).content? h.place = _
    rw [FileSystem.writeAt, hh.content, Option.getD_some, hwhole]
    exact FileSystem.content?_put_self hfree _
  · show h.offset + bytes.size = _
    rw [hh.offset, ByteArray.size_append]

namespace BufferedFile

variable {f : BufferedFile}

/-- **A file whose writes are held back** holds what is in it and, behind that,
what is held back. -/
def Holds (f : BufferedFile) (fs : FileSystem) (content : ByteArray) : Prop :=
  ∃ written, f.handle.Holds fs written ∧ content = written ++ f.held

theorem Holds.of_agreeOff (h : f.Holds a content) (hab : AgreeOff S a b) (hS : ¬ S f.place) :
    f.Holds b content := by
  obtain ⟨written, hwritten, hcontent⟩ := h
  exact ⟨written, hwritten.of_agreeOff hab hS, hcontent⟩

theorem Holds.isDirectory (h : f.Holds fs content) : fs.isDirectory f.place = false := by
  obtain ⟨written, hwritten, -⟩ := h
  exact FileSystem.isDirectory_of_content? hwritten.content

theorem eq_empty_of_isEmpty {bytes : ByteArray} (h : bytes.isEmpty = true) :
    bytes = ByteArray.empty := by
  rw [ByteArray.isEmpty, beq_iff_eq] at h
  exact ByteArray.size_eq_zero_iff.1 h

/-- **Behind a flush nothing is held back** any more. -/
theorem holds_flush (h : f.Holds fs content) :
    (f.flush fs).1.held = ByteArray.empty ∧ (f.flush fs).1.handle.Holds (f.flush fs).2 content := by
  obtain ⟨written, hwritten, rfl⟩ := h
  by_cases hheld : f.held.isEmpty = true
  · have hempty := eq_empty_of_isEmpty hheld
    rw [flush, if_pos hheld, hempty, ByteArray.append_empty]
    exact ⟨rfl, hwritten⟩
  · rw [flush, if_neg hheld]
    exact ⟨rfl, Handle.holds_write hwritten f.held⟩

/-- Making room loses nothing, and for what would fill the room alone everything is written. -/
theorem holds_makeRoom (h : f.Holds fs content) (bytes : ByteArray) :
    (f.makeRoom bytes fs).1.Holds (f.makeRoom bytes fs).2 content ∧
      (capacity ≤ bytes.size → (f.makeRoom bytes fs).1.held = ByteArray.empty) := by
  by_cases hroom : capacity < f.held.size + bytes.size
  · obtain ⟨hheld, hwritten⟩ := holds_flush h
    rw [makeRoom, if_pos hroom]
    exact ⟨⟨content, hwritten, by rw [hheld, ByteArray.append_empty]⟩, fun _ => hheld⟩
  · rw [makeRoom, if_neg hroom]
    refine ⟨h, fun hlarge => ByteArray.size_eq_zero_iff.1 ?_⟩
    show f.held.size = 0
    omega

/-- **What is written is added** to what a file holds, whether it is held back or not. -/
theorem holds_write (h : f.Holds fs content) (bytes : ByteArray) :
    (f.write bytes fs).1.Holds (f.write bytes fs).2 (content ++ bytes) := by
  obtain ⟨⟨written, hwritten, rfl⟩, hheld⟩ := holds_makeRoom h bytes
  rw [write_eq]
  generalize f.makeRoom bytes fs = made at hwritten hheld ⊢
  obtain ⟨f', fs'⟩ := made
  by_cases hlarge : capacity ≤ bytes.size
  · have hempty : f'.held = ByteArray.empty := hheld hlarge
    rw [take, if_pos hlarge]
    refine ⟨written ++ bytes, Handle.holds_write hwritten bytes, ?_⟩
    show written ++ f'.held ++ bytes = written ++ bytes ++ f'.held
    rw [hempty, ByteArray.append_empty, ByteArray.append_empty]
  · rw [take, if_neg hlarge]
    exact ⟨written, hwritten, ByteArray.append_assoc⟩

end BufferedFile

end Files

/-! ### Logs -/

namespace SessionLog

variable {log : SessionLog} {fs fs' : FileSystem} {statements diagnostics : ByteArray}

/-- **What a log holds**: the statements that it was given, and the diagnostics. -/
structure Holds (log : SessionLog) (fs : FileSystem) (statements diagnostics : ByteArray) :
    Prop where
  statements : log.statements.Holds fs statements
  diagnostics : log.diagnostics.Holds fs diagnostics
  apart : log.statements.place ≠ log.diagnostics.place

theorem Holds.of_agreeOff {S : Place → Prop} (h : log.Holds fs statements diagnostics)
    (hagree : AgreeOff S fs fs') (hS : ∀ p, log.At p → ¬ S p) :
    log.Holds fs' statements diagnostics :=
  ⟨h.statements.of_agreeOff hagree (hS _ (Or.inl rfl)),
    h.diagnostics.of_agreeOff hagree (hS _ (Or.inr rfl)), h.apart⟩

theorem Holds.isDirectory (h : log.Holds fs statements diagnostics) {p : Place} (hp : log.At p) :
    fs.isDirectory p = false := by
  rcases hp with rfl | rfl
  · exact h.statements.isDirectory
  · exact FileSystem.isDirectory_of_content? h.diagnostics.content

/-- What is done to the file of statements leaves that of the diagnostics alone. -/
theorem Holds.withStatements (h : log.Holds fs statements diagnostics) {bytes : ByteArray}
    {f : FileSystem → BufferedFile × FileSystem}
    (hf : WritesOnly (· = log.statements.place) (fun f' => f'.place = log.statements.place) f)
    (hholds : (f fs).1.Holds (f fs).2 bytes) :
    SessionLog.Holds { log with statements := (f fs).1 } (f fs).2 bytes diagnostics := by
  obtain ⟨hplace, hagree⟩ := hf.agreeOff fun p hp => hp ▸ h.statements.isDirectory
  refine ⟨hholds, h.diagnostics.of_agreeOff hagree (Ne.symm h.apart), ?_⟩
  exact hplace ▸ h.apart

/-- **A statement that is noted** is added to the statements, on a line and
closed by a semicolon. -/
theorem holds_writeQuery (h : log.Holds fs statements diagnostics) (sql : String) :
    (log.writeQuery sql fs).1.Holds (log.writeQuery sql fs).2
      (statements ++ (sql ++ ";\n").toUTF8) diagnostics := by
  have hfirst := h.withStatements (log.statements.writesOnly_write sql.toUTF8)
    (BufferedFile.holds_write h.statements sql.toUTF8)
  have hsecond := hfirst.withStatements (BufferedFile.writesOnly_write _ ";\n".toUTF8)
    (BufferedFile.holds_write hfirst.statements ";\n".toUTF8)
  have htext : (sql ++ ";\n").toUTF8 = sql.toUTF8 ++ ";\n".toUTF8 := String.toByteArray_append
  rw [htext, ← ByteArray.append_assoc]
  exact hsecond

theorem holds_flush (h : log.Holds fs statements diagnostics) :
    (log.flush fs).1.Holds (log.flush fs).2 statements diagnostics := by
  obtain ⟨hheld, hwritten⟩ := BufferedFile.holds_flush h.statements
  refine h.withStatements log.statements.writesOnly_flush ⟨statements, hwritten, ?_⟩
  rw [hheld, ByteArray.append_empty]

/-- **A diagnostic** is added to the diagnostics as it is. -/
theorem holds_writeDiagnostic (h : log.Holds fs statements diagnostics) (text : String) :
    (log.writeDiagnostic text fs).1.Holds (log.writeDiagnostic text fs).2 statements
      (diagnostics ++ text.toUTF8) := by
  have hfree := FileSystem.isDirectory_of_content? h.diagnostics.content
  obtain ⟨hplace, hagree⟩ := (writesOnly_handle log.diagnostics text.toUTF8).agreeOff
    fun p hp => hp ▸ hfree
  exact ⟨h.statements.of_agreeOff hagree h.apart, Handle.holds_write h.diagnostics text.toUTF8,
    fun heq => h.apart (heq.trans hplace)⟩

/-- **When a log is closed**, what it holds is in its files. -/
theorem contents_of_close (h : log.Holds fs statements diagnostics) :
    (log.close fs).content? log.statements.place = some statements ∧
      (log.close fs).content? log.diagnostics.place = some diagnostics ∧
      AgreeOff log.At fs (log.close fs) := by
  obtain ⟨-, hwritten⟩ := BufferedFile.holds_flush h.statements
  obtain ⟨⟨hstatements, hdiagnostics⟩, hagree⟩ :=
    log.writesOnly_flush.agreeOff fun p => h.isDirectory
  have hholds := holds_flush h
  refine ⟨?_, ?_, hagree⟩
  · rw [← hstatements]
    exact hwritten.content
  · rw [← hdiagnostics]
    exact hholds.diagnostics.content

/-! ### Opening a log and writing a report -/

variable {directory databaseName : String}

/-- **The files of a database are apart** if their names end differently. -/
theorem placeOf_join_ne (hname : databaseName ≠ "") {x y : String} (hx : IsEnding x)
    (hy : IsEnding y) (hne : x ≠ y) :
    placeOf (join directory (databaseName ++ x)) ≠
      placeOf (join directory (databaseName ++ y)) := by
  have hlong := hx.length
  have hlong' := hy.length
  rw [FileSystem.join_append directory hname, FileSystem.join_append directory hname]
  exact FileSystem.placeOf_append_ne _ hx.slash_notMem (by omega) hy.slash_notMem (by omega) hne

/-- **A report is apart** from the two files of the log. -/
theorem placeOf_report_ne (hname : databaseName ≠ "") (report : BugReport) :
    placeOf (join directory (reportName databaseName report)) ≠
        placeOf (join directory (statementsName databaseName)) ∧
      placeOf (join directory (reportName databaseName report)) ≠
        placeOf (join directory (diagnosticsName databaseName)) := by
  have hreport : reportName databaseName report =
      databaseName ++ ("-bug-" ++ report.shortFingerprint ++ ".json") := by
    rw [reportName, String.append_assoc, String.append_assoc, String.append_assoc]
  have hends : ∀ x : String, x = "-cur.log" ∨ x = ".log" →
      "-bug-" ++ report.shortFingerprint ++ ".json" ≠ x := by
    rintro x hx heq
    -- their first two signs tell them apart
    have hfirst := congrArg (fun s => s.toList.take 2) heq
    rcases hx with rfl | rfl
    · simp [String.toList_append] at hfirst
    · simp [String.toList_append] at hfirst
  rw [hreport]
  exact ⟨placeOf_join_ne hname (.report report) .statements (hends _ (Or.inl rfl)),
    placeOf_join_ne hname (.report report) .diagnostics (hends _ (Or.inr rfl))⟩

/-- The paths to the two files of a log can be followed. -/
structure Settles (log : SessionLog) (fs : FileSystem) (directory databaseName : String) :
    Prop where
  statements : fs.Leads (join directory (statementsName databaseName)) log.statements.place
  diagnostics : fs.Leads (join directory (diagnosticsName databaseName)) log.diagnostics.place

/-- **A log that is created** holds nothing, and no file but its own has changed. -/
theorem created_of_create (h : create directory databaseName fs = (.ok log, fs')) :
    databaseName ≠ "" ∧ log.Holds fs' ByteArray.empty ByteArray.empty ∧
      log.Settles fs' directory databaseName ∧
      ∀ p, ¬ log.At p → fs'.content? p = fs.content? p := by
  rw [create] at h
  split at h
  · cases h
  next hname =>
  split at h
  · cases h
  next made hmade =>
  split at h
  · cases h
  next p a hfirst =>
  split at h
  · cases h
  next q b hsecond =>
  obtain ⟨hlog, rfl⟩ := Prod.mk.inj h
  obtain rfl := Except.ok.inj hlog
  obtain ⟨hmore, -, -⟩ := FileSystem.createDirectories_eq_ok hmade
  obtain ⟨hleads, hfree, rfl⟩ := FileSystem.createFile_eq_ok_iff.1 hfirst
  obtain ⟨hleads', hfree', rfl⟩ := FileSystem.createFile_eq_ok_iff.1 hsecond
  have hnonempty : databaseName ≠ "" := by simpa using hname
  have hne : p ≠ q := by
    rw [hleads.eq_placeOf, hleads'.eq_placeOf]
    exact placeOf_join_ne hnonempty .statements .diagnostics (by decide)
  have hagree := FileSystem.agreeOff_put (S := (· = p)) hfree ByteArray.empty rfl
  have hagree' := FileSystem.agreeOff_put (S := (· = q)) hfree' ByteArray.empty rfl
  refine ⟨hnonempty, ⟨⟨ByteArray.empty, ⟨?_, rfl⟩, ByteArray.append_empty.symm⟩, ⟨?_, rfl⟩, hne⟩,
    ⟨(hleads.of_agreeOff hagree).of_agreeOff hagree', hleads'.of_agreeOff hagree'⟩, ?_⟩
  · exact (hagree'.content? hne).trans (FileSystem.content?_put_self hfree _)
  · exact FileSystem.content?_put_self hfree' _
  · intro r hr
    obtain ⟨hp, hq⟩ := not_or.1 hr
    rw [hagree'.content? hq, hagree.content? hp, hmore.contents]

/-- **A report that is written** is in its file, and no other file has changed. -/
theorem written_of_writeReport {report : BugReport} {path : String}
    (h : writeReport directory databaseName report fs = (.ok path, fs')) :
    path = join directory (reportName databaseName report) ∧
      ∃ p, fs'.Leads path p ∧ fs'.content? p = some report.pretty.toUTF8 ∧
        AgreeOff (· = p) fs fs' := by
  rw [Site.writeReport_eq] at h
  split at h
  · cases h
  next p made hcreate =>
  obtain ⟨hpath, rfl⟩ := Prod.mk.inj h
  obtain rfl := Except.ok.inj hpath
  obtain ⟨hleads, hfree, rfl⟩ := FileSystem.createFile_eq_ok_iff.1 hcreate
  have hcreated := FileSystem.agreeOff_put (S := (· = p)) hfree ByteArray.empty rfl
  have hfree' := (hcreated.directories p).symm.trans hfree
  have hwritten := FileSystem.agreeOff_put (S := (· = p)) hfree' report.pretty.toUTF8 rfl
  exact ⟨rfl, p, (hleads.of_agreeOff hcreated).of_agreeOff hwritten,
    FileSystem.content?_put_self hfree' _, hcreated.trans hwritten⟩

end SessionLog

end Trisect
