import Trisect.Document.Report
import Trisect.Storage.FileSystem

/-!
# The log of a session

A session that is given a directory keeps two files there, named after its database: `db-cur.log`
holds the statements that were sent, each on a line and closed by a semicolon, and `db.log` holds
diagnostics. Both begin empty. Statements are held back until there are many of them, or until they
are flushed, or until the log is closed; diagnostics are written at once.

A report of a logic bug is a file of its own, named after the database and the fingerprint of the
report, so that the same bug found twice is one file.
-/

namespace Trisect

/-- Where a file is being written. -/
structure Handle where
  place : Place
  offset : Nat

/-- Writes bytes and moves on. -/
def Handle.write (h : Handle) (bytes : ByteArray) (fs : FileSystem) : Handle × FileSystem :=
  ({ h with offset := h.offset + bytes.size }, fs.writeAt h.place h.offset bytes)

/-- A file whose writes are held back. -/
structure BufferedFile where
  handle : Handle
  held : ByteArray

namespace BufferedFile

/-- How many bytes are held back at most. -/
def capacity : Nat := 8192

/-- Writes what is held back. -/
def flush (f : BufferedFile) (fs : FileSystem) : BufferedFile × FileSystem :=
  if f.held.isEmpty then (f, fs)
  else
    let (handle, fs) := f.handle.write f.held fs
    (⟨handle, ByteArray.empty⟩, fs)

/-- Takes bytes. What is held back is written first if there is no room for them, and bytes that
would fill the room alone are not held back. -/
def write (f : BufferedFile) (bytes : ByteArray) (fs : FileSystem) : BufferedFile × FileSystem :=
  let (f, fs) := if capacity < f.held.size + bytes.size then f.flush fs else (f, fs)
  if capacity ≤ bytes.size then
    let (handle, fs) := f.handle.write bytes fs
    ({ f with handle }, fs)
  else ({ f with held := f.held ++ bytes }, fs)

end BufferedFile

/-- The open log of a session. -/
structure SessionLog where
  directory : String
  databaseName : String
  statements : BufferedFile
  diagnostics : Handle

namespace SessionLog

/-- The name of the file of statements. -/
def statementsName (databaseName : String) : String := databaseName ++ "-cur.log"

/-- The name of the file of diagnostics. -/
def diagnosticsName (databaseName : String) : String := databaseName ++ ".log"

/-- The name of the file of a report. -/
def reportName (databaseName : String) (report : BugReport) : String :=
  databaseName ++ "-bug-" ++ report.shortFingerprint ++ ".json"

/-- Begins the log of a database in a directory, which is made if it is missing. What was done
before a failure stays done. -/
def create (directory databaseName : String) (fs : FileSystem) :
    Except OracleError SessionLog × FileSystem :=
  if databaseName.isEmpty then (.error (.invalidArgument "database name must be non-empty"), fs)
  else
    match fs.createDirectories directory with
    | .error e => (.error (.io e), fs)
    | .ok fs =>
      match fs.createFile (FileSystem.join directory (statementsName databaseName)) with
      | .error e => (.error (.io e), fs)
      | .ok (statements, fs) =>
        match fs.createFile (FileSystem.join directory (diagnosticsName databaseName)) with
        | .error e => (.error (.io e), fs)
        | .ok (diagnostics, fs) =>
          (.ok ⟨directory, databaseName, ⟨⟨statements, 0⟩, ByteArray.empty⟩, ⟨diagnostics, 0⟩⟩, fs)

/-- Notes a statement. -/
def writeQuery (sql : String) (log : SessionLog) (fs : FileSystem) : SessionLog × FileSystem :=
  let (statements, fs) := log.statements.write sql.toUTF8 fs
  let (statements, fs) := statements.write ";\n".toUTF8 fs
  ({ log with statements }, fs)

/-- Writes the statements that are held back. -/
def flush (log : SessionLog) (fs : FileSystem) : SessionLog × FileSystem :=
  let (statements, fs) := log.statements.flush fs
  ({ log with statements }, fs)

/-- Appends a diagnostic. -/
def writeDiagnostic (text : String) (log : SessionLog) (fs : FileSystem) :
    SessionLog × FileSystem :=
  let (diagnostics, fs) := log.diagnostics.write text.toUTF8 fs
  ({ log with diagnostics }, fs)

/-- Writes the statements that are held back for the last time. -/
def close (log : SessionLog) (fs : FileSystem) : FileSystem := (log.flush fs).2

/-- Writes a report and gives its path. What was done before a failure stays done. -/
def writeReport (directory databaseName : String) (report : BugReport) (fs : FileSystem) :
    Except OracleError String × FileSystem :=
  let path := FileSystem.join directory (reportName databaseName report)
  match fs.writeFile path report.pretty.toUTF8 with
  | .error e => (.error (.io e), fs)
  | .ok fs => (.ok path, fs)

end SessionLog

end Trisect
