import Trisect.Proofs.Json.Token
import Trisect.Proofs.Storage.Place
import Trisect.Session.Fleet

/-!
# What the files of the workers are called

All workers write into one directory, and the names of their files begin alike: with the name of the
database and a hyphen, behind which stand the number of the worker and one of three endings, two of
which begin with a hyphen themselves. That no two workers have a name in common rests on two facts.
A numeral ends where a character follows that is no digit, and so the number can be read off the
name (`Trisect.eq_of_toString_append`). And all files lead through the same names but for the last
of them (`Trisect.SessionOptions.exists_site`), however the name of the database and the directory
are written.

The main statement is `Trisect.SessionOptions.placeOf_ne_of_isFile`: files of different workers are
at different places, whatever the file system.
-/

namespace Trisect

open FileSystem (join namesOf placeOf)

/-! ### Numerals in names -/

/-- A text that begins with a character which is no digit. -/
def BeginsWithoutDigit (x : String) : Prop := ∃ c cs, x.toList = c :: cs ∧ c.isDigit = false

theorem takeWhile_isDigit_toString_append (n : Nat) {x : String} (hx : BeginsWithoutDigit x) :
    (toString n ++ x).toList.takeWhile Char.isDigit = Nat.toDigits 10 n := by
  obtain ⟨c, cs, hcs, hc⟩ := hx
  have hdigits : ∀ d ∈ Nat.toDigits 10 n, d.isDigit = true := fun d hd =>
    Nat.isDigit_of_mem_toDigits (by omega) (by omega) hd
  rw [String.toList_append, Nat.toString_eq_ofList_toDigits, String.toList_ofList,
    List.takeWhile_append_of_pos hdigits, hcs, List.takeWhile_cons_of_neg (by simp [hc]),
    List.append_nil]

/-- **A number can be read off** a name, if no digit follows it. -/
theorem eq_of_toString_append {m n : Nat} {x y : String} (hx : BeginsWithoutDigit x)
    (hy : BeginsWithoutDigit y) (h : toString m ++ x = toString n ++ y) : m = n := by
  refine Json.eq_of_digits_eq ?_
  rw [Json.digits, Json.digits, ← takeWhile_isDigit_toString_append m hx, h,
    takeWhile_isDigit_toString_append n hy]

/-! ### The files of a session -/

namespace SessionLog

/-- The paths of the files that a session writes for a database into a directory. -/
inductive IsFile (directory databaseName : String) : String → Prop
  | statements : IsFile directory databaseName (join directory (statementsName databaseName))
  | diagnostics : IsFile directory databaseName (join directory (diagnosticsName databaseName))
  | report (r : BugReport) :
    IsFile directory databaseName (join directory (reportName databaseName r))

/-- What stands behind the name of the database in the name of a file. -/
inductive IsEnding : String → Prop
  | statements : IsEnding "-cur.log"
  | diagnostics : IsEnding ".log"
  | report (r : BugReport) : IsEnding ("-bug-" ++ r.shortFingerprint ++ ".json")

theorem IsFile.exists_ending {directory databaseName path : String}
    (h : IsFile directory databaseName path) :
    ∃ x, IsEnding x ∧ path = join directory (databaseName ++ x) := by
  cases h with
  | statements => exact ⟨_, .statements, rfl⟩
  | diagnostics => exact ⟨_, .diagnostics, rfl⟩
  | report r =>
    refine ⟨_, .report r, ?_⟩
    rw [reportName, String.append_assoc, String.append_assoc, String.append_assoc]

theorem IsEnding.beginsWithoutDigit {x : String} (h : IsEnding x) : BeginsWithoutDigit x := by
  cases h with
  | statements => exact ⟨'-', "cur.log".toList, rfl, rfl⟩
  | diagnostics => exact ⟨'.', "log".toList, rfl, rfl⟩
  | report r =>
    refine ⟨'-', ("bug-" ++ r.shortFingerprint ++ ".json").toList, ?_, rfl⟩
    simp only [String.toList_append]
    rfl

theorem IsEnding.length {x : String} (h : IsEnding x) : 3 < x.toList.length := by
  cases h with
  | statements => decide
  | diagnostics => decide
  | report r =>
    have hlen : (".json".toList).length = 5 := rfl
    rw [String.toList_append, List.length_append, hlen]
    omega

/-- A hexadecimal digit is no slash. -/
theorem lowerDigit_ne_slash : ∀ n, n < 16 → Hex.lowerDigit n ≠ '/' := by decide

theorem slash_notMem_lower (bytes : List UInt8) : '/' ∉ Hex.lower bytes := by
  intro h
  obtain ⟨b, -, hb⟩ := List.mem_flatMap.1 h
  have hbyte : b.toNat < 256 := b.toNat_lt
  simp only [Hex.byteWith, List.mem_cons, List.not_mem_nil, or_false] at hb
  rcases hb with hb | hb
  · exact lowerDigit_ne_slash _ (by omega) hb.symm
  · exact lowerDigit_ne_slash _ (by omega) hb.symm

theorem IsEnding.slash_notMem {x : String} (h : IsEnding x) : '/' ∉ x.toList := by
  cases h with
  | statements => decide
  | diagnostics => decide
  | report r =>
    have hfingerprint : '/' ∉ r.shortFingerprint.toList := by
      rw [BugReport.shortFingerprint, BugReport.fingerprint, String.toList_ofList,
        String.toList_ofList]
      exact fun hmem => slash_notMem_lower _ (List.mem_of_mem_take hmem)
    simp only [String.toList_append, List.mem_append, not_or]
    exact ⟨⟨by decide, hfingerprint⟩, by decide⟩

end SessionLog

/-! ### The files of the workers -/

namespace SessionOptions

open SessionLog (IsEnding)

/-- The paths of the files that a session with these options may write. -/
def IsFile (o : SessionOptions) (path : String) : Prop :=
  ∃ directory, o.logDirectory = some directory ∧ SessionLog.IsFile directory o.databaseName path

variable {o : SessionOptions}

theorem databaseName_forWorker (h : 1 < o.sessions) (index : Nat) :
    (o.forWorker index).databaseName = o.databaseName ++ "-" ++ toString index := by
  rw [forWorker, if_neg (UInt64.not_le.2 h)]

theorem logDirectory_forWorker (o : SessionOptions) (index : Nat) :
    (o.forWorker index).logDirectory = o.logDirectory := by
  rw [forWorker]
  split
  · rfl
  · rfl

theorem slash_notMem_toString_append (index : Nat) {x : String} (hx : IsEnding x) :
    '/' ∉ (toString index ++ x).toList := by
  rw [String.toList_append, Nat.toString_eq_ofList_toDigits, String.toList_ofList, List.mem_append,
    not_or]
  refine ⟨fun hmem => ?_, hx.slash_notMem⟩
  have hdigit := Nat.isDigit_of_mem_toDigits (by omega) (by omega) hmem
  exact absurd hdigit (by decide)

/-- What stands behind the common beginning of the paths of all workers. -/
theorem isLong_toString_append (index : Nat) {x : String} (hx : IsEnding x) :
    '/' ∉ (toString index ++ x).toList ∧ 2 < (toString index ++ x).toList.length := by
  refine ⟨slash_notMem_toString_append index hx, ?_⟩
  have hlen := hx.length
  rw [String.toList_append, List.length_append]
  omega

theorem join_databaseName_forWorker (h : 1 < o.sessions) (directory : String) (index : Nat)
    (x : String) : join directory ((o.forWorker index).databaseName ++ x) =
      join directory (o.databaseName ++ "-") ++ (toString index ++ x) := by
  rw [databaseName_forWorker h, String.append_assoc,
    FileSystem.join_append directory (by simp) (toString index ++ x)]

/-- **All files of all workers** are reached through the same names, and the last name begins alike.
-/
theorem exists_site (h : 1 < o.sessions) (directory : String) :
    ∃ names last, ∀ index x, IsEnding x →
      namesOf (join directory ((o.forWorker index).databaseName ++ x)) =
        names ++ [last ++ (toString index ++ x)] ∧ last ++ (toString index ++ x) ≠ ".." := by
  obtain ⟨names, last, hnames⟩ :=
    FileSystem.exists_names_of_long (join directory (o.databaseName ++ "-"))
  refine ⟨names, last, fun index x hx => ?_⟩
  obtain ⟨hslash, hlong⟩ := isLong_toString_append index hx
  rw [join_databaseName_forWorker h]
  exact hnames _ hslash hlong

/-- **Files of different workers are at different places**, and so they have different paths. -/
theorem placeOf_ne_of_isFile (h : 1 < o.sessions) {v w : Nat} (hne : v ≠ w) {path path' : String}
    (hpath : (o.forWorker v).IsFile path) (hpath' : (o.forWorker w).IsFile path') :
    placeOf path ≠ placeOf path' := by
  obtain ⟨directory, hdirectory, hfile⟩ := hpath
  obtain ⟨directory', hdirectory', hfile'⟩ := hpath'
  rw [logDirectory_forWorker] at hdirectory hdirectory'
  obtain rfl : directory = directory' := Option.some.inj (hdirectory.symm.trans hdirectory')
  obtain ⟨x, hx, rfl⟩ := hfile.exists_ending
  obtain ⟨y, hy, rfl⟩ := hfile'.exists_ending
  obtain ⟨hslash, hlong⟩ := isLong_toString_append v hx
  obtain ⟨hslash', hlong'⟩ := isLong_toString_append w hy
  rw [join_databaseName_forWorker h, join_databaseName_forWorker h]
  refine FileSystem.placeOf_append_ne _ hslash hlong hslash' hlong' fun heq => hne ?_
  exact eq_of_toString_append hx.beginsWithoutDigit hy.beginsWithoutDigit heq

end SessionOptions

end Trisect
