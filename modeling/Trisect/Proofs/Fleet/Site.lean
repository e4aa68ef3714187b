import Trisect.Proofs.Fleet.Sharing

/-!
# A directory that is shared

The sessions of a fleet keep their logs in one directory. Whoever opens its log first makes it, and
the others find it. So file systems are compared as they are when the directory has been made, if it
can be made: `Trisect.Site.Evolves S a b` says that whatever has happened between two file systems
has happened at the places `S`, but for the directory.

Opening a log and writing a report are the two things that depend on what is there. About each of
them two things are proved. It does the **same** in a file system and in another that has evolved
from it at the places of others (`Trisect.Site.create_same`, `Trisect.Site.writeReport_same`), and
what evolves by it does so at its own places (`Trisect.Site.evolves_create`,
`Trisect.Site.evolves_writeReport`).
-/

namespace Trisect

open FileSystem (AgreeOff join namesOf placeOf resolve)

/-- Where logs are kept: the directory that is made for them, and the names that lead to all their
files, but for the last name of each. -/
structure Site where
  directory : String
  names : List String

namespace Site

variable {site : Site} {S T : Place → Prop} {a b c : FileSystem}

/-- The file system in which the directory has been made, if it can be made. -/
def made (site : Site) (fs : FileSystem) : FileSystem := FileSystem.made site.directory fs

/-- Everything that leads to the files is there. -/
structure Ready (site : Site) (fs : FileSystem) : Prop where
  directory : fs.leadsToDirectory (namesOf site.directory) = true
  names : fs.leadsToDirectory site.names = true

/-- A path that leads to a file through the names of the site. -/
def Holds (site : Site) (path : String) : Prop :=
  ∃ name, namesOf path = site.names ++ [name] ∧ name ≠ ".."

theorem made_of_ready (h : site.Ready a) : site.made a = a :=
  FileSystem.made_of_leadsToDirectory h.directory

theorem Ready.of_agreeOff (h : site.Ready a) (hab : AgreeOff S a b) : site.Ready b :=
  ⟨hab.leadsToDirectory h.directory, hab.leadsToDirectory h.names⟩

/-! ### Alike but for some places -/

/-- Two file systems that are the same when the directory has been made, but for files at certain
places in it. -/
def Alike (site : Site) (S : Place → Prop) (a b : FileSystem) : Prop :=
  site.made a = site.made b ∨ site.Ready (site.made a) ∧ AgreeOff S (site.made a) (site.made b)

namespace Alike

theorem symm (h : site.Alike S a b) : site.Alike S b a := by
  obtain heq | ⟨hready, hab⟩ := h
  · exact Or.inl heq.symm
  · exact Or.inr ⟨hready.of_agreeOff hab, hab.symm⟩

theorem trans (h : site.Alike S a b) (h' : site.Alike S b c) : site.Alike S a c := by
  obtain heq | ⟨hready, hab⟩ := h
  · rwa [Alike, heq]
  · obtain heq' | ⟨-, hbc⟩ := h'
    · exact Or.inr ⟨hready, heq' ▸ hab⟩
    · exact Or.inr ⟨hready, hab.trans hbc⟩

theorem mono (h : site.Alike S a b) (hST : ∀ p, S p → T p) : site.Alike T a b :=
  h.imp_right fun ⟨hready, hab⟩ => ⟨hready, hab.mono hST⟩

end Alike

/-- **What has happened between two file systems** has happened at certain places in the directory,
or was the making of the directory. -/
structure Evolves (site : Site) (S : Place → Prop) (a b : FileSystem) : Prop where
  alike : site.Alike S a b
  ready : site.Ready a → site.Ready b

namespace Evolves

theorem refl (a : FileSystem) : site.Evolves S a a := ⟨Or.inl rfl, id⟩

theorem trans (h : site.Evolves S a b) (h' : site.Evolves S b c) : site.Evolves S a c :=
  ⟨h.alike.trans h'.alike, fun ha => h'.ready (h.ready ha)⟩

theorem mono (h : site.Evolves S a b) (hST : ∀ p, S p → T p) : site.Evolves T a b :=
  ⟨h.alike.mono hST, h.ready⟩

/-- Once everything is there, the directory makes no difference any more. -/
theorem agreeOff (h : site.Evolves S a b) (ha : site.Ready a) : AgreeOff S a b := by
  have halike := h.alike
  rw [Alike, made_of_ready ha, made_of_ready (h.ready ha)] at halike
  obtain rfl | ⟨-, hab⟩ := halike
  · exact .refl a
  · exact hab

/-- Files elsewhere stay what they were. -/
theorem content? (h : site.Evolves S a b) {p : Place} (hp : ¬ S p) :
    b.content? p = a.content? p := by
  have hmade : (site.made b).content? p = (site.made a).content? p := by
    obtain heq | ⟨-, hab⟩ := h.alike
    · rw [heq]
    · exact (FileSystem.content?_congr (hab.nodes p hp)).symm
  have ha := (FileSystem.moreDirectories_made site.directory a).contents p
  have hb := (FileSystem.moreDirectories_made site.directory b).contents p
  exact hb.symm.trans (hmade.trans ha)

end Evolves

theorem evolves_of_agreeOff (ha : site.Ready a) (hab : AgreeOff S a b) : site.Evolves S a b := by
  refine ⟨Or.inr ?_, fun _ => ha.of_agreeOff hab⟩
  rw [made_of_ready ha, made_of_ready (ha.of_agreeOff hab)]
  exact ⟨ha, hab⟩

/-! ### Making the directory -/

theorem createDirectories_of_ready (ha : site.Ready a)
    (hfault : FileSystem.pathFault? site.directory = none) :
    a.createDirectories site.directory = .ok a := by
  rw [FileSystem.createDirectories, hfault]
  refine FileSystem.makeDirectories_of_leadsToDirectory ?_
  rw [List.reverse_reverse]
  exact ha.directory

theorem not_alike_of_error {e : IoError} {b' : FileSystem}
    (hfault : FileSystem.pathFault? site.directory = none)
    (ha : a.createDirectories site.directory = .error e)
    (hb : b.createDirectories site.directory = .ok b') : ¬ site.Alike S a b := by
  have hmade : site.made a = a := FileSystem.made_of_createDirectories_error ha
  rintro (heq | ⟨hready, -⟩)
  · obtain ⟨-, -, hb'⟩ := FileSystem.createDirectories_eq_ok hb
    rw [hmade] at heq
    rw [heq.trans hb', FileSystem.createDirectories_made hb] at ha
    cases ha
  · rw [hmade] at hready
    rw [createDirectories_of_ready hready hfault] at ha
    cases ha

/-- **Making the directory** fails in both of two file systems that are alike, for the same reason,
or in neither. -/
theorem createDirectories_same (h : site.Alike S a b) :
    (∃ e, a.createDirectories site.directory = .error e ∧
      b.createDirectories site.directory = .error e) ∨
    a.createDirectories site.directory = .ok (site.made a) ∧
      b.createDirectories site.directory = .ok (site.made b) := by
  cases hfault : FileSystem.pathFault? site.directory with
  | some e =>
    refine Or.inl ⟨e, ?_, ?_⟩
    · rw [FileSystem.createDirectories, hfault]
    · rw [FileSystem.createDirectories, hfault]
  | none =>
    cases ha : a.createDirectories site.directory with
    | error e =>
      cases hb : b.createDirectories site.directory with
      | ok b' => exact absurd h (not_alike_of_error hfault ha hb)
      | error e' =>
        -- neither can be made, and so nothing is there that would make a difference
        obtain heq | ⟨hready, -⟩ := h
        · rw [made, made, FileSystem.made_of_createDirectories_error ha,
            FileSystem.made_of_createDirectories_error hb] at heq
          rw [heq, hb] at ha
          exact Or.inl ⟨e', by rw [Except.error.inj ha], rfl⟩
        · rw [made, FileSystem.made_of_createDirectories_error ha] at hready
          rw [createDirectories_of_ready hready hfault] at ha
          cases ha
    | ok a' =>
      cases hb : b.createDirectories site.directory with
      | error e => exact absurd h.symm (not_alike_of_error hfault hb ha)
      | ok b' =>
        obtain ⟨-, -, ha'⟩ := FileSystem.createDirectories_eq_ok ha
        obtain ⟨-, -, hb'⟩ := FileSystem.createDirectories_eq_ok hb
        exact Or.inr ⟨by rw [made, ha'], by rw [made, hb']⟩

/-! ### Creating files -/

/-- Where a path of the site leads depends on the length of its last name only. -/
theorem locate_of_ready (ha : site.Ready a) {name : String} :
    a.locate [] (site.names ++ [name]) =
      if 255 < name.utf8ByteSize then .error .nameTooLong
      else .ok (FileSystem.goTo (resolve site.names) name) := by
  obtain ⟨hlocate, hdirectory⟩ := FileSystem.leadsToDirectory_iff.1 ha.names
  rw [FileSystem.locate_append, hlocate]
  show a.locate (resolve site.names) [name] = _
  by_cases hlong : 255 < name.utf8ByteSize
  · have hfollow : a.follow (resolve site.names) name = .error .nameTooLong := by
      rw [FileSystem.follow, if_pos hlong]
    rw [FileSystem.locate, hfollow, if_pos hlong]
  · have hfollow : a.follow (resolve site.names) name =
        .ok (FileSystem.goTo (resolve site.names) name) :=
      FileSystem.follow_eq_ok_iff.2 ⟨Nat.not_lt.1 hlong, hdirectory, rfl⟩
    rw [FileSystem.locate, hfollow, if_neg hlong]
    rfl

theorem createFile_eq (fs : FileSystem) (path : String) :
    fs.createFile path =
      match FileSystem.pathFault? path with
      | some e => .error e
      | none =>
        match fs.locate [] (namesOf path) with
        | .error e => .error e
        | .ok p =>
          if fs.isDirectory p then .error .isADirectory
          else .ok (p, fs.put p (.file ByteArray.empty)) := by
  rw [FileSystem.createFile]
  cases FileSystem.pathFault? path with
  | some e => rfl
  | none =>
    cases fs.locate [] (namesOf path) with
    | error e => rfl
    | ok p =>
      dsimp only
      rw [FileSystem.isDirectory]
      rcases fs.node? p with _ | (_ | content)
      · rfl
      · rfl
      · rfl

/-- **A file that is created** is where its path leads, and everything that leads there is there. -/
theorem createFile_eq_ok {path : String} (hpath : site.Holds path) {p : Place}
    (h : a.createFile path = .ok (p, b)) :
    a.leadsToDirectory site.names = true ∧ p = placeOf path ∧ a.isDirectory p = false ∧
      b = a.put p (.file ByteArray.empty) := by
  rw [createFile_eq] at h
  split at h
  · cases h
  · split at h
    · cases h
    next q hlocate =>
    split at h
    · cases h
    next hfree =>
    obtain ⟨rfl, rfl⟩ := Prod.mk.inj (Except.ok.inj h)
    refine ⟨?_, FileSystem.eq_placeOf_of_locate hlocate, by simpa using hfree, rfl⟩
    -- the last name was followed from a directory
    obtain ⟨name, hnames, -⟩ := hpath
    rw [hnames, FileSystem.locate_append] at hlocate
    cases hinner : a.locate [] site.names with
    | error e => simp [hinner, Except.bind] at hlocate
    | ok r =>
      rw [hinner] at hlocate
      replace hlocate : a.locate r [name] = .ok q := hlocate
      rw [FileSystem.locate] at hlocate
      split at hlocate
      · next hfollow =>
        obtain ⟨-, hdirectory, -⟩ := FileSystem.follow_eq_ok_iff.1 hfollow
        rw [FileSystem.leadsToDirectory, hinner]
        exact hdirectory
      · cases hlocate

/-- **Creating a file** in two file systems that have the same directories. -/
theorem createFile_same (ha : site.Ready a) (hab : AgreeOff S a b) {path : String}
    (hpath : site.Holds path) :
    (∃ e, a.createFile path = .error e ∧ b.createFile path = .error e) ∨
      a.isDirectory (placeOf path) = false ∧
      a.createFile path = .ok (placeOf path, a.put (placeOf path) (.file ByteArray.empty)) ∧
      b.createFile path = .ok (placeOf path, b.put (placeOf path) (.file ByteArray.empty)) := by
  have hb := ha.of_agreeOff hab
  obtain ⟨name, hnames, -⟩ := hpath
  have hlocate : b.locate [] (namesOf path) = a.locate [] (namesOf path) := by
    rw [hnames, locate_of_ready ha, locate_of_ready hb]
  rw [createFile_eq, createFile_eq, hlocate]
  cases FileSystem.pathFault? path with
  | some e => exact Or.inl ⟨e, rfl, rfl⟩
  | none =>
    cases hplace : a.locate [] (namesOf path) with
    | error e => exact Or.inl ⟨e, rfl, rfl⟩
    | ok p =>
      obtain rfl := FileSystem.eq_placeOf_of_locate hplace
      dsimp only
      rw [← hab.directories]
      by_cases hfree : a.isDirectory (placeOf path) = true
      · rw [if_pos hfree, if_pos hfree]
        exact Or.inl ⟨_, rfl, rfl⟩
      · rw [if_neg hfree, if_neg hfree]
        exact Or.inr ⟨by simpa using hfree, rfl, rfl⟩

/-- The files of a database are kept at the site, at the places of a kind. -/
structure Keeps (site : Site) (S : Place → Prop) (databaseName : String) : Prop where
  named : databaseName ≠ ""
  holds : ∀ path, SessionLog.IsFile site.directory databaseName path → site.Holds path
  own : ∀ path, SessionLog.IsFile site.directory databaseName path → S (placeOf path)

/-- A log that is open at the site: everything that leads to it is there, and its files are files.
-/
structure Settled (site : Site) (S : Place → Prop) (log : SessionLog) (fs : FileSystem) : Prop where
  ready : site.Ready fs
  own : ∀ p, log.At p → S p
  free : ∀ p, log.At p → fs.isDirectory p = false

theorem Settled.of_evolves {log : SessionLog} (h : site.Settled S log a)
    (hab : site.Evolves T a b) : site.Settled S log b :=
  ⟨hab.ready h.ready, h.own,
    fun p hp => ((hab.agreeOff h.ready).directories p).symm.trans (h.free p hp)⟩

theorem agreeOff_of_createFile {path : String} (hpath : site.Holds path) (hS : S (placeOf path))
    {p : Place} (h : a.createFile path = .ok (p, b)) : AgreeOff S a b := by
  obtain ⟨-, rfl, hfree, rfl⟩ := createFile_eq_ok hpath h
  exact FileSystem.agreeOff_put hfree _ hS

/-! ### Opening a log -/

section Opening

variable {databaseName : String}

/-- Beginning the two files of a log, when the directory is there. -/
def createFiles (site : Site) (databaseName : String) (fs : FileSystem) :
    Except OracleError SessionLog × FileSystem :=
  match fs.createFile (join site.directory (SessionLog.statementsName databaseName)) with
  | .error e => (.error (.io e), fs)
  | .ok (statements, fs) =>
    match fs.createFile (join site.directory (SessionLog.diagnosticsName databaseName)) with
    | .error e => (.error (.io e), fs)
    | .ok (diagnostics, fs) =>
      (.ok ⟨site.directory, databaseName, ⟨⟨statements, 0⟩, ByteArray.empty⟩, ⟨diagnostics, 0⟩⟩, fs)

theorem createFiles_eq (site : Site) (fs : FileSystem) :
    site.createFiles databaseName fs =
      match fs.createFile (join site.directory (SessionLog.statementsName databaseName)) with
      | .error e => (.error (.io e), fs)
      | .ok (statements, fs) =>
        match fs.createFile (join site.directory (SessionLog.diagnosticsName databaseName)) with
        | .error e => (.error (.io e), fs)
        | .ok (diagnostics, fs) =>
          (.ok ⟨site.directory, databaseName, ⟨⟨statements, 0⟩, ByteArray.empty⟩,
            ⟨diagnostics, 0⟩⟩, fs) := by
  rfl

theorem create_eq (hname : databaseName ≠ "") (fs : FileSystem) :
    SessionLog.create site.directory databaseName fs =
      match fs.createDirectories site.directory with
      | .error e => (.error (.io e), fs)
      | .ok fs => site.createFiles databaseName fs := by
  have hnonempty : databaseName.isEmpty = false := by simpa using hname
  rw [SessionLog.create, hnonempty]
  rfl

/-- Beginning the two files happens at their places, and the log is settled after it. -/
theorem evolves_createFiles (hkeeps : site.Keeps S databaseName)
    (hdirectory : a.leadsToDirectory (namesOf site.directory) = true) :
    site.Evolves S a (site.createFiles databaseName a).2 ∧
      ∀ log, (site.createFiles databaseName a).1 = .ok log →
        site.Settled S log (site.createFiles databaseName a).2 := by
  have hstatements : SessionLog.IsFile site.directory databaseName _ := .statements
  have hdiagnostics : SessionLog.IsFile site.directory databaseName _ := .diagnostics
  rw [createFiles_eq]
  cases hfirst : a.createFile (join site.directory (SessionLog.statementsName databaseName)) with
  | error e => exact ⟨.refl a, fun log hlog => by cases hlog⟩
  | ok made =>
    obtain ⟨p, b⟩ := made
    obtain ⟨hnames, hp, hfree, -⟩ := createFile_eq_ok (hkeeps.holds _ hstatements) hfirst
    have ha : site.Ready a := ⟨hdirectory, hnames⟩
    have hab := agreeOff_of_createFile (hkeeps.holds _ hstatements) (hkeeps.own _ hstatements)
      hfirst
    dsimp only
    cases hsecond : b.createFile
      (join site.directory (SessionLog.diagnosticsName databaseName)) with
    | error e => exact ⟨evolves_of_agreeOff ha hab, fun log hlog => by cases hlog⟩
    | ok made =>
      obtain ⟨q, c⟩ := made
      obtain ⟨-, hq, hfree', -⟩ := createFile_eq_ok (hkeeps.holds _ hdiagnostics) hsecond
      have hbc := agreeOff_of_createFile (hkeeps.holds _ hdiagnostics) (hkeeps.own _ hdiagnostics)
        hsecond
      have hac := hab.trans hbc
      refine ⟨evolves_of_agreeOff ha hac, fun log hlog => ?_⟩
      obtain rfl := Except.ok.inj hlog
      refine ⟨ha.of_agreeOff hac, ?_, ?_⟩
      · rintro r (rfl | rfl)
        · exact hp ▸ hkeeps.own _ hstatements
        · exact hq ▸ hkeeps.own _ hdiagnostics
      · rintro r (rfl | rfl)
        · exact (hac.directories _).symm.trans hfree
        · exact (hbc.directories _).symm.trans hfree'

/-- Beginning the two files is the same in two file systems that have the same directories. -/
theorem createFiles_same (hkeeps : site.Keeps S databaseName) (ha : site.Ready a)
    (hab : AgreeOff T a b) :
    (site.createFiles databaseName a).1 = (site.createFiles databaseName b).1 ∧
      AgreeOff T (site.createFiles databaseName a).2 (site.createFiles databaseName b).2 := by
  rw [createFiles_eq, createFiles_eq]
  obtain ⟨e, hfirst, hfirst'⟩ | ⟨hfree, hfirst, hfirst'⟩ :=
    createFile_same ha hab (hkeeps.holds _ .statements)
  · rw [hfirst, hfirst']
    exact ⟨rfl, hab⟩
  · rw [hfirst, hfirst']
    dsimp only
    have hput := hab.put hfree ByteArray.empty
    have ha' : site.Ready (a.put _ (.file ByteArray.empty)) :=
      ha.of_agreeOff (agreeOff_of_createFile (hkeeps.holds _ .statements) (hkeeps.own _ .statements)
        hfirst)
    obtain ⟨e, hsecond, hsecond'⟩ | ⟨hfree', hsecond, hsecond'⟩ :=
      createFile_same ha' hput (hkeeps.holds _ .diagnostics)
    · rw [hsecond, hsecond']
      exact ⟨rfl, hput⟩
    · rw [hsecond, hsecond']
      exact ⟨rfl, hput.put hfree' ByteArray.empty⟩

/-- **Opening a log** happens at the places of its files, and the log is settled after it. -/
theorem evolves_create (hkeeps : site.Keeps S databaseName) (a : FileSystem) :
    site.Evolves S a (SessionLog.create site.directory databaseName a).2 ∧
      ∀ log, (SessionLog.create site.directory databaseName a).1 = .ok log →
        site.Settled S log (SessionLog.create site.directory databaseName a).2 := by
  rw [create_eq hkeeps.named]
  cases hmake : a.createDirectories site.directory with
  | error e => exact ⟨.refl a, fun log hlog => by cases hlog⟩
  | ok made =>
    obtain ⟨hmore, hleads, hmade⟩ := FileSystem.createDirectories_eq_ok hmake
    obtain ⟨hevolves, hsettled⟩ := evolves_createFiles hkeeps hleads
    -- making the directory itself is not seen
    have hfirst : site.Evolves S a made := by
      refine ⟨Or.inl ?_, fun ha => ?_⟩
      · exact hmade.trans (FileSystem.made_of_leadsToDirectory hleads).symm
      · exact ⟨hleads, FileSystem.leadsToDirectory_of_directories hmore.directories ha.names⟩
    exact ⟨hfirst.trans hevolves, hsettled⟩

/-- **Opening a log is the same** after others have been at work elsewhere. -/
theorem create_same (hkeeps : site.Keeps S databaseName) (hab : site.Evolves T a b) :
    (SessionLog.create site.directory databaseName a).1 =
        (SessionLog.create site.directory databaseName b).1 ∧
      site.Evolves T (SessionLog.create site.directory databaseName a).2
        (SessionLog.create site.directory databaseName b).2 := by
  rw [create_eq hkeeps.named, create_eq hkeeps.named]
  obtain ⟨e, ha, hb⟩ | ⟨ha, hb⟩ := createDirectories_same hab.alike
  · rw [ha, hb]
    exact ⟨rfl, hab⟩
  · rw [ha, hb]
    obtain heq | ⟨hready, hagree⟩ := hab.alike
    · rw [heq]
      exact ⟨rfl, .refl _⟩
    · obtain ⟨hsame, hagree'⟩ := createFiles_same hkeeps hready hagree
      have hevolves := (evolves_createFiles hkeeps hready.directory).1
      exact ⟨hsame, evolves_of_agreeOff (hevolves.ready hready) hagree'⟩

end Opening

/-! ### Writing to a log -/

section Writing

variable {log : SessionLog} {f : FileSystem → SessionLog × FileSystem}

/-- **Writing to a log** happens at its places, and the log stays settled. -/
theorem evolves_of_writesOnly (hlog : site.Settled S log a)
    (hf : WritesOnly log.At log.SamePlaces f) :
    site.Evolves S a (f a).2 ∧ site.Settled S (f a).1 (f a).2 := by
  obtain ⟨log', writes, ⟨hstatements, hdiagnostics⟩, hwrites, hf⟩ := hf
  have hfree : ∀ w ∈ writes, a.isDirectory w.place = false := fun w hw => hlog.free _ (hwrites w hw)
  have hagree : AgreeOff S a (a.writeAll writes) :=
    FileSystem.agreeOff_writeAll hfree fun w hw => hlog.own _ (hwrites w hw)
  have hat : ∀ p, log'.At p → log.At p := fun p hp =>
    hp.imp (fun h => h.trans hstatements) fun h => h.trans hdiagnostics
  rw [hf]
  exact ⟨evolves_of_agreeOff hlog.ready hagree, hlog.ready.of_agreeOff hagree,
    fun p hp => hlog.own p (hat p hp),
    fun p hp => (hagree.directories p).symm.trans (hlog.free p (hat p hp))⟩

/-- **Writing to a log is the same** after others have been at work elsewhere. -/
theorem same_of_writesOnly (hlog : site.Settled S log a) (hST : ∀ p, S p → ¬ T p)
    (hab : site.Evolves T a b) (hf : WritesOnly log.At log.SamePlaces f) :
    (f a).1 = (f b).1 ∧ site.Evolves T (f a).2 (f b).2 := by
  have hready := (evolves_of_writesOnly hlog hf).2.ready
  obtain ⟨log', writes, -, hwrites, hf⟩ := hf
  rw [hf] at hready
  rw [hf, hf]
  refine ⟨rfl, evolves_of_agreeOff hready ?_⟩
  exact (hab.agreeOff hlog.ready).writeAll (fun w hw => hlog.free _ (hwrites w hw))
    fun w hw => hST _ (hlog.own _ (hwrites w hw))

end Writing

/-! ### Writing a report -/

section Reporting

variable {databaseName : String} (report : BugReport)

theorem writeReport_eq (directory databaseName : String) (report : BugReport) (fs : FileSystem) :
    let path := join directory (SessionLog.reportName databaseName report)
    SessionLog.writeReport directory databaseName report fs =
      match fs.createFile path with
      | .error e => (.error (.io e), fs)
      | .ok (p, fs) => (.ok path, fs.put p (.file report.pretty.toUTF8)) := by
  intro path
  have hunfold : SessionLog.writeReport directory databaseName report fs =
      match fs.writeFile path report.pretty.toUTF8 with
      | .error e => (.error (.io e), fs)
      | .ok fs => (.ok path, fs) := rfl
  rw [hunfold, FileSystem.writeFile]
  rcases fs.createFile path with e | ⟨p, made⟩
  · rfl
  · rfl

/-- **Writing a report** happens at the place of its file. -/
theorem evolves_writeReport (hkeeps : site.Keeps S databaseName) (ha : site.Ready a) :
    site.Evolves S a (SessionLog.writeReport site.directory databaseName report a).2 := by
  have hpath := hkeeps.holds _ (.report report)
  have hown := hkeeps.own _ (.report report)
  rw [writeReport_eq]
  cases hcreate : a.createFile
    (join site.directory (SessionLog.reportName databaseName report)) with
  | error e => exact .refl a
  | ok made =>
    obtain ⟨p, b⟩ := made
    obtain ⟨-, rfl, hfree, -⟩ := createFile_eq_ok hpath hcreate
    have hab := agreeOff_of_createFile hpath hown hcreate
    have hfree' : b.isDirectory _ = false := (hab.directories _).symm.trans hfree
    exact evolves_of_agreeOff ha (hab.trans (FileSystem.agreeOff_put hfree' _ hown))

/-- **Writing a report is the same** after others have been at work elsewhere. -/
theorem writeReport_same (hkeeps : site.Keeps S databaseName) (ha : site.Ready a)
    (hab : site.Evolves T a b) :
    (SessionLog.writeReport site.directory databaseName report a).1 =
        (SessionLog.writeReport site.directory databaseName report b).1 ∧
      site.Evolves T (SessionLog.writeReport site.directory databaseName report a).2
        (SessionLog.writeReport site.directory databaseName report b).2 := by
  have hpath := hkeeps.holds _ (.report report)
  have hready := (evolves_writeReport report hkeeps ha).ready ha
  rw [writeReport_eq] at hready
  rw [writeReport_eq, writeReport_eq]
  obtain ⟨e, hcreate, hcreate'⟩ | ⟨hfree, hcreate, hcreate'⟩ :=
    createFile_same ha (hab.agreeOff ha) hpath
  · rw [hcreate, hcreate']
    exact ⟨rfl, hab⟩
  · rw [hcreate] at hready ⊢
    rw [hcreate']
    have hput := (hab.agreeOff ha).put hfree ByteArray.empty
    have hfree' := (FileSystem.isDirectory_put_file a hfree ByteArray.empty _).trans hfree
    exact ⟨rfl, evolves_of_agreeOff hready (hput.put hfree' _)⟩

end Reporting

end Site

end Trisect
