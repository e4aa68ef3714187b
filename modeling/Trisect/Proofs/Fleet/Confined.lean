import Trisect.Proofs.Asking
import Trisect.Proofs.Fleet.Interleaving
import Trisect.Proofs.Fleet.Site

/-!
# A worker among others

A worker takes its steps while others take theirs, and finds files that it would not find if it were
alone. `Trisect.Site.Tame` says what can be relied on all the same: something is done to the files
at places of one's own only, and it comes out the same after others have been at work at places of
theirs. Each thing that a worker does to files is of that kind: opening its log, writing to it, and
writing a report.

That a worker does nothing else is read off its program. Before its log is open it asks for nothing
but that, and after that it asks for no other log and for no report but its own
(`Trisect.Session.asks_begun`). `Trisect.Fleet.Confined` is this as a property of where a worker is.
It is kept by each of its steps, and all of them are tame (`Trisect.Fleet.Confined.step`).
-/

namespace Trisect

namespace Site

/-! ### Keeping to one's own places -/

section Tame

variable {α β : Type} {site : Site} {S : Place → Prop} {a : FileSystem}

/-- **Keeping to places of one's own**: what is done to the files is done there, and comes out the
same after others have been at work elsewhere. -/
structure Tame (site : Site) (S : Place → Prop) (a : FileSystem)
    (f : FileSystem → α × FileSystem) : Prop where
  evolves : site.Evolves S a (f a).2
  same : ∀ {T : Place → Prop} {b : FileSystem}, (∀ p, S p → ¬ T p) → site.Evolves T a b →
    (f a).1 = (f b).1 ∧ site.Evolves T (f a).2 (f b).2

theorem tame_pure (x : α) : site.Tame S a fun fs => (x, fs) :=
  ⟨.refl a, fun _ hab => ⟨rfl, hab⟩⟩

theorem Tame.map {f : FileSystem → α × FileSystem} (h : site.Tame S a f) (x : α → β) :
    site.Tame S a fun fs => (x (f fs).1, (f fs).2) := by
  refine ⟨h.evolves, fun hST hab => ?_⟩
  obtain ⟨hsame, hevolves⟩ := h.same hST hab
  exact ⟨congrArg x hsame, hevolves⟩

theorem tame_create {databaseName : String} (hkeeps : site.Keeps S databaseName) :
    site.Tame S a (SessionLog.create site.directory databaseName) :=
  ⟨(evolves_create hkeeps a).1, fun _ hab => create_same hkeeps hab⟩

theorem tame_of_writesOnly {log : SessionLog} (hlog : site.Settled S log a)
    {f : FileSystem → SessionLog × FileSystem} (hf : WritesOnly log.At log.SamePlaces f) :
    site.Tame S a f :=
  ⟨(evolves_of_writesOnly hlog hf).1, fun hST hab => same_of_writesOnly hlog hST hab hf⟩

theorem tame_writeReport {databaseName : String} (hkeeps : site.Keeps S databaseName)
    (ha : site.Ready a) (report : BugReport) :
    site.Tame S a (SessionLog.writeReport site.directory databaseName report) :=
  ⟨evolves_writeReport report hkeeps ha, fun _ hab => writeReport_same report hkeeps ha hab⟩

end Tame

end Site

/-! ### Requests and files -/

/-- A request that concerns no files but those of the log that is open. -/
def Request.Unfiled : Request → Prop
  | openLog _ _ | writeReport _ _ _ => False
  | _ => True

/-- A request that opens no log, and writes no report but one for a database into a directory. -/
def Request.Filed (directory databaseName : String) : Request → Prop
  | openLog _ _ => False
  | writeReport directory' databaseName' _ => directory' = directory ∧ databaseName' = databaseName
  | _ => True

theorem Request.Filed.cases {directory databaseName : String} {r : Request}
    (h : r.Filed directory databaseName) :
    r.Unfiled ∨ ∃ report, r = .writeReport directory databaseName report := by
  cases r with
  | writeReport directory' databaseName' report =>
    obtain ⟨rfl, rfl⟩ := h
    exact Or.inr ⟨report, rfl⟩
  | openLog _ _ => exact h.elim
  | _ => exact Or.inl trivial

theorem FileJournal.withLog_mk (j : FileJournal) : j.withLog Prod.mk = j := by
  obtain ⟨files, _ | log⟩ := j
  · rfl
  · rfl

namespace Session

section Answers

variable {γ : Type} (c : Connection γ) {g : γ} {s : RandomShapes}

/-- **An answer that does not depend on the files**: something is done to the log that is open, and
the rest is the same whatever the files are. -/
def AnsweredBlindly (r : Request) (g : γ) (s : RandomShapes) : Prop :=
  ∃ answer g' s', ∃ op : SessionLog → FileSystem → SessionLog × FileSystem,
    (∀ log, WritesOnly log.At log.SamePlaces (op log)) ∧
      ∀ j, generatedHandler c r ⟨g, s, j⟩ = (answer, ⟨g', s', j.withLog op⟩)

theorem answeredBlindly_of_apart {r : Request} (answer : Option r.Answer) (g' : γ)
    (s' : RandomShapes) (h : ∀ j, generatedHandler c r ⟨g, s, j⟩ = (answer, ⟨g', s', j⟩)) :
    AnsweredBlindly c r g s := by
  refine ⟨answer, g', s', Prod.mk, fun log => writesOnly_pure ⟨rfl, rfl⟩, fun j => ?_⟩
  rw [j.withLog_mk, h]

/-- An answer of the engine. -/
theorem answeredBlindly_of_engine {r : Request} (x : Option r.Answer × γ)
    (h : ∀ j, generatedHandler c r ⟨g, s, j⟩ = World.engineAnswer ⟨g, s, j⟩ x) :
    AnsweredBlindly c r g s :=
  answeredBlindly_of_apart c x.1 x.2 s h

/-- An answer of the source. -/
theorem answeredBlindly_of_source {r : Request} (x : r.Answer × RandomShapes)
    (h : ∀ j, generatedHandler c r ⟨g, s, j⟩ = World.sourceAnswer ⟨g, s, j⟩ x) :
    AnsweredBlindly c r g s :=
  answeredBlindly_of_apart c (some x.1) g x.2 h

/-- The engine and the source know nothing of files, and the log does not look at them. -/
theorem answeredBlindly {r : Request} (hr : r.Unfiled) (g : γ) (s : RandomShapes) :
    AnsweredBlindly c r g s := by
  cases r with
  | query sql => exact answeredBlindly_of_engine c (c.query sql g) fun _ => rfl
  | execute sql => exact answeredBlindly_of_engine c (c.execute sql g) fun _ => rfl
  | version => exact answeredBlindly_of_engine c (c.version g) fun _ => rfl
  | refreshSchema =>
    rcases hrun : (RandomShapes.source.refresh s).run c g with ⟨_ | ⟨answer, s'⟩, g'⟩
    · refine answeredBlindly_of_apart c none g' s fun j => ?_
      rw [generatedHandler, World.handler, World.refresh, hrun]
    · refine answeredBlindly_of_apart c (some answer) g' s' fun j => ?_
      rw [generatedHandler, World.handler, World.refresh, hrun]
  | baseSelect => exact answeredBlindly_of_source c (RandomShapes.source.baseSelect s) fun _ => rfl
  | predicate => exact answeredBlindly_of_source c (RandomShapes.source.predicate s) fun _ => rfl
  | groupPredicate groupBy =>
    exact answeredBlindly_of_source c (RandomShapes.source.groupPredicate groupBy s) fun _ => rfl
  | aggregate => exact answeredBlindly_of_source c (RandomShapes.source.aggregate s) fun _ => rfl
  | writeQuery sql => exact ⟨some (.ok ()), g, s, _, (·.writesOnly_writeQuery sql), fun _ => rfl⟩
  | flush => exact ⟨some (.ok ()), g, s, _, (·.writesOnly_flush), fun _ => rfl⟩
  | writeDiagnostic text =>
    exact ⟨some (.ok ()), g, s, _, (·.writesOnly_writeDiagnostic text), fun _ => rfl⟩
  | openLog _ _ => exact hr.elim
  | writeReport _ _ _ => exact hr.elim

end Answers

end Session

/-! ### Where a worker is confined -/

namespace Fleet

variable {γ : Type} {site : Site} {S T : Place → Prop} {a b : FileSystem}

/-- **A worker that keeps to its own places**, with the files as they are: what it is going to ask
concerns no others. -/
inductive Confined (site : Site) (S : Place → Prop) (databaseName : String) :
    Worker γ → FileSystem → Prop
  | waiting (fs) : Confined site S databaseName .waiting fs
  /-- There is no log, and none will be opened. -/
  | withoutLog {d} (hd : d.Asks Request.Unfiled) (engine source fs) :
    Confined site S databaseName (.running d engine source none) fs
  /-- The log is about to be opened. -/
  | opening (hkeeps : site.Keeps S databaseName)
    {next : Except OracleError Unit → Dialogue (Except OracleError SessionSummary)}
    (herror : ∀ e, (next (.error e)).Asks Request.Unfiled)
    (hok : (next (.ok ())).Asks (Request.Filed site.directory databaseName)) (engine source fs) :
    Confined site S databaseName
      (.running (.ask (.openLog site.directory databaseName) next) engine source none) fs
  /-- The log is open. -/
  | withLog (hkeeps : site.Keeps S databaseName) {log fs} (hlog : site.Settled S log fs)
    {d} (hd : d.Asks (Request.Filed site.directory databaseName)) (engine source) :
    Confined site S databaseName (.running d engine source (some log)) fs
  | finished (result fs) : Confined site S databaseName (.finished result) fs

variable {databaseName : String} {options : SessionOptions}

/-- What others do leaves a worker confined. -/
theorem Confined.of_evolves {x : Worker γ} (h : Confined site S databaseName x a)
    (hab : site.Evolves T a b) : Confined site S databaseName x b := by
  cases h with
  | waiting => exact .waiting b
  | withoutLog hd engine source => exact .withoutLog hd engine source b
  | opening hkeeps herror hok engine source => exact .opening hkeeps herror hok engine source b
  | withLog hkeeps hlog hd engine source =>
    exact .withLog hkeeps (hlog.of_evolves hab) hd engine source
  | finished result => exact .finished result b

/-! ### The session of a worker -/

section Session

/-- What a session asks for before and in its rounds concerns no files but those of its log. -/
theorem unfiled_of_begun {r : Request} (h : r.InPreparation ∨ r.InRound) : r.Unfiled := by
  cases r with
  | openLog _ _ => exact h.elim id id
  | writeReport _ _ _ => exact h.elim id id
  | _ => trivial

theorem filed_of_unfiled {directory : String} {r : Request} (h : r.Unfiled) :
    r.Filed directory databaseName := by
  cases r with
  | openLog _ _ => exact h.elim
  | writeReport _ _ _ => exact h.elim
  | _ => trivial

/-- A session whose files, if it keeps any, are kept at the site. -/
def Serves (site : Site) (S : Place → Prop) (options : SessionOptions) : Prop :=
  ∀ directory, options.logDirectory = some directory →
    site.directory = directory ∧ site.Keeps S options.databaseName

/-- Behind the opening of its log, a session without a directory concerns no files. -/
theorem asks_begun_withoutLog (hdirectory : options.logDirectory = none) (dialect : Dialect)
    (setup : List SetupStatement) (errors : ExpectedErrors) :
    (Session.begun options dialect setup errors).Asks Request.Unfiled := by
  refine (Session.asks_begun options dialect setup).mono fun r hr => ?_
  rcases hr with hr | hr | ⟨directory, report, hsome, -⟩
  · exact unfiled_of_begun (Or.inl hr)
  · exact unfiled_of_begun (Or.inr hr)
  · rw [hdirectory] at hsome
    cases hsome

/-- Behind the opening of its log, a session concerns no files but its own. -/
theorem asks_begun_withLog {directory : String} (hdirectory : options.logDirectory = some directory)
    (dialect : Dialect) (setup : List SetupStatement) (errors : ExpectedErrors) :
    (Session.begun options dialect setup errors).Asks
      (Request.Filed directory options.databaseName) := by
  refine (Session.asks_begun options dialect setup).mono fun r hr => ?_
  rcases hr with hr | hr | ⟨directory', report, hsome, rfl⟩
  · exact filed_of_unfiled (unfiled_of_begun (Or.inl hr))
  · exact filed_of_unfiled (unfiled_of_begun (Or.inr hr))
  · exact ⟨Option.some.inj (hsome.symm.trans hdirectory), rfl⟩

/-- **A session is confined** when it begins. -/
theorem confined_play [PatternReader] (hserves : Serves site S options) (dialect : Dialect)
    (setup : List SetupStatement) (engine : γ) (source : RandomShapes) (a : FileSystem) :
    Confined site S options.databaseName
      (.running (Session.play options dialect setup) engine source none) a := by
  cases herrors : dialect.errors with
  | error e =>
    rw [Session.play, herrors]
    exact .withoutLog (.done _) engine source a
  | ok errors =>
    rw [Session.play_eq herrors, Session.openLog]
    cases hdirectory : options.logDirectory with
    | none =>
      have hok := asks_begun_withoutLog hdirectory dialect setup errors
      exact .withoutLog hok engine source a
    | some directory =>
      obtain ⟨rfl, hkeeps⟩ := hserves directory hdirectory
      have hok := asks_begun_withLog hdirectory dialect setup errors
      exact .opening hkeeps (fun e => .done _) hok engine source a

end Session

/-! ### The steps of a worker -/

section Step

variable (c : Connection γ) (openConnection : SessionOptions → Option (Except OracleError γ))
  (options : SessionOptions) (dialect : Dialect)

/-- How a session goes on after an answer, or after a breakdown. -/
def goOn {r : Request} (next : r.Answer → Dialogue (Except OracleError SessionSummary)) :
    Option r.Answer → Dialogue (Except OracleError SessionSummary)
  | some answer => next answer
  | none => .done (.error breakdown)

section GoOn

variable {r : Request} {next : r.Answer → Dialogue (Except OracleError SessionSummary)}

theorem asks_goOn {P : Request → Prop} (h : ∀ answer, (next answer).Asks P)
    (answer : Option r.Answer) : (goOn next answer).Asks P := by
  cases answer with
  | none => exact .done _
  | some answer => exact h answer

theorem step_ask [PatternReader] {engine : γ} {source : RandomShapes} {log : Option SessionLog}
    {answer : Option r.Answer} {w : World γ RandomShapes FileJournal}
    (h : Session.generatedHandler c r ⟨engine, source, ⟨a, log⟩⟩ = (answer, w)) :
    Worker.step c openConnection options dialect (.running (.ask r next) engine source log) a =
      (.running (goOn next answer) w.engine w.source w.journal.log, w.journal.files) := by
  rw [Worker.step, h]
  cases answer with
  | none => rfl
  | some answer => rfl

end GoOn

variable [PatternReader]

/-- A step that keeps to the places of a worker, and leaves it confined. -/
def StepsConfined (site : Site) (S : Place → Prop) (x : Worker γ) (a : FileSystem) : Prop :=
  site.Tame S a (x.step c openConnection options dialect) ∧
    Confined site S options.databaseName (x.step c openConnection options dialect a).1
      (x.step c openConnection options dialect a).2

variable {c openConnection options dialect}

/-- A step that does something tame, and goes on with what comes of it. -/
theorem stepsConfined_of_tame {α : Type} {x : Worker γ} {f : FileSystem → α × FileSystem}
    (hf : site.Tame S a f) (y : α → Worker γ)
    (hstep : ∀ fs, x.step c openConnection options dialect fs = (y (f fs).1, (f fs).2))
    (hy : Confined site S options.databaseName (y (f a).1) (f a).2) :
    StepsConfined c openConnection options dialect site S x a := by
  rw [StepsConfined, funext hstep]
  exact ⟨hf.map y, hy⟩

/-- A step that does nothing to the files. -/
theorem stepsConfined_of_eq {x y : Worker γ}
    (hstep : ∀ fs, x.step c openConnection options dialect fs = (y, fs))
    (hy : Confined site S options.databaseName y a) :
    StepsConfined c openConnection options dialect site S x a :=
  stepsConfined_of_tame (Site.tame_pure ()) (fun _ => y) hstep hy

theorem stepsConfined_waiting (hserves : Serves site S options) (a : FileSystem) :
    StepsConfined c openConnection options dialect site S .waiting a := by
  rcases hopen : openConnection options with _ | (e | engine)
  · exact stepsConfined_of_eq (fun fs => by rw [Worker.step, hopen]) (.finished _ a)
  · exact stepsConfined_of_eq (fun fs => by rw [Worker.step, hopen]) (.finished _ a)
  · have hbegun : Confined site S options.databaseName (.running
        (Session.generated options dialect).1 engine (Session.generated options dialect).2 none)
        a :=
      confined_play hserves dialect _ engine _ a
    exact stepsConfined_of_eq (fun fs => by rw [Worker.step, hopen]) hbegun

theorem stepsConfined_withoutLog {d : Dialogue (Except OracleError SessionSummary)}
    (hd : d.Asks Request.Unfiled) (engine : γ) (source : RandomShapes) (a : FileSystem) :
    StepsConfined c openConnection options dialect site S (.running d engine source none) a := by
  cases hd with
  | done result => exact stepsConfined_of_eq (fun _ => rfl) (.finished _ a)
  | ask hr hnext =>
    obtain ⟨answer, engine', source', op, -, hanswer⟩ :=
      Session.answeredBlindly c hr engine source
    exact stepsConfined_of_eq
      (fun fs => step_ask c openConnection options dialect (hanswer ⟨fs, none⟩))
      (.withoutLog (asks_goOn hnext answer) engine' source' a)

theorem stepsConfined_withLog (hkeeps : site.Keeps S options.databaseName) {log : SessionLog}
    (hlog : site.Settled S log a) {d : Dialogue (Except OracleError SessionSummary)}
    (hd : d.Asks (Request.Filed site.directory options.databaseName)) (engine : γ)
    (source : RandomShapes) :
    StepsConfined c openConnection options dialect site S (.running d engine source (some log))
      a := by
  cases hd with
  | done result =>
    have htame := Site.tame_of_writesOnly hlog log.writesOnly_flush
    exact stepsConfined_of_tame htame (fun _ => .finished ⟨result, some engine⟩) (fun _ => rfl)
      (.finished _ _)
  | @ask _ next hr hnext =>
    obtain hr | ⟨report, rfl⟩ := hr.cases
    · obtain ⟨answer, engine', source', op, hop, hanswer⟩ :=
        Session.answeredBlindly c hr engine source
      have hsettled := (Site.evolves_of_writesOnly hlog (hop log)).2
      exact stepsConfined_of_tame (Site.tame_of_writesOnly hlog (hop log))
        (fun log' => .running _ engine' source' (some log'))
        (fun fs => step_ask c openConnection options dialect (hanswer ⟨fs, some log⟩))
        (.withLog hkeeps hsettled (asks_goOn hnext answer) engine' source')
    · -- a report is written beside the log, which stays what it is
      have htame := Site.tame_writeReport hkeeps hlog.ready report
      have hanswer : ∀ fs, Session.generatedHandler c
          (.writeReport site.directory options.databaseName report)
          ⟨engine, source, ⟨fs, some log⟩⟩ =
            let x := SessionLog.writeReport site.directory options.databaseName report fs
            (some x.1, ⟨engine, source, ⟨x.2, some log⟩⟩) := by
        intro fs
        rw [Session.generatedHandler, World.handler, FileJournal.journal]
        dsimp only
        rcases SessionLog.writeReport site.directory options.databaseName report fs with ⟨x, fs'⟩
        rfl
      exact stepsConfined_of_tame htame
        (fun answer => .running (next answer) engine source (some log))
        (fun fs => step_ask c openConnection options dialect (hanswer fs))
        (.withLog hkeeps (hlog.of_evolves htame.evolves) (hnext _) engine source)

/-- How a session goes on when its log has been opened, or could not be. -/
def opened (next : Except OracleError Unit → Dialogue (Except OracleError SessionSummary))
    (engine : γ) (source : RandomShapes) : Except OracleError SessionLog → Worker γ
  | .error e => .running (next (.error e)) engine source none
  | .ok log => .running (next (.ok ())) engine source (some log)

theorem stepsConfined_opening (hkeeps : site.Keeps S options.databaseName)
    {next : Except OracleError Unit → Dialogue (Except OracleError SessionSummary)}
    (herror : ∀ e, (next (.error e)).Asks Request.Unfiled)
    (hok : (next (.ok ())).Asks (Request.Filed site.directory options.databaseName)) (engine : γ)
    (source : RandomShapes) (a : FileSystem) :
    StepsConfined c openConnection options dialect site S
      (.running (.ask (.openLog site.directory options.databaseName) next) engine source none)
      a := by
  have hstep : ∀ fs, Worker.step c openConnection options dialect
      (.running (.ask (.openLog site.directory options.databaseName) next) engine source none) fs =
      let x := SessionLog.create site.directory options.databaseName fs
      (opened next engine source x.1, x.2) := by
    intro fs
    have hanswer : Session.generatedHandler c (.openLog site.directory options.databaseName)
        ⟨engine, source, ⟨fs, none⟩⟩ = _ := rfl
    rw [step_ask c openConnection options dialect hanswer]
    show (let x := FileJournal.openLog site.directory options.databaseName ⟨fs, none⟩
      (Worker.running (next x.1) engine source x.2.log, x.2.files)) = _
    rw [FileJournal.openLog]
    rcases SessionLog.create site.directory options.databaseName fs with ⟨e | log, fs'⟩
    · rfl
    · rfl
  refine stepsConfined_of_tame (Site.tame_create hkeeps) (opened next engine source) hstep ?_
  have hsettled := (Site.evolves_create hkeeps a).2
  -- without a log, what is left to ask concerns no files
  rcases hcreate : (SessionLog.create site.directory options.databaseName a).1 with e | log
  · exact .withoutLog (herror e) engine source _
  · exact .withLog hkeeps (hsettled log hcreate) hok engine source

/-- **Every step of a confined worker is tame**, and leaves it confined. -/
theorem Confined.step (hserves : Serves site S options) {x : Worker γ}
    (h : Confined site S options.databaseName x a) :
    StepsConfined c openConnection options dialect site S x a := by
  cases h with
  | waiting => exact stepsConfined_waiting hserves a
  | withoutLog hd engine source => exact stepsConfined_withoutLog hd engine source a
  | opening hkeeps herror hok engine source =>
    exact stepsConfined_opening hkeeps herror hok engine source a
  | withLog hkeeps hlog hd engine source => exact stepsConfined_withLog hkeeps hlog hd engine source
  | finished result => exact stepsConfined_of_eq (fun _ => rfl) (.finished result a)

/-- A worker that goes on alone writes to its own places only, and stays confined. -/
theorem Confined.steps (hserves : Serves site S options) {x : Worker γ × FileSystem}
    (h : Confined site S options.databaseName x.1 x.2) (k : Nat) :
    let y := Worker.steps c openConnection options dialect k x
    site.Evolves S x.2 y.2 ∧ Confined site S options.databaseName y.1 y.2 := by
  induction k with
  | zero => exact ⟨.refl _, h⟩
  | succ k ih =>
    obtain ⟨hevolves, hconfined⟩ := ih
    have hstep : StepsConfined c openConnection options dialect site S _ _ := hconfined.step hserves
    obtain ⟨htame, hnext⟩ := hstep
    rw [Worker.steps_succ']
    exact ⟨hevolves.trans htame.evolves, hnext⟩

end Step

end Fleet

end Trisect
