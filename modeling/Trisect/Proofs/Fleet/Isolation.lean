import Trisect.Pattern.Regular
import Trisect.Proofs.Fleet.Confined
import Trisect.Proofs.Round.Shape

/-!
# Workers do not see each other

Whatever the order in which the workers take their steps, each of them does what it would do alone.
The proof keeps the run of all workers beside the runs of each alone, which have come equally far
(`Trisect.Fleet.Alongside`): a worker is where it would be, and the files are what they would be but
for those of the others. A step of any worker keeps that, since what the worker does is done at its
own places and comes out the same in both.

So a worker needs as many turns as it would alone, and when all have finished there is nothing that
tells which schedule it was (`Trisect.Fleet.exists_turns_isolated`). This is why it does no harm
that `Trisect.Fleet.run` knows only one.
-/

namespace Trisect

namespace Fleet

open FileSystem (placeOf)

variable {γ : Type}

/-! ### Places of one's own -/

section Places

variable (options : SessionOptions) (index : Nat)

/-- The places of the files of a worker. -/
def OwnPlace (p : Place) : Prop := ∃ path, (options.forWorker index).IsFile path ∧ p = placeOf path

/-- The places of the files of the other workers. -/
def OtherPlace (p : Place) : Prop := ∃ other, other ≠ index ∧ OwnPlace options other p

variable {options index}

theorem not_otherPlace_of_ownPlace (hsessions : 1 < options.sessions) {p : Place}
    (h : OwnPlace options index p) : ¬ OtherPlace options index p := by
  obtain ⟨path, hpath, rfl⟩ := h
  rintro ⟨other, hne, path', hpath', heq⟩
  exact SessionOptions.placeOf_ne_of_isFile hsessions (Ne.symm hne) hpath hpath' heq

variable (options) in
/-- A site at which all workers keep their files, each at places of its own. -/
def ServesAll (site : Site) : Prop :=
  ∀ index, Serves site (OwnPlace options index) (options.forWorker index)

/-- **All workers keep their files at one site.** -/
theorem exists_servesAll (hsessions : 1 < options.sessions) : ∃ site, ServesAll options site := by
  obtain ⟨names, last, hnames⟩ :=
    SessionOptions.exists_site hsessions (options.logDirectory.getD "")
  refine ⟨⟨options.logDirectory.getD "", names⟩, fun index directory hdirectory => ?_⟩
  have hsome : options.logDirectory = some directory := by
    rw [← SessionOptions.logDirectory_forWorker, hdirectory]
  have hgetD : options.logDirectory.getD "" = directory := by rw [hsome, Option.getD_some]
  refine ⟨hgetD, ?_, fun path hpath => ?_, fun path hpath => ?_⟩
  · rw [SessionOptions.databaseName_forWorker hsessions]
    simp
  · obtain ⟨x, hx, rfl⟩ := hpath.exists_ending
    exact ⟨_, hnames index x hx⟩
  · exact ⟨path, ⟨directory, hdirectory, hgetD ▸ hpath⟩, rfl⟩

end Places

/-! ### Side by side and alone -/

section Alongside

variable [PatternReader] (c : Connection γ)
  (openConnection : SessionOptions → Option (Except OracleError γ))
  (config : Configuration) (files : FileSystem)

/-- A worker that has taken a number of steps alone. -/
def stepsAlone (index k : Nat) : Worker γ × FileSystem :=
  Worker.steps c openConnection (config.session.forWorker index) config.dialect k (.waiting, files)

variable {n : Nat}

/-- **The run of all workers beside the runs of each alone**, after as many steps of each. -/
structure Alongside (site : Site) (turns : Fin n → Nat) (s : State γ n) : Prop where
  workers : ∀ i, s.workers i = (stepsAlone c openConnection config files i (turns i)).1
  others : ∀ i : Fin n, site.Evolves (OtherPlace config.session i)
    (stepsAlone c openConnection config files i (turns i)).2 s.files
  evolves : site.Evolves (fun p => ∃ i : Fin n, OwnPlace config.session i p) files s.files

variable {c openConnection config files} {site : Site}

/-- What a worker writes alone is at its own places, and it is confined all the time. -/
theorem confined_stepsAlone (hserves : ServesAll config.session site) (index k : Nat) :
    let y := stepsAlone c openConnection config files index k
    site.Evolves (OwnPlace config.session index) files y.2 ∧
      Confined site (OwnPlace config.session index) (config.session.forWorker index).databaseName
        y.1 y.2 :=
  Confined.steps (hserves index) (x := (.waiting, files)) (.waiting files) k

variable {turns : Fin n → Nat} {s : State γ n}

/-- **A step of any worker** keeps all workers alongside. -/
theorem Alongside.step (hsessions : 1 < config.session.sessions)
    (hserves : ServesAll config.session site)
    (h : Alongside c openConnection config files site turns s) (j : Fin n) :
    Alongside c openConnection config files site (fun i => turns i + if j = i then 1 else 0)
      (s.step c openConnection config j) := by
  obtain ⟨hworkers, hothers, hevolves⟩ := h
  have hnext : stepsAlone c openConnection config files j (turns j + 1) =
      Worker.step c openConnection (config.session.forWorker j) config.dialect
        (stepsAlone c openConnection config files j (turns j)).1
        (stepsAlone c openConnection config files j (turns j)).2 :=
    Worker.steps_succ' ..
  obtain ⟨-, hconfined⟩ := confined_stepsAlone (c := c) hserves j (turns j)
  -- what the worker does alone comes out the same among the others
  have halone : StepsConfined c openConnection _ config.dialect site _ _ _ :=
    hconfined.step (hserves j)
  have hdisjoint : ∀ p, OwnPlace config.session j p → ¬ OtherPlace config.session j p := fun p hp =>
    not_otherPlace_of_ownPlace hsessions hp
  obtain ⟨hsame, hstay⟩ := halone.1.same hdisjoint (hothers j)
  -- and what it does among the others is done at its own places
  have hamong : StepsConfined c openConnection _ config.dialect site _ _ _ :=
    (hconfined.of_evolves (hothers j)).step (hserves j)
  have hown := hamong.1.evolves
  rw [← hnext, ← hworkers j] at hsame hstay
  rw [← hworkers j] at hown
  refine ⟨fun i => ?_, fun i => ?_, hevolves.trans (hown.mono fun p hp => ⟨j, hp⟩)⟩
  · by_cases hji : j = i
    · subst hji
      rw [if_pos rfl, State.workers_step_self]
      exact hsame.symm
    · rw [if_neg hji, State.workers_step_of_ne _ _ _ _ (Ne.symm hji)]
      exact hworkers i
  · by_cases hji : j = i
    · subst hji
      rw [if_pos rfl]
      exact hstay
    · rw [if_neg hji]
      have hne : (j : Nat) ≠ i := fun heq => hji (Fin.ext heq)
      exact (hothers i).trans (hown.mono fun p hp => ⟨j, hne, hp⟩)

/-- **A run of any schedule** keeps all workers alongside. -/
theorem Alongside.run (hsessions : 1 < config.session.sessions)
    (hserves : ServesAll config.session site)
    (h : Alongside c openConnection config files site turns s) (schedule : List (Fin n)) :
    Alongside c openConnection config files site (fun i => turns i + schedule.count i)
      (s.run c openConnection config schedule) := by
  induction schedule generalizing turns s with
  | nil => exact h
  | cons j rest ih =>
    have hturns : (fun i => turns i + (j :: rest).count i) =
        fun i => (turns i + if j = i then 1 else 0) + rest.count i := by
      funext i
      simp only [List.count_cons, beq_iff_eq]
      omega
    rw [hturns, State.run, List.foldl_cons]
    exact ih (h.step hsessions hserves j)

variable (c openConnection files) in
theorem alongside_run (hsessions : 1 < config.session.sessions)
    (hserves : ServesAll config.session site)
    (schedule : List (Fin n)) :
    Alongside c openConnection config files site (schedule.count ·)
      ((State.initial n files).run c openConnection config schedule) := by
  have hinitial : Alongside c openConnection config files site (fun _ : Fin n => 0)
      (State.initial n files) := ⟨fun _ => rfl, fun _ => .refl files, .refl files⟩
  have hrun := hinitial.run hsessions hserves schedule
  simp only [Nat.zero_add] at hrun
  exact hrun

end Alongside

/-! ### Isolation -/

section Isolation

variable [PatternReader] (c : Connection γ)
  (openConnection : SessionOptions → Option (Except OracleError γ))

/-- **What comes of a worker that is alone**: what its session returns, and the files it leaves. A
worker whose connection cannot be opened returns the error, and one that breaks down, over the
opening or later, returns an error that says so. -/
def alone (options : SessionOptions) (dialect : Dialect) (files : FileSystem) :
    Except OracleError SessionSummary × FileSystem :=
  match openConnection options with
  | none => (.error (.internal "session thread panicked"), files)
  | some (.error e) => (.error e, files)
  | some (.ok engine) =>
    let (result, w) := Session.runGenerated c options dialect engine files
    (result.getD (.error (.internal "session thread panicked")), w.journal.files)

theorem runWorker_eq_alone (options : SessionOptions) (dialect : Dialect) (files : FileSystem) :
    let run := runWorker c openConnection options dialect files
    (run.1.result, run.2) = alone c openConnection options dialect files := by
  rw [runWorker, alone]
  rcases openConnection options with _ | (e | engine)
  · rfl
  · rfl
  · rfl

variable (config : Configuration) (files : FileSystem)

/-- **Isolation** of the workers, in a state in which all of them have finished. -/
structure Isolated (t : State γ config.session.sessions.toNat) : Prop where
  /-- There is a result for each worker, in the order of the workers, and it is that of the worker
  alone. -/
  results : t.results.map WorkerResult.result =
    (List.range config.session.sessions.toNat).map fun w =>
      (alone c openConnection (config.session.forWorker w) config.dialect files).1
  /-- The results are those of running one worker after the other. -/
  sequential : (Fleet.run c openConnection config files).1 = t.results
  /-- The files of distinct workers have different paths, which lead to different places. -/
  apart : ∀ v w path path', v ≠ w → (config.session.forWorker v).IsFile path →
    (config.session.forWorker w).IsFile path' → path ≠ path' ∧ placeOf path ≠ placeOf path'
  /-- The files of a worker hold what they hold when it is alone. -/
  contents : ∀ w < config.session.sessions.toNat, ∀ path, (config.session.forWorker w).IsFile path →
    t.files.content? (placeOf path) =
      (alone c openConnection (config.session.forWorker w) config.dialect files).2.content?
        (placeOf path)
  /-- A worker that is alone writes no files but its own. -/
  own : ∀ w < config.session.sessions.toNat, ∀ p,
    (∀ path, (config.session.forWorker w).IsFile path → p ≠ placeOf path) →
      (alone c openConnection (config.session.forWorker w) config.dialect files).2.content? p =
        files.content? p
  /-- Files that are no worker's hold what they held. -/
  elsewhere : ∀ p, (∀ w < config.session.sessions.toNat, ∀ path,
    (config.session.forWorker w).IsFile path → p ≠ placeOf path) →
      t.files.content? p = files.content? p

variable {c openConnection config files}

/-- When all workers have finished, each has the result that it has alone. -/
theorem Alongside.eq_runWorker {n : Nat} {site : Site} {turns : Fin n → Nat} {t : State γ n}
    (h : Alongside c openConnection config files site turns t)
    (hfinished : ∀ i, ∃ r, t.workers i = .finished r) (i : Fin n) :
    stepsAlone c openConnection config files i (turns i) =
      (t.workers i, (alone c openConnection (config.session.forWorker i) config.dialect files).2) ∧
    t.workers i = .finished
      (runWorker c openConnection (config.session.forWorker i) config.dialect files).1 := by
  obtain ⟨r, hr⟩ := hfinished i
  have hsteps := eq_runWorker_of_steps ((h.workers i).symm.trans hr)
  have hworker := (h.workers i).trans (congrArg Prod.fst hsteps)
  refine ⟨?_, hworker⟩
  rw [hworker, stepsAlone, hsteps, ← runWorker_eq_alone]

/-- The results are those of the workers alone. -/
theorem Alongside.results_eq {n : Nat} {site : Site} {turns : Fin n → Nat} {t : State γ n}
    (h : Alongside c openConnection config files site turns t)
    (hfinished : ∀ i, ∃ r, t.workers i = .finished r) :
    t.results = (List.finRange n).map fun i : Fin n =>
      (runWorker c openConnection (config.session.forWorker i) config.dialect files).1 := by
  rw [State.results, ← List.filterMap_eq_map]
  refine List.filterMap_congr fun i _ => ?_
  rw [(h.eq_runWorker hfinished i).2]
  rfl

/-- **Workers that have run side by side are isolated**, when they have finished. -/
theorem Alongside.isolated (hsessions : 1 < config.session.sessions) {site : Site}
    (hserves : ServesAll config.session site)
    {turns : Fin config.session.sessions.toNat → Nat} {t : State γ config.session.sessions.toNat}
    (h : Alongside c openConnection config files site turns t)
    (hfinished : ∀ i, ∃ r, t.workers i = .finished r) :
    Isolated c openConnection config files t := by
  have halone : ∀ i : Fin config.session.sessions.toNat,
      (stepsAlone c openConnection config files i (turns i)).2 =
        (alone c openConnection (config.session.forWorker i) config.dialect files).2 := fun i =>
    congrArg Prod.snd (h.eq_runWorker hfinished i).1
  refine ⟨?_, ?_, fun v w path path' hne hpath hpath' => ?_, fun w hw path hpath => ?_,
    fun w hw p hp => ?_, fun p hp => ?_⟩
  · rw [h.results_eq hfinished, List.map_map, ← List.map_coe_finRange_eq_range, List.map_map]
    refine List.map_congr_left fun i _ => ?_
    exact congrArg Prod.fst (runWorker_eq_alone c openConnection _ config.dialect files)
  · obtain ⟨schedule, hfinished', hrun⟩ :=
      exists_schedule_run c openConnection config hsessions files
    have h' := alongside_run c openConnection files hsessions hserves schedule
    rw [hrun, h.results_eq hfinished]
    exact h'.results_eq hfinished'
  · have hplace := SessionOptions.placeOf_ne_of_isFile hsessions hne hpath hpath'
    exact ⟨fun heq => hplace (congrArg placeOf heq), hplace⟩
  · have hown : OwnPlace config.session w (placeOf path) := ⟨path, hpath, rfl⟩
    rw [(h.others ⟨w, hw⟩).content? (not_otherPlace_of_ownPlace hsessions hown), halone ⟨w, hw⟩]
  · rw [← halone ⟨w, hw⟩]
    refine (confined_stepsAlone hserves w (turns ⟨w, hw⟩)).1.content? ?_
    rintro ⟨path, hpath, rfl⟩
    exact hp path hpath rfl
  · refine h.evolves.content? ?_
    rintro ⟨i, path, hpath, rfl⟩
    exact hp i i.isLt path hpath rfl

/-- **Workers are isolated.** Each of them has finished after as many turns as it needs alone,
whatever the others do, and when all have finished their results and their files are those of each
alone. -/
theorem exists_turns_isolated (c : Connection γ)
    (openConnection : SessionOptions → Option (Except OracleError γ)) (config : Configuration)
    (hsessions : 1 < config.session.sessions) (files : FileSystem) :
    ∃ turns : Fin config.session.sessions.toNat → Nat, ∀ schedule,
      let t := (State.initial config.session.sessions.toNat files).run c openConnection config
        schedule
      ((∀ i, turns i ≤ schedule.count i) ↔ ∀ i, ∃ r, t.workers i = .finished r) ∧
        ((∀ i, ∃ r, t.workers i = .finished r) → Isolated c openConnection config files t) := by
  classical
  obtain ⟨site, hserves⟩ := exists_servesAll hsessions
  have hsome : ∀ i : Fin config.session.sessions.toNat,
      ∃ k r, (stepsAlone c openConnection config files i k).1 = .finished r := by
    intro i
    obtain ⟨k, hk⟩ := exists_steps_runWorker c openConnection (config.session.forWorker i)
      config.dialect files
    exact ⟨k, _, congrArg Prod.fst hk⟩
  refine ⟨fun i => Nat.find (hsome i), fun schedule => ?_⟩
  have h := alongside_run c openConnection files hsessions hserves schedule
  refine ⟨forall_congr' fun i => ?_, h.isolated hsessions hserves⟩
  rw [h.workers i]
  refine ⟨fun hturns => ?_, fun hfinished => Nat.find_min' (hsome i) hfinished⟩
  -- who has finished stays so
  obtain ⟨k, hk⟩ := Nat.exists_eq_add_of_le' hturns
  obtain ⟨r, hr⟩ := Nat.find_spec (hsome i)
  refine ⟨r, ?_⟩
  rw [hk, stepsAlone, Worker.steps_add]
  have hfinished : Worker.steps c openConnection (config.session.forWorker i) config.dialect
      (Nat.find (hsome i)) (.waiting, files) = (.finished r, _) := Prod.ext hr rfl
  rw [hfinished, Worker.steps_finished]

end Isolation

section

open scoped Pattern

/-- Three workers that take turns: one that comes to its end, one whose connection breaks down after
its log is open, and one whose connection cannot be opened. -/
theorem isolated_of_three_workers :
    let c : Connection Bool :=
      { query := fun _ s => (some (.error .silent), s)
        execute := fun _ s => (some (.ok ()), s)
        tables := fun s => (some (.ok []), s)
        version := fun s => (if s then none else some (some "1.0"), s) }
    let openConnection : SessionOptions → Option (Except OracleError Bool) := fun options =>
      if options.databaseName = "db-2" then some (.error (.config "no engine"))
      else some (.ok (options.databaseName = "db-1"))
    let config : Configuration :=
      ⟨{ databaseName := "db", rounds := 0, sessions := 3, tables := 0,
          logDirectory := some "logs" }, .strict⟩
    let schedule : List (Fin 3) := [0, 1, 2, 1, 0, 0, 1, 0, 1, 0]
    let t := (State.initial config.session.sessions.toNat {}).run c openConnection config schedule
    1 < config.session.sessions ∧ Isolated c openConnection config {} t ∧
      t.results.map (·.result.toBool) = [true, false, false] ∧
      t.files.content? ["logs", "db-1-cur.log"] = some ByteArray.empty := by
  intro c openConnection config schedule t
  obtain ⟨turns, hturns⟩ := exists_turns_isolated c openConnection config (by decide) {}
  have hfinished : ∀ i, (((State.initial config.session.sessions.toNat {}).run c openConnection
      config schedule).workers i).result?.isSome = true := by decide +kernel
  have hisolated := (hturns schedule).2 fun i => Worker.exists_finished_of_isSome (hfinished i)
  have hresults : t.results.map (·.result.toBool) = [true, false, false] := by decide +kernel
  exact ⟨by decide, hisolated, hresults, by decide +kernel⟩

end

end Fleet

end Trisect
