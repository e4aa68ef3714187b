import Mathlib.Data.List.FinRange
import Mathlib.Data.List.Nodup
import Mathlib.Logic.Function.Iterate
import Trisect.Session.Fleet

/-!
# Workers step by step

`Trisect.Fleet.run` runs one worker after the other. Here the workers take **steps**, and may take
them in any order. A step of a worker (`Trisect.Fleet.Worker.step`) is one thing that it does with
those it talks to: it opens its connection, has one of its requests answered, or closes its log. The
workers have the files in common and nothing else. A `Trisect.Fleet.State` is where all of them are,
and a schedule says whose turn it is (`Trisect.Fleet.State.run`).

Two facts tie the steps to the runs. A worker that takes its steps alone comes to the result of
`Trisect.Fleet.runWorker` (`Trisect.Fleet.eq_runWorker_of_steps`). And running one worker after the
other is one of the schedules (`Trisect.Fleet.exists_schedule_run`), so that what holds of all
schedules holds of it.
-/

namespace Trisect

namespace Fleet

variable {γ : Type}

/-! ### One worker -/

/-- Where a worker is in its work. -/
inductive Worker (γ : Type)
  /-- It has not opened its connection. -/
  | waiting
  /-- It is in its session: what is going to be asked, and the states of those who answer. -/
  | running (d : Dialogue (Except OracleError SessionSummary)) (engine : γ) (source : RandomShapes)
      (log : Option SessionLog)
  /-- It has come to a result. -/
  | finished (result : WorkerResult γ)

section Steps

variable [PatternReader] (c : Connection γ)
  (openConnection : SessionOptions → Option (Except OracleError γ))
  (options : SessionOptions) (dialect : Dialect)

/-- **A step of a worker**: it opens its connection, has a request answered, or closes its log. A
worker that breaks down in its session still closes its log. -/
def Worker.step : Worker γ → FileSystem → Worker γ × FileSystem
  | .waiting, files =>
    match openConnection options with
    | none => (.finished ⟨.error breakdown, none⟩, files)
    | some (.error e) => (.finished ⟨.error e, none⟩, files)
    | some (.ok engine) =>
      let (d, source) := Session.generated options dialect
      (.running d engine source none, files)
  | .running (.ask r next) engine source log, files =>
    match Session.generatedHandler c r ⟨engine, source, ⟨files, log⟩⟩ with
    | (some answer, w) => (.running (next answer) w.engine w.source w.journal.log, w.journal.files)
    | (none, w) =>
      (.running (.done (.error breakdown)) w.engine w.source w.journal.log, w.journal.files)
  | .running (.done result) engine _ log, files =>
    (.finished ⟨result, some engine⟩, (FileJournal.close ⟨files, log⟩).files)
  | .finished result, files => (.finished result, files)

/-- A number of steps of a worker that is alone. -/
def Worker.steps (k : Nat) (x : Worker γ × FileSystem) : Worker γ × FileSystem :=
  (fun x => x.1.step c openConnection options dialect x.2)^[k] x

theorem Worker.steps_add (k l : Nat) (x : Worker γ × FileSystem) :
    steps c openConnection options dialect (k + l) x =
      steps c openConnection options dialect k (steps c openConnection options dialect l x) :=
  Function.iterate_add_apply _ k l x

theorem Worker.steps_succ (k : Nat) (x : Worker γ × FileSystem) :
    steps c openConnection options dialect (k + 1) x =
      steps c openConnection options dialect k (x.1.step c openConnection options dialect x.2) :=
  Function.iterate_succ_apply _ k x

theorem Worker.steps_succ' (k : Nat) (x : Worker γ × FileSystem) :
    steps c openConnection options dialect (k + 1) x =
      (steps c openConnection options dialect k x).1.step c openConnection options dialect
        (steps c openConnection options dialect k x).2 :=
  Function.iterate_succ_apply' _ k x

/-- A worker that has finished stays so. -/
theorem Worker.steps_finished (k : Nat) (result : WorkerResult γ) (files : FileSystem) :
    steps c openConnection options dialect k (.finished result, files) =
      (.finished result, files) := by
  induction k with
  | zero => rfl
  | succ k ih =>
    rw [steps_succ]
    exact ih

/-- **A session step by step** is the session run at once. -/
theorem exists_steps_session (d : Dialogue (Except OracleError SessionSummary))
    (w : World γ RandomShapes FileJournal) :
    let run := d.run (Session.generatedHandler c) w
    ∃ k, Worker.steps c openConnection options dialect k
        (.running d w.engine w.source w.journal.log, w.journal.files) =
      (.finished ⟨run.1.getD (.error breakdown), some run.2.engine⟩,
        run.2.journal.close.files) := by
  induction d generalizing w with
  | done result => exact ⟨1, rfl⟩
  | ask r next ih =>
    rw [Dialogue.run]
    rcases hanswer : Session.generatedHandler c r w with ⟨_ | answer, w₁⟩
    · refine ⟨2, ?_⟩
      rw [Worker.steps_succ, Worker.step, hanswer]
      rfl
    · obtain ⟨k, hk⟩ := ih answer w₁
      refine ⟨k + 1, ?_⟩
      rw [Worker.steps_succ, Worker.step, hanswer]
      exact hk

/-- A worker that goes on alone comes to its result. -/
theorem exists_steps_runWorker (files : FileSystem) :
    let run := runWorker c openConnection options dialect files
    ∃ k, Worker.steps c openConnection options dialect k (.waiting, files) =
      (.finished run.1, run.2) := by
  rw [runWorker]
  rcases hopen : openConnection options with _ | (e | engine)
  · refine ⟨1, ?_⟩
    rw [Worker.steps_succ, Worker.step, hopen]
    rfl
  · refine ⟨1, ?_⟩
    rw [Worker.steps_succ, Worker.step, hopen]
    rfl
  · obtain ⟨k, hk⟩ := exists_steps_session c openConnection options dialect
      (Session.generated options dialect).1
      ⟨engine, (Session.generated options dialect).2, { files }⟩
    refine ⟨k + 1, ?_⟩
    rw [Worker.steps_succ, Worker.step, hopen]
    exact hk

/-- **The result of a worker that is alone** does not depend on when one looks, if it is there. -/
theorem eq_runWorker_of_steps {c : Connection γ}
    {openConnection : SessionOptions → Option (Except OracleError γ)} {options : SessionOptions}
    {dialect : Dialect} {k : Nat} {files : FileSystem} {result : WorkerResult γ}
    (h : (Worker.steps c openConnection options dialect k (.waiting, files)).1 = .finished result) :
    Worker.steps c openConnection options dialect k (.waiting, files) =
      (.finished (runWorker c openConnection options dialect files).1,
        (runWorker c openConnection options dialect files).2) := by
  obtain ⟨l, hl⟩ := exists_steps_runWorker c openConnection options dialect files
  have hfinished : Worker.steps c openConnection options dialect k (.waiting, files) =
      (.finished result, (Worker.steps c openConnection options dialect k (.waiting, files)).2) :=
    Prod.ext h rfl
  -- both have come to a stop after k + l steps
  have hk : Worker.steps c openConnection options dialect (l + k) (.waiting, files) =
      Worker.steps c openConnection options dialect k (.waiting, files) := by
    rw [Worker.steps_add, hfinished, Worker.steps_finished]
  have hl' : Worker.steps c openConnection options dialect (k + l) (.waiting, files) =
      (.finished (runWorker c openConnection options dialect files).1,
        (runWorker c openConnection options dialect files).2) := by
    rw [Worker.steps_add, hl, Worker.steps_finished]
  rw [← hk, Nat.add_comm l k, hl']

end Steps

/-! ### All workers -/

/-- Where all workers are, and the files. -/
structure State (γ : Type) (n : Nat) where
  workers : Fin n → Worker γ
  files : FileSystem

/-- The result of a worker, if it has one. -/
def Worker.result? : Worker γ → Option (WorkerResult γ)
  | finished result => some result
  | _ => none

theorem Worker.exists_finished_of_isSome {x : Worker γ} (h : x.result?.isSome = true) :
    ∃ r, x = .finished r := by
  cases x with
  | finished r => exact ⟨r, rfl⟩
  | waiting => cases h
  | running d engine source log => cases h

namespace State

variable {n : Nat}

/-- The state in which no worker has taken a step. -/
def initial (n : Nat) (files : FileSystem) : State γ n := ⟨fun _ => .waiting, files⟩

/-- The results of the workers that have finished, in the order of the workers. -/
def results (s : State γ n) : List (WorkerResult γ) :=
  (List.finRange n).filterMap fun i => (s.workers i).result?

section Schedules

variable [PatternReader] (c : Connection γ)
  (openConnection : SessionOptions → Option (Except OracleError γ))
  (config : Configuration)

/-- A step of the worker with a number. -/
def step (s : State γ n) (i : Fin n) : State γ n :=
  let (worker, files) :=
    (s.workers i).step c openConnection (config.session.forWorker i) config.dialect s.files
  ⟨Function.update s.workers i worker, files⟩

/-- **Runs a schedule**: one step for each entry, of the worker that it names. -/
def run (s : State γ n) (schedule : List (Fin n)) : State γ n :=
  schedule.foldl (step c openConnection config) s

theorem run_append (s : State γ n) (schedule schedule' : List (Fin n)) :
    s.run c openConnection config (schedule ++ schedule') =
      (s.run c openConnection config schedule).run c openConnection config schedule' :=
  List.foldl_append

theorem workers_step_self (s : State γ n) (i : Fin n) :
    (s.step c openConnection config i).workers i = ((s.workers i).step c openConnection
      (config.session.forWorker i) config.dialect s.files).1 :=
  Function.update_self ..

theorem workers_step_of_ne (s : State γ n) {i j : Fin n} (h : j ≠ i) :
    (s.step c openConnection config i).workers j = s.workers j :=
  Function.update_of_ne h ..

/-- A worker that has all the turns takes its steps alone. -/
theorem run_replicate (s : State γ n) (i : Fin n) (k : Nat) :
    s.run c openConnection config (List.replicate k i) =
      let x := Worker.steps c openConnection (config.session.forWorker i) config.dialect k
        (s.workers i, s.files)
      ⟨Function.update s.workers i x.1, x.2⟩ := by
  induction k generalizing s with
  | zero =>
    change s = ⟨Function.update s.workers i (s.workers i), s.files⟩
    rw [Function.update_eq_self]
  | succ k ih =>
    rw [List.replicate_succ, run, List.foldl_cons, ← run, ih, Worker.steps_succ, workers_step_self]
    simp only [step, Function.update_idem]

end Schedules

end State

/-! ### One after the other -/

section Sequence

variable [PatternReader] (c : Connection γ)
  (openConnection : SessionOptions → Option (Except OracleError γ))
  (config : Configuration)

/-- Runs a worker, and adds its result to those of the workers before it. -/
def runNext {n : Nat} (before : List (WorkerResult γ) × FileSystem) (i : Fin n) :
    List (WorkerResult γ) × FileSystem :=
  let (result, files) :=
    runWorker c openConnection (config.session.forWorker i) config.dialect before.2
  (before.1 ++ [result], files)

/-- Running workers one after the other, each to its end, is a schedule. -/
theorem exists_schedule_foldl {n : Nat} (indexes : List (Fin n)) (hnodup : indexes.Nodup)
    (s : State γ n) (hwaiting : ∀ i ∈ indexes, s.workers i = .waiting)
    (results : List (WorkerResult γ)) :
    ∃ schedule,
      let t := s.run c openConnection config schedule
      indexes.foldl (runNext c openConnection config) (results, s.files) =
        (results ++ indexes.filterMap fun i => (t.workers i).result?, t.files) ∧
      (∀ i ∈ indexes, ∃ r, t.workers i = .finished r) ∧
      ∀ j, j ∉ indexes → t.workers j = s.workers j := by
  induction indexes generalizing s results with
  | nil => exact ⟨[], by simp [State.run], by simp, fun _ _ => rfl⟩
  | cons i rest ih =>
    obtain ⟨hi, hnodup⟩ := List.nodup_cons.1 hnodup
    obtain ⟨k, hk⟩ := exists_steps_runWorker c openConnection (config.session.forWorker i)
      config.dialect s.files
    generalize hrun : runWorker c openConnection (config.session.forWorker i) config.dialect
      s.files = run at hk
    -- the first worker runs to its end, and the others are still waiting
    have hfirst : s.run c openConnection config (List.replicate k i) =
        ⟨Function.update s.workers i (.finished run.1), run.2⟩ := by
      rw [State.run_replicate, hwaiting i List.mem_cons_self, hk]
    have hothers : ∀ j ∈ rest,
        (s.run c openConnection config (List.replicate k i)).workers j = .waiting := by
      intro j hj
      have hne : j ≠ i := fun heq => hi (heq ▸ hj)
      rw [hfirst]
      exact (Function.update_of_ne hne ..).trans (hwaiting j (List.mem_cons_of_mem _ hj))
    obtain ⟨schedule, hfold, hfinished, hrest⟩ := ih hnodup _ hothers (results ++ [run.1])
    rw [← State.run_append] at hfold hfinished hrest
    have hself : (s.run c openConnection config (List.replicate k i ++ schedule)).workers i =
        .finished run.1 := by
      rw [hrest i hi, hfirst]
      exact Function.update_self ..
    refine ⟨List.replicate k i ++ schedule, ?_, fun j hj => ?_, fun j hj => ?_⟩
    · have hnext : runNext c openConnection config (results, s.files) i =
          (results ++ [run.1], run.2) := by
        rw [runNext, hrun]
      rw [hfirst] at hfold
      rw [List.foldl_cons, hnext, hfold, List.filterMap_cons, hself]
      simp [Worker.result?]
    · rcases List.mem_cons.1 hj with rfl | hj
      · exact ⟨_, hself⟩
      · exact hfinished j hj
    · have hne : j ≠ i := fun heq => hj (heq ▸ List.mem_cons_self)
      rw [hrest j fun hmem => hj (List.mem_cons_of_mem _ hmem), hfirst]
      exact Function.update_of_ne hne ..

/-- **Running all workers one after the other** is one of the schedules, and after it all workers
have finished. -/
theorem exists_schedule_run (hsessions : 1 < config.session.sessions) (files : FileSystem) :
    ∃ schedule,
      let t := (State.initial config.session.sessions.toNat files).run c openConnection config
        schedule
      (∀ i, ∃ r, t.workers i = .finished r) ∧
        Fleet.run c openConnection config files = (t.results, t.files) := by
  obtain ⟨schedule, hfold, hfinished, -⟩ := exists_schedule_foldl c openConnection config
    (List.finRange config.session.sessions.toNat) (List.nodup_finRange _)
    (State.initial _ files) (fun _ _ => rfl) []
  refine ⟨schedule, fun i => hfinished i (List.mem_finRange i), ?_⟩
  have hcount : max config.session.sessions.toNat 1 = config.session.sessions.toNat := by
    have hlt : 1 < config.session.sessions.toNat := hsessions
    omega
  have hworkers : workers config.session =
      (List.finRange config.session.sessions.toNat).map (config.session.forWorker ·.val) := by
    rw [workers, hcount, ← List.map_coe_finRange_eq_range, List.map_map]
    rfl
  rw [run, hworkers, List.foldl_map]
  exact hfold

end Sequence

end Fleet

end Trisect
