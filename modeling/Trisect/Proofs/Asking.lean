import Trisect.Proofs.Path
import Trisect.Proofs.Round.Rules
import Trisect.Proofs.Watch

/-!
# What is never asked

Much about a session follows from what some part of it does not do: no round runs a statement for
its effect, and nothing but the beginning of a session opens a log. `Trisect.Dialogue.Asks P` says
that every request of a dialogue satisfies `P`, whatever is answered, so that the requests on every
path do (`Trisect.Dialogue.Asks.of_mem_path`). It is a property of the program, in which no handler
occurs.

The rules of this file establish it along the program, for dialogues and for the steps of a session.
With them two kinds of request are told apart: those of the rounds
(`Trisect.Oracle.asks_runRound`) and those of the preparation before them
(`Trisect.Session.asks_prepare`). Noting a statement in the log is all that they have in common.
-/

namespace Trisect

variable {α β : Type} {P Q : Request → Prop}

namespace Dialogue

/-- Every request satisfies a predicate, whatever is answered. -/
inductive Asks (P : Request → Prop) : Dialogue α → Prop
  | done (a : α) : Asks P (.done a)
  | ask {r : Request} {next : r.Answer → Dialogue α} (h : P r)
      (hnext : ∀ answer, Asks P (next answer)) : Asks P (.ask r next)

theorem Asks.mono {d : Dialogue α} (h : Asks P d) (hPQ : ∀ r, P r → Q r) : Asks Q d := by
  induction h with
  | done a => exact .done a
  | ask h _ ih => exact .ask (hPQ _ h) ih

theorem asks_request {r : Request} (h : P r) : Asks P (request r) := .ask h fun _ => .done _

theorem asks_bind {d : Dialogue α} {f : α → Dialogue β} (h : Asks P d) (hf : ∀ a, Asks P (f a)) :
    Asks P (d.bind f) := by
  induction h with
  | done a => exact hf a
  | ask h _ ih => exact .ask h ih

/-- **What is never asked is on no path.** -/
theorem Asks.of_mem_path {d : Dialogue α} {t : List Exchange} {a : α} (h : Asks P d)
    (hpath : d.Path t a) {e : Exchange} (he : e ∈ t) : P e.request := by
  induction hpath with
  | done a => simp at he
  | ask rest ih =>
    cases h with
    | ask h hnext =>
      rcases List.mem_cons.1 he with rfl | he
      · exact h
      · exact ih (hnext _) he

/-- A dialogue of which only the requests are known obeys a watch that allows these in all states of
one kind, and stays in states of that kind. -/
theorem Asks.obeys {μ : Type} {d : Dialogue α} {w : Watch μ} {I : μ → Prop} (h : d.Asks P)
    (hstep : ∀ m r, I m → P r → w.allows m r ∧ ∀ answer, I (w.next m r answer)) {m : μ}
    (hm : I m) : d.Obeys w (fun _ => I) m := by
  induction h generalizing m with
  | done a => exact .done hm
  | ask h _ ih =>
    obtain ⟨hallows, hnext⟩ := hstep m _ hm h
    exact .ask hallows fun answer => ih answer (hnext answer)

end Dialogue

/-! ### Steps of a session -/

namespace Session

/-- Every request of a step satisfies a predicate. -/
def Asks (P : Request → Prop) (m : StateT Session Dialogue α) : Prop := ∀ s, (m s).Asks P

theorem asks_pure (a : α) : Asks P (pure a) := fun _ => .done _

theorem asks_bind {m : StateT Session Dialogue α} {f : α → StateT Session Dialogue β}
    (h : Asks P m) (hf : ∀ a, Asks P (f a)) : Asks P (m >>= f) :=
  fun s => Dialogue.asks_bind (h s) fun x => hf x.1 x.2

theorem Asks.of_mem_path {m : StateT Session Dialogue α} {s s' : Session} {t : List Exchange}
    {a : α} (h : Asks P m) (hpath : Path m s t a s') {e : Exchange} (he : e ∈ t) : P e.request :=
  (h s).of_mem_path hpath he

end Session

namespace SessionM

/-- Every request of a step that may end in an error satisfies a predicate. -/
def Asks (P : Request → Prop) (m : SessionM α) : Prop := Session.Asks P m.run

theorem asks_pure (a : α) : Asks P (pure a) := fun _ => .done _

theorem asks_throw (e : OracleError) : Asks P (throw e : SessionM α) := fun _ => .done _

theorem asks_get : Asks P (get : SessionM Session) := fun _ => .done _

theorem asks_modify (f : Session → Session) : Asks P (modify f : SessionM PUnit) := fun _ => .done _

theorem asks_ask {r : Request} (h : P r) : Asks P (ask r) := fun _ => .ask h fun _ => .done _

theorem asks_bind {m : SessionM α} {f : α → SessionM β} (h : Asks P m) (hf : ∀ a, Asks P (f a)) :
    Asks P (m >>= f) := by
  refine Session.asks_bind h ?_
  rintro (e | a)
  · exact Session.asks_pure _
  · exact hf a

theorem asks_ofExcept (x : Except OracleError α) : Asks P (ofExcept x) := by
  cases x with
  | ok a => exact asks_pure a
  | error e => exact asks_throw e

theorem asks_ofIo (x : Except IoError Unit) : Asks P (ofIo x) := by
  rcases x with cause | ⟨⟩
  · exact asks_throw (.io cause)
  · exact asks_pure ()

/-- Asking for something that may be refused. -/
theorem asks_offered {r : Request} (x : r.Answer → Except OracleError α) {f : α → SessionM β}
    (h : P r) (hf : ∀ a, Asks P (f a)) :
    Asks P (ask r >>= fun answer => ofExcept (x answer) >>= f) :=
  asks_bind (asks_ask h) fun answer => asks_bind (asks_ofExcept (x answer)) hf

theorem asks_recordQuery {sql : String} (hwrite : P (.writeQuery sql)) (hflush : P .flush) :
    Asks P (recordQuery sql) := by
  refine asks_bind asks_get fun s => ?_
  split
  · refine asks_bind (asks_ask hwrite) fun written => ?_
    refine asks_bind (asks_ofIo written) fun _ => ?_
    exact asks_bind (asks_ask hflush) fun flushed => asks_ofIo flushed
  · exact asks_pure _

end SessionM

/-! ### Rounds -/

/-- The requests that are made in rounds. -/
def Request.InRound : Request → Prop
  | query _ | baseSelect | predicate | groupPredicate _ | aggregate => True
  | writeQuery _ | flush | writeDiagnostic _ => True
  | execute _ | version | refreshSchema | openLog _ _ | writeReport _ _ _ => False

theorem Request.IsForShape.inRound {r : Request} (h : r.IsForShape) : r.InRound := by
  cases r with
  | baseSelect | predicate | groupPredicate | aggregate => exact trivial
  | _ => exact h.elim

/-- The actions of a round make no requests but those of rounds. -/
theorem roundRules_asks : RoundRules fun _ => Session.Asks Request.InRound where
  pure := Session.asks_pure
  bind := Session.asks_bind
  askShape hr := SessionM.asks_ask hr.inRound
  query sql := SessionM.asks_ask (r := .query sql) trivial
  recordQuery _ := SessionM.asks_recordQuery trivial trivial
  diagnostic text _ h := Session.asks_bind
    (SessionM.asks_ask (r := .writeDiagnostic text) trivial) fun _ => h
  recordStatements _ := SessionM.asks_modify _

/-- A round opens no log, writes no report, and runs no statement for its effect. -/
theorem Oracle.asks_runRound (o : Oracle) : Session.Asks Request.InRound o.runRound :=
  roundRules_asks.runRound o

/-! ### Sessions -/

/-- The requests that are made before the first round, when the log is there. -/
def Request.InPreparation : Request → Prop
  | execute _ | version | refreshSchema | writeQuery _ | flush => True
  | query _ | baseSelect | predicate | groupPredicate _ | aggregate => False
  | openLog _ _ | writeDiagnostic _ | writeReport _ _ _ => False

/-- A request to write a report for the database of a session, into the directory of its log. -/
def Request.InClosing (options : SessionOptions) (r : Request) : Prop :=
  ∃ directory report, options.logDirectory = some directory ∧
    r = .writeReport directory options.databaseName report

namespace Session

open Request (InRound InPreparation)

variable {errors : ExpectedErrors}

theorem asks_execute (sql : String) : (execute errors sql).Asks InPreparation := by
  refine SessionM.asks_bind (SessionM.asks_recordQuery trivial trivial) fun _ => ?_
  refine SessionM.asks_bind (SessionM.asks_ask (r := .execute sql) trivial) fun answer => ?_
  rcases answer with failure | ⟨⟩
  · dsimp only
    split
    · exact SessionM.asks_pure _
    · exact SessionM.asks_throw _
  · exact SessionM.asks_bind (SessionM.asks_modify _) fun _ => SessionM.asks_pure _

theorem asks_setUp (setup : List SetupStatement) : (setUp errors setup).Asks InPreparation := by
  induction setup with
  | nil => exact SessionM.asks_pure _
  | cons statement rest ih =>
    refine SessionM.asks_bind (asks_execute _) fun _ => ?_
    exact SessionM.asks_bind ih fun _ => SessionM.asks_pure _

/-- The preparation opens no log and writes no report, and queries nothing. -/
theorem asks_prepare (setup : List SetupStatement) : (prepare errors setup).Asks InPreparation := by
  refine SessionM.asks_bind (SessionM.asks_ask (r := .version) trivial) fun version => ?_
  refine SessionM.asks_bind (SessionM.asks_modify _) fun _ => ?_
  refine SessionM.asks_offered (r := .refreshSchema) id trivial fun _ => ?_
  refine SessionM.asks_bind (asks_setUp setup) fun changed => ?_
  split
  · exact SessionM.asks_bind (SessionM.asks_ask (r := .refreshSchema) trivial)
      fun _ => SessionM.asks_ofExcept _
  · exact SessionM.asks_pure _

theorem asks_playRounds (rotation : Rotation) (outcomes : List RoundOutcome) (budget : Nat) :
    Asks InRound (playRounds rotation outcomes budget) :=
  roundRules_asks.playRounds rotation outcomes budget

/-- When a session is closed, a report is written and nothing else is asked. -/
theorem asks_writeReport (options : SessionOptions) (last : Option RoundOutcome) :
    (writeReport options last).Asks (Request.InClosing options) := by
  unfold writeReport
  split
  · next directory report hdirectory =>
    refine Dialogue.asks_bind (Dialogue.asks_request ⟨directory, report, hdirectory, rfl⟩) ?_
    rintro (e | path)
    · exact .done _
    · exact .done _
  · exact .done _

/-- What a session does when its log is open, or when it has none. -/
def begun (options : SessionOptions) (dialect : Dialect) (setup : List SetupStatement)
    (errors : ExpectedErrors) : Dialogue (Except OracleError SessionSummary) := do
  match ← (prepare errors setup).run.run
      (.new options.logEachSelect options.databaseName options.seed) with
  | (.error e, _) => return .error e
  | (.ok (), s) =>
    match Rotation.ofKinds options.oracles errors dialect with
    | .error e => return .error e
    | .ok rotation => return .ok (← playPrepared options rotation s)

/-- **A session begins with opening its log**, and ends there if that fails. -/
theorem play_eq [PatternReader] {options : SessionOptions} {dialect : Dialect}
    {setup : List SetupStatement} (herrors : dialect.errors = .ok errors) :
    play options dialect setup = (openLog options).bind fun
      | .error e => .done (.error e)
      | .ok () => begun options dialect setup errors := by
  rw [play, herrors]
  rfl

/-- The rounds of a session and what closes them. -/
theorem asks_playPrepared (options : SessionOptions) (rotation : Rotation) (s : Session) :
    (playPrepared options rotation s).Asks fun r => r.InRound ∨ r.InClosing options := by
  have hrounds := asks_playRounds rotation [] options.rounds.toNat s
  refine Dialogue.asks_bind (hrounds.mono fun r hr => Or.inl hr) ?_
  rintro ⟨outcomes, s'⟩
  have hreport := asks_writeReport options outcomes.getLast?
  exact Dialogue.asks_bind (hreport.mono fun r hr => Or.inr hr) fun _ => .done _

/-- **Behind the opening of its log** a session opens no other, and writes no report but its own. -/
theorem asks_begun (options : SessionOptions) (dialect : Dialect) (setup : List SetupStatement) :
    (begun options dialect setup errors).Asks fun r =>
      r.InPreparation ∨ r.InRound ∨ r.InClosing options := by
  refine Dialogue.asks_bind ((asks_prepare setup _).mono fun r hr => Or.inl hr) ?_
  rintro ⟨e | ⟨⟩, s⟩
  · exact .done _
  · dsimp only
    split
    · exact .done _
    · next rotation _ =>
      have hplay := asks_playPrepared options rotation s
      exact Dialogue.asks_bind (hplay.mono fun r hr => Or.inr hr) fun _ => .done _

end Session

end Trisect
