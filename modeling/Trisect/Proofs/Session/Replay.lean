import Trisect.Pattern.Regular
import Trisect.Proofs.Asking
import Trisect.Proofs.Round.Ending
import Trisect.Proofs.Session.Accounting

/-!
# What a session keeps for its replay

Statements are added to a replay in two places that know nothing of each other: where a statement
has been run for its effect, and where a comparison has found two sides that disagree. The main
statement, `Trisect.Session.replay_of_run`, says what this comes to in a whole session: the replay
consists of the statements of the setup that succeeded, in order, and of the two annotated
statements of the bug, if the session ended with one. Nothing else that happens leaves a trace in
it.

The statements that were run are read off the exchanges (`Trisect.executed`). The setup is followed
statement by statement (`Trisect.Session.path_setUp_ok`) and the rounds one by one
(`Trisect.Session.record_of_plays`), by what the ending of each leaves of the session. That no round
runs a statement for its effect is a matter of what is never asked. A source that reports a bug of
its own is not believed in the replay, and so the main statement is about sources that do not.
-/

namespace Trisect

/-! ### Statements that were run -/

/-- A statement that was run for its effect, and what the engine said to it. -/
def Exchange.executed? : Exchange → Option (String × Except EngineError Unit)
  | ⟨.execute sql, some answer⟩ => some (sql, answer)
  | _ => none

/-- The statements that were run for their effect, in order. -/
def executed (t : List Exchange) : List (String × Except EngineError Unit) :=
  t.filterMap Exchange.executed?

/-- The statements that succeeded among those that were run. -/
def succeeded (ran : List (String × Except EngineError Unit)) : List String :=
  (ran.filter fun x => x.2.isOk).map Prod.fst

@[simp] theorem executed_nil : executed [] = [] := rfl

@[simp] theorem executed_append (t t' : List Exchange) :
    executed (t ++ t') = executed t ++ executed t' := List.filterMap_append

@[simp] theorem succeeded_nil : succeeded [] = [] := rfl

@[simp] theorem succeeded_append (ran ran' : List (String × Except EngineError Unit)) :
    succeeded (ran ++ ran') = succeeded ran ++ succeeded ran' := by
  rw [succeeded, List.filter_append, List.map_append, succeeded, succeeded]

/-- A request to run a statement for its effect. -/
def Request.IsExecute : Request → Prop
  | execute _ => True
  | _ => False

/-- Exchanges about other things are none of these. -/
theorem executed_eq_nil {t : List Exchange} (h : ∀ x ∈ t, ¬ x.request.IsExecute) :
    executed t = [] := by
  refine List.filterMap_eq_nil_iff.2 fun x hx => ?_
  have hx := h x hx
  unfold Exchange.executed?
  split
  · exact absurd trivial hx
  · rfl

theorem Request.InRound.not_isExecute {r : Request} (h : r.InRound) : ¬ r.IsExecute := by
  cases r <;> simp_all [InRound, IsExecute]

theorem Request.InClosing.not_isExecute {options : SessionOptions} {r : Request}
    (h : r.InClosing options) : ¬ r.IsExecute := by
  obtain ⟨directory, report, -, rfl⟩ := h
  exact id

/-! ### Adding to a replay -/

namespace Session

@[simp] theorem record_nil (s : Session) : s.record [] = s := by simp [record]

@[simp] theorem record_record (s : Session) (first second : List String) :
    (s.record first).record second = s.record (first ++ second) := by simp [record]

theorem statements_record (s : Session) (statements : List String) :
    (s.record statements).replay.statements = s.replay.statements ++ statements := rfl

variable {errors : ExpectedErrors} {s s' : Session} {t : List Exchange}

/-- Noting a statement runs none. -/
theorem executed_recordQuery {sql : String} {r : Except OracleError Unit}
    (h : (SessionM.recordQuery sql).Path s t r s') : s' = s ∧ executed t = [] := by
  refine ⟨(quiet_recordQuery sql _ _ _ _ h).1, executed_eq_nil fun x hx => ?_⟩
  have hround : (SessionM.recordQuery sql).Asks Request.InRound :=
    SessionM.asks_recordQuery trivial trivial
  exact (Asks.of_mem_path hround h hx).not_isExecute

/-- **A statement that is run** and does not end the session has an answer, and is kept if that is a
success. -/
theorem path_execute_ok {sql : String} {succeeds : Bool}
    (h : (execute errors sql).Path s t (.ok succeeds) s') :
    ∃ answer, executed t = [(sql, answer)] ∧ succeeds = answer.isOk ∧
      s' = s.record (succeeded [(sql, answer)]) := by
  obtain ⟨e, -, he⟩ | ⟨t₁, ⟨⟩, s₁, t₂, h₁, h₂, rfl⟩ := SessionM.path_bind_iff.1 h
  · simp at he
  obtain ⟨rfl, hnone⟩ := executed_recordQuery h₁
  obtain ⟨answer, t₃, h₃, rfl⟩ := SessionM.path_ask_bind_iff.1 h₂
  have hran : executed (t₁ ++ ⟨.execute sql, some answer⟩ :: t₃) =
      (sql, answer) :: executed t₃ := by
    rw [executed_append, hnone]
    rfl
  rw [hran]
  rcases answer with failure | ⟨⟩
  · -- only a failure that was to be expected lets the session go on
    dsimp only at h₃
    split at h₃
    · obtain ⟨rfl, hok, rfl⟩ := SessionM.path_pure_iff.1 h₃
      obtain rfl := Except.ok.inj hok
      exact ⟨_, rfl, rfl, (record_nil _).symm⟩
    · obtain ⟨-, hok, -⟩ := SessionM.path_throw_iff.1 h₃
      cases hok
  · obtain ⟨e, -, he⟩ | ⟨t₄, ⟨⟩, s₂, t₅, h₄, h₅, rfl⟩ := SessionM.path_bind_iff.1 h₃
    · simp at he
    obtain ⟨rfl, -, rfl⟩ := SessionM.path_modify_iff.1 h₄
    obtain ⟨rfl, hok, rfl⟩ := SessionM.path_pure_iff.1 h₅
    obtain rfl := Except.ok.inj hok
    exact ⟨_, rfl, rfl, rfl⟩

/-- **A setup that comes to an end** has an answer to each of its statements, and those that
succeeded are kept. -/
theorem path_setUp_ok {setup : List SetupStatement} {changed : Bool}
    (h : (setUp errors setup).Path s t (.ok changed) s') :
    ∃ answers, answers.length = setup.length ∧
      executed t = (setup.map SetupStatement.text).zip answers ∧
      s' = s.record (succeeded (executed t)) := by
  induction setup generalizing s t changed with
  | nil =>
    obtain ⟨rfl, -, rfl⟩ := SessionM.path_pure_iff.1 h
    exact ⟨[], rfl, rfl, (record_nil _).symm⟩
  | cons statement rest ih =>
    obtain ⟨e, -, he⟩ | ⟨t₁, ran, s₁, t₂, h₁, h₂, rfl⟩ := SessionM.path_bind_iff.1 h
    · simp at he
    obtain ⟨answer, hfirst, -, rfl⟩ := path_execute_ok h₁
    obtain ⟨e, -, he⟩ | ⟨t₃, later, s₂, t₄, h₃, h₄, rfl⟩ := SessionM.path_bind_iff.1 h₂
    · simp at he
    obtain ⟨rfl, -, rfl⟩ := SessionM.path_pure_iff.1 h₄
    obtain ⟨answers, hlen, hrest, rfl⟩ := ih h₃
    have hran : executed (t₁ ++ (t₃ ++ [])) = (statement.text, answer) :: executed t₃ := by
      rw [List.append_nil, executed_append, hfirst, List.singleton_append]
    refine ⟨answer :: answers, by rw [List.length_cons, List.length_cons, hlen], ?_, ?_⟩
    · rw [hran, hrest, List.map_cons, List.zip_cons_cons]
    · rw [hran, record_record, ← succeeded_append, List.singleton_append]

/-- What the preparation of a session runs and keeps is what the setup runs and keeps. -/
theorem path_prepare_ok {setup : List SetupStatement}
    (h : (prepare errors setup).Path s t (.ok ()) s') :
    ∃ answers, answers.length = setup.length ∧
      executed t = (setup.map SetupStatement.text).zip answers ∧
      s'.replay.statements = s.replay.statements ++ succeeded (executed t) := by
  obtain ⟨version, t₁, h₁, rfl⟩ := SessionM.path_ask_bind_iff.1 h
  obtain ⟨e, -, he⟩ | ⟨t₂, ⟨⟩, s₂, t₃, h₂, h₃, rfl⟩ := SessionM.path_bind_iff.1 h₁
  · simp at he
  obtain ⟨rfl, -, rfl⟩ := SessionM.path_modify_iff.1 h₂
  obtain ⟨refreshed, t₄, h₄, rfl⟩ := SessionM.path_ask_bind_iff.1 h₃
  obtain ⟨e, -, -, he, -⟩ | ⟨-, -, h₅⟩ := SessionM.path_ofExcept_bind_iff.1 h₄
  · simp at he
  obtain ⟨e, -, he⟩ | ⟨t₅, changed, s₅, t₆, h₆, h₇, rfl⟩ := SessionM.path_bind_iff.1 h₅
  · simp at he
  obtain ⟨answers, hlen, hran, rfl⟩ := path_setUp_ok h₆
  -- the source may read the schema once more, which runs nothing
  have hlast : executed t₆ = [] ∧
      s' = (s.withVersion version).record (succeeded (executed t₅)) := by
    split at h₇
    · obtain ⟨again, t₈, h₈, rfl⟩ := SessionM.path_ask_bind_iff.1 h₇
      obtain ⟨rfl, -, hs'⟩ := SessionM.path_ofExcept_iff.1 h₈
      exact ⟨rfl, hs'⟩
    · obtain ⟨rfl, -, hs'⟩ := SessionM.path_pure_iff.1 h₇
      exact ⟨rfl, hs'⟩
  obtain ⟨hnone, rfl⟩ := hlast
  have hall : executed (⟨.version, some version⟩ :: ([] ++ ⟨.refreshSchema, some refreshed⟩ ::
      (t₅ ++ t₆))) = executed t₅ := by
    have hsplit := executed_append t₅ t₆
    rw [hnone, List.append_nil] at hsplit
    exact hsplit
  rw [hall]
  exact ⟨answers, hlen, hran, statements_record _ _⟩

end Session

/-! ### Rounds -/

/-- What a round leaves in the replay: the two annotated statements of a bug. -/
def RoundOutcome.kept : RoundOutcome → List String
  | bug report => report.statements
  | _ => []

/-- What a session leaves in the replay when its rounds are over: nothing, unless it is a bug. Of
that it leaves the query and, as one statement, its reconstruction, each with its note. -/
def SessionOutcome.kept : SessionOutcome → List String
  | logicBug report _ =>
    [report.wholeQuery ++ "; -- " ++ report.mismatch.notes.1,
      ";".intercalate report.reconstructedQueries ++ "; -- " ++ report.mismatch.notes.2]
  | completed => []
  | failed _ => []

theorem RoundOutcome.kept_of_not_isTerminal {o : RoundOutcome} (h : o.isTerminal = false) :
    o.kept = [] := by
  cases o with
  | passed => rfl
  | skipped reason => rfl
  | bug report => simp [isTerminal] at h
  | failed e => simp [isTerminal] at h

theorem RoundOutcome.kept_verdict (o : RoundOutcome) (path : Option String) :
    (o.verdict path).kept = o.kept := by
  cases o with
  | bug report =>
    rw [kept, BugReport.statements, annotate, annotate, Mismatch.wholeNote_eq,
      Mismatch.combinedNote_eq]
    rfl
  | _ => rfl

/-- The error of a source that reports no bug of its own ends a round without one. -/
theorem RoundOutcome.kept_ofResult_error {e : OracleError} (h : ∀ report, e ≠ .logicBug report) :
    (ofResult (.error e)).kept = [] := by
  cases e with
  | logicBug report => exact absurd rfl (h report)
  | _ => rfl

namespace SessionSummary

variable {options : SessionOptions} {path : Option String} {replay : ReplayState}

/-- What the session leaves in the replay is what its rounds leave in it. -/
theorem kept_ofOutcomes {budget : Nat} {outcomes : List RoundOutcome}
    (h : ((∀ o ∈ outcomes, o.isTerminal = false) ∧ outcomes.length = budget) ∨
      ∃ earlier last, outcomes = earlier ++ [last] ∧ (∀ o ∈ earlier, o.isTerminal = false) ∧
        last.isTerminal = true) :
    (ofOutcomes options outcomes path replay).outcome.kept =
      outcomes.flatMap RoundOutcome.kept := by
  have hnone : ∀ os : List RoundOutcome, (∀ o ∈ os, o.isTerminal = false) →
      os.flatMap RoundOutcome.kept = [] := fun os hos =>
    List.flatMap_eq_nil_iff.2 fun o ho => o.kept_of_not_isTerminal (hos o ho)
  obtain ⟨hgoes, -⟩ | ⟨earlier, last, rfl, hearlier, hlast⟩ := h
  · rw [hnone _ hgoes, ofOutcomes, outcome_foldl hgoes]
    rfl
  · rw [outcome_ofOutcomes hlast, RoundOutcome.kept_verdict, List.flatMap_append, hnone _ hearlier,
      List.flatMap_singleton, List.nil_append]

theorem replay_foldl (outcomes : List RoundOutcome) (s : SessionSummary) :
    (outcomes.foldl (addOutcome path) s).replay = s.replay := by
  induction outcomes generalizing s with
  | nil => rfl
  | cons o rest ih =>
    rw [List.foldl_cons, ih]
    cases o <;> rfl

end SessionSummary

namespace Session

variable {rotation : Rotation} {s s' : Session} {rounds : List PlayedRound}

/-- A round leaves nothing of the session changed but the replay, and there it leaves a bug. -/
theorem record_of_path {o : Oracle} {t : List Exchange} {outcome : RoundOutcome}
    (h : Path o.runRound s t outcome s')
    (hsource : ∀ x ∈ t, ∀ report, x.refusal? ≠ some (.logicBug report)) :
    s' = s.record outcome.kept := by
  cases o.ending_of_path h with
  | passed => exact (record_nil s).symm
  | skipped reason => exact (record_nil s).symm
  | failed he => exact (record_nil s).symm
  | bug report => rfl
  | @refused e x hx he =>
    have hnone : (RoundOutcome.ofResult (.error e)).kept = [] :=
      RoundOutcome.kept_ofResult_error fun report heq => hsource x hx report (by rw [he, heq])
    rw [hnone, record_nil]

/-- **A chain of rounds** leaves behind what its rounds leave, in order. -/
theorem record_of_plays (h : Plays rotation s rounds s')
    (hsource : ∀ x ∈ rounds.flatMap PlayedRound.exchanges, ∀ report,
      x.refusal? ≠ some (.logicBug report)) :
    s' = s.record ((rounds.map PlayedRound.outcome).flatMap RoundOutcome.kept) := by
  induction h with
  | none => exact (record_nil _).symm
  | last h _ =>
    rw [record_of_path h fun x hx => hsource x (by simpa using hx)]
    simp
  | next h _ _ ih =>
    have hfirst := record_of_path h fun x hx =>
      hsource x (by rw [List.flatMap_cons]; exact List.mem_append_left _ hx)
    have hrest := ih fun x hx =>
      hsource x (by rw [List.flatMap_cons]; exact List.mem_append_right _ hx)
    rw [hrest, hfirst, record_record, List.map_cons, List.flatMap_cons]

/-- No round runs a statement for its effect. -/
theorem executed_of_plays (h : Plays rotation s rounds s') :
    executed (rounds.flatMap PlayedRound.exchanges) = [] := by
  refine executed_eq_nil fun x hx => ?_
  obtain ⟨round, hround, hx⟩ := List.mem_flatMap.1 hx
  obtain ⟨o, s₁, s₂, hpath⟩ := h.exists_path hround
  exact (o.asks_runRound.of_mem_path hpath hx).not_isExecute

/-! ### Sessions -/

variable {options : SessionOptions} {dialect : Dialect} {setup : List SetupStatement}
  {t : List Exchange} {summary : SessionSummary}

/-- The only statements that a session runs for their effect are run in its preparation. -/
theorem Course.executed_eq [PatternReader] (c : Course options dialect setup t summary) :
    executed t = executed c.preparation := by
  have hopening : executed c.opening = [] := by
    have hopened := c.opened
    rw [openLog] at hopened
    split at hopened
    · obtain ⟨hnil, -⟩ := Dialogue.path_done_iff.1 hopened
      rw [hnil, executed_nil]
    · obtain ⟨answer, t', h', hcons⟩ := Dialogue.path_ask_iff.1 hopened
      obtain ⟨rfl, -⟩ := Dialogue.path_done_iff.1 h'
      rw [hcons]
      rfl
  have hclosing : executed c.closing = [] := executed_eq_nil fun x hx =>
    ((asks_writeReport options _).of_mem_path c.reported hx).not_isExecute
  have hrounds := executed_of_plays c.played
  have hall := congrArg executed c.transcript_eq
  simpa only [executed_append, hopening, hrounds, hclosing, List.nil_append, List.append_nil]
    using hall

/-- **The replay of a session is exact.** If the source reports no bug of its own, the replay of a
session that comes to a summary holds the statements of the setup that the engine ran with success,
in order, and behind them the two annotated statements of the bug that ended the session, if one
did. -/
theorem replay_of_run [PatternReader] {σ : Type} (h : Handler σ) (options : SessionOptions)
    (dialect : Dialect) (setup : List SetupStatement) (w w' : σ) (summary : SessionSummary)
    (hrun : (play options dialect setup).run h w = (some (.ok summary), w'))
    (hsource : ∀ x ∈ (play options dialect setup).transcript h w, ∀ report,
      x.refusal? ≠ some (.logicBug report)) :
    ∃ answers : List (Except EngineError Unit), answers.length = setup.length ∧
      executed ((play options dialect setup).transcript h w) =
        (setup.map SetupStatement.text).zip answers ∧
      summary.replay.statements =
        succeeded ((setup.map SetupStatement.text).zip answers) ++ summary.outcome.kept := by
  obtain ⟨c⟩ := exists_course (Dialogue.path_of_run hrun)
  obtain ⟨answers, hlen, hran, hready⟩ := path_prepare_ok c.prepared
  refine ⟨answers, hlen, by rw [c.executed_eq, hran], ?_⟩
  have hfinal : c.final = c.ready.record
      ((c.rounds.map PlayedRound.outcome).flatMap RoundOutcome.kept) := by
    refine record_of_plays c.played fun x hx => hsource x ?_
    rw [c.transcript_eq]
    exact List.mem_append_left _ (List.mem_append_right _ hx)
  have hkept : summary.outcome.kept =
      (c.rounds.map PlayedRound.outcome).flatMap RoundOutcome.kept :=
    (congrArg (fun s => s.outcome.kept) c.summary_eq).trans
      (SessionSummary.kept_ofOutcomes c.outcomes_cases)
  have hreplay : summary.replay = c.final.replay :=
    (congrArg SessionSummary.replay c.summary_eq).trans (SessionSummary.replay_foldl _ _)
  calc summary.replay.statements
      = c.ready.replay.statements ++ summary.outcome.kept := by
        rw [hreplay, hfinal, statements_record, hkept]
    _ = succeeded ((setup.map SetupStatement.text).zip answers) ++ summary.outcome.kept := by
        rw [hready, hran]
        rfl

section

open scoped Pattern

/-- Of two statements of the setup the second cannot be converted. In one session the round has a
row too few; in the other it has as many rows as there should be, but they are not the same. -/
theorem replay_of_short_sessions :
    let x : Offer :=
      ⟨{ fetch := ["t.a"], tables := ["t"], orderBy := ["t.a"] }, "t.b > 0", default⟩
    let options : SessionOptions := { rounds := 5, oracles := [.whereClause] }
    let setup : List SetupStatement := [⟨"CREATE TABLE t (a, b)", true⟩, ⟨"ANALYZE", false⟩]
    let refusing : Connection (List EngineAnswer) :=
      { Connection.scripted with
        execute := fun sql answers =>
          (some (if sql = "ANALYZE" then .error (.conversion "no number") else .ok ()), answers) }
    let h := World.handler refusing x.source MemoryLog.journal
    let d := play options .strict setup
    let few : World (List EngineAnswer) Unit MemoryLog :=
      ⟨[.ok (.rows [some "1"]), .ok (.rows []), .ok (.rows []), .ok (.rows [])], (), {}⟩
    let other : World (List EngineAnswer) Unit MemoryLog :=
      ⟨[.ok (.rows [some "1", none]), .ok (.rows [some "2"]), .ok (.rows [some "3"]),
        .ok (.rows [])], (), {}⟩
    let parts := "SELECT t.a FROM t WHERE t.b > 0 ORDER BY t.a;" ++
      "SELECT t.a FROM t WHERE NOT (t.b > 0) ORDER BY t.a;" ++
      "SELECT t.a FROM t WHERE (t.b > 0) IS NULL ORDER BY t.a"
    ∀ p ∈ [(few, "cardinality: 1", "cardinality: 0"),
        (other, "misses: [NULL, 1]", "misses: [2, 3]")],
      ∃ summary w', d.run h p.1 = (some (.ok summary), w') ∧
        (∀ x ∈ d.transcript h p.1, ∀ report, x.refusal? ≠ some (.logicBug report)) ∧
        summary.replay.statements = ["CREATE TABLE t (a, b)",
          "SELECT t.a FROM t ORDER BY t.a; -- " ++ p.2.1, parts ++ "; -- " ++ p.2.2] ∧
        ∃ answers : List (Except EngineError Unit), answers.length = setup.length ∧
          executed (d.transcript h p.1) = (setup.map SetupStatement.text).zip answers ∧
          summary.replay.statements =
            succeeded ((setup.map SetupStatement.text).zip answers) ++ summary.outcome.kept := by
  intro x options setup refusing h d few other parts p hp
  obtain ⟨summary, w', hrun, hreplay⟩ := exists_summary_of_any (x := d.run h p.1)
    (P := fun summary => summary.replay.statements = ["CREATE TABLE t (a, b)",
      "SELECT t.a FROM t ORDER BY t.a; -- " ++ p.2.1, parts ++ "; -- " ++ p.2.2]) <| by
    simp only [List.mem_cons, List.not_mem_nil, or_false] at hp
    obtain rfl | rfl := hp
    · decide +kernel
    · decide +kernel
  have hsource : ∀ x ∈ d.transcript h p.1, x.refusal? = none := by
    simp only [List.mem_cons, List.not_mem_nil, or_false] at hp
    obtain rfl | rfl := hp
    · decide
    · decide
  have hbugless : ∀ x ∈ d.transcript h p.1, ∀ report, x.refusal? ≠ some (.logicBug report) := by
    intro x hx report
    rw [hsource x hx]
    simp
  exact ⟨summary, w', hrun, hbugless, hreplay,
    replay_of_run h options .strict setup p.1 w' summary hrun hbugless⟩

end

end Session

end Trisect
