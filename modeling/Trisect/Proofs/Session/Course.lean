import Trisect.Proofs.Path
import Trisect.Session.Run

/-!
# The course of a session

A session that comes to a summary goes through four phases: the log is opened, the database is set
up, the rounds are played, and the report of a bug is written. A `Trisect.Session.Course` records
them as they were on one path, each with its exchanges and with the state that it left, and
`Trisect.Session.exists_course` says that **every path to a summary has a course**. What is true of
sessions is proved of courses, phase by phase.

The rounds of a course are a chain (`Trisect.Session.Plays`): every round is played by the oracle
whose turn it is, from the state that the round before has left, and none comes after a round that
ends the session. A session that ends in an error comes to none of that, and
`Trisect.Session.setback_of_path` lists how.
-/

namespace Trisect

/-- A round as it was played: what was asked and answered in it, and how it ended. -/
structure PlayedRound where
  exchanges : List Exchange
  outcome : RoundOutcome

namespace Session

/-! ### Rounds -/

/-- **Rounds played in turn**, from one state of the session to another. Only the last of them may
end the session. -/
inductive Plays : Rotation → Session → List PlayedRound → Session → Prop
  | none (rotation : Rotation) (s : Session) : Plays rotation s [] s
  | last {rotation : Rotation} {s s' : Session} {t : List Exchange} {outcome : RoundOutcome}
      (h : Path rotation.current.runRound s t outcome s') (hend : outcome.isTerminal = true) :
      Plays rotation s [⟨t, outcome⟩] s'
  | next {rotation : Rotation} {s s₁ s' : Session} {t : List Exchange} {outcome : RoundOutcome}
      {rounds : List PlayedRound} (h : Path rotation.current.runRound s t outcome s₁)
      (hend : outcome.isTerminal = false) (hrest : Plays rotation.advance s₁ rounds s') :
      Plays rotation s (⟨t, outcome⟩ :: rounds) s'

/-- How the rounds of a session came to stop: the budget was spent, or the last of them ended it. -/
def Stops (budget : Nat) (rounds : List PlayedRound) : Prop :=
  rounds.length = budget ∨
    ∃ earlier last, rounds = earlier ++ [last] ∧ last.outcome.isTerminal = true

variable {rotation : Rotation} {s s' : Session} {rounds : List PlayedRound}

/-- Every round of a chain is a path of an oracle. -/
theorem Plays.exists_path (h : Plays rotation s rounds s') {round : PlayedRound}
    (hround : round ∈ rounds) :
    ∃ (o : Oracle) (s₁ s₂ : Session), Path o.runRound s₁ round.exchanges round.outcome s₂ := by
  induction h with
  | none => simp at hround
  | last h _ =>
    obtain rfl := List.mem_singleton.1 hround
    exact ⟨_, _, _, h⟩
  | next h _ _ ih =>
    rcases List.mem_cons.1 hround with rfl | hround
    · exact ⟨_, _, _, h⟩
    · exact ih hround

/-- No round but the last ends the session. -/
theorem Plays.isTerminal_of_mem_dropLast (h : Plays rotation s rounds s') {round : PlayedRound}
    (hround : round ∈ rounds.dropLast) : round.outcome.isTerminal = false := by
  induction h with
  | none => simp at hround
  | last => simp at hround
  | @next _ _ _ _ t outcome rounds h hend hrest ih =>
    cases rounds with
    | nil => simp at hround
    | cons second rest =>
      rw [List.dropLast_cons_cons] at hround
      rcases List.mem_cons.1 hround with rfl | hround
      · exact hend
      · exact ih hround

theorem Stops.cons {budget : Nat} (round : PlayedRound) (h : Stops budget rounds) :
    Stops (budget + 1) (round :: rounds) := by
  obtain hlen | ⟨earlier, last, rfl, hlast⟩ := h
  · exact Or.inl (by rw [List.length_cons, hlen])
  · exact Or.inr ⟨round :: earlier, last, rfl, hlast⟩

/-- **The round loop plays a chain** of rounds within its budget. -/
theorem plays_of_path {outcomes all : List RoundOutcome} {budget : Nat} {t : List Exchange}
    (h : Path (playRounds rotation outcomes budget) s t all s') :
    ∃ rounds, Plays rotation s rounds s' ∧ t = rounds.flatMap PlayedRound.exchanges ∧
      all = outcomes.reverse ++ rounds.map PlayedRound.outcome ∧ rounds.length ≤ budget ∧
      Stops budget rounds := by
  induction budget generalizing rotation s t outcomes with
  | zero =>
    obtain ⟨rfl, rfl, rfl⟩ := path_pure_iff.1 h
    exact ⟨[], .none _ _, rfl, by simp, Nat.le_refl 0, Or.inl rfl⟩
  | succ budget ih =>
    obtain ⟨t₁, outcome, s₁, t₂, h₁, h₂, rfl⟩ := path_bind_iff.1 h
    by_cases hend : outcome.isTerminal = true
    · rw [if_pos hend] at h₂
      obtain ⟨rfl, rfl, rfl⟩ := path_pure_iff.1 h₂
      refine ⟨[⟨t₁, outcome⟩], .last h₁ hend, by simp, by simp, by simp, ?_⟩
      exact Or.inr ⟨[], ⟨t₁, outcome⟩, rfl, hend⟩
    · rw [if_neg hend] at h₂
      obtain ⟨rounds, hplays, rfl, rfl, hlen, hstops⟩ := ih h₂
      refine ⟨⟨t₁, outcome⟩ :: rounds, .next h₁ (by simpa using hend) hplays, by simp, by simp, ?_,
        hstops.cons _⟩
      rw [List.length_cons]
      omega

/-! ### Sessions -/

variable {options : SessionOptions} {dialect : Dialect} {setup : List SetupStatement}
  {t : List Exchange}

/-- The state of a session before anything is asked. -/
def initial (options : SessionOptions) : Session :=
  .new options.logEachSelect options.databaseName options.seed

/-- **The course of a session** that comes to a summary: what was said in each of its phases, and
what each of them left. -/
structure Course [PatternReader] (options : SessionOptions) (dialect : Dialect)
    (setup : List SetupStatement) (t : List Exchange) (summary : SessionSummary) where
  errors : ExpectedErrors
  rotation : Rotation
  /-- The exchange in which the log is opened, if the session has one. -/
  opening : List Exchange
  /-- What is said before the first round, when the log is there. -/
  preparation : List Exchange
  /-- The state before the first round. -/
  ready : Session
  rounds : List PlayedRound
  /-- The state after the last round. -/
  final : Session
  /-- The exchange in which the report of a bug is written, if there is one. -/
  closing : List Exchange
  /-- Where the report is. -/
  path : Option String
  errors_eq : dialect.errors = .ok errors
  rotation_eq : Rotation.ofKinds options.oracles errors dialect = .ok rotation
  opened : (openLog options).Path opening (.ok ())
  prepared : (prepare errors setup).Path (initial options) preparation (.ok ()) ready
  played : Plays rotation ready rounds final
  reported : (writeReport options (rounds.map PlayedRound.outcome).getLast?).Path closing path
  within_budget : rounds.length ≤ options.rounds.toNat
  stops : Stops options.rounds.toNat rounds
  transcript_eq : t = opening ++ preparation ++ rounds.flatMap PlayedRound.exchanges ++ closing
  summary_eq : summary = .ofOutcomes options (rounds.map PlayedRound.outcome) path final.replay

/-- How a session ends in an error, before its first round. -/
inductive Setback [PatternReader] (options : SessionOptions) (dialect : Dialect)
    (t : List Exchange) : OracleError → Prop
  | matchers {e : OracleError} (h : dialect.errors = .error e) : Setback options dialect t e
  | log {directory : String} {e : OracleError} (hdirectory : options.logDirectory = some directory)
      (h : ⟨.openLog directory options.databaseName, some (.error e)⟩ ∈ t) :
      Setback options dialect t e
  | preparation {errors : ExpectedErrors} {setup : List SetupStatement} {t' : List Exchange}
      {s : Session} {e : OracleError} (ht' : t' ⊆ t)
      (h : (prepare errors setup).Path (initial options) t' (.error e) s) :
      Setback options dialect t e
  | rotation {errors : ExpectedErrors} {e : OracleError}
      (h : Rotation.ofKinds options.oracles errors dialect = .error e) : Setback options dialect t e

theorem path_openLog_error {e : OracleError} (h : (openLog options).Path t (.error e)) :
    ∃ directory, options.logDirectory = some directory ∧
      ⟨.openLog directory options.databaseName, some (.error e)⟩ ∈ t := by
  rw [openLog] at h
  split at h
  · obtain ⟨-, he⟩ := Dialogue.path_done_iff.1 h
    cases he
  · next directory hdirectory =>
    obtain ⟨answer, t', h', rfl⟩ := Dialogue.path_ask_iff.1 h
    obtain ⟨rfl, rfl⟩ := Dialogue.path_done_iff.1 h'
    exact ⟨directory, hdirectory, List.mem_cons_self⟩

/-- A session that is run to a summary which passes a test has come to such a summary. -/
theorem exists_summary_of_any {ε σ : Type} {P : SessionSummary → Prop} [DecidablePred P]
    {x : Option (Except ε SessionSummary) × σ}
    (h : (x.1.any fun result => result.toOption.any fun summary => P summary) = true) :
    ∃ summary w, x = (some (.ok summary), w) ∧ P summary := by
  obtain ⟨_ | (e | summary), w⟩ := x
  · cases h
  · cases h
  · exact ⟨summary, w, rfl, of_decide_eq_true h⟩

variable [PatternReader]

/-- The paths of a session, phase by phase. -/
theorem path_play {result : Except OracleError SessionSummary}
    (h : (play options dialect setup).Path t result) :
    (∃ e, result = .error e ∧ Setback options dialect t e) ∨
      ∃ summary, result = .ok summary ∧ Nonempty (Course options dialect setup t summary) := by
  rw [play] at h
  split at h
  · next e herrors =>
    obtain ⟨rfl, rfl⟩ := Dialogue.path_done_iff.1 h
    exact Or.inl ⟨e, rfl, .matchers herrors⟩
  next errors herrors =>
  obtain ⟨opening, opened, t₁, hopen, h₁, rfl⟩ := Dialogue.path_bind_iff.1 h
  obtain e | ⟨⟩ := opened
  · obtain ⟨rfl, rfl⟩ := Dialogue.path_done_iff.1 h₁
    obtain ⟨directory, hdirectory, he⟩ := path_openLog_error hopen
    exact Or.inl ⟨e, rfl, .log hdirectory (List.mem_append_left _ he)⟩
  obtain ⟨preparation, ⟨prepared, ready⟩, t₂, hprepare, h₂, rfl⟩ := Dialogue.path_bind_iff.1 h₁
  obtain e | ⟨⟩ := prepared
  · obtain ⟨rfl, rfl⟩ := Dialogue.path_done_iff.1 h₂
    refine Or.inl ⟨e, rfl, .preparation ?_ hprepare⟩
    rw [List.append_nil]
    exact List.subset_append_right _ _
  dsimp only at h₂
  split at h₂
  · next e hrotation =>
    obtain ⟨rfl, rfl⟩ := Dialogue.path_done_iff.1 h₂
    exact Or.inl ⟨e, rfl, .rotation hrotation⟩
  next rotation hrotation =>
  -- the rounds, the report, and the summary
  obtain ⟨t₃, summary, t₄, h₃, h₄, rfl⟩ := Dialogue.path_bind_iff.1 h₂
  obtain ⟨rfl, rfl⟩ := Dialogue.path_done_iff.1 h₄
  obtain ⟨t₅, ⟨outcomes, final⟩, t₆, hrounds, h₅, rfl⟩ := Dialogue.path_bind_iff.1 h₃
  obtain ⟨closing, path, t₇, hreport, h₆, rfl⟩ := Dialogue.path_bind_iff.1 h₅
  obtain ⟨rfl, rfl⟩ := Dialogue.path_done_iff.1 h₆
  obtain ⟨rounds, hplays, rfl, rfl, hlen, hstops⟩ := plays_of_path hrounds
  exact Or.inr ⟨_, rfl, ⟨{
    errors, rotation, opening, preparation, ready, rounds, final, closing, path
    errors_eq := herrors
    rotation_eq := hrotation
    opened := hopen
    prepared := hprepare
    played := hplays
    reported := hreport
    within_budget := hlen
    stops := hstops
    transcript_eq := by simp
    summary_eq := rfl }⟩⟩

/-- **Every path to a summary has a course.** -/
theorem exists_course {summary : SessionSummary}
    (h : (play options dialect setup).Path t (.ok summary)) :
    Nonempty (Course options dialect setup t summary) := by
  obtain ⟨e, he, -⟩ | ⟨summary', hsummary, hcourse⟩ := path_play h
  · cases he
  · obtain rfl := Except.ok.inj hsummary
    exact hcourse

/-- A path to an error meets one of the setbacks. -/
theorem setback_of_path {e : OracleError} (h : (play options dialect setup).Path t (.error e)) :
    Setback options dialect t e := by
  obtain ⟨e', he, hsetback⟩ | ⟨summary, hsummary, -⟩ := path_play h
  · obtain rfl := Except.error.inj he
    exact hsetback
  · cases hsummary

end Session

end Trisect
