import Trisect.Pattern.Regular
import Trisect.Proofs.Session.Accord
import Trisect.Proofs.Session.Accounting
import Trisect.Proofs.Session.Noting
import Trisect.Proofs.Session.Replay

/-!
# A larger budget

The budget of a session says how many rounds it runs at most, and nothing else: until it is spent,
nobody who answers the session could tell what it is. Of two sessions that have all but their
budgets in common, the one with the smaller budget leads the other
(`Trisect.Session.leads_play_of_le`), and it is over before the other only if it has run all its
rounds and none of them has ended it.

The main statement, `Trisect.Session.play_of_larger_budget`, says what this comes to if one handler
runs the two: what they say, what their rounds are, what they keep for a replay and what they count.
That the rounds of one are the first rounds of the other is a statement about their courses
(`Trisect.Session.Course.exists_append_of_le`). As a consequence, a bug that is found in some round
is found in that round under every budget that reaches it, and under none that does not.
-/

namespace Trisect

/-! ### Counters -/

namespace SessionSummary

variable {options options' : SessionOptions} {path path' : Option String}
  {replay replay' : ReplayState} {outcomes outcomes' : List RoundOutcome}

theorem count_skipReasons_ofOutcomes (reason : SkipReason) :
    (ofOutcomes options outcomes path replay).skipReasons.count reason.tag =
      outcomes.count (.skipped reason) := by
  rw [ofOutcomes, count_skipReasons_foldl]
  exact Nat.zero_add _

/-- What is no reason is not counted. -/
theorem count_skipReasons_foldl_of_ne_tag {tag : String}
    (h : ∀ reason : SkipReason, tag ≠ reason.tag) (outcomes : List RoundOutcome)
    (s : SessionSummary) :
    (outcomes.foldl (addOutcome path) s).skipReasons.count tag = s.skipReasons.count tag := by
  induction outcomes generalizing s with
  | nil => rfl
  | cons o rest ih =>
    rw [List.foldl_cons, ih]
    cases o with
    | skipped reason => simp [addOutcome, TagCounts.count_increment, h reason]
    | _ => rfl

theorem count_skipReasons_ofOutcomes_of_ne_tag {tag : String}
    (h : ∀ reason : SkipReason, tag ≠ reason.tag) :
    (ofOutcomes options outcomes path replay).skipReasons.count tag = 0 :=
  count_skipReasons_foldl_of_ne_tag h outcomes _

/-- **No counter is larger** in the first summary than in the second. -/
structure CountsLess (a b : SessionSummary) : Prop where
  roundsRun : a.roundsRun ≤ b.roundsRun
  passed : a.passed ≤ b.passed
  skipped : a.skipped ≤ b.skipped
  skipReasons (tag : String) : a.skipReasons.count tag ≤ b.skipReasons.count tag

/-- Further rounds make no counter smaller. -/
theorem countsLess_of_prefix (h : outcomes <+: outcomes') :
    (ofOutcomes options outcomes path replay).CountsLess
      (ofOutcomes options' outcomes' path' replay') where
  roundsRun := by
    rw [roundsRun_ofOutcomes, roundsRun_ofOutcomes]
    exact h.length_le
  passed := by
    rw [passed_ofOutcomes, passed_ofOutcomes]
    exact h.sublist.count_le _
  skipped := by
    rw [skipped_ofOutcomes, skipped_ofOutcomes]
    exact h.sublist.countP_le
  skipReasons := by
    intro tag
    by_cases htag : ∃ reason : SkipReason, tag = reason.tag
    · obtain ⟨reason, rfl⟩ := htag
      rw [count_skipReasons_ofOutcomes, count_skipReasons_ofOutcomes]
      exact h.sublist.count_le _
    · have hnone := not_exists.1 htag
      exact Nat.le_of_eq ((count_skipReasons_ofOutcomes_of_ne_tag hnone).trans
        (count_skipReasons_ofOutcomes_of_ne_tag hnone).symm)

end SessionSummary

namespace Session

/-! ### Rounds -/

/-- What is left of the rounds of a session when those of one with a smaller budget are over:
nothing, unless none of them has ended the session. -/
def SpendsMore (x : List RoundOutcome × Session) (e : Dialogue (List RoundOutcome × Session)) :
    Prop :=
  e = .done x ∨ ∀ o ∈ x.1, o.isTerminal = false

/-- **The round loop with a smaller budget leads** the one with a larger budget. -/
theorem leads_playRounds (rotation : Rotation) {outcomes : List RoundOutcome}
    (houtcomes : ∀ o ∈ outcomes, o.isTerminal = false) {n m : Nat} (hnm : n ≤ m) (s : Session) :
    Dialogue.Leads SpendsMore (playRounds rotation outcomes n s)
      (playRounds rotation outcomes m s) := by
  induction n generalizing rotation outcomes m s with
  | zero => exact .finished (Or.inr fun o ho => houtcomes o (List.mem_reverse.1 ho))
  | succ n ih =>
    obtain ⟨m, rfl⟩ : ∃ k, m = k + 1 := ⟨m - 1, by omega⟩
    refine Dialogue.leads_bind_self (rotation.current.runRound s) ?_
    rintro ⟨outcome, s₁⟩
    dsimp only
    split
    · exact .finished (Or.inl rfl)
    · next hend =>
      exact ih rotation.advance (List.forall_mem_cons.2 ⟨by simpa using hend, houtcomes⟩)
        (by omega) s₁

/-! ### Sessions -/

variable {options : SessionOptions} {dialect : Dialect} {setup : List SetupStatement}

/-- A report is written for a database into a directory; what else there is among the options does
not matter. -/
theorem writeReport_congr {options' : SessionOptions}
    (hdirectory : options'.logDirectory = options.logDirectory)
    (hname : options'.databaseName = options.databaseName) :
    writeReport options' = writeReport options := by
  funext last
  unfold writeReport
  rw [hdirectory]
  split
  · rw [hname]
    refine congrArg (Dialogue.bind _) (funext ?_)
    rintro (e | path) <;> rfl
  · rfl

/-- No report is written if no round has ended the session. -/
theorem writeReport_of_not_isTerminal {last : Option RoundOutcome}
    (h : ∀ o, last = some o → o.isTerminal = false) : writeReport options last = .done none := by
  unfold writeReport
  split
  · have hbug := h _ rfl
    simp [RoundOutcome.isTerminal] at hbug
  · rfl

theorem leads_playPrepared (rotation : Rotation) (s : Session) {n m : UInt64} (hnm : n ≤ m) :
    Dialogue.Leads (fun summary e => e = .done summary ∨ summary.outcome = .completed)
      (playPrepared { options with rounds := n } rotation s)
      (playPrepared { options with rounds := m } rotation s) := by
  have hnone : ∀ o ∈ ([] : List RoundOutcome), o.isTerminal = false := by simp
  have hrounds := leads_playRounds rotation hnone (UInt64.le_iff_toNat_le.1 hnm) s
  refine Dialogue.leads_bind hrounds ?_
  rintro ⟨outcomes, s'⟩ e (rfl | hgoes)
  · have hreport :
        writeReport { options with rounds := n } = writeReport { options with rounds := m } :=
      writeReport_congr rfl rfl
    simp only [Dialogue.done_bind, Dialogue.bind_eq, hreport]
    refine Dialogue.leads_bind_self (writeReport _ outcomes.getLast?) ?_
    exact fun path => .finished (Or.inl rfl)
  · have hlast : ∀ o, outcomes.getLast? = some o → o.isTerminal = false := fun o ho =>
      hgoes o (List.mem_of_getLast? ho)
    dsimp only
    rw [writeReport_of_not_isTerminal hlast]
    exact .finished (Or.inr (SessionSummary.outcome_foldl hgoes _))

/-- What is left of a session when one with a smaller budget is over: nothing, unless that one has
run all its rounds; then it is something that comes to a summary. -/
def OutlastsCompleted (result : Except OracleError SessionSummary)
    (e : Dialogue (Except OracleError SessionSummary)) : Prop :=
  e = .done result ∨ ∃ summary, result = .ok summary ∧ summary.outcome = .completed ∧
    ∃ rest : Dialogue SessionSummary, e = rest.bind fun summary' => .done (.ok summary')

/-- **A session with a smaller budget leads** one with a larger budget. -/
theorem leads_play_of_le [PatternReader] (options : SessionOptions) (dialect : Dialect)
    (setup : List SetupStatement) {n m : UInt64} (hnm : n ≤ m) :
    Dialogue.Leads OutlastsCompleted (play { options with rounds := n } dialect setup)
      (play { options with rounds := m } dialect setup) := by
  rw [play, play]
  split
  · exact .finished (Or.inl rfl)
  next errors _ =>
  -- up to the rounds, the two sessions are one program
  refine Dialogue.leads_bind_self (openLog options) ?_
  rintro (e | ⟨⟩)
  · exact .finished (Or.inl rfl)
  refine Dialogue.leads_bind_self ((prepare errors setup).run (initial options)) ?_
  rintro ⟨e | ⟨⟩, s⟩
  · exact .finished (Or.inl rfl)
  dsimp only
  split
  · exact .finished (Or.inl rfl)
  next rotation _ =>
  refine Dialogue.leads_bind (leads_playPrepared rotation s hnm) ?_
  rintro summary e (rfl | hcompleted)
  · exact .finished (Or.inl rfl)
  · exact .finished (Or.inr ⟨summary, rfl, hcompleted, e, rfl⟩)

/-! ### Courses -/

/-- Rounds add to the replay and take nothing from it. -/
theorem Plays.statements_prefix {rotation : Rotation} {s s' : Session} {rounds : List PlayedRound}
    (h : Plays rotation s rounds s') : s.replay.statements <+: s'.replay.statements := by
  have hround : ∀ {o : Oracle} {s s' : Session} {t : List Exchange} {outcome : RoundOutcome},
      Path o.runRound s t outcome s' → s.replay.statements <+: s'.replay.statements := by
    intro o s s' t outcome hpath
    cases o.ending_of_path hpath with
    | bug report => exact List.prefix_append _ _
    | _ => exact List.prefix_refl _
  induction h with
  | none => exact List.prefix_refl _
  | last h _ => exact hround h
  | next h _ _ ih => exact (hround h).trans ih

section Courses

variable [PatternReader] {t : List Exchange} {summary : SessionSummary}

/-- In a session that has run all its rounds, none of them has ended it. -/
theorem Course.of_completed (c : Course options dialect setup t summary)
    (h : summary.outcome = .completed) :
    (∀ round ∈ c.rounds, round.outcome.isTerminal = false) ∧
      c.rounds.length = options.rounds.toNat := by
  obtain ⟨hgoes, hlen⟩ | ⟨earlier, last, houtcomes, -, hlast⟩ := c.outcomes_cases
  · exact ⟨fun round hround => hgoes _ (List.mem_map_of_mem hround),
      by rwa [List.length_map] at hlen⟩
  · rw [c.summary_eq, houtcomes, SessionSummary.outcome_ofOutcomes hlast] at h
    cases last <;> cases h <;> simp [RoundOutcome.isTerminal] at hlast

theorem Course.completed_of_not_isTerminal (c : Course options dialect setup t summary)
    (h : ∀ round ∈ c.rounds, round.outcome.isTerminal = false) : summary.outcome = .completed := by
  rw [c.summary_eq]
  refine SessionSummary.outcome_foldl ?_ _
  intro o ho
  obtain ⟨round, hround, rfl⟩ := List.mem_map.1 ho
  exact h round hround

theorem Course.replay_eq (c : Course options dialect setup t summary) :
    summary.replay = c.final.replay :=
  (congrArg SessionSummary.replay c.summary_eq).trans (SessionSummary.replay_foldl _ _)

theorem Course.roundsRun_eq (c : Course options dialect setup t summary) :
    summary.roundsRun = c.rounds.length := by
  have hrun := congrArg SessionSummary.roundsRun c.summary_eq
  rwa [SessionSummary.roundsRun_ofOutcomes, List.length_map] at hrun

/-- A course does not go on behind the rounds of another one that has no smaller budget: that one
has stopped only because its last round has ended it. -/
theorem Course.rounds_ne_append {options' : SessionOptions} {dialect' : Dialect}
    {t' : List Exchange} {summary' : SessionSummary} (c : Course options dialect setup t summary)
    (c' : Course options' dialect' setup t' summary')
    (hbudget : options.rounds.toNat ≤ options'.rounds.toNat) (round : PlayedRound)
    (more : List PlayedRound) : c.rounds ≠ c'.rounds ++ round :: more := by
  intro hrounds
  have hwithin := c.within_budget
  rw [hrounds, List.length_append, List.length_cons] at hwithin
  obtain hlen | ⟨earlier, last, hlast, hend⟩ := c'.stops
  · omega
  · have hmem : last ∈ c.rounds.dropLast := by
      rw [hrounds, hlast]
      simp
    simp [c.played.isTerminal_of_mem_dropLast hmem] at hend

/-- **A course with a larger budget begins with the rounds** of the one with the smaller budget, if
the same is heard. -/
theorem Course.exists_append_of_le {n m : UInt64} (hnm : n ≤ m) {t' u u' : List Exchange}
    {summary' : SessionSummary} (c : Course { options with rounds := n } dialect setup t summary)
    (c' : Course { options with rounds := m } dialect setup t' summary')
    (hheard : t ++ u = t' ++ u') :
    ∃ more, c'.rounds = c.rounds ++ more ∧
      summary.replay.statements <+: summary'.replay.statements := by
  have herrors : c'.errors = c.errors := Except.ok.inj (c'.errors_eq.symm.trans c.errors_eq)
  have hrotation : c'.rotation = c.rotation := by
    have heq := c'.rotation_eq
    rw [herrors] at heq
    exact Except.ok.inj (heq.symm.trans c.rotation_eq)
  have hprepare : Dialogue.Leads KeepsUp ((prepare c.errors setup).run (initial options))
      ((prepare c'.errors setup).run (initial options)) := by
    rw [herrors]
    exact Dialogue.leads_refl _ fun x => Or.inl rfl
  have hstep : c.rotation.InStep Eq c'.rotation := by
    rw [hrotation]
    exact Rotation.inStep_self _
  have haccord := c.accord c' rfl hprepare hstep hheard
  rw [c.replay_eq, c'.replay_eq]
  generalize hrounds : c.rounds = rounds at haccord
  generalize hrounds' : c'.rounds = rounds' at haccord
  cases haccord with
  | longer _ more h => exact ⟨more, rfl, h.statements_prefix⟩
  | shorter _ round more =>
    exact absurd (hrounds' ▸ hrounds)
      (c.rounds_ne_append c' (UInt64.le_iff_toNat_le.1 hnm) round more)
  | parting _ _ _ h hne => exact absurd h hne

end Courses

/-! ### Runs -/

section Runs

variable {σ : Type}

/-- **A session with a larger budget does the same**, unless the one with the smaller budget has run
all its rounds; then it begins so, and comes to a summary if it comes to an end. -/
theorem run_eq_or_completed [PatternReader] {n m : UInt64} (hnm : n ≤ m) (h : Handler σ) (w : σ) :
    let a := play { options with rounds := n } dialect setup
    let b := play { options with rounds := m } dialect setup
    (b.run h w = a.run h w ∧ b.transcript h w = a.transcript h w) ∨
      ∃ summary w', a.run h w = (some (.ok summary), w') ∧ summary.outcome = .completed ∧
        a.transcript h w <+: b.transcript h w ∧
        ∀ result w'', b.run h w = (some result, w'') → ∃ summary', result = .ok summary' := by
  intro a b
  obtain ⟨w', ⟨ha, hb, ht⟩ | ⟨result, rest, hrest, ha, hb, ht⟩⟩ :=
    (leads_play_of_le options dialect setup hnm).run h w
  · exact Or.inl ⟨hb.trans ha.symm, ht⟩
  obtain rfl | ⟨summary, rfl, hcompleted, rest, rfl⟩ := hrest
  · exact Or.inl ⟨hb.trans ha.symm, ht.trans (List.append_nil _)⟩
  · refine Or.inr ⟨summary, w', ha, hcompleted, ht ▸ List.prefix_append _ _, ?_⟩
    intro result w'' hrun
    rw [hb, Dialogue.run_bind] at hrun
    split at hrun
    · exact ⟨_, (Option.some.inj (Prod.mk.inj hrun).1).symm⟩
    · cases hrun

/-- A session that has run all its rounds, and what one with a larger budget has done more. -/
theorem exists_course_of_completed [PatternReader] {n m : UInt64} (hnm : n ≤ m) {h : Handler σ}
    {w w' : σ} {summary : SessionSummary}
    (hrun : (play { options with rounds := n } dialect setup).run h w = (some (.ok summary), w'))
    (hcompleted : summary.outcome = .completed) :
    let a := play { options with rounds := n } dialect setup
    let b := play { options with rounds := m } dialect setup
    a.transcript h w <+: b.transcript h w ∧
      ∃ c : Course { options with rounds := n } dialect setup (a.transcript h w) summary,
        c.rounds.length = n.toNat ∧ ∀ result w'', b.run h w = (some result, w'') →
          ∃ summary', result = .ok summary' ∧
            ∃ c' : Course { options with rounds := m } dialect setup (b.transcript h w) summary',
              c'.rounds.take n.toNat = c.rounds ∧
              summary.replay.statements <+: summary'.replay.statements ∧
              summary.CountsLess summary' := by
  intro a b
  obtain ⟨hbegins, hok⟩ : a.transcript h w <+: b.transcript h w ∧
      ∀ result w'', b.run h w = (some result, w'') → ∃ summary', result = .ok summary' := by
    obtain ⟨hsame, ht⟩ | ⟨-, -, -, -, hbegins, hok⟩ := run_eq_or_completed hnm h w
    · refine ⟨ht.symm ▸ List.prefix_refl _, fun result w'' hrun' => ?_⟩
      have heq := hrun'.symm.trans (hsame.trans hrun)
      exact ⟨summary, Option.some.inj (Prod.mk.inj heq).1⟩
    · exact ⟨hbegins, hok⟩
  obtain ⟨c⟩ := exists_course (Dialogue.path_of_run hrun)
  obtain ⟨-, hlen⟩ := c.of_completed hcompleted
  refine ⟨hbegins, c, hlen, fun result w'' hrun' => ?_⟩
  obtain ⟨summary', rfl⟩ := hok result w'' hrun'
  obtain ⟨c'⟩ := exists_course (Dialogue.path_of_run hrun')
  obtain ⟨u, hu⟩ := hbegins
  obtain ⟨more, hmore, hreplay⟩ :=
    c.exists_append_of_le hnm c' (hu.trans (List.append_nil _).symm)
  refine ⟨summary', rfl, c', ?_, hreplay, ?_⟩
  · rw [hmore, ← hlen, List.take_left]
  · have houtcomes : c.rounds.map PlayedRound.outcome <+: c'.rounds.map PlayedRound.outcome := by
      rw [hmore, List.map_append]
      exact List.prefix_append _ _
    rw [c.summary_eq, c'.summary_eq]
    exact SessionSummary.countsLess_of_prefix houtcomes

/-- **The budget only cuts a session short.** Let one handler run sessions that differ in their
budgets. If a session does not come to run all its rounds, because it breaks down, ends in an error,
or is ended by a round, then it does the same under every larger budget. If it does run them all,
then they are the first rounds under every larger budget, all that it sends and keeps for the replay
is the beginning of what is sent and kept there, and no count gets smaller. A bug that is found in
some round is found under every budget that reaches this round, and under a smaller one the session
runs all its rounds. -/
theorem play_of_larger_budget [PatternReader] (h : Handler σ) (options : SessionOptions)
    (dialect : Dialect) (setup : List SetupStatement) (w : σ) (n : UInt64) :
    let d := fun rounds : UInt64 => play { options with rounds } dialect setup
    let t := fun rounds => (d rounds).transcript h w
    (∀ m, n ≤ m →
      (∀ summary w', (d n).run h w = (some (.ok summary), w') → summary.outcome ≠ .completed) →
        (d m).run h w = (d n).run h w ∧ t m = t n) ∧
    (∀ m summary w', n ≤ m → (d n).run h w = (some (.ok summary), w') →
      summary.outcome = .completed →
        t n <+: t m ∧ statementsOf (t n) <+: statementsOf (t m) ∧
        ∃ c : Course { options with rounds := n } dialect setup (t n) summary,
          c.rounds.length = n.toNat ∧
          ∀ result w'', (d m).run h w = (some result, w'') →
            ∃ summary', result = .ok summary' ∧
              ∃ c' : Course { options with rounds := m } dialect setup (t m) summary',
                c'.rounds.take n.toNat = c.rounds ∧
                summary.replay.statements <+: summary'.replay.statements ∧
                summary.CountsLess summary') ∧
    (∀ summary w' report path, (d n).run h w = (some (.ok summary), w') →
      summary.outcome = .logicBug report path → ∀ m : UInt64,
        (summary.roundsRun ≤ m.toNat → (d m).run h w = (d n).run h w ∧ t m = t n) ∧
        (m.toNat < summary.roundsRun → ∃ summary' w'',
          (d m).run h w = (some (.ok summary'), w'') ∧ summary'.outcome = .completed)) := by
  intro d t
  refine ⟨fun m hnm hcut => ?_, fun m summary w' hnm hrun hcompleted => ?_, ?_⟩
  · obtain hsame | ⟨summary, w', hrun, hcompleted, -⟩ := run_eq_or_completed hnm h w
    · exact hsame
    · exact absurd hcompleted (hcut summary w' hrun)
  · obtain ⟨hbegins, c, hlen, hmore⟩ := exists_course_of_completed hnm hrun hcompleted
    exact ⟨hbegins, hbegins.filterMap _, c, hlen, hmore⟩
  · intro summary w' report path hrun hbug m
    have hcut : summary.outcome ≠ .completed := by simp [hbug]
    have hwithin : ∀ {k : UInt64} {w' : σ}, (d k).run h w = (some (.ok summary), w') →
        summary.roundsRun ≤ k.toNat := by
      intro k w' hrun
      obtain ⟨c⟩ := exists_course (Dialogue.path_of_run hrun)
      rw [c.roundsRun_eq]
      exact c.within_budget
    rcases UInt64.le_total n m with hnm | hmn
    · have hle := UInt64.le_iff_toNat_le.1 hnm
      obtain hsame | ⟨summary', w'', hrun', hcompleted, -⟩ := run_eq_or_completed hnm h w
      · have hk := hwithin hrun
        exact ⟨fun _ => hsame, fun hlt => by omega⟩
      · obtain rfl : summary' = summary := by simpa using congrArg Prod.fst (hrun'.symm.trans hrun)
        exact absurd hcompleted hcut
    · obtain ⟨hsame, ht⟩ | ⟨summary', w'', hrun', hcompleted, -⟩ := run_eq_or_completed hmn h w
      · have hk := hwithin (hsame.symm.trans hrun)
        exact ⟨fun _ => ⟨hsame.symm, ht.symm⟩, fun hlt => by omega⟩
      · refine ⟨fun hk => ?_, fun _ => ⟨summary', w'', hrun', hcompleted⟩⟩
        -- had the smaller budget been enough, the bug would be among its rounds
        obtain ⟨-, c, hlen, hmore⟩ := exists_course_of_completed hmn hrun' hcompleted
        obtain ⟨_, hsummary, c', htake, -⟩ := hmore _ _ hrun
        obtain rfl := Except.ok.inj hsummary
        rw [c'.roundsRun_eq] at hk
        rw [List.take_of_length_le hk] at htake
        refine absurd (c'.completed_of_not_isTerminal ?_) hcut
        rw [htake]
        exact (c.of_completed hcompleted).1

section

open scoped Pattern

/-- One round that passes, one without a result set, and one with a row too few. With a budget of
two the session completes; with a budget of five it finds the bug in its third round, and so it does
with a budget of nine. -/
theorem larger_budget_of_short_session :
    let x : Offer := ⟨{ fetch := ["t.a"], tables := ["t"] }, "t.b > 0", default⟩
    let options : SessionOptions := { oracles := [.whereClause] }
    let setup : List SetupStatement := [⟨"CREATE TABLE t (a, b)", true⟩]
    let w : World (List EngineAnswer) Unit MemoryLog :=
      ⟨[.ok (.rows [some "1"]), .ok (.rows [some "1"]), .ok .noResultSet,
        .ok (.rows [some "1"]), .ok (.rows [])], (), {}⟩
    let d := fun rounds : UInt64 => play { options with rounds } .strict setup
    let t := fun rounds => (d rounds).transcript x.handler w
    ∃ summary w' summary' w'' report,
      (d 2).run x.handler w = (some (.ok summary), w') ∧ summary.outcome = .completed ∧
      (d 5).run x.handler w = (some (.ok summary'), w'') ∧
      summary'.outcome = .logicBug report none ∧ summary'.roundsRun = 3 ∧
      (d 9).run x.handler w = (d 5).run x.handler w ∧
      statementsOf (t 2) <+: statementsOf (t 5) ∧
      ∃ (c : Course { options with rounds := 2 } .strict setup (t 2) summary)
        (c' : Course { options with rounds := 5 } .strict setup (t 5) summary'),
        c.rounds.length = 2 ∧ c'.rounds.take 2 = c.rounds ∧ summary.CountsLess summary' := by
  intro x options setup w d t
  have hshort : ∃ summary w', (d 2).run x.handler w = (some (.ok summary), w') ∧
      summary.outcome = .completed := ⟨_, _, rfl, by decide⟩
  have hlong : ∃ summary w'' report, (d 5).run x.handler w = (some (.ok summary), w'') ∧
      summary.outcome = .logicBug report none ∧ summary.roundsRun = 3 :=
    ⟨_, _, _, rfl, rfl, by decide⟩
  obtain ⟨summary, w', hrun, hcompleted⟩ := hshort
  obtain ⟨summary', w'', report, hrun', hbug, hthree⟩ := hlong
  obtain ⟨-, hmore, -⟩ := play_of_larger_budget x.handler options .strict setup w 2
  obtain ⟨hsame, -, -⟩ := play_of_larger_budget x.handler options .strict setup w 5
  obtain ⟨-, hsent, c, hlen, hcourses⟩ := hmore 5 summary w' (by decide) hrun hcompleted
  obtain ⟨_, hsummary, c', htake, -, hcounts⟩ := hcourses _ _ hrun'
  obtain rfl := Except.ok.inj hsummary
  obtain ⟨hnine, -⟩ := hsame 9 (by decide) fun s w₁ hs => by
    obtain rfl : s = summary' := by simpa using congrArg Prod.fst (hs.symm.trans hrun')
    simp [hbug]
  exact ⟨summary, w', summary', w'', report, hrun, hcompleted, hrun', hbug, hthree, hnine, hsent,
    c, c', hlen, htake, hcounts⟩

end

end Runs

end Session

end Trisect
