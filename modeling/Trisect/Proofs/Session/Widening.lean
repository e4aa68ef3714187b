import Trisect.Pattern.Regular
import Trisect.Proofs.Round.Widening
import Trisect.Proofs.Session.Budget

/-!
# Sessions that expect more

Which messages of the engine are expected is a matter of configuration, and a message too many must
not hide a bug. Two sessions that differ in nothing else do the same as long as no failure of the
engine tells them apart: one leads the other up to a statement of the setup that it does not forgive
(`Trisect.SessionM.LeadsUntil`), or up to a round that fails where the other skips it
(`Trisect.Session.leads_playRounds_of_inStep`). In particular a bug that one of them comes to, the
other comes to as well.

`Trisect.Session.Course.parting` finds the round in which their courses part. The main statement,
`Trisect.Session.expecting_more_hides_nothing`, is about single rounds
(`Trisect.Oracle.run_of_widens`) and about sessions (`Trisect.Session.WidenedRun`).
-/

namespace Trisect

variable {α β : Type} {errors errors' : ExpectedErrors}

/-- An error over a message that only the second of two expects. -/
def OracleError.Excusable (errors errors' : ExpectedErrors) (e : OracleError) : Prop :=
  ∃ sql text, errors.Gains errors' text ∧ e = .unexpectedEngineError sql (some text)

/-! ### Before the rounds -/

namespace SessionM

/-- A step that leads another one up to an error that is excusable. -/
def LeadsUntil (errors errors' : ExpectedErrors) (m n : SessionM α) : Prop :=
  ∀ s, Dialogue.Leads (fun x e => e = .done x ∨ ∃ e', x.1 = .error e' ∧ e'.Excusable errors errors')
    (m.run s) (n.run s)

theorem leadsUntil_self (m : SessionM α) : LeadsUntil errors errors' m m :=
  fun s => Dialogue.leads_refl (m.run s) fun _ => Or.inl rfl

theorem leadsUntil_throw {e : OracleError} (he : e.Excusable errors errors') (n : SessionM α) :
    LeadsUntil errors errors' (throw e) n :=
  fun _ => .finished (Or.inr ⟨e, rfl, he⟩)

theorem leadsUntil_bind {m n : SessionM α} {f g : α → SessionM β}
    (h : LeadsUntil errors errors' m n) (hf : ∀ a, LeadsUntil errors errors' (f a) (g a)) :
    LeadsUntil errors errors' (m >>= f) (n >>= g) := by
  intro s
  refine Dialogue.leads_bind (h s) ?_
  rintro ⟨x, s'⟩ e (rfl | ⟨e', rfl, he'⟩)
  · rcases x with e | a
    · exact .finished (Or.inl rfl)
    · exact hf a s'
  · exact .finished (Or.inr ⟨e', rfl, he'⟩)

/-- The case that occurs most: both begin with the same step. -/
theorem leadsUntil_bind_self (m : SessionM α) {f g : α → SessionM β}
    (hf : ∀ a, LeadsUntil errors errors' (f a) (g a)) :
    LeadsUntil errors errors' (m >>= f) (m >>= g) :=
  leadsUntil_bind (leadsUntil_self m) hf

end SessionM

namespace Session

section Preparation

variable (hwithin : errors.Within errors')

include hwithin

/-- **A statement that is run for its effect** ends in an error that is excusable, or does the same
if more is expected. -/
theorem leadsUntil_execute (sql : String) :
    SessionM.LeadsUntil errors errors' (execute errors sql) (execute errors' sql) := by
  refine SessionM.leadsUntil_bind_self (SessionM.recordQuery sql) fun _ => ?_
  refine SessionM.leadsUntil_bind_self (SessionM.ask (.execute sql)) ?_
  rintro (failure | ⟨⟩)
  · have hclassify := EngineError.widened_classify (α := Unit) hwithin failure sql
    dsimp only
    generalize failure.classify sql errors = x at hclassify
    generalize failure.classify sql errors' = y at hclassify
    cases hclassify with
    | same => exact SessionM.leadsUntil_self _
    | excused _ hgains => exact SessionM.leadsUntil_throw ⟨_, _, hgains, rfl⟩ _
  · exact SessionM.leadsUntil_self _

theorem leadsUntil_setUp (setup : List SetupStatement) :
    SessionM.LeadsUntil errors errors' (setUp errors setup) (setUp errors' setup) := by
  induction setup with
  | nil => exact SessionM.leadsUntil_self _
  | cons statement rest ih =>
    refine SessionM.leadsUntil_bind (leadsUntil_execute hwithin statement.text) fun succeeded => ?_
    exact SessionM.leadsUntil_bind ih fun changed => SessionM.leadsUntil_self _

theorem leadsUntil_prepare (setup : List SetupStatement) :
    SessionM.LeadsUntil errors errors' (prepare errors setup) (prepare errors' setup) := by
  refine SessionM.leadsUntil_bind_self (SessionM.ask .version) fun version => ?_
  refine SessionM.leadsUntil_bind_self _ fun _ => ?_
  refine SessionM.leadsUntil_bind_self (SessionM.ask .refreshSchema) fun refreshed => ?_
  refine SessionM.leadsUntil_bind_self _ fun _ => ?_
  exact SessionM.leadsUntil_bind (leadsUntil_setUp hwithin setup) fun changed =>
    SessionM.leadsUntil_self _

end Preparation

end Session

/-! ### Rounds -/

namespace Rotation

/-- Rotations of the same kinds are in step if the oracles of each kind are. -/
theorem inStep_of_map {V : RoundOutcome → RoundOutcome → Prop} (kinds : List OracleKind)
    {f g : OracleKind → Oracle}
    (hfg : ∀ k, Session.Twin (fun _ => Eq) V (f k).runRound (g k).runRound) {r r' : Rotation}
    (hr : r.oracles = kinds.map f) (hr' : r'.oracles = kinds.map g) (hnext : r'.next = r.next) :
    InStep V r r' := by
  intro n
  induction n generalizing r r' with
  | zero =>
    obtain ⟨oracles, next, hlt⟩ := r
    obtain ⟨oracles', next', hlt'⟩ := r'
    obtain rfl : oracles = kinds.map f := hr
    obtain rfl : oracles' = kinds.map g := hr'
    obtain rfl : next' = next := hnext
    simpa [current] using hfg _
  | succ n ih =>
    have hadvance : r'.advance.next = r.advance.next := by
      simp only [advance, hnext, hr, hr', List.length_map]
    exact @ih r.advance r'.advance hr hr' hadvance

variable {dialect dialect' : Dialect} {kinds : List OracleKind}

/-- **The rotations of sessions of which one expects more** are in step. -/
theorem exists_inStep_ofKinds (hwithin : errors.Within errors')
    (hengine : dialect.SameEngine dialect') {r : Rotation}
    (hr : ofKinds kinds errors dialect = .ok r) :
    ∃ r', ofKinds kinds errors' dialect' = .ok r' ∧
      InStep (RoundOutcome.Widened errors errors') r r' := by
  have hwidens : ∀ k, Oracle.Widens ⟨k, errors, dialect⟩ ⟨k, errors', dialect'⟩ := fun k =>
    ⟨rfl, hwithin, hengine⟩
  have htwin : ∀ k, Session.Twin (fun _ => Eq) (RoundOutcome.Widened errors errors')
      (Oracle.mk k errors dialect).runRound (Oracle.mk k errors' dialect').runRound := fun k =>
    Oracle.twin_runRound_of_widens (hwidens k)
  cases kinds with
  | nil => cases hr
  | cons k ks =>
    obtain rfl := Except.ok.inj hr
    exact ⟨_, rfl, inStep_of_map (k :: ks) htwin rfl rfl rfl⟩

theorem ofKinds_error_congr {e : OracleError} (h : ofKinds kinds errors dialect = .error e) :
    ofKinds kinds errors' dialect' = .error e := by
  cases kinds with
  | nil => exact h
  | cons k ks => cases h

end Rotation

namespace Session

variable {rotation rotation' : Rotation}

/-- What is left of the rounds of a session that expects more, when those of the other are over:
nothing, unless the other has failed where this one has skipped a round. -/
def OutlastsFailure (errors errors' : ExpectedErrors) (x : List RoundOutcome × Session)
    (e : Dialogue (List RoundOutcome × Session)) : Prop :=
  e = .done x ∨ ∃ earlier error, error.Excusable errors errors' ∧
    (∀ o ∈ earlier, o.isTerminal = false) ∧ x.1 = earlier ++ [.failed error] ∧
    ∀ t y, e.Path t y → earlier ++ [.skipped .expectedError] <+: y.1

/-- **The round loop leads** the one that expects more. -/
theorem leads_playRounds_of_inStep
    (hstep : rotation.InStep (RoundOutcome.Widened errors errors') rotation')
    {outcomes : List RoundOutcome} (houtcomes : ∀ o ∈ outcomes, o.isTerminal = false) (n : Nat)
    (s : Session) :
    Dialogue.Leads (OutlastsFailure errors errors') (playRounds rotation outcomes n s)
      (playRounds rotation' outcomes n s) := by
  induction n generalizing rotation rotation' outcomes s with
  | zero => exact .finished (Or.inl rfl)
  | succ n ih =>
    refine Dialogue.leads_bind (hstep.current s).leads ?_
    rintro ⟨o, s₁⟩ _ ⟨⟨o', _⟩, rfl, hwidened, rfl⟩
    rw [Dialogue.done_bind]
    cases hwidened with
    | same o =>
      dsimp only
      split
      · exact .finished (Or.inl rfl)
      · next hend =>
        exact ih hstep.advance (List.forall_mem_cons.2 ⟨by simpa using hend, houtcomes⟩) s₁
    | @excused sql text hgains =>
      refine .finished (Or.inr ⟨outcomes.reverse, _, ⟨sql, text, hgains, rfl⟩, ?_, ?_, ?_⟩)
      · exact fun o ho => houtcomes o (List.mem_reverse.1 ho)
      · exact List.reverse_cons
      · rintro t ⟨all, s'⟩ hpath
        obtain ⟨rounds, -, -, rfl, -⟩ := plays_of_path hpath
        rw [List.reverse_cons]
        exact List.prefix_append _ _

/-! ### Sessions -/

section Sessions

variable {options : SessionOptions} {dialect dialect' : Dialect} {setup : List SetupStatement}

/-- One skipped round more makes another summary than a failed one, whatever comes behind it. -/
theorem ofOutcomes_ne_of_skipped {earlier outcomes : List RoundOutcome} {error : OracleError}
    {path path' : Option String} {replay replay' : ReplayState}
    (hearlier : ∀ o ∈ earlier, o.isTerminal = false)
    (h : earlier ++ [.skipped .expectedError] <+: outcomes) :
    SessionSummary.ofOutcomes options outcomes path replay ≠
      .ofOutcomes options (earlier ++ [.failed error]) path' replay' := by
  intro heq
  -- if there is none behind it, the session has run all its rounds
  have hlen := congrArg SessionSummary.roundsRun heq
  rw [SessionSummary.roundsRun_ofOutcomes, SessionSummary.roundsRun_ofOutcomes,
    List.length_append, List.length_singleton] at hlen
  obtain rfl : earlier ++ [.skipped .expectedError] = outcomes := by
    refine h.eq_of_length ?_
    rw [hlen, List.length_append, List.length_singleton]
  have hgoes : ∀ o ∈ earlier ++ [RoundOutcome.skipped .expectedError], o.isTerminal = false := by
    intro o ho
    rcases List.mem_append.1 ho with ho | ho
    · exact hearlier o ho
    · obtain rfl := List.mem_singleton.1 ho
      rfl
  have hcompleted : (SessionSummary.ofOutcomes options (earlier ++ [.skipped .expectedError]) path
      replay).outcome = .completed := SessionSummary.outcome_foldl hgoes _
  rw [heq, SessionSummary.outcome_ofOutcomes rfl] at hcompleted
  cases hcompleted

/-- What is left of a prepared session that expects more, when the other is over: nothing, unless
the other has failed over an excusable error; then it is something with another summary. -/
def OutlastsFailed (errors errors' : ExpectedErrors) (summary : SessionSummary)
    (e : Dialogue SessionSummary) : Prop :=
  e = .done summary ∨
    (∃ error : OracleError, error.Excusable errors errors' ∧
      summary.outcome = .failed error.message) ∧
      ∀ t summary', e.Path t summary' → summary' ≠ summary

theorem leads_playPrepared_of_inStep
    (hstep : rotation.InStep (RoundOutcome.Widened errors errors') rotation') (s : Session) :
    Dialogue.Leads (OutlastsFailed errors errors') (playPrepared options rotation s)
      (playPrepared options rotation' s) := by
  have hnone : ∀ o ∈ ([] : List RoundOutcome), o.isTerminal = false := by simp
  refine Dialogue.leads_bind (leads_playRounds_of_inStep hstep hnone _ s) ?_
  rintro ⟨outcomes, s₁⟩ e (rfl | ⟨earlier, error, herror, hearlier, houtcomes, hpaths⟩)
  · refine Dialogue.leads_refl _ ?_
    exact fun summary => Or.inl rfl
  · obtain rfl : outcomes = earlier ++ [.failed error] := houtcomes
    have hreport : writeReport options (earlier ++ [RoundOutcome.failed error]).getLast? =
        .done none := by
      rw [List.getLast?_concat, writeReport_failed]
    dsimp only
    rw [hreport]
    refine .finished (Or.inr ⟨⟨error, herror, SessionSummary.outcome_ofOutcomes rfl⟩, ?_⟩)
    intro t summary' hpath
    obtain ⟨t₁, ⟨outcomes', s₂⟩, t₂, h₁, h₂, rfl⟩ := Dialogue.path_bind_iff.1 hpath
    obtain ⟨t₃, path, t₄, -, h₃, rfl⟩ := Dialogue.path_bind_iff.1 h₂
    obtain ⟨rfl, rfl⟩ := Dialogue.path_done_iff.1 h₃
    exact ofOutcomes_ne_of_skipped hearlier (hpaths _ _ h₁)

/-- What is left of a session that expects more, when the other is over: nothing, unless the other
has failed over an excusable error, before the rounds or in one of them. -/
inductive OutlastsExcusable (errors errors' : ExpectedErrors) :
    Except OracleError SessionSummary → Dialogue (Except OracleError SessionSummary) → Prop
  | nothing (result : Except OracleError SessionSummary) :
      OutlastsExcusable errors errors' result (.done result)
  | setback {error : OracleError} (h : error.Excusable errors errors')
      (e : Dialogue (Except OracleError SessionSummary)) :
      OutlastsExcusable errors errors' (.error error) e
  | round {summary : SessionSummary} {error : OracleError} (h : error.Excusable errors errors')
      (houtcome : summary.outcome = .failed error.message) {rest : Dialogue SessionSummary}
      (hrest : ∀ t summary', rest.Path t summary' → summary' ≠ summary) :
      OutlastsExcusable errors errors' (.ok summary)
        (rest.bind fun summary' => .done (.ok summary'))

theorem Plays.eq_of_nil {s s' : Session} (h : Plays rotation s [] s') : s' = s := by
  cases h
  rfl

section Courses

variable [PatternReader] {t : List Exchange} {summary : SessionSummary}

/-- A session that has ended in a failure has failed in its last round. -/
theorem Course.exists_failed (c : Course options dialect setup t summary) {message : String}
    (h : summary.outcome = .failed message) :
    ∃ earlier x e, c.rounds = earlier ++ [⟨x, .failed e⟩] := by
  obtain ⟨hgoes, -⟩ | ⟨_, last, houtcomes, -, hlast⟩ := c.outcomes_cases
  · have hcompleted := c.completed_of_not_isTerminal fun round hround =>
      hgoes _ (List.mem_map_of_mem hround)
    cases h.symm.trans hcompleted
  · obtain ⟨earlier, more, hrounds, -, hmore⟩ := List.map_eq_append_iff.1 houtcomes
    obtain ⟨⟨x, o⟩, rfl, rfl⟩ := List.map_eq_singleton_iff.1 hmore
    rw [c.summary_eq, houtcomes, SessionSummary.outcome_ofOutcomes hlast] at h
    cases o with
    | failed e => exact ⟨earlier, x, e, hrounds⟩
    | _ => cases h

/-- Nothing comes behind a round that ends the session. -/
theorem Course.eq_nil_of_isTerminal (c : Course options dialect setup t summary)
    {before after : List PlayedRound} {round : PlayedRound}
    (hrounds : c.rounds = before ++ round :: after) (hend : round.outcome.isTerminal = true) :
    after = [] := by
  by_contra hafter
  have hmem : round ∈ c.rounds.dropLast := by
    rw [hrounds, List.dropLast_append_of_ne_nil (by simp), List.dropLast_cons_of_ne_nil hafter]
    simp
  simp [c.played.isTerminal_of_mem_dropLast hmem] at hend

/-- Where a round has failed, no report is written. -/
theorem Course.path_eq_none (c : Course options dialect setup t summary)
    {earlier : List PlayedRound} {x : List Exchange} {e : OracleError}
    (h : c.rounds = earlier ++ [⟨x, .failed e⟩]) :
    c.path = none := by
  have hreported := c.reported
  rw [h, List.map_append, List.map_singleton, List.getLast?_concat, writeReport_failed] at hreported
  exact (Dialogue.path_done_iff.1 hreported).2

end Courses

variable [PatternReader] (hwithin : errors.Within errors') (hengine : dialect.SameEngine dialect')
  (herrors : dialect.errors = .ok errors) (herrors' : dialect'.errors = .ok errors')

include hwithin hengine herrors herrors'

/-- **A session leads the one that expects more.** -/
theorem leads_play_of_within (options : SessionOptions) (setup : List SetupStatement) :
    Dialogue.Leads (OutlastsExcusable errors errors') (play options dialect setup)
      (play options dialect' setup) := by
  rw [play_eq herrors, play_eq herrors']
  refine Dialogue.leads_bind_self (openLog options) ?_
  rintro (e | ⟨⟩)
  · exact .finished (.nothing _)
  refine Dialogue.leads_bind (leadsUntil_prepare hwithin setup (initial options)) ?_
  rintro ⟨x, s⟩ e (rfl | ⟨error, rfl, herror⟩)
  · rw [Dialogue.done_bind]
    rcases x with e | ⟨⟩
    · exact .finished (.nothing _)
    dsimp only
    split
    · next e hrotation =>
      rw [Rotation.ofKinds_error_congr hrotation]
      exact .finished (.nothing _)
    · next rotation hrotation =>
      obtain ⟨rotation', hrotation', hstep⟩ :=
        Rotation.exists_inStep_ofKinds hwithin hengine hrotation
      rw [hrotation']
      refine Dialogue.leads_bind (leads_playPrepared_of_inStep hstep s) ?_
      rintro summary e (rfl | ⟨⟨error, herror, houtcome⟩, hrest⟩)
      · exact .finished (.nothing _)
      · exact .finished (.round herror houtcome hrest)
  · exact .finished (.setback herror _)

/-- **The courses of two sessions part** in the round in which the first fails, if the summaries are
not the same: the second has skipped it. -/
theorem Course.parting {t t' u u' : List Exchange} {summary summary' : SessionSummary}
    (c : Course options dialect setup t summary) (c' : Course options dialect' setup t' summary')
    (hheard : t ++ u = t' ++ u') {message : String} (houtcome : summary.outcome = .failed message)
    (hne : summary' ≠ summary) :
    ∃ earlier x sql text more, errors.Gains errors' text ∧
      c.rounds = earlier ++ [⟨x, .failed (.unexpectedEngineError sql (some text))⟩] ∧
      c'.rounds = earlier ++ ⟨x, .skipped .expectedError⟩ :: more := by
  obtain rfl := Except.ok.inj (herrors.symm.trans c.errors_eq)
  obtain rfl := Except.ok.inj (herrors'.symm.trans c'.errors_eq)
  obtain ⟨rotation, hrotation, hstep⟩ :=
    Rotation.exists_inStep_ofKinds hwithin hengine c.rotation_eq
  obtain rfl := Except.ok.inj (hrotation.symm.trans c'.rotation_eq)
  have hprepare : Dialogue.Leads KeepsUp ((prepare c.errors setup).run (initial options))
      ((prepare c'.errors setup).run (initial options)) := by
    refine (leadsUntil_prepare hwithin setup (initial options)).mono ?_
    rintro x e (rfl | ⟨error, herror, -⟩)
    · exact Or.inl rfl
    · exact Or.inr ⟨error, herror⟩
  have haccord := c.accord c' rfl hprepare hstep hheard
  obtain ⟨earlier, x, e, hfailed⟩ := c.exists_failed houtcome
  generalize hrounds : c.rounds = rounds at haccord
  generalize hrounds' : c'.rounds = rounds' at haccord
  cases haccord with
  | longer _ more h =>
    -- nothing comes behind the round that failed, and so the summaries are the same
    have hmore : c'.rounds = earlier ++ ⟨x, .failed e⟩ :: more := by
      rw [hrounds', ← hrounds, hfailed, List.append_assoc, List.singleton_append]
    obtain rfl := c'.eq_nil_of_isTerminal hmore rfl
    refine absurd (c'.summary_eq.trans (Eq.trans ?_ c.summary_eq.symm)) hne
    rw [c'.path_eq_none hmore, c.path_eq_none hfailed, hmore, hfailed, h.eq_of_nil]
  | shorter _ round more =>
    exact absurd (hrounds' ▸ hrounds) (c.rounds_ne_append c' (Nat.le_refl _) round more)
  | @parting earlier' more more' x' o o' h hdiffer =>
    cases h with
    | same => exact absurd rfl hdiffer
    | @excused sql text hgains =>
      obtain rfl := c.eq_nil_of_isTerminal hrounds rfl
      exact ⟨earlier', x', sql, text, more', hgains, rfl, rfl⟩

end Sessions

/-! ### Runs -/

variable {σ : Type}

/-- **How a session runs that expects more than another**, by the same handler and from the same
state: it does the same, or it does so up to a failure over an excusable error and goes on behind
it. -/
inductive WidenedRun [PatternReader] (errors errors' : ExpectedErrors) (options : SessionOptions)
    (dialect dialect' : Dialect) (setup : List SetupStatement) (h : Handler σ) (w : σ) : Prop
  | same (hrun : (play options dialect' setup).run h w = (play options dialect setup).run h w)
      (ht : (play options dialect' setup).transcript h w =
        (play options dialect setup).transcript h w)
  /-- The other ends in the error, before its first round. -/
  | setback {error : OracleError} (herror : error.Excusable errors errors')
      (hrun : ((play options dialect setup).run h w).1 = some (.error error))
      (ht : (play options dialect setup).transcript h w <+:
        (play options dialect' setup).transcript h w)
  /-- The other fails in a round. If this one comes to an end, it has had the same rounds before,
  and has skipped this one. -/
  | round {summary : SessionSummary} {error : OracleError}
      (herror : error.Excusable errors errors')
      (hrun : ((play options dialect setup).run h w).1 = some (.ok summary))
      (houtcome : summary.outcome = .failed error.message)
      (ht : (play options dialect setup).transcript h w <+:
        (play options dialect' setup).transcript h w)
      (hparting : ∀ result w', (play options dialect' setup).run h w = (some result, w') →
        ∃ (summary' : SessionSummary)
          (c : Course options dialect setup ((play options dialect setup).transcript h w) summary)
          (c' : Course options dialect' setup ((play options dialect' setup).transcript h w)
            summary')
          (earlier : List PlayedRound) (x : List Exchange) (sql text : String)
          (more : List PlayedRound), result = .ok summary' ∧ errors.Gains errors' text ∧
          c.rounds = earlier ++ [⟨x, .failed (.unexpectedEngineError sql (some text))⟩] ∧
          c'.rounds = earlier ++ ⟨x, .skipped .expectedError⟩ :: more)

theorem run_of_within [PatternReader] {dialect dialect' : Dialect} (hwithin : errors.Within errors')
    (hengine : dialect.SameEngine dialect') (herrors : dialect.errors = .ok errors)
    (herrors' : dialect'.errors = .ok errors') (options : SessionOptions)
    (setup : List SetupStatement) (h : Handler σ) (w : σ) :
    WidenedRun errors errors' options dialect dialect' setup h w := by
  obtain ⟨w₁, ⟨ha, hb, ht⟩ | ⟨result, rest, hrest, ha, hb, ht⟩⟩ :=
    (leads_play_of_within hwithin hengine herrors herrors' options setup).run h w
  · exact .same (hb.trans ha.symm) ht
  cases hrest with
  | nothing => exact .same (hb.trans ha.symm) (ht.trans (List.append_nil _))
  | setback herror e => exact .setback herror (congrArg Prod.fst ha) (ht ▸ List.prefix_append _ _)
  | @round summary error herror houtcome rest hrest =>
    refine .round herror (congrArg Prod.fst ha) houtcome (ht ▸ List.prefix_append _ _) ?_
    intro result w' hrun
    obtain ⟨t₁, summary', t₂, hpath, hresult, -⟩ :=
      Dialogue.path_bind_iff.1 (Dialogue.path_of_run (hb.symm.trans hrun))
    obtain ⟨-, rfl⟩ := Dialogue.path_done_iff.1 hresult
    obtain ⟨c⟩ := exists_course (Dialogue.path_of_run ha)
    obtain ⟨c'⟩ := exists_course (Dialogue.path_of_run hrun)
    obtain ⟨earlier, x, sql, text, more, hgains, hrounds, hrounds'⟩ :=
      c.parting hwithin hengine herrors herrors' c' (ht.symm.trans (List.append_nil _).symm)
        houtcome (hrest _ _ hpath)
    exact ⟨summary', c, c', earlier, x, sql, text, more, rfl, hgains, hrounds, hrounds'⟩

/-- **Expecting more messages hides no bug.** Let every message that is expected in the first place
be expected in the second. A round of any kind, run by one handler from one state, then says the
same with either and leaves the same behind; it passes with one if it passes with the other, and
ends in a report with one if it ends in that report with the other. The outcomes differ just if the
engine has refused a query with a message that only the second expects: then the first is a failure
over this message, and the second is that the round is skipped. A session does the same with either,
up to the first failure of that kind. -/
theorem expecting_more_hides_nothing [PatternReader] (h : Handler σ)
    (hwithin : errors.Within errors') :
    (∀ (kind : OracleKind) (dialect : Dialect) (s : Session) (w : σ),
      let a := (Oracle.mk kind errors dialect).runRound.run s
      let b := (Oracle.mk kind errors' dialect).runRound.run s
      b.transcript h w = a.transcript h w ∧ (b.run h w).2 = (a.run h w).2 ∧
        Option.Rel
          (fun x y => y.2 = x.2 ∧ WidenedRound errors errors' (a.transcript h w) x.1 y.1)
          (a.run h w).1 (b.run h w).1) ∧
      ∀ (options : SessionOptions) (dialect dialect' : Dialect) (setup : List SetupStatement)
        (w : σ), dialect.SameEngine dialect' → dialect.errors = .ok errors →
        dialect'.errors = .ok errors' →
          WidenedRun errors errors' options dialect dialect' setup h w := by
  refine ⟨fun kind dialect s w => ?_, fun options dialect dialect' setup w hengine herrors
    herrors' => run_of_within hwithin hengine herrors herrors' options setup h w⟩
  have hwidens : Oracle.Widens ⟨kind, errors, dialect⟩ ⟨kind, errors', dialect⟩ :=
    ⟨rfl, hwithin, rfl, rfl, rfl⟩
  exact Oracle.run_of_widens hwidens h s w

section

open scoped Pattern

/-- A column that is not there is a failure to one session, in its second round. The other expects
the message, skips the round, and completes. -/
theorem expecting_more_of_missing_column :
    let x : Offer := ⟨{ fetch := ["t.a"], tables := ["t"] }, "t.b > 0", default⟩
    let errors := ExpectedErrors.empty
    let errors' : ExpectedErrors := { literals := ["no such"] }
    let dialect' : Dialect := { Dialect.strict with expectedErrors := ["no such"] }
    let options : SessionOptions := { rounds := 3, oracles := [.whereClause] }
    let setup : List SetupStatement := [⟨"CREATE TABLE t (a)", true⟩]
    let missing : EngineAnswer := .error (.rejected "no such column: t.b")
    let w : World (List EngineAnswer) Unit MemoryLog :=
      ⟨[.ok (.rows [some "1"]), .ok (.rows [some "1"]), missing,
        .ok (.rows [some "1"]), .ok (.rows [some "1"])], (), {}⟩
    let w₂ : World (List EngineAnswer) Unit MemoryLog := ⟨[missing], (), {}⟩
    let a := (Oracle.mk .having errors .sqlite).runRound.run .detached
    let b := (Oracle.mk .having errors' .sqlite).runRound.run .detached
    errors.Within errors' ∧ Dialect.strict.SameEngine dialect' ∧
      Dialect.strict.errors = .ok errors ∧ dialect'.errors = .ok errors' ∧
      ((play options .strict setup).run x.handler w).1.map (·.toOption.map (·.roundsRun)) =
        some (some 2) ∧
      ((play options dialect' setup).run x.handler w).1.map (·.toOption.map (·.roundsRun)) =
        some (some 3) ∧
      WidenedRun errors errors' options .strict dialect' setup x.handler w ∧
      b.transcript x.handler w₂ = a.transcript x.handler w₂ ∧
      Option.Rel
        (fun p q => q.2 = p.2 ∧ WidenedRound errors errors' (a.transcript x.handler w₂) p.1 q.1)
        (a.run x.handler w₂).1 (b.run x.handler w₂).1 := by
  intro x errors errors' dialect' options setup missing w w₂ a b
  have hwithin : errors.Within errors' := fun text htext => by
    simp [errors, ExpectedErrors.empty, ExpectedErrors.expects] at htext
  have hengine : Dialect.strict.SameEngine dialect' := ⟨rfl, rfl, rfl⟩
  obtain ⟨hround, hsession⟩ := expecting_more_hides_nothing x.handler hwithin
  obtain ⟨ht, -, hrel⟩ := hround .having .sqlite .detached w₂
  exact ⟨hwithin, hengine, rfl, rfl, by decide, by decide,
    hsession options .strict dialect' setup w hengine rfl rfl, ht, hrel⟩

end

end Session

end Trisect
