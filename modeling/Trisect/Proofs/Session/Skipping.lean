import Trisect.Pattern.Regular
import Trisect.Proofs.Round.Deciding
import Trisect.Proofs.Session.Budget
import Trisect.Proofs.Session.SettingUp
import Trisect.Proofs.Shape.Calls
import Trisect.Session.Fleet

/-!
# What a session with random shapes skips

The source of random shapes refuses for two reasons: no table has a column, or there is no column to
make a condition over. In a session it is never asked in a way that makes for the second, and for
the first it refuses always or never. Both come down to what its state is like when it is asked, so
the states are followed along the transcript (`Trisect.Handler.Answers`).

Nothing but a successful reading of the schema changes the tables of the source
(`Trisect.World.tables_handler`), and the last of them is over before the first round. So the
tables stay what they are, whatever becomes of those of the engine. A round begins with its base
query. If there is no column this is refused, which is then the whole of the round
(`Trisect.Oracle.eq_of_no_columns`); the source keeps the columns of an earlier query in that case,
but nobody asks it for a condition. Else there is a base query, and the columns of its tables are
there for all that is asked behind it (`Trisect.RandomShapes.Supplied`), so that nothing is refused
(`Trisect.Oracle.reason_of_columns`).

The main statement is `Trisect.Session.skips_of_run`.
-/

namespace Trisect

/-! ### States along a transcript -/

namespace Handler

variable {σ α : Type} {h : Handler σ} {w w' : σ} {t t₁ t₂ : List Exchange}

/-- **The answers of a handler**: exchange by exchange it goes from one state to another. -/
inductive Answers (h : Handler σ) : σ → List Exchange → σ → Prop
  | nil (w : σ) : Answers h w [] w
  | cons {w w₁ w' : σ} {r : Request} {answer : Option r.Answer} {t : List Exchange}
      (heq : h r w = (answer, w₁)) (rest : Answers h w₁ t w') : Answers h w (⟨r, answer⟩ :: t) w'

theorem answers_append_iff :
    h.Answers w (t₁ ++ t₂) w' ↔ ∃ w₁, h.Answers w t₁ w₁ ∧ h.Answers w₁ t₂ w' := by
  induction t₁ generalizing w with
  | nil =>
    constructor
    · intro ha
      exact ⟨w, .nil w, ha⟩
    · rintro ⟨w₁, ⟨⟩, ha⟩
      exact ha
  | cons x t₁ ih =>
    constructor
    · intro ha
      cases ha with
      | cons heq rest =>
        obtain ⟨w₁, h₁, h₂⟩ := ih.1 rest
        exact ⟨w₁, .cons heq h₁, h₂⟩
    · rintro ⟨w₁, h₁, h₂⟩
      cases h₁ with
      | cons heq rest => exact .cons heq (ih.2 ⟨w₁, rest, h₂⟩)

/-- A handler gives the answers of its transcripts. -/
theorem answers_of_run {d : Dialogue α} {result : Option α} (hrun : d.run h w = (result, w')) :
    h.Answers w (d.transcript h w) w' := by
  induction d generalizing w with
  | done a =>
    cases hrun
    exact .nil _
  | ask r next ih =>
    rw [Dialogue.run] at hrun
    rw [Dialogue.transcript]
    rcases hanswer : h r w with ⟨_ | answer, w₁⟩
    · rw [hanswer] at hrun
      cases hrun
      exact .cons hanswer (.nil _)
    · rw [hanswer] at hrun
      exact .cons hanswer (ih answer hrun)

/-- **An invariant along the answers**, and what each of them says while it holds. -/
theorem Answers.invariant {I : σ → Prop} {P Q : Exchange → Prop}
    (hstep : ∀ r w, P ⟨r, (h r w).1⟩ → I w → I (h r w).2 ∧ Q ⟨r, (h r w).1⟩)
    (ha : h.Answers w t w') (hall : ∀ x ∈ t, P x) (hw : I w) : I w' ∧ ∀ x ∈ t, Q x := by
  induction ha with
  | nil => exact ⟨hw, by simp⟩
  | @cons w w₁ w' r answer t heq rest ih =>
    obtain ⟨hfirst, hrest⟩ := List.forall_mem_cons.1 hall
    have hnext := hstep r w
    rw [heq] at hnext
    obtain ⟨hw₁, hx⟩ := hnext hfirst hw
    obtain ⟨hw', hlater⟩ := ih hrest hw₁
    exact ⟨hw', List.forall_mem_cons.2 ⟨hx, hlater⟩⟩

end Handler

/-! ### The tables of the source -/

namespace World

variable {γ κ : Type} (c : Connection γ) (journal : Journal κ)

/-- Who answers a session with random shapes. -/
abbrev shapesHandler : Handler (World γ RandomShapes κ) := handler c RandomShapes.source journal

theorem tables_baseSelect (s : RandomShapes) : s.baseSelect.2.tables = s.tables := by
  rcases s.baseSelect_cases with ⟨-, hrefused⟩ | ⟨-, base, chosen, -, -, hbase⟩
  · rw [hrefused]
  · rw [hbase]

/-- **Only a successful reading of the schema changes the tables.** -/
theorem tables_handler (r : Request) (w : World γ RandomShapes κ)
    (hr : Exchange.refreshed? ⟨r, (shapesHandler c journal r w).1⟩ = none) :
    (shapesHandler c journal r w).2.source.tables = w.source.tables := by
  cases r with
  | baseSelect => exact tables_baseSelect w.source
  | refreshSchema =>
    simp only [handler, refresh] at hr ⊢
    split at hr
    · cases hr
    · next heq => rfl
  | _ => rfl

/-- What is read is what the engine says, and is kept. -/
theorem tables_of_refreshSchema {w w' : World γ RandomShapes κ}
    (h : shapesHandler c journal .refreshSchema w = (some (.ok ()), w')) :
    (c.tables w.engine).1 = some (.ok w'.source.tables) := by
  simp only [handler, refresh, RandomShapes.source, RandomShapes.refresh, SchemaReading.run,
    Connection.answer_tables] at h
  rcases htables : c.tables w.engine with ⟨_ | ⟨e | tables⟩, g⟩
  · simp [htables] at h
  · simp [htables, SchemaReading.run] at h
  · rw [htables] at h
    simp only [SchemaReading.run, Prod.mk.injEq] at h
    rw [← h.2]

/-- **The tables that were read last** in a transcript: those that the engine had when it was asked,
in the state in which the transcript found it. -/
def LastRead (w : World γ RandomShapes κ) (t : List Exchange) (tables : List Table) : Prop :=
  ∃ before after w₁, t = before ++ ⟨.refreshSchema, some (.ok ())⟩ :: after ∧
    refreshes after = [] ∧ (shapesHandler c journal).Answers w before w₁ ∧
    (c.tables w₁.engine).1 = some (.ok tables)

end World

/-! ### What the source refuses -/

/-- A source with a table to select from, and with columns to make conditions over. -/
structure RandomShapes.Supplied (s : RandomShapes) : Prop where
  candidates : s.candidates ≠ []
  columns : s.columns ≠ []

namespace World

variable {γ κ : Type} (c : Connection γ) (journal : Journal κ) {w : World γ RandomShapes κ}

/-- A source that has a table to select from gives a base query, and is supplied then. -/
theorem supplied_baseSelect (hw : w.source.candidates ≠ []) :
    (shapesHandler c journal .baseSelect w).2.source.Supplied ∧
      Exchange.refusal? ⟨.baseSelect, (shapesHandler c journal .baseSelect w).1⟩ = none := by
  change w.source.baseSelect.2.Supplied ∧
    Exchange.refusal? ⟨.baseSelect, some w.source.baseSelect.1⟩ = none
  rcases w.source.baseSelect_cases with ⟨hnil, -⟩ | ⟨-, base, chosen, hchosen, -, hbase⟩
  · exact absurd hnil hw
  · rw [hbase]
    exact ⟨⟨hw, hchosen.flatMap_ne_nil⟩, rfl⟩

/-- **A source that is supplied refuses nothing** of what is asked in rounds, and stays supplied. -/
theorem supplied_handler {r : Request} (hr : r.InRound) (hw : w.source.Supplied) :
    (shapesHandler c journal r w).2.source.Supplied ∧
      Exchange.refusal? ⟨r, (shapesHandler c journal r w).1⟩ = none := by
  have hserves := RandomShapes.serves_of_columns hw.columns
  cases r with
  | execute | version | refreshSchema | openLog | writeReport => exact hr.elim
  | query | writeQuery | flush | writeDiagnostic => exact ⟨hw, rfl⟩
  | baseSelect => exact supplied_baseSelect c journal hw.candidates
  | predicate =>
    obtain ⟨p, hp, -⟩ := hserves.predicate
    refine ⟨⟨hw.candidates, hw.columns⟩, ?_⟩
    change Exchange.refusal? ⟨.predicate, some w.source.predicate.1⟩ = none
    rw [hp]
    rfl
  | groupPredicate groupBy =>
    obtain ⟨p, hp, -⟩ := hserves.groupPredicate groupBy
    refine ⟨⟨hw.candidates, hw.columns⟩, ?_⟩
    change Exchange.refusal? ⟨.groupPredicate groupBy,
      some (w.source.groupPredicate groupBy).1⟩ = none
    rw [hp]
    rfl
  | aggregate =>
    obtain ⟨f, column, -, hf⟩ := hserves.aggregate
    refine ⟨⟨hw.candidates, hw.columns⟩, ?_⟩
    change Exchange.refusal? ⟨.aggregate, some w.source.aggregate.1⟩ = none
    rw [hf]
    rfl

end World

/-! ### Rounds -/

/-- **A reason of the source**: it has nothing to select from, or nothing to make a condition over.
-/
inductive SkipReason.IsRefusal : SkipReason → Prop
  | emptySchema : IsRefusal .emptySchema
  | inapplicableShape : IsRefusal .inapplicableShape

theorem RoundOutcome.eq_error_of_ofResult {r : Except OracleError Unit} {reason : SkipReason}
    (h : ofResult r = .skipped reason) : r = .error (.skip reason) := by
  rcases r with e | _
  · cases e with
    | skip reason' => rw [RoundOutcome.skipped.inj h]
    | _ => cases h
  · cases h

/-- What the engine says is never one of these reasons. -/
theorem not_isRefusal_of_collected {sql : String} {errors : ExpectedErrors} {answer : EngineAnswer}
    {reason : SkipReason} (h : collected sql errors answer = .error (.skip reason)) :
    ¬reason.IsRefusal := by
  intro hreason
  rcases answer with (text | _ | detail) | (_ | cells)
  · rw [collected, EngineError.classify] at h
    split at h
    · cases h
      cases hreason
    · cases h
  · cases h
  · cases h
    cases hreason
  · cases h
    cases hreason
  · cases h

namespace Oracle

variable {o : Oracle} {s s' : Session} {t : List Exchange} {outcome : RoundOutcome}

/-- **A round begins with its base query**, and is over if that is refused. -/
theorem begins_with_baseSelect (h : Session.Path o.runRound s t outcome s') :
    ∃ (answer : Except OracleError Select) (rest : List Exchange),
      t = ⟨.baseSelect, some answer⟩ :: rest ∧
        ∀ e, answer = .error e → rest = [] ∧ outcome = .ofResult (.error e) := by
  obtain ⟨t₁, r, s₁, t₂, h₁, h₂, rfl⟩ := Session.path_bind_iff.1 h
  obtain ⟨rfl, rfl, rfl⟩ := Session.path_pure_iff.1 h₂
  rw [List.append_nil]
  obtain ⟨e, h₃, rfl⟩ | ⟨t₃, base, s₂, t₄, h₃, h₄, rfl⟩ := SessionM.path_bind_iff.1 h₁
  · obtain ⟨answer, t', h₄, rfl⟩ := SessionM.path_ask_bind_iff.1 h₃
    obtain ⟨e', rfl, rfl, he, rfl⟩ | ⟨given, -, h₅⟩ := SessionM.path_ofExcept_bind_iff.1 h₄
    · obtain rfl := Except.error.inj he
      refine ⟨.error e, [], rfl, ?_⟩
      rintro e' ⟨⟩
      exact ⟨rfl, rfl⟩
    · obtain ⟨-, hbase, -⟩ := SessionM.path_pure_iff.1 h₅
      cases hbase
  · obtain ⟨answer, t', h₅, rfl⟩ := SessionM.path_ask_bind_iff.1 h₃
    obtain ⟨e, -, -, he, -⟩ | ⟨given, rfl, -⟩ := SessionM.path_ofExcept_bind_iff.1 h₅
    · cases he
    · exact ⟨.ok given, t' ++ t₄, rfl, nofun⟩

/-- **A round that is refused nothing** is skipped for what the engine says only. -/
theorem reason_of_no_refusal (h : Session.Path o.runRound s t outcome s')
    (hnone : ∀ x ∈ t, x.refusal? = none) {reason : SkipReason} (hreason : reason.IsRefusal) :
    outcome ≠ .skipped reason := by
  intro houtcome
  obtain ⟨r, rfl, hsettled⟩ := o.settled_of_path h
  obtain rfl := RoundOutcome.eq_error_of_ofResult houtcome
  cases hsettled with
  | error before _ hx =>
    cases hx with
    | refusal he =>
      rw [hnone _ (by simp)] at he
      cases he
    | answer he => exact not_isRefusal_of_collected he hreason

variable {γ κ : Type} {c : Connection γ} {journal : Journal κ} {w w' : World γ RandomShapes κ}

/-- **Without a column** a round is refused its base query, and that is all of it. -/
theorem eq_of_no_columns (h : Session.Path o.runRound s t outcome s')
    (ha : (World.shapesHandler c journal).Answers w t w')
    (hw : ∀ table ∈ w.source.tables, table.columns = []) :
    t = [⟨.baseSelect, some (.error (.skip .emptySchema))⟩] ∧
      outcome = .skipped .emptySchema := by
  obtain ⟨answer, rest, rfl, hrefused⟩ := begins_with_baseSelect h
  cases ha with
  | cons heq _ =>
    have hanswer : some w.source.baseSelect.1 = some answer := congrArg Prod.fst heq
    rcases w.source.baseSelect_cases with ⟨-, hbase⟩ | ⟨hne, -⟩
    · rw [hbase] at hanswer
      obtain rfl := Option.some.inj hanswer
      obtain ⟨rfl, rfl⟩ := hrefused _ rfl
      exact ⟨rfl, rfl⟩
    · exact absurd (RandomShapes.candidates_eq_nil_iff.2 hw) hne

/-- **With a column** nothing is refused in a round. -/
theorem reason_of_columns (h : Session.Path o.runRound s t outcome s')
    (ha : (World.shapesHandler c journal).Answers w t w')
    (hw : ∃ table ∈ w.source.tables, table.columns ≠ []) {reason : SkipReason}
    (hreason : reason.IsRefusal) : outcome ≠ .skipped reason := by
  have hcandidates : w.source.candidates ≠ [] := by
    intro hnil
    obtain ⟨table, htable, hne⟩ := hw
    exact hne (RandomShapes.candidates_eq_nil_iff.1 hnil table htable)
  refine reason_of_no_refusal h ?_ hreason
  have hasks : ∀ x ∈ t, x.request.InRound := fun x => o.asks_runRound.of_mem_path h
  obtain ⟨answer, rest, rfl, -⟩ := begins_with_baseSelect h
  cases ha with
  | cons heq hrest =>
    -- the first answer supplies the source, and nothing takes the supply away
    have hfirst := World.supplied_baseSelect c journal hcandidates
    rw [heq] at hfirst
    refine List.forall_mem_cons.2 ⟨hfirst.2, ?_⟩
    refine (hrest.invariant (I := fun w => w.source.Supplied) (P := fun x => x.request.InRound)
      ?_ (fun x hx => hasks x (List.mem_cons_of_mem _ hx)) hfirst.1).2
    exact fun r w hr hw => World.supplied_handler c journal hr hw

end Oracle

/-! ### The last reading of the schema -/

theorem refreshes_eq_nil_iff {t : List Exchange} :
    refreshes t = [] ↔ ∀ x ∈ t, x.refreshed? = none := List.filterMap_eq_nil_iff

/-- Where no setup goes on, no schema is read. -/
theorem refreshes_of_isNoSetup {t : List Exchange} (h : ∀ x ∈ t, x.request.IsNoSetup) :
    refreshes t = [] := by
  refine refreshes_eq_nil_iff.2 fun x hx => ?_
  have hx' := h x hx
  obtain ⟨r, answer⟩ := x
  cases r with
  | refreshSchema => exact hx'.elim
  | _ => rfl

/-- If the schema was read at all, it was read a last time. -/
theorem exists_last_refresh {t : List Exchange} (h : refreshes t ≠ []) :
    ∃ before answer after, t = before ++ ⟨.refreshSchema, some answer⟩ :: after ∧
      refreshes after = [] ∧ answer ∈ refreshes t := by
  induction t with
  | nil => exact absurd rfl h
  | cons x t ih =>
    by_cases hrest : refreshes t = []
    · cases hx : x.refreshed? with
      | none => exact absurd (by simp [refreshes, hx, ← hrest]) h
      | some answer =>
        refine ⟨[], answer, t, ?_, hrest, by simp [refreshes, hx]⟩
        obtain ⟨r, _ | answer'⟩ := x
        · cases r <;> cases hx
        · cases r <;> cases hx
          rfl
    · obtain ⟨before, answer, after, rfl, hafter, hanswer⟩ := ih hrest
      refine ⟨x :: before, answer, after, rfl, hafter, ?_⟩
      obtain ⟨y, hy, hanswer⟩ := List.mem_filterMap.1 hanswer
      exact List.mem_filterMap.2 ⟨y, List.mem_cons_of_mem _ hy, hanswer⟩

/-- Where the schema is not read, the tables of the source stay what they are. -/
theorem World.tables_of_answers {γ κ : Type} {c : Connection γ} {journal : Journal κ}
    {w w' : World γ RandomShapes κ} {t : List Exchange}
    (ha : (shapesHandler c journal).Answers w t w') (hnone : refreshes t = []) :
    w'.source.tables = w.source.tables := by
  refine (ha.invariant (I := fun v => v.source.tables = w.source.tables)
    (P := fun x => x.refreshed? = none) (Q := fun _ => True) ?_ (refreshes_eq_nil_iff.1 hnone)
    rfl).1
  exact fun r v hr hv => ⟨(tables_handler c journal r v hr).trans hv, trivial⟩

/-! ### Sessions -/

namespace Session

variable {γ κ : Type} {c : Connection γ} {journal : Journal κ} {w w' : World γ RandomShapes κ}
  {options : SessionOptions} {dialect : Dialect} {setup : List SetupStatement}
  {t : List Exchange} {summary : SessionSummary}

/-- **Every round is answered from the same tables**, those that the first began with. -/
theorem Plays.exists_answers {rotation : Rotation} {s s' : Session} {rounds : List PlayedRound}
    (h : Plays rotation s rounds s')
    (ha : (World.shapesHandler c journal).Answers w (rounds.flatMap PlayedRound.exchanges) w')
    {round : PlayedRound} (hround : round ∈ rounds) :
    ∃ (o : Oracle) (s₁ s₂ : Session) (w₁ w₂ : World γ RandomShapes κ),
      Path o.runRound s₁ round.exchanges round.outcome s₂ ∧
        (World.shapesHandler c journal).Answers w₁ round.exchanges w₂ ∧
        w₁.source.tables = w.source.tables := by
  induction h generalizing w with
  | none => simp at hround
  | last h _ =>
    obtain rfl := List.mem_singleton.1 hround
    rw [List.flatMap_singleton] at ha
    exact ⟨_, _, _, w, w', h, ha, rfl⟩
  | @next rotation s s₁ s' t outcome rounds h _ _ ih =>
    rw [List.flatMap_cons, Handler.answers_append_iff] at ha
    obtain ⟨w₁, hfirst, hrest⟩ := ha
    rcases List.mem_cons.1 hround with rfl | hround
    · exact ⟨_, _, _, w, w₁, h, hfirst, rfl⟩
    · obtain ⟨o, s₂, s₃, w₂, w₃, hpath, hanswers, htables⟩ := ih hrest hround
      have hnone : refreshes t = [] := refreshes_of_isNoSetup fun x hx =>
        (rotation.current.asks_runRound.of_mem_path h hx).isNoSetup
      exact ⟨o, s₂, s₃, w₂, w₃, hpath, hanswers,
        htables.trans (World.tables_of_answers hfirst hnone)⟩

/-- The rounds of a course begin with the tables that were read last. -/
theorem Course.exists_lastRead [PatternReader] (course : Course options dialect setup t summary)
    (ha : (World.shapesHandler c journal).Answers w t w')
    (hset : IsSetUp course.errors setup t) :
    ∃ w₁ w₂, World.LastRead c journal w t w₁.source.tables ∧
      (World.shapesHandler c journal).Answers w₁
        (course.rounds.flatMap PlayedRound.exchanges) w₂ := by
  have hrounds : refreshes (course.rounds.flatMap PlayedRound.exchanges) = [] := by
    refine refreshes_of_isNoSetup fun x hx => ?_
    obtain ⟨round, hround, hx⟩ := List.mem_flatMap.1 hx
    obtain ⟨o, s₁, s₂, hpath⟩ := course.played.exists_path hround
    exact (o.asks_runRound.of_mem_path hpath hx).isNoSetup
  have hclosing : refreshes course.closing = [] := refreshes_of_isNoSetup fun x hx =>
    ((asks_writeReport options _).of_mem_path course.reported hx).isNoSetup
  -- so that what was read was read before the rounds
  have hbefore : refreshes t = refreshes (course.opening ++ course.preparation) := by
    refine (congrArg refreshes course.transcript_eq).trans ?_
    rw [refreshes_append, refreshes_append _ (course.rounds.flatMap _), hrounds, hclosing,
      List.append_nil, List.append_nil]
  have hread : refreshes t ≠ [] ∧ ∀ answer ∈ refreshes t, answer = .ok () := by
    rw [hset.refreshed]
    split <;> simp
  rw [course.transcript_eq, Handler.answers_append_iff] at ha
  obtain ⟨w₃, ha, -⟩ := ha
  obtain ⟨w₁, hprepared, hplayed⟩ := Handler.answers_append_iff.1 ha
  obtain ⟨before, answer, after, heq, hafter, hanswer⟩ :=
    exists_last_refresh (hbefore ▸ hread.1)
  obtain rfl := hread.2 answer (by rwa [hbefore])
  rw [heq, Handler.answers_append_iff] at hprepared
  obtain ⟨w₄, h₄, h₅⟩ := hprepared
  cases h₅ with
  | @cons _ w₅ _ _ _ _ hrefresh hlater =>
    refine ⟨w₁, w₃, ⟨before,
      after ++ course.rounds.flatMap PlayedRound.exchanges ++ course.closing, w₄, ?_, ?_, h₄, ?_⟩,
      hplayed⟩
    · refine course.transcript_eq.trans ?_
      rw [heq]
      simp
    · rw [refreshes_append, refreshes_append, hafter, hrounds, hclosing]
      rfl
    · rw [World.tables_of_answers hlater hafter]
      exact World.tables_of_refreshSchema c journal hrefresh

/-- A session that comes to a summary has been set up. -/
theorem isSetUp_of_run [PatternReader] {σ : Type} {h : Handler σ} {v v' : σ}
    (hrun : (play options dialect setup).run h v = (some (.ok summary), v'))
    {errors : ExpectedErrors} (herrors : dialect.errors = .ok errors) :
    IsSetUp errors setup ((play options dialect setup).transcript h v) := by
  obtain ⟨t, hpasses, ⟨e, he, -⟩ | ⟨-, hset⟩⟩ :=
    (obeys_turns options dialect herrors).passes_of_run hrun
  · cases he
  · rwa [hpasses.eq_append, List.nil_append] at hset

/-- The round of a source without a column. -/
def refusedRound : PlayedRound :=
  ⟨[⟨.baseSelect, some (.error (.skip .emptySchema))⟩], .skipped .emptySchema⟩

/-- **A session that has nothing to do**: all its rounds are skipped for want of a column. -/
structure Idles [PatternReader] (course : Course options dialect setup t summary) : Prop where
  rounds : course.rounds = List.replicate options.rounds.toNat refusedRound
  outcome : summary.outcome = .completed
  roundsRun : summary.roundsRun = options.rounds.toNat
  skipped : summary.skipped = summary.roundsRun
  reasons : summary.skipReasons.count SkipReason.emptySchema.tag = summary.roundsRun
  /-- No statement is sent in a round. -/
  silent : statementsOf (course.rounds.flatMap PlayedRound.exchanges) = []
  /-- No statement is noted in a round. -/
  unnoted : notesOf (course.rounds.flatMap PlayedRound.exchanges) = []

/-- Rounds that are all refused are as many as there may be. -/
theorem idles_of_forall [PatternReader] (course : Course options dialect setup t summary)
    (hall : ∀ round ∈ course.rounds, round = refusedRound) : Idles course := by
  have hgoes : ∀ round ∈ course.rounds, round.outcome.isTerminal = false := by
    intro round hround
    rw [hall round hround]
    rfl
  have hcompleted := course.completed_of_not_isTerminal hgoes
  have hlen := (course.of_completed hcompleted).2
  have hrounds : course.rounds = List.replicate options.rounds.toNat refusedRound :=
    List.eq_replicate_iff.2 ⟨hlen, hall⟩
  have hexchanges : ∀ x ∈ course.rounds.flatMap PlayedRound.exchanges,
      x = ⟨.baseSelect, some (.error (.skip .emptySchema))⟩ := by
    intro x hx
    obtain ⟨round, hround, hx⟩ := List.mem_flatMap.1 hx
    rw [hall round hround] at hx
    exact List.mem_singleton.1 hx
  have hroundsRun : summary.roundsRun = options.rounds.toNat := by rw [course.roundsRun_eq, hlen]
  refine ⟨hrounds, hcompleted, hroundsRun, ?_, ?_, ?_, ?_⟩
  · rw [hroundsRun, course.summary_eq, SessionSummary.skipped_ofOutcomes, hrounds,
      List.map_replicate, List.countP_replicate]
    rfl
  · rw [hroundsRun, course.summary_eq, SessionSummary.count_skipReasons_ofOutcomes, hrounds,
      List.map_replicate]
    exact List.count_replicate_self
  · exact List.filterMap_eq_nil_iff.2 fun x hx => by rw [hexchanges x hx]; rfl
  · exact List.filterMap_eq_nil_iff.2 fun x hx => by rw [hexchanges x hx]; rfl

/-- A reason that no round is skipped for is not counted. -/
theorem count_skipReasons_eq_zero [PatternReader] (course : Course options dialect setup t summary)
    {reason : SkipReason} (h : ∀ round ∈ course.rounds, round.outcome ≠ .skipped reason) :
    summary.skipReasons.count reason.tag = 0 := by
  rw [course.summary_eq, SessionSummary.count_skipReasons_ofOutcomes, List.count_eq_zero]
  intro hmem
  obtain ⟨round, hround, heq⟩ := List.mem_map.1 hmem
  exact h round hround heq

/-- **What a session with random shapes skips**, whatever engine and log do, and whatever state the
source begins in. No round is skipped over a shape that does not apply. If the tables that were read
last have no column, then all rounds are skipped for want of one, with nothing sent or noted; else
none is. -/
theorem skips_of_run [PatternReader] (c : Connection γ) (journal : Journal κ)
    (options : SessionOptions) (dialect : Dialect) (setup : List SetupStatement)
    (w w' : World γ RandomShapes κ) (summary : SessionSummary)
    (hrun : (play options dialect setup).run (World.handler c RandomShapes.source journal) w =
      (some (.ok summary), w')) :
    let t := (play options dialect setup).transcript (World.handler c RandomShapes.source journal) w
    ∃ (course : Course options dialect setup t summary) (tables : List Table),
      World.LastRead c journal w t tables ∧
      (∀ round ∈ course.rounds, round.outcome ≠ .skipped .inapplicableShape) ∧
      summary.skipReasons.count SkipReason.inapplicableShape.tag = 0 ∧
      if ∀ table ∈ tables, table.columns = [] then Idles course
      else
        (∀ round ∈ course.rounds, round.outcome ≠ .skipped .emptySchema) ∧
          summary.skipReasons.count SkipReason.emptySchema.tag = 0 := by
  intro t
  obtain ⟨course⟩ := exists_course (Dialogue.path_of_run hrun)
  obtain ⟨w₁, w₂, hread, hplayed⟩ := course.exists_lastRead (Handler.answers_of_run hrun)
    (isSetUp_of_run hrun course.errors_eq)
  by_cases hnone : ∀ table ∈ w₁.source.tables, table.columns = []
  · have hidles : Idles course := by
      refine idles_of_forall course fun round hround => ?_
      obtain ⟨o, s₁, s₂, w₃, w₄, hpath, hanswers, htables⟩ :=
        course.played.exists_answers hplayed hround
      obtain ⟨hexchanges, houtcome⟩ := Oracle.eq_of_no_columns hpath hanswers (by rwa [htables])
      rw [refusedRound, ← hexchanges, ← houtcome]
    have happlies : ∀ round ∈ course.rounds, round.outcome ≠ .skipped .inapplicableShape := by
      intro round hround
      rw [hidles.rounds] at hround
      rw [(List.mem_replicate.1 hround).2]
      exact nofun
    refine ⟨course, _, hread, happlies, count_skipReasons_eq_zero course happlies, ?_⟩
    rwa [if_pos hnone]
  · have hsome : ∃ table ∈ w₁.source.tables, table.columns ≠ [] := by simpa using hnone
    have hreasons : ∀ reason : SkipReason, reason.IsRefusal →
        ∀ round ∈ course.rounds, round.outcome ≠ .skipped reason := by
      intro reason hreason round hround
      obtain ⟨o, s₁, s₂, w₃, w₄, hpath, hanswers, htables⟩ :=
        course.played.exists_answers hplayed hround
      exact Oracle.reason_of_columns hpath hanswers (by rwa [htables]) hreason
    have happlies := hreasons _ .inapplicableShape
    have hfilled := hreasons _ .emptySchema
    refine ⟨course, _, hread, happlies, count_skipReasons_eq_zero course happlies, ?_⟩
    rw [if_neg hnone]
    exact ⟨hfilled, count_skipReasons_eq_zero course hfilled⟩

section

open scoped Pattern

/-- A session that makes its own database of no tables has nothing to do in its three rounds. One
over a table with a column skips a round as well, the engine not giving a result, but not for want
of a column. -/
theorem skips_of_run_of_no_tables_and_of_one :
    let options : SessionOptions := { rounds := 3, oracles := [.whereClause, .having], tables := 0 }
    let setup := ((randomSource options).database options.tables.toNat).1
    let c := Connection.scripted
    let filled : Connection (List EngineAnswer) :=
      { c with tables := fun answers => (some (.ok [⟨"t0", [⟨"c0", "INTEGER"⟩]⟩]), answers) }
    let h := World.handler filled RandomShapes.source MemoryLog.journal
    let w : World (List EngineAnswer) RandomShapes MemoryLog :=
      ⟨[.ok .noResultSet, .ok (.rows [some "1"]), .ok (.rows [some "1"]), .ok (.rows []),
        .ok (.rows [])], randomSource options, {}⟩
    (setup = [] ∧ ∃ summary w', runGenerated c options .strict [] {} = (some (.ok summary), w') ∧
      ∃ (t : List Exchange) (course : Course options .strict setup t summary),
        Idles course ∧ course.rounds.length = 3 ∧
          summary.skipReasons.count SkipReason.inapplicableShape.tag = 0) ∧
    ∃ summary w', (play { options with rounds := 2 } .strict []).run h w =
        (some (.ok summary), w') ∧
      summary.roundsRun = 2 ∧ summary.skipped = 1 ∧
      ∃ (t : List Exchange) (course : Course { options with rounds := 2 } .strict [] t summary),
        ∀ round ∈ course.rounds, round.outcome ≠ .skipped .inapplicableShape ∧
          round.outcome ≠ .skipped .emptySchema := by
  intro options setup c filled h w
  constructor
  · let w : World (List EngineAnswer) RandomShapes FileJournal :=
      ⟨[], (generated options .strict).2, { files := {} }⟩
    have hplayed : ∃ summary w', (play options .strict setup).run
        (World.handler c RandomShapes.source FileJournal.journal) w = (some (.ok summary), w') :=
      ⟨_, _, rfl⟩
    obtain ⟨summary, w', hrun⟩ := hplayed
    have hgenerated : runGenerated c options .strict [] {} =
        (some (.ok summary), { w' with journal := w'.journal.close }) :=
      congrArg (fun p => (p.1, { p.2 with journal := p.2.journal.close })) hrun
    obtain ⟨course, tables, ⟨_, _, _, -, -, -, hread⟩, -, hcount, hidles⟩ :=
      skips_of_run c FileJournal.journal options .strict setup w w' summary hrun
    obtain rfl : [] = tables := Except.ok.inj (Option.some.inj hread)
    rw [if_pos (by simp)] at hidles
    refine ⟨rfl, summary, _, hgenerated, _, course, hidles, ?_, hcount⟩
    rw [hidles.rounds]
    rfl
  · obtain ⟨summary, w', hrun, hrounds, hskipped⟩ := exists_summary_of_any
      (x := (play { options with rounds := 2 } .strict []).run h w)
      (P := fun summary => summary.roundsRun = 2 ∧ summary.skipped = 1) (by decide +kernel)
    obtain ⟨course, tables, ⟨_, _, _, -, -, -, hread⟩, happlies, -, hfilled⟩ :=
      skips_of_run filled MemoryLog.journal { options with rounds := 2 } .strict [] w w' summary
        hrun
    obtain rfl : [⟨"t0", [⟨"c0", "INTEGER"⟩]⟩] = tables := Except.ok.inj (Option.some.inj hread)
    rw [if_neg (by simp)] at hfilled
    exact ⟨summary, w', hrun, hrounds, hskipped, _, course,
      fun round hround => ⟨happlies round hround, hfilled.1 round hround⟩⟩

end

end Session

end Trisect
