import Trisect.Config.Loading
import Trisect.Pattern.Regular
import Trisect.Proofs.Round.Ending
import Trisect.Proofs.Session.Course
import Trisect.Session.Fleet

/-!
# Sessions with a validated configuration

What a session can fail for is partly up to the engine and to the file system, and partly up to the
session itself: matchers that cannot be read, a name that is missing, no oracle to take turns, parts
that cannot be put together. A configuration that has been validated rules all of the latter out, in
every worker. That is the main statement of this file, `Trisect.Session.runGenerated_of_validate`.

It is put together from three sides. `Trisect.Configuration.Valid` is what validation accepts, and
the options of a worker keep of it what a session depends on. `Trisect.SessionM.Blameless` says of a
step before the first round that it fails only over a statement, or because the schema cannot be
read. And it is known for what reasons the source of random shapes refuses, so that the errors in a
transcript are known as well (`Trisect.Dialogue.exists_answer_of_mem_transcript`).

Of the journal nothing is assumed but that its log, if the database has a name, fails to open for
reasons of the file system only (`Trisect.Journal.OpensOrIo`). Files do so, and beyond that they may
refuse what is written to them whenever they like: a full disk is no reason of the session's own.
-/

namespace Trisect

/-! ### What validation accepts -/

namespace Configuration

/-- What a configuration has to be like for a session to run with it. -/
structure Valid [PatternReader] (c : Configuration) : Prop where
  databaseName : Text.isAllBlank c.session.databaseName = false
  oracles : c.session.oracles ≠ []
  sessions : c.session.sessions ≠ 0
  tables : c.session.tables ≠ 0
  maxExpressionDepth : c.session.maxExpressionDepth ≠ 0
  dialectName : Text.isAllBlank c.dialect.name = false
  matchers : ∃ errors, c.dialect.errors = .ok errors

theorem require_bind_eq_ok_iff {condition : Bool} {detail : String}
    {rest : Unit → Except OracleError Unit} :
    (require condition detail >>= rest) = .ok () ↔ condition = true ∧ rest () = .ok () := by
  cases condition with
  | true => simp [require, bind, Except.bind]
  | false => simp [require, bind, Except.bind]

/-- **Validation accepts** just these. -/
theorem validate_eq_ok_iff [PatternReader] (c : Configuration) : c.validate = .ok () ↔ c.Valid := by
  rw [validate, require_bind_eq_ok_iff, require_bind_eq_ok_iff, require_bind_eq_ok_iff,
    require_bind_eq_ok_iff, require_bind_eq_ok_iff, require_bind_eq_ok_iff]
  simp only [Bool.not_eq_true', List.isEmpty_eq_false_iff, bne_iff_ne]
  constructor
  · rintro ⟨hname, horacles, hsessions, htables, hdepth, hdialect, hmatchers⟩
    refine ⟨hname, horacles, hsessions, htables, hdepth, hdialect, ?_⟩
    cases herrors : c.dialect.errors with
    | ok errors => exact ⟨errors, rfl⟩
    | error e => simp [herrors] at hmatchers
  · rintro ⟨hname, horacles, hsessions, htables, hdepth, hdialect, errors, herrors⟩
    exact ⟨hname, horacles, hsessions, htables, hdepth, hdialect, by rw [herrors]⟩

/-- A configuration that comes out of a document has been validated. -/
theorem validate_of_ofToml [PatternReader] {explain : String → String} {text : String}
    {c : Configuration} (h : ofToml explain text = .ok c) : c.validate = .ok () := by
  rw [ofToml] at h
  split at h
  · cases h
  · next read hread =>
    cases hvalid : read.validate with
    | error e => simp [hvalid, Except.map] at h
    | ok accepted =>
      rw [hvalid] at h
      obtain rfl := Except.ok.inj h
      exact hvalid

end Configuration

namespace SessionOptions

variable (o : SessionOptions) (index : Nat)

/-- Every worker has the oracles of the session. -/
theorem oracles_forWorker : (o.forWorker index).oracles = o.oracles := by
  rw [forWorker]
  split
  · rfl
  · rfl

/-- Every worker has a name, if the session has one. -/
theorem databaseName_forWorker_ne_empty (h : o.databaseName ≠ "") :
    (o.forWorker index).databaseName ≠ "" := by
  rw [forWorker]
  split
  · exact h
  · simp

end SessionOptions

theorem Configuration.Valid.databaseName_ne_empty [PatternReader] {c : Configuration}
    (h : c.Valid) : c.session.databaseName ≠ "" := by
  intro hempty
  have hblank := h.databaseName
  rw [hempty] at hblank
  simp [Text.isAllBlank] at hblank

/-! ### Before the first round -/

namespace SessionM

variable {α β : Type}

/-- A step that fails over a statement, or because the schema cannot be read, and for no other
reason. -/
def Blameless (m : SessionM α) : Prop :=
  ∀ s t e s', Path m s t (.error e) s' → e.IsFailure ∨ ⟨.refreshSchema, some (.error e)⟩ ∈ t

theorem blameless_pure (a : α) : Blameless (pure a) := by
  intro s t e s' hpath
  obtain ⟨-, he, -⟩ := path_pure_iff.1 hpath
  cases he

theorem blameless_get : Blameless (get : SessionM Session) := by
  intro s t e s' hpath
  obtain ⟨-, he, -⟩ := path_get_iff.1 hpath
  cases he

theorem blameless_modify (f : Session → Session) : Blameless (modify f : SessionM PUnit) := by
  intro s t e s' hpath
  obtain ⟨-, he, -⟩ := path_modify_iff.1 hpath
  cases he

theorem blameless_ask (q : Request) : Blameless (ask q) := by
  intro s t e s' hpath
  obtain ⟨answer, -, he, -⟩ := path_ask_iff.1 hpath
  cases he

theorem blameless_ofIo (x : Except IoError Unit) : Blameless (ofIo x) := by
  intro s t e s' hpath
  obtain ⟨-, he, -⟩ := path_ofIo_iff.1 hpath
  rcases x with cause | ⟨⟩
  · obtain rfl : e = .io cause := Except.error.inj he
    exact Or.inl (.log cause)
  · cases he

theorem blameless_throw {e : OracleError} (h : e.IsFailure) : Blameless (throw e : SessionM α) := by
  intro s t e' s' hpath
  obtain ⟨-, he, -⟩ := path_throw_iff.1 hpath
  obtain rfl := Except.error.inj he
  exact Or.inl h

theorem blameless_bind {m : SessionM α} {f : α → SessionM β} (hm : Blameless m)
    (hf : ∀ a, Blameless (f a)) : Blameless (m >>= f) := by
  intro s t e s' hpath
  obtain ⟨e', h, he⟩ | ⟨t₁, a, s₁, t₂, -, h₂, rfl⟩ := path_bind_iff.1 hpath
  · obtain rfl := Except.error.inj he
    exact hm _ _ _ _ h
  · exact (hf a _ _ _ _ h₂).imp_right (List.mem_append_right _)

/-- Reading the schema, whatever comes after it. -/
theorem blameless_refreshSchema {f : Unit → SessionM α} (hf : ∀ a, Blameless (f a)) :
    Blameless (ask .refreshSchema >>= fun answer => ofExcept answer >>= f) := by
  intro s t e s' hpath
  obtain ⟨answer, t', h, rfl⟩ := path_ask_bind_iff.1 hpath
  obtain ⟨e', rfl, rfl, he, -⟩ | ⟨a, -, h'⟩ := path_ofExcept_bind_iff.1 h
  · obtain rfl := Except.error.inj he
    exact Or.inr List.mem_cons_self
  · exact (hf a _ _ _ _ h').imp_right (List.mem_cons_of_mem _)

theorem blameless_recordQuery (sql : String) : (recordQuery sql).Blameless := by
  refine blameless_bind blameless_get fun s => ?_
  split
  · refine blameless_bind (blameless_ask _) fun written => ?_
    refine blameless_bind (blameless_ofIo written) fun _ => ?_
    exact blameless_bind (blameless_ask _) fun flushed => blameless_ofIo flushed
  · exact blameless_pure _

end SessionM

section Preparation

variable {errors : ExpectedErrors}

theorem blameless_execute (sql : String) : (execute errors sql).Blameless := by
  refine SessionM.blameless_bind (SessionM.blameless_recordQuery sql) fun _ => ?_
  refine SessionM.blameless_bind (SessionM.blameless_ask _) fun answer => ?_
  rcases answer with failure | ⟨⟩
  · dsimp only
    have hfailure := failure.ofStatement_classify sql errors
    generalize failure.classify sql errors = e at hfailure ⊢
    split
    · exact SessionM.blameless_pure _
    · next hskip =>
      rcases hfailure with reason | he
      · exact absurd rfl (hskip reason)
      · exact SessionM.blameless_throw he
  · exact SessionM.blameless_bind (SessionM.blameless_modify _) fun _ => SessionM.blameless_pure _

theorem Session.blameless_setUp (setup : List SetupStatement) :
    (Session.setUp errors setup).Blameless := by
  induction setup with
  | nil => exact SessionM.blameless_pure _
  | cons statement rest ih =>
    refine SessionM.blameless_bind (blameless_execute _) fun _ => ?_
    exact SessionM.blameless_bind ih fun _ => SessionM.blameless_pure _

/-- **What comes before the first round** fails over a statement, or because the schema cannot be
read. -/
theorem Session.blameless_prepare (setup : List SetupStatement) :
    (Session.prepare errors setup).Blameless := by
  refine SessionM.blameless_bind (SessionM.blameless_ask _) fun version => ?_
  refine SessionM.blameless_bind (SessionM.blameless_modify _) fun _ => ?_
  refine SessionM.blameless_refreshSchema fun _ => ?_
  refine SessionM.blameless_bind (Session.blameless_setUp setup) fun changed => ?_
  split
  · have hlast := SessionM.blameless_refreshSchema (f := pure) SessionM.blameless_pure
    simpa only [bind_pure] using hlast
  · exact SessionM.blameless_pure _

end Preparation

/-! ### Who answers -/

/-- An engine whose connection never breaks down. -/
structure Connection.Steady {γ : Type} (c : Connection γ) : Prop where
  query : ∀ sql s, (c.query sql s).1.isSome
  execute : ∀ sql s, (c.execute sql s).1.isSome
  tables : ∀ s, (c.tables s).1.isSome
  version : ∀ s, (c.version s).1.isSome

theorem Connection.Steady.isSome_answer {γ : Type} {c : Connection γ} (h : c.Steady) (q : Inquiry)
    (s : γ) : (c.answer q s).1.isSome := by
  cases q with
  | query sql => exact h.query sql s
  | execute sql => exact h.execute sql s
  | tables => exact h.tables s
  | version => exact h.version s

namespace Dialogue

variable {α σ : Type}

/-- **What was answered, the handler has answered**, in some state. -/
theorem exists_answer_of_mem_transcript {h : Handler σ} {d : Dialogue α} {w : σ} {x : Exchange}
    (hx : x ∈ d.transcript h w) : ∃ w', (h x.request w').1 = x.answer := by
  induction d generalizing w with
  | done a => simp [transcript] at hx
  | ask r next ih =>
    rw [transcript] at hx
    split at hx
    · next answer w₁ heq =>
      rcases List.mem_cons.1 hx with rfl | hx
      · exact ⟨w, by rw [heq]⟩
      · exact ih answer hx
    · next w₁ heq =>
      obtain rfl := List.mem_singleton.1 hx
      exact ⟨w, by rw [heq]⟩

end Dialogue

theorem SchemaReading.isSome_run {α γ : Type} {c : Connection γ} (hc : c.Steady)
    (reading : SchemaReading α) (s : γ) : (reading.run c s).1.isSome := by
  induction reading generalizing s with
  | done a => rfl
  | ask q next ih =>
    have hanswer := hc.isSome_answer q s
    rw [run]
    split
    · exact ih _ _
    · next heq => simp [heq] at hanswer

/-- Who answers with a steady connection always has an answer. -/
theorem World.isSome_handler {γ σ κ : Type} {c : Connection γ} (hc : c.Steady)
    (source : ShapeSource σ) (journal : Journal κ) (r : Request) (w : World γ σ κ) :
    (handler c source journal r w).1.isSome := by
  cases r with
  | query sql => exact hc.query sql _
  | execute sql => exact hc.execute sql _
  | version => exact hc.version _
  | refreshSchema =>
    have hread := SchemaReading.isSome_run hc (source.refresh w.source) w.engine
    rw [handler, refresh]
    split
    · rfl
    · next heq => simp [heq] at hread
  | _ => rfl

/-- An error that is not of the session's own making: the file system had it, or the engine, over a
statement or elsewhere. -/
inductive OracleError.IsExternal : OracleError → Prop
  | io (cause : IoError) : IsExternal (.io cause)
  | engine (detail : String) : IsExternal (.engine detail)
  | unexpected (query : String) (text : Option String) :
      IsExternal (.unexpectedEngineError query text)

theorem OracleError.IsFailure.isExternal {e : OracleError} (h : e.IsFailure) : e.IsExternal := by
  cases h with
  | engine query text => exact .unexpected query text
  | log cause => exact .io cause

/-- Where random shapes cannot be made, the round is skipped. -/
theorem RandomShapes.eq_skip_of_answer {α : Type} {result : Except SkipReason α} {e : OracleError}
    (h : answer result = .error e) : ∃ reason, e = .skip reason := by
  cases result with
  | ok a => cases h
  | error reason =>
    obtain rfl : .skip reason = e := Except.error.inj h
    exact ⟨reason, rfl⟩

theorem RandomShapes.eq_skip_of_map_answer {α β : Type} {result : Except SkipReason α} {f : α → β}
    {e : OracleError} (h : (answer result).map f = .error e) : ∃ reason, e = .skip reason := by
  cases hanswer : answer result with
  | ok a => simp [hanswer, Except.map] at h
  | error e' =>
    rw [hanswer] at h
    obtain rfl : e' = e := Except.error.inj h
    exact eq_skip_of_answer hanswer

theorem RandomShapes.eq_skip_of_baseSelect {s : RandomShapes} {e : OracleError}
    (h : s.baseSelect.1 = .error e) : ∃ reason, e = .skip reason := by
  rw [baseSelect] at h
  split at h
  · obtain rfl : .skip .emptySchema = e := Except.error.inj h
    exact ⟨_, rfl⟩
  · exact eq_skip_of_answer h

/-- The error of a log that cannot be opened is one of the file system, if the database has a name.
-/
theorem SessionLog.eq_io_of_create {directory databaseName : String} {fs : FileSystem}
    {e : OracleError} (hname : databaseName ≠ "")
    (h : (create directory databaseName fs).1 = .error e) : ∃ cause, e = .io cause := by
  have hnonempty : databaseName.isEmpty = false := by simpa using hname
  rw [create, hnonempty] at h
  simp only [Bool.false_eq_true, if_false] at h
  split at h
  · next cause _ => exact ⟨cause, (Except.error.inj h).symm⟩
  · split at h
    · next cause _ => exact ⟨cause, (Except.error.inj h).symm⟩
    · split at h
      · next cause _ => exact ⟨cause, (Except.error.inj h).symm⟩
      · cases h

/-- **A journal that opens, or else the file system is the reason**: for a database that has a name,
a log fails to open for no other. What happens to what is written to it is left open. -/
def Journal.OpensOrIo {κ : Type} (journal : Journal κ) : Prop :=
  ∀ directory databaseName k e, databaseName ≠ "" →
    (journal.openLog directory databaseName k).1 = .error e → ∃ cause, e = .io cause

/-- The journal of files is one. -/
theorem FileJournal.opensOrIo_journal : FileJournal.journal.OpensOrIo := by
  intro directory databaseName j e hname h
  change (j.openLog directory databaseName).1 = .error e at h
  rw [FileJournal.openLog] at h
  split at h
  · next e' files heq =>
    obtain rfl : e' = e := Except.error.inj h
    exact SessionLog.eq_io_of_create hname (congrArg Prod.fst heq)
  · cases h

section Answers

variable {γ κ : Type} {c : Connection γ} {journal : Journal κ} {w : World γ RandomShapes κ}
  {x : Exchange} {e : OracleError}

/-- The source of random shapes refuses what it is asked for only by skipping the round. -/
theorem eq_skip_of_refusal?
    (hx : (World.handler c RandomShapes.source journal x.request w).1 = x.answer)
    (h : x.refusal? = some e) : ∃ reason, e = .skip reason := by
  unfold Exchange.refusal? at h
  split at h
  · obtain rfl := Option.some.inj h
    exact RandomShapes.eq_skip_of_baseSelect (Option.some.inj hx)
  · obtain rfl := Option.some.inj h
    exact RandomShapes.eq_skip_of_map_answer (Option.some.inj hx)
  · obtain rfl := Option.some.inj h
    exact RandomShapes.eq_skip_of_map_answer (Option.some.inj hx)
  · obtain rfl := Option.some.inj h
    exact RandomShapes.eq_skip_of_answer (Option.some.inj hx)
  · cases h

theorem eq_engine_of_refreshSchema
    (h : (World.handler c RandomShapes.source journal .refreshSchema w).1 = some (.error e)) :
    ∃ detail, e = .engine detail := by
  simp only [World.handler, World.refresh, RandomShapes.source, RandomShapes.refresh,
    SchemaReading.run, Connection.answer_tables] at h
  rcases htables : c.tables w.engine with ⟨_ | (failure | tables), g⟩
  · simp [htables] at h
  · simp only [htables, SchemaReading.run, Option.some.injEq, Except.error.injEq] at h
    exact ⟨_, h.symm⟩
  · simp [htables, SchemaReading.run] at h

end Answers

/-! ### Sessions -/

/-- Some oracle takes turns, if there is one. -/
theorem Rotation.eq_nil_of_ofKinds {kinds : List OracleKind} {errors : ExpectedErrors}
    {dialect : Dialect} {e : OracleError} (h : ofKinds kinds errors dialect = .error e) :
    kinds = [] := by
  cases kinds with
  | nil => rfl
  | cons k ks => cases h

/-- **An error of a check** that is neither of a statement nor a bug is an error of the source. In
particular no oracle comes to put parts together in a way that there is none for. -/
theorem Oracle.exists_refusal_of_internal {o : Oracle} {s s' : Session} {t : List Exchange}
    {detail : String} (h : SessionM.Path o.check s t (.error (.internal detail)) s') :
    ∃ x ∈ t, x.refusal? = some (.internal detail) := by
  cases o.tidy_check _ _ _ _ h with
  | ofStatement he =>
    rcases he with _ | he
    cases he
  | refused hx hrefused => exact ⟨_, hx, hrefused⟩

namespace Session

section Sessions

variable [PatternReader] {γ κ : Type} {c : Connection γ} {journal : Journal κ}
  {setup : List SetupStatement} {w : World γ RandomShapes κ} {options : SessionOptions}
  {dialect : Dialect}

/-- A setback of a session that makes its own shapes is one of the outside, if the session has a
dialect that can be read, a name, and an oracle. -/
theorem Setback.isExternal {e : OracleError} (hjournal : journal.OpensOrIo)
    (hmatchers : ∃ errors, dialect.errors = .ok errors) (hname : options.databaseName ≠ "")
    (horacles : options.oracles ≠ [])
    (h : Setback options dialect ((play options dialect setup).transcript
      (World.handler c RandomShapes.source journal) w) e) : e.IsExternal := by
  cases h with
  | matchers h =>
    obtain ⟨errors, herrors⟩ := hmatchers
    rw [herrors] at h
    cases h
  | log hdirectory hx =>
    obtain ⟨w', hanswer⟩ := Dialogue.exists_answer_of_mem_transcript hx
    obtain ⟨cause, rfl⟩ := hjournal _ _ _ e hname (Option.some.inj hanswer)
    exact .io cause
  | preparation ht' h =>
    obtain hfailure | hx := blameless_prepare _ _ _ _ _ h
    · exact hfailure.isExternal
    · obtain ⟨w', hanswer⟩ := Dialogue.exists_answer_of_mem_transcript (ht' hx)
      obtain ⟨detail, rfl⟩ := eq_engine_of_refreshSchema hanswer
      exact .engine detail
  | rotation h => exact absurd (Rotation.eq_nil_of_ofKinds h) horacles

/-- A round that fails in a session that makes its own shapes fails over a statement. -/
theorem Course.isFailure_of_failed {summary : SessionSummary}
    (course : Course options dialect setup ((play options dialect setup).transcript
      (World.handler c RandomShapes.source journal) w) summary)
    {round : PlayedRound} (hround : round ∈ course.rounds) {e : OracleError}
    (hfailed : round.outcome = .failed e) : e.IsFailure := by
  obtain ⟨o, s₁, s₂, hpath⟩ := course.played.exists_path hround
  rw [hfailed] at hpath
  generalize hout : RoundOutcome.failed e = outcome at hpath
  cases o.ending_of_path hpath with
  | passed => cases hout
  | skipped reason => cases hout
  | failed h =>
    obtain rfl := RoundOutcome.failed.inj hout
    exact h
  | bug report => cases hout
  | @refused e' x hx hrefused =>
    -- what the source refuses is skipped, and a skip is no failure
    have hmem : x ∈ (play options dialect setup).transcript
        (World.handler c RandomShapes.source journal) w := by
      rw [course.transcript_eq]
      have hmem := List.mem_flatMap.2 ⟨round, hround, hx⟩
      exact List.mem_append_left _ (List.mem_append_right _ hmem)
    obtain ⟨w', hanswer⟩ := Dialogue.exists_answer_of_mem_transcript hmem
    obtain ⟨reason, rfl⟩ := eq_skip_of_refusal? hanswer hrefused
    cases hout

/-- **How a session may end that is not to blame for it**: in an error of the outside, or in a
summary in which every round that failed has failed over a statement or over the log. -/
def Blameless (options : SessionOptions) (dialect : Dialect) (setup : List SetupStatement)
    (t : List Exchange) (result : Except OracleError SessionSummary) : Prop :=
  (∃ e, result = .error e ∧ e.IsExternal) ∨
    ∃ (summary : SessionSummary) (course : Course options dialect setup t summary),
      result = .ok summary ∧
      ∀ round ∈ course.rounds, ∀ e, round.outcome = .failed e → e.IsFailure

/-- **A session with random shapes** over a connection that does not break down comes to a result,
and is not to blame for it if it has matchers that can be read, a name, and an oracle. -/
theorem exists_blameless_run (hc : c.Steady) (hjournal : journal.OpensOrIo)
    (hmatchers : ∃ errors, dialect.errors = .ok errors) (hname : options.databaseName ≠ "")
    (horacles : options.oracles ≠ []) (setup : List SetupStatement)
    (w : World γ RandomShapes κ) :
    let h := World.handler c RandomShapes.source journal
    ∃ result w', (play options dialect setup).run h w = (some result, w') ∧
      Blameless options dialect setup ((play options dialect setup).transcript h w) result := by
  intro h
  -- every request is answered, and so the run comes to an end and follows a path
  obtain ⟨result, w', hrun⟩ : ∃ result w', (play options dialect setup).run h w =
      (some result, w') := by
    refine Dialogue.exists_run_of_answered fun x hx => ?_
    obtain ⟨w₁, hanswer⟩ := Dialogue.exists_answer_of_mem_transcript hx
    rw [← hanswer]
    exact World.isSome_handler hc _ _ _ _
  have hpath := Dialogue.path_of_run hrun
  refine ⟨result, w', hrun, ?_⟩
  cases result with
  | error e =>
    have hexternal := (setback_of_path hpath).isExternal hjournal hmatchers hname horacles
    exact Or.inl ⟨e, rfl, hexternal⟩
  | ok summary =>
    obtain ⟨course⟩ := exists_course hpath
    exact Or.inr ⟨summary, course, rfl, fun round hround e => course.isFailure_of_failed hround⟩

end Sessions

/-- **A validated configuration cannot fail for reasons of its own.** Over a connection that does
not break down every worker comes to a result, whatever the journal, if only that opens or has the
file system for a reason not to. If the result is an error it is one of the file system or of the
engine, and if it is a summary then so is the error of every round that failed. The same holds of a
worker whose log is in files. Behind this stands that no oracle, whatever the source gives it, wants
duplicates eliminated over several statements. -/
theorem runGenerated_of_validate [PatternReader] {γ : Type} (c : Connection γ) (hc : c.Steady)
    (config : Configuration)
    (hconfig : config.validate = .ok () ∨
      ∃ explain text, Configuration.ofToml explain text = .ok config)
    (index : Nat) (engine : γ) :
    let options := config.session.forWorker index
    let setup := ((randomSource options).database options.tables.toNat).1
    let d := (generated options config.dialect).1
    let source := (generated options config.dialect).2
    (∀ {κ : Type} (journal : Journal κ), journal.OpensOrIo → ∀ kept : κ,
      let h := World.handler c RandomShapes.source journal
      let w : World γ RandomShapes κ := ⟨engine, source, kept⟩
      ∃ result w', d.run h w = (some result, w') ∧
        Blameless options config.dialect setup (d.transcript h w) result) ∧
    (∀ files : FileSystem, ∃ result w',
      runGenerated c options config.dialect engine files = (some result, w') ∧
        Blameless options config.dialect setup
          (d.transcript (generatedHandler c) ⟨engine, source, { files }⟩) result) ∧
    (∀ (o : Oracle) (base : Select), o.kind.combination = .eliminateDuplicates →
      o.singleStatement (o.kind.prepare base) = true) ∧
    ∀ (o : Oracle) (s s' : Session) (t : List Exchange) (detail : String),
      SessionM.Path o.check s t (.error (.internal detail)) s' →
        ∃ x ∈ t, x.refusal? = some (.internal detail) := by
  intro options setup d source
  have hvalid : config.Valid := by
    rw [← Configuration.validate_eq_ok_iff]
    obtain hvalidate | ⟨explain, text, htext⟩ := hconfig
    · exact hvalidate
    · exact Configuration.validate_of_ofToml htext
  have hname : options.databaseName ≠ "" :=
    config.session.databaseName_forWorker_ne_empty index hvalid.databaseName_ne_empty
  have horacles : options.oracles ≠ [] := by
    rw [config.session.oracles_forWorker index]
    exact hvalid.oracles
  have hruns {κ : Type} (journal : Journal κ) (hjournal : journal.OpensOrIo) (kept : κ) :=
    exists_blameless_run hc hjournal hvalid.matchers hname horacles setup ⟨engine, source, kept⟩
  refine ⟨hruns, fun files => ?_, singleStatement_prepare,
    fun o s s' t detail => Oracle.exists_refusal_of_internal⟩
  obtain ⟨result, w', hrun, hblameless⟩ :=
    hruns FileJournal.journal FileJournal.opensOrIo_journal { files }
  refine ⟨result, { w' with journal := w'.journal.close }, ?_, hblameless⟩
  change runWithFiles c RandomShapes.source d ⟨engine, source, { files }⟩ = _
  rw [runWithFiles]
  exact congrArg (fun p => (p.1, { p.2 with journal := p.2.journal.close })) hrun

section

open scoped Pattern

/-- Three workers with logs, over an engine that runs what has no result and refuses what has one;
and the log of the last of them on a disk that is full when the first statement is to be noted. -/
theorem runGenerated_of_three_workers :
    let c : Connection Unit :=
      { query := fun _ s => (some (.error .silent), s)
        execute := fun _ s => (some (.ok ()), s)
        tables := fun s => (some (.ok [⟨"t0", [⟨"c0", "INTEGER"⟩]⟩]), s)
        version := fun s => (some (some "1.0"), s) }
    let config : Configuration :=
      ⟨{ databaseName := "db", sessions := 3, logEachSelect := true, logDirectory := some "logs" },
        .strict⟩
    let full : Journal FileJournal :=
      { FileJournal.journal with
        writeQuery := fun _ j => (.error (.other "No space left on device (os error 28)"), j) }
    let options := config.session.forWorker 2
    let setup := ((randomSource options).database options.tables.toNat).1
    let d := (generated options config.dialect).1
    let w : World Unit RandomShapes FileJournal :=
      ⟨(), (generated options config.dialect).2, { files := {} }⟩
    c.Steady ∧ config.validate = .ok () ∧ full.OpensOrIo ∧ options.databaseName = "db-2" ∧
      (∃ result w', d.run (World.handler c RandomShapes.source full) w = (some result, w') ∧
        Blameless options config.dialect setup
          (d.transcript (World.handler c RandomShapes.source full) w) result) ∧
      (∃ result w', runGenerated c options config.dialect () {} = (some result, w') ∧
        Blameless options config.dialect setup (d.transcript (generatedHandler c) w) result) := by
  intro c config full options setup d w
  have hc : c.Steady := ⟨fun _ _ => rfl, fun _ _ => rfl, fun _ => rfl, fun _ => rfl⟩
  have hvalid : config.validate = .ok () := by
    refine config.validate_eq_ok_iff.2 ⟨?_, ?_, ?_, ?_, ?_, ?_, _, rfl⟩ <;> decide
  have hfull : full.OpensOrIo := FileJournal.opensOrIo_journal
  obtain ⟨hruns, hfiles, -⟩ := runGenerated_of_validate c hc config (Or.inl hvalid) 2 ()
  exact ⟨hc, hvalid, hfull, rfl, hruns full hfull { files := {} }, hfiles {}⟩

end

end Session

end Trisect
