import Trisect.Proofs.Round.Shape

/-!
# How a round may end

A round can end badly in four ways. An answer of the engine or of the log may skip it or make it
fail (`Trisect.OracleError.OfStatement`); the source may refuse what it is asked for
(`Trisect.Exchange.refusal?`); or the comparison raises a report. Only the last of them leaves
something behind in the session, namely the two annotated statements of the report.

`Trisect.SessionM.Ending` is that list, and a step of which every path ends so is called tidy. Tidy
steps compose (`Trisect.SessionM.tidy_bind`), and a round is composed of them. The main statement is
`Trisect.Oracle.ending_of_path`, about **every** path of a round, whatever the engine, the source
and the log answer. That duplicates cannot be eliminated over several statements is an error that is
not on the list: by `Trisect.singleStatement_prepare` no oracle gets there.
-/

namespace Trisect

/-- The error of the source, if an exchange is a question of a round that the source refused. -/
def Exchange.refusal? : Exchange → Option OracleError
  | ⟨.baseSelect, some (.error e)⟩ => some e
  | ⟨.predicate, some (.error e)⟩ => some e
  | ⟨.groupPredicate _, some (.error e)⟩ => some e
  | ⟨.aggregate, some (.error e)⟩ => some e
  | _ => none

/-- A failure over a statement: of the engine, in a way that was not to be expected, or of the log.
-/
inductive OracleError.IsFailure : OracleError → Prop
  | engine (query : String) (text : Option String) : IsFailure (.unexpectedEngineError query text)
  | log (cause : IoError) : IsFailure (.io cause)

/-- An error that sending a statement may end in. -/
inductive OracleError.OfStatement : OracleError → Prop
  | skip (reason : SkipReason) : OfStatement (.skip reason)
  | failure {e : OracleError} (h : e.IsFailure) : OfStatement e

/-- **What a failure of the engine over a statement means** is a skip or a failure. -/
theorem EngineError.ofStatement_classify (failure : EngineError) (sql : String)
    (errors : ExpectedErrors) : (failure.classify sql errors).OfStatement := by
  cases failure with
  | rejected text =>
    rw [classify]
    split
    · exact .skip _
    · exact .failure (.engine _ _)
  | silent => exact .failure (.engine _ _)
  | conversion detail => exact .skip _

theorem ofStatement_of_collected {sql : String} {errors : ExpectedErrors} {answer : EngineAnswer}
    {e : OracleError} (h : collected sql errors answer = .error e) : e.OfStatement := by
  rcases answer with failure | (_ | cells)
  · obtain rfl := Except.error.inj h
    exact failure.ofStatement_classify sql errors
  · obtain rfl := Except.error.inj h
    exact .skip _
  · cases h

/-! ### Tidy steps -/

namespace SessionM

variable {α β : Type} {s s' : Session} {t : List Exchange}

/-- A step that leaves the session as it was, and ends in no error but one that a statement may end
in. -/
def Quiet (m : SessionM α) : Prop :=
  ∀ s t r s', Path m s t r s' → s' = s ∧ ∀ e, r = .error e → e.OfStatement

theorem quiet_pure (a : α) : Quiet (pure a) := by
  intro s t r s' hpath
  obtain ⟨rfl, rfl, rfl⟩ := path_pure_iff.1 hpath
  exact ⟨rfl, fun e he => by simp at he⟩

theorem quiet_get : Quiet (get : SessionM Session) := by
  intro s t r s' hpath
  obtain ⟨rfl, rfl, rfl⟩ := path_get_iff.1 hpath
  exact ⟨rfl, fun e he => by simp at he⟩

theorem quiet_ask (q : Request) : Quiet (ask q) := by
  intro s t r s' hpath
  obtain ⟨answer, rfl, rfl, rfl⟩ := path_ask_iff.1 hpath
  exact ⟨rfl, fun e he => by simp at he⟩

theorem quiet_ofExcept {x : Except OracleError α} (hx : ∀ e, x = .error e → e.OfStatement) :
    Quiet (ofExcept x) := by
  intro s t r s' hpath
  obtain ⟨rfl, rfl, rfl⟩ := path_ofExcept_iff.1 hpath
  exact ⟨rfl, hx⟩

theorem quiet_ofIo (x : Except IoError Unit) : Quiet (ofIo x) := by
  intro s t r s' hpath
  obtain ⟨rfl, rfl, rfl⟩ := path_ofIo_iff.1 hpath
  refine ⟨rfl, fun e he => ?_⟩
  rcases x with cause | ⟨⟩
  · obtain rfl : .io cause = e := Except.error.inj he
    exact .failure (.log cause)
  · cases he

theorem quiet_bind {m : SessionM α} {f : α → SessionM β} (hm : Quiet m) (hf : ∀ a, Quiet (f a)) :
    Quiet (m >>= f) := by
  intro s t r s' hpath
  obtain ⟨e, h, rfl⟩ | ⟨t₁, a, s₁, t₂, h₁, h₂, rfl⟩ := path_bind_iff.1 hpath
  · obtain ⟨hs, he⟩ := hm _ _ _ _ h
    refine ⟨hs, fun e' he' => ?_⟩
    obtain rfl : e = e' := Except.error.inj he'
    exact he e rfl
  · obtain ⟨rfl, -⟩ := hm _ _ _ _ h₁
    exact hf a _ _ _ _ h₂

/-- **How a step of a round may end**, after which exchanges, and what it leaves of the session. -/
inductive Ending (s : Session) (t : List Exchange) : Except OracleError α → Session → Prop
  | ok (a : α) : Ending s t (.ok a) s
  | ofStatement {e : OracleError} (h : e.OfStatement) : Ending s t (.error e) s
  | refused {e : OracleError} {x : Exchange} (hx : x ∈ t) (h : x.refusal? = some e) :
      Ending s t (.error e) s
  | bug (report : BugReport) : Ending s t (.error (.logicBug report)) (s.record report.statements)

/-- An error is the end of whatever would have come after it as well. -/
theorem Ending.of_error {e : OracleError} (h : Ending (α := α) s t (.error e) s') :
    Ending (α := β) s t (.error e) s' := by
  cases h with
  | ofStatement h => exact .ofStatement h
  | refused hx h => exact .refused hx h
  | bug report => exact .bug report

theorem Ending.append_left {r : Except OracleError α} (h : Ending s t r s') (t₁ : List Exchange) :
    Ending s (t₁ ++ t) r s' := by
  cases h with
  | ok a => exact .ok a
  | ofStatement h => exact .ofStatement h
  | refused hx h => exact .refused (List.mem_append_right _ hx) h
  | bug report => exact .bug report

/-- A step of which every path ends in one of these ways. -/
def Tidy (m : SessionM α) : Prop := ∀ s t r s', Path m s t r s' → Ending s t r s'

theorem Quiet.tidy {m : SessionM α} (hm : Quiet m) : Tidy m := by
  intro s t r s' hpath
  obtain ⟨rfl, he⟩ := hm _ _ _ _ hpath
  cases r with
  | error e => exact .ofStatement (he e rfl)
  | ok a => exact .ok a

/-- A result that a step can have. -/
def Gives (m : SessionM α) (a : α) : Prop := ∃ s t s', Path m s t (.ok a) s'

/-- **Tidy steps compose**: the second begins where the first has left the session untouched, with a
result that the first can have. -/
theorem tidy_bind {m : SessionM α} {f : α → SessionM β} (hm : Tidy m)
    (hf : ∀ a, Gives m a → Tidy (f a)) : Tidy (m >>= f) := by
  intro s t r s' hpath
  obtain ⟨e, h, rfl⟩ | ⟨t₁, a, s₁, t₂, h₁, h₂, rfl⟩ := path_bind_iff.1 hpath
  · exact (hm _ _ _ _ h).of_error
  · have hgives : Gives m a := ⟨s, t₁, s₁, h₁⟩
    cases hm _ _ _ _ h₁ with
    | ok a => exact (hf a hgives _ _ _ _ h₂).append_left t₁

/-- Asking the source for something that it may refuse. -/
theorem tidy_offered {q : Request} (x : q.Answer → Except OracleError α) {f : α → SessionM β}
    (hx : ∀ answer e, x answer = .error e → Exchange.refusal? ⟨q, some answer⟩ = some e)
    (hf : ∀ a, Tidy (f a)) : Tidy (ask q >>= fun answer => ofExcept (x answer) >>= f) := by
  intro s t r s' hpath
  obtain ⟨answer, t', h, rfl⟩ := path_ask_bind_iff.1 hpath
  obtain ⟨e, he, rfl, rfl, rfl⟩ | ⟨a, -, h'⟩ := path_ofExcept_bind_iff.1 h
  · exact .refused List.mem_cons_self (hx answer e he)
  · exact (hf a _ _ _ _ h').append_left [⟨q, some answer⟩]

end SessionM

/-! ### Statements -/

section Statements

variable {errors : ExpectedErrors} {s s' : Session} {t : List Exchange}

theorem quiet_recordQuery (sql : String) : (SessionM.recordQuery sql).Quiet := by
  refine SessionM.quiet_bind SessionM.quiet_get fun s => ?_
  split
  · refine SessionM.quiet_bind (SessionM.quiet_ask _) fun written => ?_
    refine SessionM.quiet_bind (SessionM.quiet_ofIo written) fun _ => ?_
    exact SessionM.quiet_bind (SessionM.quiet_ask _) fun flushed => SessionM.quiet_ofIo flushed
  · exact SessionM.quiet_pure _

theorem quiet_collect (sql : String) : (collect errors sql).Quiet := by
  refine SessionM.quiet_bind (quiet_recordQuery sql) fun _ => ?_
  refine SessionM.quiet_bind (SessionM.quiet_ask _) fun answer => ?_
  exact SessionM.quiet_ofExcept fun _ => ofStatement_of_collected

theorem path_combineAs_quiet {text : String} {result : CombinedResult}
    (h : Session.Path (combineAs errors text) s t result s') :
    s' = s ∧ ∀ e, result.cells = .error e → e.OfStatement := by
  obtain ⟨t₁, r, s₁, t₂, h₁, h₂, rfl⟩ := Session.path_bind_iff.1 h
  obtain ⟨rfl, rfl, rfl⟩ := Session.path_pure_iff.1 h₂
  exact quiet_collect text _ _ _ _ h₁

theorem path_concatenate_quiet {queries : List String} {result : CombinedResult}
    (h : Session.Path (concatenate errors queries) s t result s') :
    s' = s ∧ ∀ e, result.cells = .error e → e.OfStatement := by
  induction queries generalizing s t result with
  | nil =>
    obtain ⟨rfl, rfl, rfl⟩ := Session.path_pure_iff.1 h
    exact ⟨rfl, fun e he => by simp at he⟩
  | cons q qs ih =>
    obtain ⟨t₁, r, s₁, t₂, h₁, h₂, rfl⟩ := Session.path_bind_iff.1 h
    obtain ⟨rfl, hr⟩ := quiet_collect q _ _ _ _ h₁
    cases r with
    | error e =>
      obtain ⟨rfl, rfl, rfl⟩ := Session.path_pure_iff.1 h₂
      exact ⟨rfl, hr⟩
    | ok cells =>
      obtain ⟨t₃, rest, s₂, t₄, h₃, h₄, rfl⟩ := Session.path_bind_iff.1 h₂
      obtain ⟨rfl, rfl, rfl⟩ := Session.path_pure_iff.1 h₄
      obtain ⟨rfl, hrest⟩ := ih h₃
      refine ⟨rfl, fun e he => hrest e ?_⟩
      cases hc : rest.cells with
      | error e' => simpa [hc, Except.map] using he
      | ok later => simp [hc, Except.map] at he

/-- Putting the parts together leaves the session as it was, and gathers no error but one that a
statement may end in, if duplicates are eliminated in a single statement only. -/
theorem path_combine_quiet {dialect : Dialect} {q : CombinedQuery} {result : CombinedResult}
    (hq : q.combination = .eliminateDuplicates → q.singleStatement = true)
    (h : Session.Path (combine dialect errors q) s t result s') :
    s' = s ∧ ∀ e, result.cells = .error e → e.OfStatement := by
  rw [combine] at h
  split at h
  · exact path_combineAs_quiet h
  · exact path_concatenate_quiet h
  · exact path_combineAs_quiet h
  · next hc hs => simp [hq hc] at hs

theorem quiet_combine {dialect : Dialect} {q : CombinedQuery}
    (hq : q.combination = .eliminateDuplicates → q.singleStatement = true) :
    (liftM (combine dialect errors q) : SessionM CombinedResult).Quiet := by
  intro s t r s' hpath
  obtain ⟨result, h, rfl⟩ := SessionM.path_lift_iff.1 hpath
  exact ⟨(path_combine_quiet hq h).1, fun e he => by simp at he⟩

theorem tidy_assertEqual (whole : String) (reconstructed : List String)
    (first second : List Cell) : (assertEqual whole reconstructed first second).Tidy := by
  intro s t r s' hpath
  obtain ⟨-, rfl, rfl, rfl⟩ | ⟨m, -, ⟨answer, rfl⟩, rfl, rfl⟩ := path_assertEqual hpath
  · exact .ok ()
  · exact .bug _

end Statements

/-! ### Rounds -/

namespace Oracle

variable (o : Oracle)

theorem tidy_compare (whole : String) (reconstructed : List String) (first second : List Cell) :
    (o.compare whole reconstructed first second).Tidy := by
  rw [compare]
  split
  · exact tidy_assertEqual _ _ _ _
  · exact tidy_assertEqual _ _ _ _

theorem tidy_checkParts {base : Select} {condition : String}
    (hsingle : o.kind.combination = .eliminateDuplicates → o.singleStatement base = true) :
    (o.checkParts base condition).Tidy := by
  refine SessionM.tidy_bind (quiet_collect _).tidy fun first _ => ?_
  refine SessionM.tidy_bind (quiet_combine hsingle).tidy ?_
  rintro result ⟨s, t, s', hpath⟩
  obtain ⟨result', h, hresult⟩ := SessionM.path_lift_iff.1 hpath
  obtain rfl := Except.ok.inj hresult
  have hcells := (path_combine_quiet hsingle h).2
  exact SessionM.tidy_bind (SessionM.quiet_ofExcept hcells).tidy fun second _ =>
    o.tidy_compare _ _ _ _

theorem tidy_checkAggregate (base : Select) (f : AggregateFn) (argument condition : String) :
    (o.checkAggregate base f argument condition).Tidy := by
  refine SessionM.tidy_bind (quiet_collect _).tidy fun first _ => ?_
  refine SessionM.tidy_bind (quiet_collect _).tidy fun second _ => ?_
  split
  · exact (SessionM.quiet_pure _).tidy
  · exact o.tidy_compare _ _ _ _

theorem tidy_askBase (k : OracleKind) : (askBase k).Tidy := by
  refine SessionM.tidy_offered (q := .baseSelect) id ?_ fun base => (SessionM.quiet_pure _).tidy
  rintro answer e rfl
  rfl

/-- The base query of a round has the clauses that its kind sets, whatever the source gives. -/
theorem eq_prepare_of_askBase {k : OracleKind} {base : Select} (h : (askBase k).Gives base) :
    ∃ given, base = k.prepare given := by
  obtain ⟨s, t, s', hpath⟩ := h
  obtain ⟨answer, t', h', rfl⟩ := SessionM.path_ask_bind_iff.1 hpath
  obtain ⟨e, -, -, he, -⟩ | ⟨given, -, h''⟩ := SessionM.path_ofExcept_bind_iff.1 h'
  · simp at he
  · obtain ⟨-, hbase, -⟩ := SessionM.path_pure_iff.1 h''
    exact ⟨given, Except.ok.inj hbase⟩

/-- **A round is tidy**, whoever answers. -/
theorem tidy_check : o.check.Tidy := by
  refine SessionM.tidy_bind (tidy_askBase _) fun base hbase => ?_
  -- the clauses that the kind has set decide whether the parts can stand in one statement
  obtain ⟨given, rfl⟩ := eq_prepare_of_askBase hbase
  have hparts : ∀ condition, (o.checkParts (o.kind.prepare given) condition).Tidy := fun _ =>
    o.tidy_checkParts (singleStatement_prepare o given)
  split
  · refine SessionM.tidy_offered (q := .aggregate) id ?_ fun x => ?_
    · rintro answer e rfl
      rfl
    · refine SessionM.tidy_offered (q := .predicate) id ?_ fun condition =>
        o.tidy_checkAggregate _ _ _ _
      rintro answer e rfl
      rfl
  · refine SessionM.tidy_offered (q := .groupPredicate _) id ?_ fun condition => hparts condition
    rintro answer e rfl
    rfl
  · refine SessionM.tidy_offered (q := .predicate) id ?_ fun condition => hparts condition
    rintro answer e rfl
    rfl

/-- **How a round ends, and what it leaves of the session.** -/
inductive Ending (s : Session) (t : List Exchange) : RoundOutcome → Session → Prop
  | passed : Ending s t .passed s
  | skipped (reason : SkipReason) : Ending s t (.skipped reason) s
  | failed {e : OracleError} (h : e.IsFailure) : Ending s t (.failed e) s
  /-- The source refused what it was asked for, and its error decides. -/
  | refused {e : OracleError} {x : Exchange} (hx : x ∈ t) (h : x.refusal? = some e) :
      Ending s t (.ofResult (.error e)) s
  /-- The two sides of a comparison disagreed. -/
  | bug (report : BugReport) : Ending s t (.bug report) (s.record report.statements)

/-- **Every path of a round ends so**, whatever is answered. -/
theorem ending_of_path {s s' : Session} {t : List Exchange} {outcome : RoundOutcome}
    (h : Session.Path o.runRound s t outcome s') : Ending s t outcome s' := by
  obtain ⟨t₁, r, s₁, t₂, h₁, h₂, rfl⟩ := Session.path_bind_iff.1 h
  obtain ⟨rfl, rfl, rfl⟩ := Session.path_pure_iff.1 h₂
  rw [List.append_nil]
  cases o.tidy_check _ _ _ _ h₁ with
  | ok a => exact .passed
  | ofStatement he =>
    rcases he with reason | he
    · exact .skipped reason
    · rcases he with ⟨query, text⟩ | cause
      · exact .failed (.engine query text)
      · exact .failed (.log cause)
  | refused hx hrefused => exact .refused hx hrefused
  | bug report => exact .bug report

end Oracle

end Trisect
