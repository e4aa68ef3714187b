import Trisect.Proofs.Round.Ending
import Trisect.Proofs.Round.Rules
import Trisect.Proofs.Round.Verdict
import Trisect.Proofs.Session.Noting

/-!
# What decides how a round ends

A round goes on as long as it gets what it asks for. The first exchange in which it does not is its
last, and decides how it ends: the source refuses what it is asked for, the answer to a query is not
a list of rows, or the log fails to note a statement. A comparison that finds a disagreement is
decided by it as well, and the diagnostic is what is heard of that. `Trisect.Exchange.Decides` says
which error an exchange decides upon.

That nothing is decided on the way to a result, and that an error is decided by the last exchange
and by none before, is called a **settled** path (`Trisect.Settled`). Steps with such paths compose,
and a round is composed of them: `Trisect.Oracle.settled_of_path` is about every path of a round,
whoever answers. Conversely the exchanges of a round tell how it ended
(`Trisect.Oracle.outcome_of_decides`).
-/

namespace Trisect

/-- **The error that an exchange decides upon**, with respect to the messages that are expected. -/
inductive Exchange.Decides (errors : ExpectedErrors) : Exchange → OracleError → Prop
  /-- The source refused what it was asked for. -/
  | refusal {x : Exchange} {e : OracleError} (h : x.refusal? = some e) : Decides errors x e
  /-- The answer to a query is not a list of rows. -/
  | answer {sql : String} {answer : EngineAnswer} {e : OracleError}
      (h : collected sql errors answer = .error e) : Decides errors ⟨.query sql, some answer⟩ e
  /-- A statement could not be noted. -/
  | log {x : Exchange} {cause : IoError} (h : x.logFailure? = some cause) :
      Decides errors x (.io cause)
  /-- A comparison found the disagreement of a report. -/
  | disagreement (report : BugReport) (answer : Except IoError Unit) :
      Decides errors ⟨.writeDiagnostic report.diagnostic, some answer⟩ (.logicBug report)

theorem Exchange.Decides.eq_of_refusal {errors : ExpectedErrors} {x : Exchange} {e e' : OracleError}
    (h : x.Decides errors e') (he : x.refusal? = some e) : e' = e := by
  cases h with
  | refusal h => exact Option.some.inj (h.symm.trans he)
  | answer h => cases he
  | log h =>
    unfold refusal? at he
    split at he <;> first | (cases he; done) | cases h
  | disagreement report answer => cases he

/-- The text of a diagnostic that is written to the log. -/
def Request.diagnostic? : Request → Option String
  | writeDiagnostic text => some text
  | _ => none

/-- **A round goes on behind an exchange** that decides nothing and is not the diagnostic of a
disagreement. -/
def Exchange.GoesOn (errors : ExpectedErrors) (x : Exchange) : Prop :=
  (∀ e, ¬ x.Decides errors e) ∧ x.request.diagnostic? = none

/-- Where a round goes on, nobody but the engine can have failed. -/
theorem Exchange.GoesOn.isSmooth {errors : ExpectedErrors} {x : Exchange} (h : x.GoesOn errors)
    (hanswer : x.answer.isSome) : x.isSmooth := by
  obtain ⟨r, _ | answer⟩ := x
  · cases hanswer
  · cases r with
    | baseSelect | predicate | groupPredicate | aggregate =>
      cases answer with
      | error e => exact absurd (.refusal rfl) (h.1 e)
      | ok _ => rfl
    | writeQuery | flush =>
      cases answer with
      | error cause => exact absurd (.log rfl) (h.1 (.io cause))
      | ok _ => rfl
    | _ => rfl

/-- What decides upon a report, if it is not the source, is the diagnostic of a disagreement. -/
theorem Exchange.Decides.isSmooth_of_bug {errors : ExpectedErrors} {x : Exchange}
    {report : BugReport} (h : x.Decides errors (.logicBug report))
    (hsource : x.refusal? ≠ some (.logicBug report)) : x.isSmooth := by
  cases h with
  | refusal h => exact absurd h hsource
  | answer h =>
    -- what an answer means is a skip or a failure
    cases ofStatement_of_collected h with
    | failure hfailure => cases hfailure
  | disagreement report answer => rfl

/-- A round that ends in a report was ended by it. -/
theorem RoundOutcome.eq_error_of_ofResult_bug {r : Except OracleError Unit} {report : BugReport}
    (h : ofResult r = .bug report) : r = .error (.logicBug report) := by
  rcases r with e | _
  · cases e with
    | logicBug report' => rw [RoundOutcome.bug.inj h]
    | _ => cases h
  · cases h

/-- **A settled path**: nothing is decided on the way to a result, and an error is decided by the
last exchange and by none before. -/
inductive Settled (errors : ExpectedErrors) {α : Type} : List Exchange → Except OracleError α → Prop
  | ok {t : List Exchange} {a : α} (h : ∀ x ∈ t, x.GoesOn errors) : Settled errors t (.ok a)
  | error (before : List Exchange) {x : Exchange} {e : OracleError}
      (hbefore : ∀ y ∈ before, y.GoesOn errors) (hx : x.Decides errors e) :
      Settled errors (before ++ [x]) (.error e)

variable {α β : Type} {errors : ExpectedErrors} {t t₁ : List Exchange} {s s' : Session}

namespace Settled

theorem nil (a : α) : Settled errors [] (.ok a) := .ok fun x hx => by simp at hx

/-- An error is the end of whatever would have come after it as well. -/
theorem of_error {e : OracleError} (h : Settled (α := α) errors t (.error e)) :
    Settled (α := β) errors t (.error e) := by
  cases h with
  | error before hbefore hx => exact .error before hbefore hx

theorem append_left {r : Except OracleError α} (h : Settled errors t r)
    (h₁ : ∀ x ∈ t₁, x.GoesOn errors) : Settled errors (t₁ ++ t) r := by
  cases h with
  | ok h =>
    refine .ok fun x hx => ?_
    rcases List.mem_append.1 hx with hx | hx
    · exact h₁ x hx
    · exact h x hx
  | error before hbefore hx =>
    rw [← List.append_assoc]
    refine .error (t₁ ++ before) (fun y hy => ?_) hx
    rcases List.mem_append.1 hy with hy | hy
    · exact h₁ y hy
    · exact hbefore y hy

theorem map {r : Except OracleError α} (h : Settled errors t r) (f : α → β) :
    Settled errors t (r.map f) := by
  cases h with
  | ok h => exact .ok h
  | error before hbefore hx => exact .error before hbefore hx

/-- An exchange that decides is the last one, and decides upon the error. -/
theorem eq_error {r : Except OracleError α} (h : Settled errors t r) {x : Exchange} (hx : x ∈ t)
    {e : OracleError} (he : x.Decides errors e) :
    ∃ before e', t = before ++ [x] ∧ r = .error e' ∧ x.Decides errors e' := by
  cases h with
  | ok h => exact absurd he ((h x hx).1 e)
  | error before hbefore hlast =>
    rcases List.mem_append.1 hx with hx | hx
    · exact absurd he ((hbefore x hx).1 e)
    · obtain rfl := List.mem_singleton.1 hx
      exact ⟨_, _, rfl, rfl, hlast⟩

end Settled

/-! ### Steps that may end in an error -/

namespace SessionM

/-- A step of which every path is settled. -/
def Settles (errors : ExpectedErrors) (m : SessionM α) : Prop :=
  ∀ s t r s', Path m s t r s' → Settled errors t r

theorem settles_pure (a : α) : Settles errors (pure a) := by
  intro s t r s' hpath
  obtain ⟨rfl, rfl, rfl⟩ := path_pure_iff.1 hpath
  exact .nil a

theorem settles_get : Settles errors (get : SessionM Session) := by
  intro s t r s' hpath
  obtain ⟨rfl, rfl, rfl⟩ := path_get_iff.1 hpath
  exact .nil _

/-- **Settled steps compose**, the second after a result that the first can have. -/
theorem settles_bind {m : SessionM α} {f : α → SessionM β} (hm : Settles errors m)
    (hf : ∀ a, Gives m a → Settles errors (f a)) : Settles errors (m >>= f) := by
  intro s t r s' hpath
  obtain ⟨e, h, rfl⟩ | ⟨t₁, a, s₁, t₂, h₁, h₂, rfl⟩ := path_bind_iff.1 hpath
  · exact (hm _ _ _ _ h).of_error
  · have hgives : Gives m a := ⟨s, t₁, s₁, h₁⟩
    cases hm _ _ _ _ h₁ with
    | ok hnone => exact (hf a hgives _ _ _ _ h₂).append_left hnone

/-- A question whose answer is a result or decides. -/
theorem settles_ask {q : Request} {f : q.Answer → SessionM α} (x : q.Answer → Except OracleError α)
    (hq : q.diagnostic? = none) (hf : ∀ answer, f answer = ofExcept (x answer))
    (hx : ∀ answer e, Exchange.Decides errors ⟨q, some answer⟩ e ↔ x answer = .error e) :
    Settles errors (ask q >>= f) := by
  intro s t r s' hpath
  obtain ⟨answer, t', h, rfl⟩ := path_ask_bind_iff.1 hpath
  rw [hf] at h
  obtain ⟨rfl, rfl, rfl⟩ := path_ofExcept_iff.1 h
  cases hr : x answer with
  | ok a =>
    refine .ok fun y hy => ?_
    obtain rfl := List.mem_singleton.1 hy
    refine ⟨fun e he => ?_, hq⟩
    rw [hx, hr] at he
    cases he
  | error e => exact .error [] (by simp) ((hx answer e).2 hr)

end SessionM

/-! ### Statements -/

section Statements

theorem decides_query_iff {sql : String} (answer : EngineAnswer) (e : OracleError) :
    Exchange.Decides errors ⟨.query sql, some answer⟩ e ↔
      collected sql errors answer = .error e := by
  constructor
  · intro h
    cases h with
    | refusal h => cases h
    | answer h => exact h
    | log h => cases h
  · exact .answer

theorem decides_writeQuery_iff {sql : String} (answer : Except IoError Unit) (e : OracleError) :
    Exchange.Decides errors ⟨.writeQuery sql, some answer⟩ e ↔
      answer.mapError .io = .error e := by
  constructor
  · rintro (h | h | h)
    · cases h
    · rcases answer with cause | ⟨⟩ <;> cases h
      rfl
  · intro h
    rcases answer with cause | ⟨⟩ <;> cases h
    exact .log rfl

theorem decides_flush_iff (answer : Except IoError Unit) (e : OracleError) :
    Exchange.Decides errors ⟨.flush, some answer⟩ e ↔ answer.mapError .io = .error e := by
  constructor
  · rintro (h | h | h)
    · cases h
    · rcases answer with cause | ⟨⟩ <;> cases h
      rfl
  · intro h
    rcases answer with cause | ⟨⟩ <;> cases h
    exact .log rfl

theorem ofIo_eq_ofExcept (answer : Except IoError Unit) :
    SessionM.ofIo answer = SessionM.ofExcept (answer.mapError .io) := by
  rcases answer with cause | ⟨⟩ <;> rfl

theorem settles_recordQuery (sql : String) : (SessionM.recordQuery sql).Settles errors := by
  refine SessionM.settles_bind SessionM.settles_get fun s _ => ?_
  split
  · rw [← bind_assoc]
    refine SessionM.settles_bind
      (SessionM.settles_ask _ rfl ofIo_eq_ofExcept decides_writeQuery_iff) fun _ _ => ?_
    exact SessionM.settles_ask _ rfl ofIo_eq_ofExcept decides_flush_iff
  · exact SessionM.settles_pure _

theorem settles_collect (sql : String) : (collect errors sql).Settles errors :=
  SessionM.settles_bind (settles_recordQuery sql) fun _ _ =>
    SessionM.settles_ask _ rfl (fun _ => rfl) decides_query_iff

theorem settled_combineAs {text : String} {result : CombinedResult}
    (h : Session.Path (combineAs errors text) s t result s') : Settled errors t result.cells := by
  obtain ⟨t₁, r, s₁, t₂, h₁, h₂, rfl⟩ := Session.path_bind_iff.1 h
  obtain ⟨rfl, rfl, rfl⟩ := Session.path_pure_iff.1 h₂
  rw [List.append_nil]
  exact settles_collect text _ _ _ _ h₁

theorem settled_concatenate {queries : List String} {result : CombinedResult}
    (h : Session.Path (concatenate errors queries) s t result s') :
    Settled errors t result.cells := by
  induction queries generalizing s t result with
  | nil =>
    obtain ⟨rfl, rfl, rfl⟩ := Session.path_pure_iff.1 h
    exact .nil _
  | cons q qs ih =>
    obtain ⟨t₁, r, s₁, t₂, h₁, h₂, rfl⟩ := Session.path_bind_iff.1 h
    have hfirst := settles_collect q _ _ _ _ h₁
    cases r with
    | error e =>
      obtain ⟨rfl, rfl, rfl⟩ := Session.path_pure_iff.1 h₂
      rw [List.append_nil]
      exact hfirst.of_error
    | ok cells =>
      obtain ⟨t₃, rest, s₂, t₄, h₃, h₄, rfl⟩ := Session.path_bind_iff.1 h₂
      obtain ⟨rfl, rfl, rfl⟩ := Session.path_pure_iff.1 h₄
      rw [List.append_nil]
      cases hfirst with
      | ok hnone => exact ((ih h₃).map _).append_left hnone

/-- Putting the parts together is settled by the error that it gathers. -/
theorem settled_combine {dialect : Dialect} {q : CombinedQuery} {result : CombinedResult}
    (hq : q.combination = .eliminateDuplicates → q.singleStatement = true)
    (h : Session.Path (combine dialect errors q) s t result s') :
    Settled errors t result.cells := by
  rw [combine] at h
  split at h
  · exact settled_combineAs h
  · exact settled_concatenate h
  · exact settled_combineAs h
  · next hc hs => simp [hq hc] at hs

theorem settles_assertEqual (whole : String) (reconstructed : List String)
    (first second : List Cell) : (assertEqual whole reconstructed first second).Settles errors := by
  intro s t r s' hpath
  obtain ⟨-, rfl, rfl, -⟩ | ⟨m, -, ⟨answer, rfl⟩, rfl, -⟩ := path_assertEqual hpath
  · exact .nil ()
  · exact .error [] (by simp) (.disagreement _ answer)

end Statements

/-! ### Rounds -/

namespace Oracle

variable (o : Oracle)

theorem settles_compare (whole : String) (reconstructed : List String) (first second : List Cell) :
    (o.compare whole reconstructed first second).Settles errors := by
  rw [compare]
  split
  · exact settles_assertEqual _ _ _ _
  · exact settles_assertEqual _ _ _ _

theorem settles_checkParts {base : Select} {condition : String}
    (hsingle : o.kind.combination = .eliminateDuplicates → o.singleStatement base = true) :
    (o.checkParts base condition).Settles o.errors := by
  refine SessionM.settles_bind (settles_collect _) fun first _ => ?_
  intro s t r s' hpath
  obtain ⟨e, h₁, -⟩ | ⟨t₁, result, s₁, t₂, h₁, h₂, rfl⟩ := SessionM.path_bind_iff.1 hpath
  · obtain ⟨_, -, he⟩ := SessionM.path_lift_iff.1 h₁
    cases he
  obtain ⟨result', h₃, hresult⟩ := SessionM.path_lift_iff.1 h₁
  obtain rfl := Except.ok.inj hresult
  -- the error that the parts have gathered is looked at only now, but nothing was asked behind it
  have hparts := settled_combine hsingle h₃
  obtain ⟨e, he, rfl, rfl, -⟩ | ⟨second, hsecond, h₄⟩ := SessionM.path_ofExcept_bind_iff.1 h₂
  · rw [he] at hparts
    rw [List.append_nil]
    exact hparts.of_error
  · rw [hsecond] at hparts
    cases hparts with
    | ok hnone => exact (o.settles_compare _ _ _ _ _ _ _ _ h₄).append_left hnone

theorem settles_checkAggregate (base : Select) (f : AggregateFn) (argument condition : String) :
    (o.checkAggregate base f argument condition).Settles o.errors := by
  refine SessionM.settles_bind (settles_collect _) fun first _ => ?_
  refine SessionM.settles_bind (settles_collect _) fun second _ => ?_
  split
  · exact SessionM.settles_pure _
  · exact o.settles_compare _ _ _ _

/-- What the source is asked for is decided by its refusal. -/
theorem decides_offer_iff {q : Request} (hq : q.IsForShape) (answer : q.Answer) (e : OracleError) :
    Exchange.Decides errors ⟨q, some answer⟩ e ↔ Exchange.refusal? ⟨q, some answer⟩ = some e := by
  constructor
  · intro h
    cases h with
    | refusal h => exact h
    | answer h => exact hq.elim
    | log h => cases q <;> first | exact hq.elim | cases h
    | disagreement report answer => exact hq.elim
  · exact .refusal

theorem settles_offered {α β : Type} {q : Request} (hq : q.IsForShape)
    (x : q.Answer → Except OracleError α)
    (hx : ∀ answer e, Exchange.refusal? ⟨q, some answer⟩ = some e ↔ x answer = .error e)
    {f : α → SessionM β} (hf : ∀ a, (f a).Settles errors) :
    (SessionM.ask q >>= fun answer => SessionM.ofExcept (x answer) >>= f).Settles errors := by
  have hnone : q.diagnostic? = none := by
    cases q <;> first | exact hq.elim | rfl
  rw [← bind_assoc]
  refine SessionM.settles_bind (SessionM.settles_ask x hnone (fun _ => rfl) ?_) fun a _ => hf a
  exact fun answer e => (decides_offer_iff hq answer e).trans (hx answer e)

theorem settles_askBase (k : OracleKind) : (askBase k).Settles errors := by
  refine settles_offered (q := .baseSelect) trivial id ?_ fun base => SessionM.settles_pure _
  rintro (e | base) e' <;> simp [Exchange.refusal?]

/-- **A round is settled**, whoever answers. -/
theorem settles_check : o.check.Settles o.errors := by
  refine SessionM.settles_bind (settles_askBase _) fun base hbase => ?_
  -- the clauses that the kind has set decide whether the parts can stand in one statement
  obtain ⟨given, rfl⟩ := eq_prepare_of_askBase hbase
  have hparts : ∀ condition,
      (o.checkParts (o.kind.prepare given) condition).Settles o.errors := fun _ =>
    o.settles_checkParts (singleStatement_prepare o given)
  split
  · refine settles_offered (q := .aggregate) trivial id ?_ fun x => ?_
    · rintro (e | x) e' <;> simp [Exchange.refusal?]
    · refine settles_offered (q := .predicate) trivial id ?_ fun condition =>
        o.settles_checkAggregate _ _ _ _
      rintro (e | condition) e' <;> simp [Exchange.refusal?]
  · refine settles_offered (q := .groupPredicate _) trivial id ?_ fun condition => hparts condition
    rintro (e | condition) e' <;> simp [Exchange.refusal?]
  · refine settles_offered (q := .predicate) trivial id ?_ fun condition => hparts condition
    rintro (e | condition) e' <;> simp [Exchange.refusal?]

/-- **Every path of a round is settled**: the outcome is that the round passed, and nothing is
decided on the way, or it is what the last exchange decides upon, and none before it. -/
theorem settled_of_path {outcome : RoundOutcome} (h : Session.Path o.runRound s t outcome s') :
    ∃ r, outcome = .ofResult r ∧ Settled o.errors t r := by
  obtain ⟨t₁, r, s₁, t₂, h₁, h₂, rfl⟩ := Session.path_bind_iff.1 h
  obtain ⟨rfl, rfl, rfl⟩ := Session.path_pure_iff.1 h₂
  rw [List.append_nil]
  exact ⟨r, rfl, o.settles_check _ _ _ _ h₁⟩

/-! ### What the exchanges tell -/

variable {o} {outcome : RoundOutcome} {e : OracleError}

/-- **The answer to a query that is not a list of rows** is how the round ends. -/
theorem outcome_of_answer (h : Session.Path o.runRound s t outcome s') {sql : String}
    {answer : EngineAnswer} (hx : ⟨.query sql, some answer⟩ ∈ t)
    (he : collected sql o.errors answer = .error e) : outcome = .ofResult (.error e) := by
  obtain ⟨r, rfl, hsettled⟩ := o.settled_of_path h
  obtain ⟨before, e', -, rfl, hdecides⟩ := hsettled.eq_error hx (.answer he)
  rw [decides_query_iff, he] at hdecides
  rw [Except.error.inj hdecides]

/-- **A refusal of the source** is how the round ends. -/
theorem outcome_of_refusal (h : Session.Path o.runRound s t outcome s') {x : Exchange} (hx : x ∈ t)
    (he : x.refusal? = some e) : outcome = .ofResult (.error e) := by
  obtain ⟨r, rfl, hsettled⟩ := o.settled_of_path h
  obtain ⟨before, e', -, rfl, hdecides⟩ := hsettled.eq_error hx (.refusal he)
  rw [hdecides.eq_of_refusal he]

/-- **A report is about the queries of the offer** of its round, unless it is the source that gave
it in place of what it was asked for. -/
theorem queries_of_bug {report : BugReport} (h : Session.Path o.runRound s t (.bug report) s')
    (hsource : ∀ x ∈ t, x.refusal? ≠ some (.logicBug report)) :
    ∃ x, o.kind.offering x <+: t ∧ report.wholeQuery = o.wholeQuery x ∧
      report.reconstructedQueries = o.partQueries x := by
  obtain ⟨r, hr, hsettled⟩ := o.settled_of_path h
  have hall : ∀ x ∈ t, x.isSmooth := by
    obtain rfl := RoundOutcome.eq_error_of_ofResult_bug hr.symm
    cases hsettled with
    | error before hbefore hlast =>
      intro x hx
      rcases List.mem_append.1 hx with hx' | hx'
      · exact (hbefore x hx').isSmooth (Dialogue.Path.isSome_answer h x hx)
      · obtain rfl := List.mem_singleton.1 hx'
        exact hlast.isSmooth_of_bug (hsource _ hx)
  obtain ⟨x, hoffer, hverdict⟩ := verdict_of_path h hall
  exact ⟨x, hoffer, hverdict.queries_of_bug⟩

end Oracle

end Trisect
