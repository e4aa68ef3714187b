import Mathlib.Data.List.Basic
import Trisect.Pattern.Regular
import Trisect.Proofs.Session.Noting
import Trisect.Proofs.Session.Replay

/-!
# How a session is set up

Before its first round a session has the source read the schema, runs the statements of its setup in
order, and has the schema read again if one of them may have changed it. A source that answers from
an outdated schema does not fail, it only makes the rounds pointless, so that nothing in the summary
of a session would tell.

Whose turn it is depends on all that has been said before (`Trisect.Turn`): on how often the schema
has been read, and on which statements have been run with what success. Here the state of the watch
is therefore the history itself (`Trisect.Watch.ofHistory`), and what is allowed is what has its
turn as long as there was no setback (`Trisect.MayAsk`). A step of the setup is described by what it
makes of the history (`Trisect.SessionM.SetsUp`), one statement at a time
(`Trisect.Session.setsUp_execute`) and then along the list of them (`Trisect.Session.setsUp_setUp`).
Behind the setup nothing is asked that could undo it, which needs no more of the rounds than the
requests that they make (`Trisect.Dialogue.Asks.obeys`).

The main statement is `Trisect.Session.setting_up_of_play`. It is about transcripts, also about
those that break off: every exchange had its turn, a setback is the last one and the error of the
session, and a session that came to an end without one was set up.
-/

namespace Trisect

/-! ### What happens before the rounds -/

/-- What the source says to the request to read the schema. -/
def Exchange.refreshed? : Exchange → Option (Except OracleError Unit)
  | ⟨.refreshSchema, some answer⟩ => some answer
  | _ => none

/-- How often the source has read the schema, and with what success. -/
def refreshes (t : List Exchange) : List (Except OracleError Unit) :=
  t.filterMap Exchange.refreshed?

@[simp] theorem refreshes_nil : refreshes [] = [] := rfl

@[simp] theorem refreshes_append (t t' : List Exchange) :
    refreshes (t ++ t') = refreshes t ++ refreshes t' := List.filterMap_append

/-- Whether a session goes on behind an answer to a statement of its setup: the statement succeeded,
or failed in a way that was to be expected. -/
def ExpectedErrors.forgives (errors : ExpectedErrors) : Except EngineError Unit → Bool
  | .ok () => true
  | .error (.conversion _) => true
  | .error (.rejected text) => errors.expects text
  | .error .silent => false

/-- The error that an exchange ends the setup in, if it does. -/
def Exchange.setback? (errors : ExpectedErrors) : Exchange → Option OracleError
  | ⟨.refreshSchema, some (.error e)⟩ => some e
  | ⟨.execute sql, some (.error failure)⟩ =>
    if errors.forgives (.error failure) then none
    else some (.unexpectedEngineError sql failure.text?)
  | _ => none

theorem Exchange.setback?_of_breakdown {errors : ExpectedErrors} (r : Request) :
    setback? errors ⟨r, none⟩ = none := by
  cases r <;> rfl

/-- Whether an exchange with the log is a success, if it is one that opens it or notes a
statement. -/
def Exchange.isKept : Exchange → Bool
  | ⟨.openLog _ _, some (.ok ())⟩ => true
  | ⟨.openLog _ _, _⟩ => false
  | x => x.isNoted

/-- The statement that is run for its effect. -/
def Request.execution? : Request → Option String
  | execute sql => some sql
  | _ => none

/-- The statements that the engine was asked to run for their effect, in order, whether it answered
or not. -/
def executions (t : List Exchange) : List String := t.filterMap fun x => x.request.execution?

@[simp] theorem executions_append (t t' : List Exchange) :
    executions (t ++ t') = executions t ++ executions t' := List.filterMap_append

/-- Statements that were run, and how: all of a setup, and none that the session
did not get over. -/
structure RanThrough (errors : ExpectedErrors) (setup : List SetupStatement)
    (ran : List (String × Except EngineError Unit)) : Prop where
  texts : ran.map Prod.fst = setup.map SetupStatement.text
  forgiven : ∀ x ∈ ran, errors.forgives x.2 = true

/-- Whether a statement that may change the schema was run with success. -/
def changesSchema (setup : List SetupStatement) (ran : List (String × Except EngineError Unit)) :
    Bool :=
  (setup.zip ran).any fun x => x.1.affectsSchema && x.2.2.isOk

theorem RanThrough.nil {errors : ExpectedErrors} : RanThrough errors [] [] := ⟨rfl, by simp⟩

/-- To run one statement more. -/
theorem RanThrough.concat {errors : ExpectedErrors} {setup : List SetupStatement}
    {ran : List (String × Except EngineError Unit)} (h : RanThrough errors setup ran)
    (statement : SetupStatement) {answer : Except EngineError Unit}
    (hforgiven : errors.forgives answer = true) :
    RanThrough errors (setup ++ [statement]) (ran ++ [(statement.text, answer)]) where
  texts := by rw [List.map_append, List.map_append, h.texts]; rfl
  forgiven := by
    simpa [or_imp, forall_and] using ⟨fun a b => h.forgiven (a, b), hforgiven⟩

theorem RanThrough.cons {errors : ExpectedErrors} {setup : List SetupStatement}
    {ran : List (String × Except EngineError Unit)} (h : RanThrough errors setup ran)
    (statement : SetupStatement) {answer : Except EngineError Unit}
    (hforgiven : errors.forgives answer = true) :
    RanThrough errors (statement :: setup) ((statement.text, answer) :: ran) where
  texts := by rw [List.map_cons, List.map_cons, h.texts]
  forgiven := List.forall_mem_cons.2 ⟨hforgiven, h.forgiven⟩

theorem changesSchema_cons (statement : SetupStatement) (setup : List SetupStatement)
    (text : String) (answer : Except EngineError Unit)
    (ran : List (String × Except EngineError Unit)) :
    changesSchema (statement :: setup) ((text, answer) :: ran) =
      ((statement.affectsSchema && answer.isOk) || changesSchema setup ran) := rfl

/-- **A session is set up**: all statements have run, and the source has read the schema once before
them, and once more behind them if one that succeeded may have changed it. -/
structure IsSetUp (errors : ExpectedErrors) (setup : List SetupStatement) (t : List Exchange) :
    Prop where
  ran : RanThrough errors setup (executed t)
  refreshed : refreshes t =
    if changesSchema setup (executed t) then [.ok (), .ok ()] else [.ok ()]

/-- **Whose turn it is** in a session, by what has been said so far. -/
def Turn (errors : ExpectedErrors) (setup : List SetupStatement) (t : List Exchange) :
    Request → Prop
  | .openLog _ _ | .version => refreshes t = [] ∧ executed t = []
  | .refreshSchema => (refreshes t = [] ∧ executed t = []) ∨
      (refreshes t = [.ok ()] ∧ RanThrough errors setup (executed t) ∧
        changesSchema setup (executed t) = true)
  | .execute sql => refreshes t = [.ok ()] ∧ ∃ done statement rest,
      setup = done ++ statement :: rest ∧ sql = statement.text ∧
        RanThrough errors done (executed t)
  | .writeQuery _ | .flush => refreshes t ≠ []
  | _ => IsSetUp errors setup t

/-- **What may be asked**: what has its turn, as long as the setup has not been given up. -/
def MayAsk (errors : ExpectedErrors) (setup : List SetupStatement) (t : List Exchange)
    (r : Request) : Prop :=
  (∀ x ∈ t, x.setback? errors = none) ∧ Turn errors setup t r

/-- How the setup is given up in an error: the last exchange is a setback, or the log has failed in
it. -/
def GivenUp (errors : ExpectedErrors) (t : List Exchange) (e : OracleError) : Prop :=
  ∃ before x, t = before ++ [x] ∧ (x.setback? errors = some e ∨ x.isKept = false)

/-! ### Failures -/

/-- **A failure over a statement of the setup** is forgiven, or is the error of the session. -/
theorem EngineError.classify_eq (failure : EngineError) (sql : String) (errors : ExpectedErrors) :
    (errors.forgives (.error failure) = true ∧
        ∃ reason, failure.classify sql errors = .skip reason) ∨
      (errors.forgives (.error failure) = false ∧
        failure.classify sql errors = .unexpectedEngineError sql failure.text?) := by
  cases failure with
  | rejected text =>
    cases h : errors.expects text with
    | true => exact Or.inl ⟨h, .expectedError, by simp [classify, h]⟩
    | false => exact Or.inr ⟨h, by simp [classify, h, text?]⟩
  | silent => exact Or.inr ⟨rfl, rfl⟩
  | conversion detail => exact Or.inl ⟨rfl, .valueConversion, rfl⟩

/-! ### Steps of the setup -/

namespace SessionM

variable {α β : Type} {errors : ExpectedErrors} {setup : List SetupStatement}
  {P : List Exchange → Prop} {Q : α → List Exchange → Prop} {R : β → List Exchange → Prop}

/-- **A step of the setup**, between what has been said before and what has been said behind it: it
asks what it may ask, and gives the setup up or has a result. -/
def SetsUp (errors : ExpectedErrors) (setup : List SetupStatement) (P : List Exchange → Prop)
    (m : SessionM α) (Q : α → List Exchange → Prop) : Prop :=
  ∀ s t, (∀ x ∈ t, x.setback? errors = none) → P t →
    (m s).Obeys (.ofHistory (MayAsk errors setup))
      (fun r t' => (∃ e, r.1 = .error e ∧ GivenUp errors t' e) ∨
        ∃ a, r.1 = .ok a ∧ (∀ x ∈ t', x.setback? errors = none) ∧ Q a t') t

theorem setsUp_pure {a : α} (h : ∀ t, P t → Q a t) : SetsUp errors setup P (pure a) Q :=
  fun _ t hclear ht => .done (Or.inr ⟨a, rfl, hclear, h t ht⟩)

theorem setsUp_modify (f : Session → Session) :
    SetsUp errors setup P (modify f : SessionM PUnit) fun _ => P :=
  fun _ _ hclear ht => .done (Or.inr ⟨⟨⟩, rfl, hclear, ht⟩)

theorem setsUp_bind {m : SessionM α} {f : α → SessionM β} (h : SetsUp errors setup P m Q)
    (hf : ∀ a, SetsUp errors setup (Q a) (f a) R) : SetsUp errors setup P (m >>= f) R := by
  intro s t hclear ht
  refine Dialogue.obeys_bind (h s t hclear ht) ?_
  rintro ⟨r, s'⟩ t' (⟨e, rfl, hgiven⟩ | ⟨a, rfl, hclear', hQ⟩)
  · exact .done (Or.inl ⟨e, rfl, hgiven⟩)
  · exact hf a s' t' hclear' hQ

/-- A question that has its turn. The answer to it is the end of the setup, or the step goes on. -/
theorem setsUp_ask {q : Request} {f : q.Answer → SessionM α}
    (hturn : ∀ t, P t → Turn errors setup t q)
    (hf : ∀ answer, (∃ e, f answer = throw e ∧ (Exchange.setback? errors ⟨q, some answer⟩ = some e ∨
        Exchange.isKept ⟨q, some answer⟩ = false)) ∨
      (Exchange.setback? errors ⟨q, some answer⟩ = none ∧
        ∃ P', (∀ t, P t → P' (t ++ [⟨q, some answer⟩])) ∧ SetsUp errors setup P' (f answer) Q)) :
    SetsUp errors setup P (ask q >>= f) Q := by
  intro s t hclear ht
  refine .ask ⟨hclear, hturn t ht⟩ fun answer => ?_
  obtain ⟨e, he, hends⟩ | ⟨hnone, P', hP', hgoes⟩ := hf answer
  · change ((f answer) s).Obeys _ _ _
    rw [he]
    exact .done (Or.inl ⟨e, rfl, t, _, rfl, hends⟩)
  · refine hgoes s _ (fun x hx => ?_) (hP' t ht)
    rcases List.mem_append.1 hx with hx | hx
    · exact hclear x hx
    · rw [List.mem_singleton.1 hx, hnone]

end SessionM

namespace Session

variable {errors : ExpectedErrors} {setup : List SetupStatement}

/-- What has been said of the two things that a setup consists of. -/
def At (refreshed : List (Except OracleError Unit)) (ran : List (String × Except EngineError Unit))
    (t : List Exchange) : Prop :=
  refreshes t = refreshed ∧ executed t = ran

variable {refreshed : List (Except OracleError Unit)}
  {ran : List (String × Except EngineError Unit)} {t : List Exchange}

theorem At.concat (h : At refreshed ran t) (x : Exchange) :
    At (refreshed ++ refreshes [x]) (ran ++ executed [x]) (t ++ [x]) := by
  obtain ⟨rfl, rfl⟩ := h
  exact ⟨refreshes_append _ _, executed_append _ _⟩

/-- Whatever else is said makes no difference. -/
theorem At.aside (h : At refreshed ran t) {x : Exchange} (hrefreshed : refreshes [x] = [])
    (hran : executed [x] = []) : At refreshed ran (t ++ [x]) := by
  have hconcat := h.concat x
  rwa [hrefreshed, hran, List.append_nil, List.append_nil] at hconcat

/-- Noting a statement is no part of the setup. -/
theorem setsUp_recordQuery (sql : String) (hrefreshed : refreshed ≠ []) :
    (SessionM.recordQuery sql).SetsUp errors setup (At refreshed ran)
      fun _ => At refreshed ran := by
  have hturn : ∀ t, At refreshed ran t → refreshes t ≠ [] := by
    rintro t ⟨hrefreshes, -⟩
    rwa [hrefreshes]
  intro s
  change ∀ t, _ → _ → ((if s.logEachSelect = true then
    (do SessionM.ofIo (← SessionM.ask (.writeQuery sql)); SessionM.ofIo (← SessionM.ask .flush))
      else pure () : SessionM Unit) s).Obeys _ _ _
  split
  · refine SessionM.setsUp_ask hturn ?_ s
    rintro (cause | ⟨⟩)
    · exact Or.inl ⟨_, rfl, Or.inr rfl⟩
    refine Or.inr ⟨rfl, At refreshed ran, fun t ht => ht.aside rfl rfl, ?_⟩
    refine SessionM.setsUp_ask hturn ?_
    rintro (cause | ⟨⟩)
    · exact Or.inl ⟨_, rfl, Or.inr rfl⟩
    · refine Or.inr ⟨rfl, At refreshed ran, fun t ht => ht.aside rfl rfl, ?_⟩
      exact SessionM.setsUp_pure fun t ht => ht
  · exact SessionM.setsUp_pure (Q := fun _ => At refreshed ran) (fun t ht => ht) s

/-- **One statement of the setup**, when those before it have been run: it has its turn, and the
setup is over if the engine fails over it in a way that was not to be expected. -/
theorem setsUp_execute {done rest : List SetupStatement} {statement : SetupStatement}
    (hsetup : setup = done ++ statement :: rest) (hran : RanThrough errors done ran) :
    (execute errors statement.text).SetsUp errors setup (At [.ok ()] ran) fun succeeds t =>
      ∃ answer, errors.forgives answer = true ∧ succeeds = answer.isOk ∧
        At [.ok ()] (ran ++ [(statement.text, answer)]) t := by
  refine SessionM.setsUp_bind (setsUp_recordQuery _ (by simp)) fun _ => SessionM.setsUp_ask ?_ ?_
  · rintro t ⟨hrefreshes, rfl⟩
    exact ⟨hrefreshes, done, statement, rest, hsetup, rfl, hran⟩
  rintro (failure | ⟨⟩)
  · obtain ⟨hforgiven, reason, hclassify⟩ | ⟨hfatal, hclassify⟩ :=
      failure.classify_eq statement.text errors
    · refine Or.inr ⟨if_pos hforgiven, _, fun t ht => ht.concat _, ?_⟩
      simp only [hclassify]
      exact SessionM.setsUp_pure fun t ht => ⟨_, hforgiven, rfl, ht⟩
    · refine Or.inl ⟨_, ?_, Or.inl (if_neg (by rw [hfatal]; simp))⟩
      simp only [hclassify]
  · refine Or.inr ⟨rfl, _, fun t ht => ht.concat _, ?_⟩
    refine SessionM.setsUp_bind (SessionM.setsUp_modify _) fun _ => ?_
    exact SessionM.setsUp_pure fun t ht => ⟨.ok (), rfl, rfl, ht⟩

/-- **The statements of the setup**, from any of them on. -/
theorem setsUp_setUp {done rest : List SetupStatement} (hsetup : setup = done ++ rest)
    (hran : RanThrough errors done ran) :
    (setUp errors rest).SetsUp errors setup (At [.ok ()] ran) fun changed t =>
      ∃ later, RanThrough errors rest later ∧ changed = changesSchema rest later ∧
        At [.ok ()] (ran ++ later) t := by
  induction rest generalizing done ran with
  | nil =>
    refine SessionM.setsUp_pure fun t ht => ⟨[], .nil, rfl, ?_⟩
    rwa [List.append_nil]
  | cons statement rest ih =>
    refine SessionM.setsUp_bind (setsUp_execute hsetup hran) fun succeeds => ?_
    rintro s t hclear ⟨answer, hforgiven, rfl, ht⟩
    have hrest := ih (by rw [hsetup, List.append_assoc, List.singleton_append])
      (hran.concat statement hforgiven)
    refine SessionM.setsUp_bind hrest (fun changed => SessionM.setsUp_pure ?_) s t hclear ht
    rintro t' ⟨later, hlater, rfl, ht'⟩
    refine ⟨(statement.text, answer) :: later, hlater.cons statement hforgiven, ?_, ?_⟩
    · rw [changesSchema_cons, Bool.and_comm]
    · rwa [List.append_assoc, List.singleton_append] at ht'

/-- **The preparation of a session sets it up.** -/
theorem setsUp_prepare (setup : List SetupStatement) :
    (prepare errors setup).SetsUp errors setup (At [] []) fun _ => IsSetUp errors setup := by
  refine SessionM.setsUp_ask (fun t ht => ht) fun version => ?_
  refine Or.inr ⟨rfl, At [] [], fun t ht => ht.aside rfl rfl, ?_⟩
  refine SessionM.setsUp_bind (SessionM.setsUp_modify _) fun _ => ?_
  refine SessionM.setsUp_ask (fun t ht => Or.inl ht) ?_
  rintro (e | ⟨⟩)
  · exact Or.inl ⟨e, rfl, Or.inl rfl⟩
  refine Or.inr ⟨rfl, At [.ok ()] [], fun t ht => ht.concat _, ?_⟩
  refine SessionM.setsUp_bind (Q := fun _ => At [.ok ()] []) ?_ fun _ => ?_
  · exact SessionM.setsUp_pure fun t ht => ht
  refine SessionM.setsUp_bind (setsUp_setUp (List.nil_append _).symm .nil) ?_
  rintro changed s t hclear ⟨ran, hran, rfl, ht⟩
  -- whether the schema is read again is known now, with the answers to all statements
  cases hchanged : changesSchema setup ran with
  | true =>
    refine SessionM.setsUp_ask (P := At [.ok ()] ran) ?_ ?_ s t hclear ht
    · rintro t ⟨hrefreshes, rfl⟩
      exact Or.inr ⟨hrefreshes, hran, hchanged⟩
    · rintro (e | ⟨⟩)
      · exact Or.inl ⟨e, rfl, Or.inl rfl⟩
      refine Or.inr ⟨rfl, _, fun t ht => ht.concat _, SessionM.setsUp_pure ?_⟩
      rintro t ⟨hrefreshes, hexecuted⟩
      obtain rfl : executed t = ran := hexecuted.trans (List.append_nil ran)
      exact ⟨hran, by rw [if_pos hchanged]; exact hrefreshes⟩
  | false =>
    refine SessionM.setsUp_pure (P := At [.ok ()] ran) ?_ s t hclear ht
    rintro t ⟨hrefreshes, rfl⟩
    exact ⟨hran, by rw [hrefreshes, if_neg (by rw [hchanged]; simp)]⟩

end Session

/-! ### Behind the setup -/

/-- A request that no setup consists of. -/
def Request.IsNoSetup : Request → Prop
  | execute _ | version | refreshSchema | openLog _ _ => False
  | query _ | baseSelect | predicate | groupPredicate _ | aggregate => True
  | writeQuery _ | flush | writeDiagnostic _ | writeReport _ _ _ => True

theorem Request.InRound.isNoSetup {r : Request} (h : r.InRound) : r.IsNoSetup := by
  cases r with
  | execute | version | refreshSchema | openLog | writeReport => exact h.elim
  | _ => exact trivial

theorem Request.InClosing.isNoSetup {options : SessionOptions} {r : Request}
    (h : r.InClosing options) : r.IsNoSetup := by
  obtain ⟨directory, report, -, rfl⟩ := h
  exact trivial

namespace Session

variable {errors : ExpectedErrors} {setup : List SetupStatement} {t : List Exchange}

/-- The setup has met no setback, and is over. -/
def Ready (errors : ExpectedErrors) (setup : List SetupStatement) (t : List Exchange) : Prop :=
  (∀ x ∈ t, x.setback? errors = none) ∧ IsSetUp errors setup t

/-- **What is no setup may be asked behind it**, and leaves it as it is. -/
theorem Ready.step (h : Ready errors setup t) {r : Request} (hr : r.IsNoSetup) :
    MayAsk errors setup t r ∧ ∀ answer, Ready errors setup (t ++ [⟨r, some answer⟩]) := by
  obtain ⟨hclear, hset⟩ := h
  have hrefreshes : refreshes t ≠ [] := by
    rw [hset.refreshed]
    split <;> simp
  have hturn : Turn errors setup t r := by
    cases r with
    | execute | version | refreshSchema | openLog => exact hr.elim
    | writeQuery | flush => exact hrefreshes
    | _ => exact hset
  refine ⟨⟨hclear, hturn⟩, fun answer => ?_⟩
  obtain ⟨hnone, hrefreshed, hran⟩ : Exchange.setback? errors ⟨r, some answer⟩ = none ∧
      refreshes [⟨r, some answer⟩] = [] ∧ executed [⟨r, some answer⟩] = [] := by
    cases r with
    | execute | version | refreshSchema | openLog => exact hr.elim
    | _ => exact ⟨rfl, rfl, rfl⟩
  obtain ⟨hrefreshes', hexecuted'⟩ := At.aside ⟨rfl, rfl⟩ hrefreshed hran
  refine ⟨List.forall_mem_append.2 ⟨hclear, by simpa using hnone⟩, ?_, ?_⟩
  · rw [hexecuted']
    exact hset.ran
  · rw [hrefreshes', hexecuted']
    exact hset.refreshed

/-! ### Sessions -/

/-- How a session comes to a result: it gives its setup up in an error, or the setup is over. -/
def Finishes {α : Type} (errors : ExpectedErrors) (setup : List SetupStatement)
    (result : Except OracleError α) (t : List Exchange) : Prop :=
  (∃ e, result = .error e ∧ GivenUp errors t e) ∨ Ready errors setup t

theorem obeys_begun (options : SessionOptions) (dialect : Dialect)
    (hclear : ∀ x ∈ t, x.setback? errors = none) (ht : At [] [] t) :
    (begun options dialect setup errors).Obeys (.ofHistory (MayAsk errors setup))
      (Finishes errors setup) t := by
  refine Dialogue.obeys_bind (setsUp_prepare setup _ t hclear ht) ?_
  rintro ⟨r, s⟩ t' (⟨e, rfl, hgiven⟩ | ⟨⟨⟩, rfl, hready⟩)
  · exact .done (Or.inl ⟨e, rfl, hgiven⟩)
  dsimp only
  split
  · exact .done (Or.inr hready)
  · next rotation _ =>
    have hasks := (asks_playPrepared options rotation s).mono fun r (hr : _ ∨ _) =>
      hr.elim Request.InRound.isNoSetup Request.InClosing.isNoSetup
    have hobeys := hasks.obeys (w := .ofHistory (MayAsk errors setup)) (I := Ready errors setup)
      (fun _ _ ht hr => ht.step hr) hready
    exact Dialogue.obeys_bind hobeys fun _ _ hready' => .done (Or.inr hready')

/-- **A session asks in turn.** -/
theorem obeys_turns [PatternReader] (options : SessionOptions) (dialect : Dialect)
    (herrors : dialect.errors = .ok errors) :
    (play options dialect setup).Obeys (.ofHistory (MayAsk errors setup))
      (Finishes errors setup) [] := by
  rw [play_eq herrors, openLog]
  split
  · exact obeys_begun options dialect (by simp) ⟨rfl, rfl⟩
  · refine .ask ⟨by simp, rfl, rfl⟩ ?_
    rintro (e | ⟨⟩)
    · exact .done (Or.inl ⟨e, rfl, [], _, rfl, Or.inr rfl⟩)
    · exact obeys_begun options dialect (by simp [Watch.ofHistory, Exchange.setback?]) ⟨rfl, rfl⟩

/-! ### Transcripts -/

theorem executions_eq (hanswered : ∀ x ∈ t, x.answer.isSome) :
    executions t = (executed t).map Prod.fst := by
  rw [executions, executed, List.map_filterMap]
  refine List.filterMap_congr fun x hx => ?_
  obtain ⟨r, _ | answer⟩ := x
  · simpa using hanswered _ hx
  · cases r <;> rfl

/-- What has its turn keeps the statements in order. -/
theorem executions_concat_inOrder {r : Request} (h : MayAsk errors setup t r)
    (hanswered : ∀ x ∈ t, x.answer.isSome)
    (hbegins : executions t <+: setup.map SetupStatement.text) (answer : Option r.Answer) :
    executions (t ++ [⟨r, answer⟩]) <+: setup.map SetupStatement.text := by
  rw [executions_append]
  cases r with
  | execute sql =>
    obtain ⟨-, -, done, statement, rest, rfl, rfl, hran⟩ := h
    rw [executions_eq hanswered, hran.texts]
    exact ⟨rest.map SetupStatement.text, by simp [executions, Request.execution?]⟩
  | _ => simpa [executions, Request.execution?] using hbegins

/-- **The statements of the setup are run in order**, each at most once. -/
theorem executions_inOrder {last : Option (List Exchange)} {t' : List Exchange}
    (h : (Watch.ofHistory (MayAsk errors setup)).Passes t t' last)
    (hanswered : ∀ x ∈ t, x.answer.isSome)
    (hbegins : executions t <+: setup.map SetupStatement.text) :
    executions (t ++ t') <+: setup.map SetupStatement.text := by
  induction h with
  | nil => rwa [List.append_nil]
  | breakdown h => exact executions_concat_inOrder h hanswered hbegins none
  | @cons t r answer t' last h _ ih =>
    have hlater := ih (List.forall_mem_append.2 ⟨hanswered, by simp⟩)
      (executions_concat_inOrder h hanswered hbegins (some answer))
    rwa [Watch.ofHistory, List.append_assoc, List.singleton_append] at hlater

/-- A setback is the last thing that is said. -/
theorem eq_nil_of_setback {before after : List Exchange} {x : Exchange} {e : OracleError}
    {last : Option (List Exchange)}
    (h : (Watch.ofHistory (MayAsk errors setup)).Passes [] (before ++ x :: after) last)
    (hx : x.setback? errors = some e) : after = [] ∧ last = some (before ++ [x]) := by
  cases after with
  | nil =>
    obtain ⟨earlier, hbefore, hrest⟩ := h.split
    obtain rfl : earlier = before := hbefore.eq_append
    cases hrest with
    | @breakdown _ r =>
      rw [Exchange.setback?_of_breakdown] at hx
      cases hx
    | cons _ hrest =>
      cases hrest
      exact ⟨rfl, rfl⟩
  | cons y after =>
    -- nothing may be asked behind it
    rw [List.append_cons] at h
    obtain ⟨earlier, hbefore, hrest⟩ := h.split
    obtain rfl : earlier = before ++ [x] := hbefore.eq_append
    obtain ⟨hclear, -⟩ := hrest.allows
    rw [hclear x (by simp)] at hx
    cases hx

/-- The log is no part of a setback. -/
theorem isKept_of_setback {x : Exchange} {e : OracleError} (h : x.setback? errors = some e) :
    x.isKept = true := by
  obtain ⟨r, _ | answer⟩ := x
  · rw [Exchange.setback?_of_breakdown] at h
    cases h
  · cases r with
    | refreshSchema | execute => rfl
    | _ => cases h

theorem eq_of_setback {before : List Exchange} {x : Exchange} {e e' : OracleError}
    (h : GivenUp errors (before ++ [x]) e') (hx : x.setback? errors = some e) : e' = e := by
  obtain ⟨before', x', heq, hends⟩ := h
  obtain ⟨rfl, rfl⟩ : before = before' ∧ x = x' := by simpa using heq
  rcases hends with he | hlost
  · exact Option.some.inj (he.symm.trans hx)
  · rw [isKept_of_setback hx] at hlost
    cases hlost

/-- **How a session is set up.** -/
theorem setting_up_of_play [PatternReader] {σ : Type} (h : Handler σ) (options : SessionOptions)
    (dialect : Dialect) (setup : List SetupStatement) (w : σ) (errors : ExpectedErrors)
    (herrors : dialect.errors = .ok errors) :
    let d := play options dialect setup
    let t := d.transcript h w
    executions t <+: setup.map SetupStatement.text ∧
    (∀ before x after, t = before ++ x :: after → MayAsk errors setup before x.request ∧
      ∀ e, x.setback? errors = some e → after = [] ∧ ∃ w', d.run h w = (some (.error e), w')) ∧
    ∀ result w', d.run h w = (some result, w') →
      (∀ x ∈ t, x.isKept = true ∧ x.setback? errors = none) → IsSetUp errors setup t := by
  intro d t
  have hobeys : d.Obeys (.ofHistory (MayAsk errors setup)) (Finishes errors setup) [] :=
    obeys_turns options dialect herrors
  obtain ⟨last, hpasses, hresult⟩ := hobeys.passes h w
  refine ⟨executions_inOrder hpasses (by simp) List.nil_prefix, ?_, ?_⟩
  · intro before x after ht
    change (Watch.ofHistory (MayAsk errors setup)).Passes [] t last at hpasses
    rw [ht] at hpasses
    obtain ⟨earlier, hbefore, hrest⟩ := hpasses.split
    obtain rfl : earlier = before := hbefore.eq_append
    refine ⟨hrest.allows, fun e he => ?_⟩
    obtain ⟨rfl, rfl⟩ := eq_nil_of_setback hpasses he
    obtain ⟨result, w', hrun, ⟨e', rfl, hgiven⟩ | ⟨hclear, -⟩⟩ := hresult _ rfl
    · obtain rfl := eq_of_setback hgiven he
      exact ⟨rfl, w', hrun⟩
    · rw [hclear x (by simp)] at he
      cases he
  · intro result w' hrun hkept
    obtain ⟨t', hpasses', hfinishes⟩ := hobeys.passes_of_run hrun
    obtain rfl : t' = t := hpasses'.eq_append
    obtain ⟨e, -, before, x, ht, hends⟩ | ⟨-, hset⟩ := hfinishes
    · obtain ⟨hkeeps, hnone⟩ := hkept x (by rw [ht]; simp)
      rcases hends with he | hlost
      · rw [hnone] at he
        cases he
      · rw [hkeeps] at hlost
        cases hlost
    · exact hset

section

open scoped Pattern

/-- A statement that may change the schema cannot be converted, and one that may not succeeds: the
schema is read once. If a third statement fails without a message, the session ends with it. -/
theorem setting_up_of_silent_failure :
    let x : Offer := ⟨{ fetch := ["t.a"], tables := ["t"] }, "t.b > 0", default⟩
    let options : SessionOptions := { rounds := 1, oracles := [.whereClause] }
    let setup : List SetupStatement := [⟨"ALTER TABLE t ADD c", true⟩, ⟨"ANALYZE", false⟩]
    let moody : Connection (List EngineAnswer) :=
      { Connection.scripted with
        execute := fun sql answers =>
          (some (if sql = "ANALYZE" then .ok () else if sql = "VACUUM" then .error .silent
            else .error (.conversion "no number")), answers) }
    let h := World.handler moody x.source MemoryLog.journal
    let w : World (List EngineAnswer) Unit MemoryLog := ⟨[.ok (.rows []), .ok (.rows [])], (), {}⟩
    let d := fun setup => play options .strict setup
    Dialect.strict.errors = .ok .empty ∧
      (∃ result w', (d setup).run h w = (some result, w') ∧
        IsSetUp .empty setup ((d setup).transcript h w) ∧
        refreshes ((d setup).transcript h w) = [.ok ()]) ∧
      let longer := setup ++ [⟨"VACUUM", false⟩]
      executions ((d longer).transcript h w) = longer.map SetupStatement.text ∧
      ∃ w', (d longer).run h w = (some (.error (.unexpectedEngineError "VACUUM" none)), w') := by
  intro x options setup moody h w d
  obtain ⟨-, -, hset⟩ := setting_up_of_play h options .strict setup w .empty rfl
  have hclear : ∀ x ∈ (d setup).transcript h w,
      x.isKept = true ∧ x.setback? ExpectedErrors.empty = none := by decide
  have hrun : ∃ result w', (d setup).run h w = (some result, w') := ⟨_, _, rfl⟩
  obtain ⟨result, w', hrun⟩ := hrun
  refine ⟨rfl, ⟨result, w', hrun, hset result w' hrun hclear, by decide⟩, by decide, ?_⟩
  obtain ⟨-, hturns, -⟩ := setting_up_of_play h options .strict (setup ++ [⟨"VACUUM", false⟩]) w
    .empty rfl
  have hlast : ((d (setup ++ [⟨"VACUUM", false⟩])).transcript h w).getLast?.bind
      (Exchange.setback? .empty) = some (.unexpectedEngineError "VACUUM" none) := by decide
  obtain ⟨e, he, hsetback⟩ := Option.bind_eq_some_iff.1 hlast
  obtain ⟨before, ht⟩ := List.getLast?_eq_some_iff.1 he
  exact ((hturns before e [] ht).2 _ hsetback).2

end

end Session

end Trisect
