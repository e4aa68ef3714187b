import Trisect.Proofs.Watch
import Trisect.Session.Run

/-!
# A statement is noted before it is sent

A session that notes every statement does so in three steps: the statement is written to the log,
the log is flushed, and only then is the statement sent. `Trisect.Noting.watch` is the watch that
lets nothing come in between, and nothing at all come after a failure of the log; for a session that
notes nothing it forbids the log's part of it altogether. It also counts the rounds, each of which
begins with asking for a base query.

A step of a session **notes first** (`Trisect.Session.NotesFirst`) if it obeys that watch, from a
state in which no statement is under way to another one, and if a failure of the log on the way is
what it ends in. The rules of this file show so for all that a session does, up to its rounds
(`Trisect.Session.obeys_playRounds`) and to the session as a whole (`Trisect.Session.obeys_play`).
-/

namespace Trisect

/-! ### Notes and statements in a transcript -/

namespace Request

/-- The statement that is sent to the engine. -/
def statement? : Request → Option String
  | query sql => some sql
  | execute sql => some sql
  | _ => none

/-- The statement that is written to the log. -/
def note? : Request → Option String
  | writeQuery sql => some sql
  | _ => none

/-- Whether a request is part of noting a statement. -/
def IsNoting : Request → Prop
  | writeQuery _ | flush => True
  | _ => False

end Request

namespace Exchange

/-- Whether the log took what it was given, if an exchange is part of noting a statement. -/
def isNoted : Exchange → Bool
  | ⟨.writeQuery _, some (.ok ())⟩ => true
  | ⟨.flush, some (.ok ())⟩ => true
  | ⟨.writeQuery _, _⟩ => false
  | ⟨.flush, _⟩ => false
  | _ => true

/-- How the log failed, if an exchange is part of noting a statement and that failed. -/
def logFailure? : Exchange → Option IoError
  | ⟨.writeQuery _, some (.error cause)⟩ => some cause
  | ⟨.flush, some (.error cause)⟩ => some cause
  | _ => none

end Exchange

/-- The statements that were sent, in order, whether they were answered or not. -/
def statementsOf (t : List Exchange) : List String := t.filterMap fun e => e.request.statement?

/-- The statements that were written to the log, in order. -/
def notesOf (t : List Exchange) : List String := t.filterMap fun e => e.request.note?

theorem statementsOf_append (t t' : List Exchange) :
    statementsOf (t ++ t') = statementsOf t ++ statementsOf t' :=
  List.filterMap_append

theorem notesOf_append (t t' : List Exchange) : notesOf (t ++ t') = notesOf t ++ notesOf t' :=
  List.filterMap_append

/-- How far the noting of a statement has come. -/
inductive Noting.Phase
  /-- No statement is under way. -/
  | idle
  /-- The statement is written to the log. -/
  | written (sql : String)
  /-- The statement is written, and out of danger. -/
  | flushed (sql : String)
  /-- The log has failed. -/
  | failed (cause : IoError)

/-- What there is to watch about notes: how many rounds have begun, and how far the noting of a
statement has come. -/
structure Noting where
  rounds : Nat
  phase : Noting.Phase

namespace Noting

/-- What a flush makes of a phase. -/
def Phase.flush : Phase → Phase
  | written sql => flushed sql
  | phase => phase

/-- The phase in which a statement may be sent. -/
def Phase.ready (notes : Bool) (sql : String) : Phase := if notes then flushed sql else idle

/-- What may be asked next, depending on whether statements are noted at all. -/
def Allows (notes : Bool) (n : Noting) : Request → Prop
  | .writeQuery _ => notes = true ∧ n.phase = .idle
  | .flush => notes = true ∧ ∃ sql, n.phase = .written sql
  | .query sql => n.phase = .ready notes sql
  | .execute sql => n.phase = .ready notes sql
  | _ => n.phase = .idle

/-- What an answer makes of the noting. -/
def after (n : Noting) : (r : Request) → r.Answer → Noting
  | .writeQuery sql, .ok () => ⟨n.rounds, .written sql⟩
  | .writeQuery _, .error cause => ⟨n.rounds, .failed cause⟩
  | .flush, .ok () => ⟨n.rounds, n.phase.flush⟩
  | .flush, .error cause => ⟨n.rounds, .failed cause⟩
  | .query _, _ => ⟨n.rounds, .idle⟩
  | .execute _, _ => ⟨n.rounds, .idle⟩
  | .baseSelect, _ => ⟨n.rounds + 1, n.phase⟩
  | _, _ => n

/-- **The watch over notes.** -/
def watch (notes : Bool) : Watch Noting := ⟨Allows notes, after⟩

end Noting

/-- A request that neither concerns a statement nor begins a round. -/
def Request.IsAside : Request → Prop
  | query _ | execute _ | writeQuery _ | flush | baseSelect => False
  | version | refreshSchema | predicate | groupPredicate _ | aggregate => True
  | openLog _ _ | writeDiagnostic _ | writeReport _ _ _ => True

variable {α β : Type} {notes : Bool} {n n' : Nat}

theorem Noting.allows_of_isAside {r : Request} (h : r.IsAside) :
    (watch notes).allows ⟨n, .idle⟩ r := by
  cases r with
  | query | execute | writeQuery | flush | baseSelect => exact h.elim
  | _ => exact rfl

theorem Noting.next_of_isAside {r : Request} (h : r.IsAside) (w : Noting) (answer : r.Answer) :
    (watch notes).next w r answer = w := by
  cases r with
  | query | execute | writeQuery | flush | baseSelect => exact h.elim
  | _ => rfl

/-! ### Steps of a session -/

namespace Session

variable {Fails Fails' : IoError → α → Prop} {Fails₁ : IoError → β → Prop}

/-- **A step notes first**: it obeys the watch between two states without a statement under way, the
second after so many rounds, unless the log fails; then its result says so. -/
def NotesFirst (notes : Bool) (Fails : IoError → α → Prop) (n n' : Nat)
    (m : StateT Session Dialogue α) : Prop :=
  ∀ s : Session, s.logEachSelect = notes →
    (m s).Obeys (Noting.watch notes)
      (fun x w => x.2.logEachSelect = notes ∧
        (w = ⟨n', .idle⟩ ∨ ∃ cause, w = ⟨n', .failed cause⟩ ∧ Fails cause x.1)) ⟨n, .idle⟩

theorem notesFirst_pure (a : α) : NotesFirst notes Fails n n (pure a) :=
  fun _ hs => .done ⟨hs, .inl rfl⟩

/-- When the log fails in the first of two steps, the second must not ask for anything any more. -/
theorem notesFirst_bind {m : StateT Session Dialogue α} {f : α → StateT Session Dialogue β}
    (h : NotesFirst notes Fails n n' m) (hf : ∀ a, NotesFirst notes Fails₁ n' n' (f a))
    (hfailed : ∀ cause a, Fails cause a → ∃ b, f a = pure b ∧ Fails₁ cause b) :
    NotesFirst notes Fails₁ n n' (m >>= f) := by
  intro s hs
  refine Dialogue.obeys_bind (h s hs) ?_
  rintro ⟨a, s'⟩ w ⟨hs', rfl | ⟨cause, rfl, ha⟩⟩
  · exact hf a s' hs'
  · -- the log has failed, so that the second step is over before it asks anything
    obtain ⟨b, hb, hfails⟩ := hfailed cause a ha
    dsimp only
    rw [hb]
    exact .done ⟨hs', .inr ⟨cause, rfl, hfails⟩⟩

end Session

namespace SessionM

/-- That a failure of the log is what a step ends in. -/
def EndsIn (cause : IoError) (r : Except OracleError α) : Prop := r = .error (.io cause)

/-- A step that may end in an error notes first, and a failure of the log is such an error. -/
def NotesFirst (notes : Bool) (n n' : Nat) (m : SessionM α) : Prop :=
  Session.NotesFirst notes EndsIn n n' m.run

theorem notesFirst_pure (a : α) : NotesFirst notes n n (pure a) := Session.notesFirst_pure _

theorem notesFirst_throw (e : OracleError) : NotesFirst notes n n (throw e : SessionM α) :=
  Session.notesFirst_pure _

theorem notesFirst_bind {m : SessionM α} {f : α → SessionM β} (h : NotesFirst notes n n' m)
    (hf : ∀ a, NotesFirst notes n' n' (f a)) : NotesFirst notes n n' (m >>= f) := by
  refine Session.notesFirst_bind h ?_ ?_
  · rintro (e | a)
    · exact Session.notesFirst_pure _
    · exact hf a
  · rintro cause _ rfl
    exact ⟨.error (.io cause), rfl, rfl⟩

theorem notesFirst_ofExcept (x : Except OracleError α) : NotesFirst notes n n (ofExcept x) := by
  cases x with
  | ok a => exact notesFirst_pure a
  | error e => exact notesFirst_throw e

theorem notesFirst_modify {f : Session → Session}
    (hf : ∀ s, (f s).logEachSelect = s.logEachSelect) :
    NotesFirst notes n n (modify f : SessionM PUnit) :=
  fun s hs => .done ⟨(hf s).trans hs, .inl rfl⟩

theorem notesFirst_ask {r : Request} (h : r.IsAside) : NotesFirst notes n n (ask r) := by
  refine fun s hs => .ask (Noting.allows_of_isAside h) fun answer => ?_
  rw [Noting.next_of_isAside h]
  exact .done ⟨hs, .inl rfl⟩

/-- Asking for something that may be refused. -/
theorem notesFirst_offered {r : Request} (x : r.Answer → Except OracleError α)
    {f : α → SessionM β} (h : r.IsAside) (hf : ∀ a, NotesFirst notes n n (f a)) :
    NotesFirst notes n n (ask r >>= fun answer => ofExcept (x answer) >>= f) :=
  notesFirst_bind (notesFirst_ask h) fun answer =>
    notesFirst_bind (notesFirst_ofExcept (x answer)) hf

/-- After a step without an error of its own there is always a result to go on with. -/
theorem run_lift_bind (m : StateT Session Dialogue α) (f : α → SessionM β) :
    ((liftM m : SessionM α) >>= f).run = m >>= fun a => (f a).run := by
  funext s
  change ((m s).bind _).bind _ = (m s).bind _
  rw [Dialogue.bind_assoc]
  rfl

/-- A step without an error of its own, of whose result it is known what a failure of the log makes
it. -/
theorem notesFirst_lift_bind {Fails : IoError → α → Prop} {m : StateT Session Dialogue α}
    {f : α → SessionM β} (h : Session.NotesFirst notes Fails n n' m)
    (hf : ∀ a, NotesFirst notes n' n' (f a))
    (hfailed : ∀ cause a, Fails cause a → f a = throw (.io cause)) :
    NotesFirst notes n n' ((liftM m : SessionM α) >>= f) := by
  rw [NotesFirst, run_lift_bind]
  refine Session.notesFirst_bind h hf fun cause a ha => ?_
  exact ⟨.error (.io cause), by rw [hfailed cause a ha]; rfl, rfl⟩

/-! ### Statements -/

/-- **Noting a statement** either makes it ready to be sent or ends in the failure of the log. -/
theorem obeys_recordQuery (sql : String) {s : Session} (hs : s.logEachSelect = notes) :
    (recordQuery sql s).Obeys (Noting.watch notes)
      (fun x w => x.2 = s ∧ ((x.1 = .ok () ∧ w = ⟨n, .ready notes sql⟩) ∨
        ∃ cause, x.1 = .error (.io cause) ∧ w = ⟨n, .failed cause⟩)) ⟨n, .idle⟩ := by
  change ((if s.logEachSelect = true then
    (do ofIo (← ask (.writeQuery sql)); ofIo (← ask .flush)) else pure () : SessionM Unit) s).Obeys
      _ _ _
  rw [hs]
  cases notes with
  | false => exact .done ⟨rfl, .inl ⟨rfl, rfl⟩⟩
  | true =>
    refine .ask ⟨rfl, rfl⟩ ?_
    rintro (cause | ⟨⟩)
    · exact .done ⟨rfl, .inr ⟨cause, rfl, rfl⟩⟩
    · refine .ask ⟨rfl, sql, rfl⟩ ?_
      rintro (cause | ⟨⟩)
      · exact .done ⟨rfl, .inr ⟨cause, rfl, rfl⟩⟩
      · exact .done ⟨rfl, .inl ⟨rfl, rfl⟩⟩

/-- A statement that is noted and then sent. -/
theorem notesFirst_send {sql : String} {r : Request} (hr : r = .query sql ∨ r = .execute sql)
    {f : r.Answer → SessionM α} (hf : ∀ answer, NotesFirst notes n n (f answer)) :
    NotesFirst notes n n (recordQuery sql >>= fun _ => ask r >>= f) := by
  intro s hs
  refine Dialogue.obeys_bind (obeys_recordQuery (n := n) sql hs) ?_
  rintro ⟨x, s'⟩ w ⟨rfl, ⟨rfl, rfl⟩ | ⟨cause, rfl, rfl⟩⟩
  · rcases hr with rfl | rfl
    · exact .ask rfl fun answer => hf answer s' hs
    · exact .ask rfl fun answer => hf answer s' hs
  · exact .done ⟨hs, .inr ⟨cause, rfl, rfl⟩⟩

end SessionM

/-! ### Rounds -/

section Rounds

variable {errors : ExpectedErrors}

theorem notesFirst_collect (sql : String) :
    (collect errors sql).NotesFirst notes n n :=
  SessionM.notesFirst_send (r := .query sql) (.inl rfl) fun _ => SessionM.notesFirst_ofExcept _

/-- That a failure of the log is what came of putting parts together. -/
def CombinedResult.EndsIn (cause : IoError) (result : CombinedResult) : Prop :=
  result.cells = .error (.io cause)

theorem notesFirst_concatenate (queries : List String) :
    Session.NotesFirst notes CombinedResult.EndsIn n n (concatenate errors queries) := by
  induction queries with
  | nil => exact Session.notesFirst_pure _
  | cons q qs ih =>
    refine Session.notesFirst_bind (notesFirst_collect q) ?_ ?_
    · rintro (e | cells)
      · exact Session.notesFirst_pure _
      · refine Session.notesFirst_bind ih (fun _ => Session.notesFirst_pure _) ?_
        intro cause rest hrest
        refine ⟨_, rfl, ?_⟩
        rw [CombinedResult.EndsIn] at hrest ⊢
        rw [hrest]
        rfl
    · rintro cause _ rfl
      exact ⟨_, rfl, rfl⟩

theorem notesFirst_combine (dialect : Dialect) (q : CombinedQuery) :
    Session.NotesFirst notes CombinedResult.EndsIn n n (combine dialect errors q) := by
  have hsingle : ∀ text,
      Session.NotesFirst notes CombinedResult.EndsIn n n (combineAs errors text) := by
    intro text
    refine Session.notesFirst_bind (notesFirst_collect text)
      (fun _ => Session.notesFirst_pure _) ?_
    rintro cause _ rfl
    exact ⟨_, rfl, rfl⟩
  rw [combine]
  split
  · exact hsingle _
  · exact notesFirst_concatenate _
  · exact hsingle _
  · exact Session.notesFirst_pure _

theorem notesFirst_assertEqual (whole : String) (reconstructed : List String)
    (first second : List Cell) :
    (assertEqual whole reconstructed first second).NotesFirst notes n n := by
  rw [assertEqual]
  split
  · exact SessionM.notesFirst_pure _
  · refine SessionM.notesFirst_bind
      (SessionM.notesFirst_ask (r := .writeDiagnostic _) trivial) fun _ => ?_
    exact SessionM.notesFirst_bind (SessionM.notesFirst_modify fun _ => rfl)
      fun _ => SessionM.notesFirst_throw _

namespace Oracle

variable (o : Oracle)

theorem notesFirst_compare (whole : String) (reconstructed : List String)
    (first second : List Cell) :
    (o.compare whole reconstructed first second).NotesFirst notes n n := by
  rw [compare]
  split
  · exact notesFirst_assertEqual _ _ _ _
  · exact notesFirst_assertEqual _ _ _ _

theorem notesFirst_checkParts (base : Select) (condition : String) :
    (o.checkParts base condition).NotesFirst notes n n := by
  refine SessionM.notesFirst_bind (notesFirst_collect _) fun first => ?_
  refine SessionM.notesFirst_lift_bind (notesFirst_combine _ _) ?_ ?_
  · intro second
    exact SessionM.notesFirst_bind (SessionM.notesFirst_ofExcept _)
      fun _ => o.notesFirst_compare _ _ _ _
  · intro cause second hsecond
    rw [CombinedResult.EndsIn] at hsecond
    rw [hsecond]
    rfl

theorem notesFirst_checkAggregate (base : Select) (f : AggregateFn) (argument condition : String) :
    (o.checkAggregate base f argument condition).NotesFirst notes n n := by
  refine SessionM.notesFirst_bind (notesFirst_collect _) fun first => ?_
  refine SessionM.notesFirst_bind (notesFirst_collect _) fun second => ?_
  split
  · exact SessionM.notesFirst_pure _
  · exact o.notesFirst_compare _ _ _ _

/-- Asking for a base query begins a round. -/
theorem notesFirst_askBase (k : OracleKind) : (askBase k).NotesFirst notes n (n + 1) := by
  refine SessionM.notesFirst_bind ?_ fun answer => ?_
  · exact fun s hs => .ask rfl fun answer => .done ⟨hs, .inl rfl⟩
  · exact SessionM.notesFirst_bind (SessionM.notesFirst_ofExcept answer)
      fun _ => SessionM.notesFirst_pure _

theorem notesFirst_check : o.check.NotesFirst notes n (n + 1) := by
  refine SessionM.notesFirst_bind (notesFirst_askBase _) fun base => ?_
  split
  · refine SessionM.notesFirst_offered (r := .aggregate) id trivial fun x => ?_
    exact SessionM.notesFirst_offered (r := .predicate) id trivial fun _ =>
      o.notesFirst_checkAggregate _ _ _ _
  · exact SessionM.notesFirst_offered (r := .groupPredicate _) id trivial
      fun _ => o.notesFirst_checkParts _ _
  · exact SessionM.notesFirst_offered (r := .predicate) id trivial
      fun _ => o.notesFirst_checkParts _ _

/-- **A round notes first**, and a failure of the log makes it a failed one. -/
theorem notesFirst_runRound :
    Session.NotesFirst notes (fun cause outcome => outcome = .failed (.io cause)) n (n + 1)
      o.runRound := by
  refine Session.notesFirst_bind o.notesFirst_check (fun _ => Session.notesFirst_pure _) ?_
  rintro cause _ rfl
  exact ⟨_, rfl, rfl⟩

end Oracle

end Rounds

/-! ### Sessions -/

namespace Session

variable {errors : ExpectedErrors}

theorem notesFirst_execute (sql : String) : (execute errors sql).NotesFirst notes n n := by
  refine SessionM.notesFirst_send (r := .execute sql) (.inr rfl) ?_
  rintro (failure | ⟨⟩)
  · dsimp only
    split
    · exact SessionM.notesFirst_pure _
    · exact SessionM.notesFirst_throw _
  · exact SessionM.notesFirst_bind (SessionM.notesFirst_modify fun _ => rfl)
      fun _ => SessionM.notesFirst_pure _

theorem notesFirst_setUp (setup : List SetupStatement) :
    (setUp errors setup).NotesFirst notes n n := by
  induction setup with
  | nil => exact SessionM.notesFirst_pure _
  | cons statement rest ih =>
    refine SessionM.notesFirst_bind (notesFirst_execute _) fun _ => ?_
    exact SessionM.notesFirst_bind ih fun _ => SessionM.notesFirst_pure _

theorem notesFirst_prepare (setup : List SetupStatement) :
    (prepare errors setup).NotesFirst notes n n := by
  refine SessionM.notesFirst_bind (SessionM.notesFirst_ask (r := .version) trivial) fun _ => ?_
  refine SessionM.notesFirst_bind (SessionM.notesFirst_modify fun _ => rfl) fun _ => ?_
  refine SessionM.notesFirst_offered (r := .refreshSchema) id trivial fun _ => ?_
  refine SessionM.notesFirst_bind (notesFirst_setUp setup) fun changed => ?_
  split
  · exact SessionM.notesFirst_bind (SessionM.notesFirst_ask (r := .refreshSchema) trivial)
      fun _ => SessionM.notesFirst_ofExcept _
  · exact SessionM.notesFirst_pure _

/-- How the outcomes of some rounds fit a state of the watch: a failure of the log is the outcome of
the last round that has begun, and no round before has ended the session. -/
def OutcomesFit (outcomes : List RoundOutcome) (w : Noting) : Prop :=
  w.phase = .idle ∨ ∃ cause earlier, w = ⟨earlier.length + 1, .failed cause⟩ ∧
    outcomes = earlier ++ [.failed (.io cause)] ∧ ∀ o ∈ earlier, o.isTerminal = false

/-- **The round loop notes first.** -/
theorem obeys_playRounds (rotation : Rotation) {outcomes : List RoundOutcome}
    (houtcomes : ∀ o ∈ outcomes, o.isTerminal = false) (budget : Nat) {s : Session}
    (hs : s.logEachSelect = notes) :
    (playRounds rotation outcomes budget s).Obeys (Noting.watch notes)
      (fun x w => OutcomesFit x.1 w) ⟨outcomes.length, .idle⟩ := by
  induction budget generalizing rotation outcomes s with
  | zero => exact .done (.inl rfl)
  | succ budget ih =>
    refine Dialogue.obeys_bind (rotation.current.notesFirst_runRound s hs) ?_
    rintro ⟨outcome, s'⟩ w ⟨hs', rfl | ⟨cause, rfl, rfl⟩⟩
    · by_cases hend : outcome.isTerminal = true
      · simp only [hend, if_true]
        exact .done (.inl rfl)
      · simp only [hend]
        exact ih rotation.advance (List.forall_mem_cons.2 ⟨by simpa using hend, houtcomes⟩) hs'
    · -- the failed round is terminal, and the loop ends with it
      refine .done (.inr ⟨cause, outcomes.reverse, by simp, by simp, ?_⟩)
      simpa using houtcomes

/-- How the result of a session fits a state of the watch: a failure of the log before the first
round is the error of the session, and one in a round is the outcome of that round and ends the
session. -/
def ResultFits (options : SessionOptions) (result : Except OracleError SessionSummary)
    (w : Noting) : Prop :=
  w.phase = .idle ∨ ∃ cause, w.phase = .failed cause ∧
    ((w.rounds = 0 ∧ result = .error (.io cause)) ∨
      ∃ earlier replay, w.rounds = earlier.length + 1 ∧ (∀ o ∈ earlier, o.isTerminal = false) ∧
        result = .ok (.ofOutcomes options (earlier ++ [.failed (.io cause)]) none replay))

/-- No report is written of a round that failed. -/
theorem writeReport_failed (options : SessionOptions) (e : OracleError) :
    writeReport options (some (.failed e)) = .done none := by
  unfold writeReport
  split
  · next heq => cases heq
  · rfl

theorem obeys_playPrepared (options : SessionOptions) (rotation : Rotation) {s : Session}
    (hs : s.logEachSelect = notes) :
    (playPrepared options rotation s).Obeys (Noting.watch notes)
      (fun summary w => ResultFits options (.ok summary) w) ⟨0, .idle⟩ := by
  have hnone : ∀ o ∈ ([] : List RoundOutcome), o.isTerminal = false := by simp
  refine Dialogue.obeys_bind (obeys_playRounds rotation hnone options.rounds.toNat hs) ?_
  rintro ⟨outcomes, s'⟩ ⟨rounds, phase⟩ (hidle | ⟨cause, earlier, hw, rfl, hearlier⟩)
  · -- the report of a bug is written with no statement under way
    obtain rfl : phase = .idle := hidle
    have hreport : (writeReport options outcomes.getLast?).Obeys (Noting.watch notes)
        (fun _ w => w.phase = .idle) ⟨rounds, .idle⟩ := by
      unfold writeReport
      split
      · refine .ask rfl ?_
        rintro (e | path)
        · exact .done rfl
        · exact .done rfl
      · exact .done rfl
    exact Dialogue.obeys_bind hreport fun path w hw => .done (.inl hw)
  · obtain ⟨rfl, rfl⟩ := Noting.mk.inj hw
    dsimp only
    rw [List.getLast?_concat, writeReport_failed]
    exact .done (.inr ⟨cause, rfl, .inr ⟨earlier, s'.replay, rfl, hearlier, rfl⟩⟩)

/-- **A session notes first.** -/
theorem obeys_play [PatternReader] (options : SessionOptions) (dialect : Dialect)
    (setup : List SetupStatement) :
    (play options dialect setup).Obeys (Noting.watch options.logEachSelect) (ResultFits options)
      ⟨0, .idle⟩ := by
  rw [play]
  split
  · exact .done (.inl rfl)
  next errors _ =>
  have hopen : (openLog options).Obeys (Noting.watch options.logEachSelect)
      (fun _ w => w = ⟨0, .idle⟩) ⟨0, .idle⟩ := by
    unfold openLog
    split
    · exact .done rfl
    · exact .ask rfl fun _ => .done rfl
  refine Dialogue.obeys_bind hopen ?_
  rintro (e | ⟨⟩) w rfl
  · exact .done (.inl rfl)
  refine Dialogue.obeys_bind (notesFirst_prepare setup _ rfl) ?_
  rintro ⟨e | ⟨⟩, s⟩ w ⟨hs, rfl | ⟨cause, rfl, hcause⟩⟩
  · exact .done (.inl rfl)
  · obtain rfl : e = .io cause := Except.error.inj hcause
    exact .done (.inr ⟨cause, rfl, .inl ⟨rfl, rfl⟩⟩)
  · dsimp only
    split
    · exact .done (.inl rfl)
    · next rotation _ =>
      exact Dialogue.obeys_bind (obeys_playPrepared options rotation hs) fun _ _ hw => .done hw
  · cases hcause

end Session

end Trisect
