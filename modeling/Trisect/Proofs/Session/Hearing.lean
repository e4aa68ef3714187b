import Trisect.Proofs.Alike
import Trisect.Proofs.Round.Deciding
import Trisect.Proofs.Session.LogFirst
import Trisect.Proofs.Session.Replay

/-!
# What the log hears of a session

Engine, source and log know nothing of each other. Of a session that is run with all three, what
becomes of the log depends on what was said to it, and that can be read off the transcript: the log
goes through the exchanges in order and takes no notice of those that are not for it
(`Trisect.Journal.Hears`). This is so for every log and whatever the session is
(`Trisect.Journal.hears_of_run`).

What it hears is the second matter of this file, and is about the program. Of a round it hears a
diagnostic if the round ends in a bug, namely that of its report, and none otherwise
(`Trisect.Oracle.diagnosticsOf_of_path`); so it does of a chain of rounds. And if it takes every
note, the notes that it hears of a session are the statements that were sent, or none
(`Trisect.Session.notesOf_of_run`).
-/

namespace Trisect

/-! ### The log's part in a run -/

namespace Journal

variable {γ σ κ α : Type} {journal : Journal κ} {k k' : κ}

/-- What an exchange with the log makes of it; no notice is taken of any other. -/
def Notices (journal : Journal κ) (k : κ) : Exchange → κ → Prop
  | ⟨.openLog directory databaseName, answer⟩, k' =>
    answer = some (journal.openLog directory databaseName k).1 ∧
      k' = (journal.openLog directory databaseName k).2
  | ⟨.writeQuery sql, answer⟩, k' =>
    answer = some (journal.writeQuery sql k).1 ∧ k' = (journal.writeQuery sql k).2
  | ⟨.flush, answer⟩, k' => answer = some (journal.flush k).1 ∧ k' = (journal.flush k).2
  | ⟨.writeDiagnostic text, answer⟩, k' =>
    answer = some (journal.writeDiagnostic text k).1 ∧ k' = (journal.writeDiagnostic text k).2
  | ⟨.writeReport directory databaseName report, answer⟩, k' =>
    answer = some (journal.writeReport directory databaseName report k).1 ∧
      k' = (journal.writeReport directory databaseName report k).2
  | _, k' => k' = k

/-- **What the log hears**: exchange by exchange it goes from one state to another. -/
inductive Hears (journal : Journal κ) : κ → List Exchange → κ → Prop
  | nil (k : κ) : Hears journal k [] k
  | cons {k k₁ k' : κ} {x : Exchange} {t : List Exchange} (h : journal.Notices k x k₁)
      (rest : Hears journal k₁ t k') : Hears journal k (x :: t) k'

theorem hears_append_iff {t₁ t₂ : List Exchange} :
    journal.Hears k (t₁ ++ t₂) k' ↔ ∃ k₁, journal.Hears k t₁ k₁ ∧ journal.Hears k₁ t₂ k' := by
  induction t₁ generalizing k with
  | nil =>
    constructor
    · intro h
      exact ⟨k, .nil k, h⟩
    · rintro ⟨k₁, ⟨⟩, h⟩
      exact h
  | cons x t₁ ih =>
    constructor
    · intro h
      cases h with
      | cons h rest =>
        obtain ⟨k₁, h₁, h₂⟩ := ih.1 rest
        exact ⟨k₁, .cons h h₁, h₂⟩
    · rintro ⟨k₁, h₁, h₂⟩
      cases h₁ with
      | cons h rest => exact .cons h (ih.2 ⟨k₁, rest, h₂⟩)

theorem hears_singleton_iff {x : Exchange} : journal.Hears k [x] k' ↔ journal.Notices k x k' := by
  constructor
  · intro h
    cases h with
    | cons h rest =>
      cases rest
      exact h
  · intro h
    exact .cons h (.nil k')

/-- An answer of the three collaborators is one of the log, or leaves the log alone. -/
theorem notices_of_handler (c : Connection γ) (source : ShapeSource σ) {r : Request}
    {w w' : World γ σ κ} {answer : Option r.Answer}
    (h : World.handler c source journal r w = (answer, w')) :
    journal.Notices w.journal ⟨r, answer⟩ w'.journal := by
  cases r with
  | openLog | writeQuery | flush | writeDiagnostic | writeReport =>
    cases h
    exact ⟨rfl, rfl⟩
  | refreshSchema =>
    simp only [World.handler, World.refresh] at h
    split at h
    · cases h
      exact rfl
    · cases h
      exact rfl
  | _ =>
    cases h
    exact rfl

/-- **The log hears the transcript** of a run. -/
theorem hears_of_run (c : Connection γ) (source : ShapeSource σ) {d : Dialogue α}
    {w w' : World γ σ κ} {result : Option α}
    (h : d.run (World.handler c source journal) w = (result, w')) :
    journal.Hears w.journal (d.transcript (World.handler c source journal) w) w'.journal := by
  induction d generalizing w with
  | done a =>
    cases h
    exact .nil _
  | ask r next ih =>
    rw [Dialogue.run] at h
    rw [Dialogue.transcript]
    rcases hanswer : World.handler c source journal r w with ⟨_ | answer, w₁⟩
    · rw [hanswer] at h
      cases h
      exact .cons (notices_of_handler c source hanswer) (.nil _)
    · rw [hanswer] at h
      exact .cons (notices_of_handler c source hanswer) (ih answer h)

end Journal

/-! ### Diagnostics -/

/-- The diagnostics that were written to the log, in order. -/
def diagnosticsOf (t : List Exchange) : List String := t.filterMap fun x => x.request.diagnostic?

theorem diagnosticsOf_append (t t' : List Exchange) :
    diagnosticsOf (t ++ t') = diagnosticsOf t ++ diagnosticsOf t' := List.filterMap_append

theorem diagnosticsOf_eq_nil {t : List Exchange} (h : ∀ x ∈ t, x.request.diagnostic? = none) :
    diagnosticsOf t = [] := List.filterMap_eq_nil_iff.2 h

/-- What is heard of a round: the diagnostic of a bug. -/
def RoundOutcome.heard : RoundOutcome → List String
  | bug report => [report.diagnostic]
  | _ => []

theorem RoundOutcome.heard_of_not_isTerminal {o : RoundOutcome} (h : o.isTerminal = false) :
    o.heard = [] := by
  cases o with
  | bug report => cases h
  | _ => rfl

theorem RoundOutcome.heard_ofResult_error {e : OracleError} (h : ∀ report, e ≠ .logicBug report) :
    (ofResult (.error e)).heard = [] := by
  cases e with
  | logicBug report => exact absurd rfl (h report)
  | _ => rfl

/-- The source is asked for no diagnostic. -/
theorem Exchange.diagnostic?_of_refusal? {x : Exchange} {e : OracleError}
    (h : x.refusal? = some e) :
    x.request.diagnostic? = none := by
  obtain ⟨r, answer⟩ := x
  cases r with
  | writeDiagnostic => cases h
  | _ => rfl

theorem Exchange.diagnostic?_of_logFailure? {x : Exchange} {cause : IoError}
    (h : x.logFailure? = some cause) : x.request.diagnostic? = none := by
  obtain ⟨r, answer⟩ := x
  cases r with
  | writeDiagnostic => cases h
  | _ => rfl

/-- An exchange that decides how a round ends is the diagnostic of the bug that it ends in, if that
is not one of the source. -/
theorem Exchange.Decides.diagnosticsOf_eq {errors : ExpectedErrors} {x : Exchange} {e : OracleError}
    (h : x.Decides errors e) (hsource : ∀ report, x.refusal? ≠ some (.logicBug report)) :
    diagnosticsOf [x] = (RoundOutcome.ofResult (.error e)).heard := by
  have hquiet : x.request.diagnostic? = none → (∀ report, e ≠ .logicBug report) →
      diagnosticsOf [x] = (RoundOutcome.ofResult (.error e)).heard := by
    intro hnone hbugless
    rw [RoundOutcome.heard_ofResult_error hbugless]
    exact diagnosticsOf_eq_nil (by simpa using hnone)
  cases h with
  | refusal h =>
    refine hquiet (diagnostic?_of_refusal? h) fun report he => hsource report ?_
    rw [h, he]
  | answer h =>
    refine hquiet rfl fun report he => ?_
    subst he
    cases ofStatement_of_collected h with
    | failure h => cases h
  | log h => exact hquiet (diagnostic?_of_logFailure? h) fun report he => by cases he
  | disagreement report answer => rfl

variable {s s' : Session} {t : List Exchange}

/-- **A round is heard of if it ends in a bug**, and only then. -/
theorem Oracle.diagnosticsOf_of_path {o : Oracle} {outcome : RoundOutcome}
    (h : Session.Path o.runRound s t outcome s')
    (hsource : ∀ x ∈ t, ∀ report, x.refusal? ≠ some (.logicBug report)) :
    diagnosticsOf t = outcome.heard := by
  obtain ⟨r, rfl, hsettled⟩ := o.settled_of_path h
  cases hsettled with
  | ok hgoes => exact diagnosticsOf_eq_nil fun x hx => (hgoes x hx).2
  | error before hbefore hdecides =>
    have hnone := diagnosticsOf_eq_nil fun x hx => (hbefore x hx).2
    have hlast := hdecides.diagnosticsOf_eq (hsource _ (by simp))
    rw [diagnosticsOf_append, hnone, hlast, List.nil_append]

namespace Session

/-- What is heard of a chain of rounds is what is heard of each. -/
theorem diagnosticsOf_of_plays {rotation : Rotation} {rounds : List PlayedRound}
    (h : Plays rotation s rounds s')
    (hsource : ∀ x ∈ rounds.flatMap PlayedRound.exchanges, ∀ report,
      x.refusal? ≠ some (.logicBug report)) :
    diagnosticsOf (rounds.flatMap PlayedRound.exchanges) =
      (rounds.map PlayedRound.outcome).flatMap RoundOutcome.heard := by
  induction h with
  | none => rfl
  | last h _ =>
    have hround := Oracle.diagnosticsOf_of_path h fun x hx => hsource x (by simpa using hx)
    simpa using hround
  | next h _ _ ih =>
    have hfirst := Oracle.diagnosticsOf_of_path h fun x hx =>
      hsource x (by rw [List.flatMap_cons]; exact List.mem_append_left _ hx)
    have hrest := ih fun x hx =>
      hsource x (by rw [List.flatMap_cons]; exact List.mem_append_right _ hx)
    rw [List.flatMap_cons, diagnosticsOf_append, hfirst, hrest, List.map_cons, List.flatMap_cons]

/-! ### Notes -/

/-- **The notes of a session** that comes to an end are the statements that were sent, in order, if
the log takes them; a session that does not note its statements has none. -/
theorem notesOf_of_run [PatternReader] {σ : Type} {h : Handler σ} {options : SessionOptions}
    {dialect : Dialect} {setup : List SetupStatement} {w w' : σ}
    {result : Except OracleError SessionSummary}
    (hrun : (play options dialect setup).run h w = (some result, w'))
    (htaken : ∀ x ∈ (play options dialect setup).transcript h w, x.isNoted = true) :
    notesOf ((play options dialect setup).transcript h w) =
      if options.logEachSelect then statementsOf ((play options dialect setup).transcript h w)
      else [] := by
  obtain ⟨m, hpasses, hfits⟩ := (obeys_play options dialect setup).passes_of_run hrun
  split
  · next hnotes =>
    rw [hnotes] at hpasses
    -- the notes and what is still to be noted are all that was sent, and at the end nothing is
    have hlog := Noting.notes_eq hpasses htaken
    rwa [Option.map_some, Option.getD_some, hfits.pending_eq_nil, List.append_nil] at hlog
  · next hnotes =>
    rw [Bool.not_eq_true] at hnotes
    rw [hnotes] at hpasses
    refine List.filterMap_eq_nil_iff.2 fun x hx => ?_
    have hquiet := Noting.not_isNoting_of_passes hpasses hx
    obtain ⟨r, answer⟩ := x
    cases r with
    | writeQuery => exact absurd trivial hquiet
    | _ => rfl

end Session

end Trisect
