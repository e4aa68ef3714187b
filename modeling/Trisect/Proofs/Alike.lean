import Trisect.Proofs.Session.Noting
import Trisect.Session.World

/-!
# Two runs that differ in what they tell the log

Whether statements are noted, and what becomes of a diagnostic, is between a session and its log.
Two dialogues are **alike** (`Trisect.Dialogue.Alike`) if they ask the engine and the source the
same questions and end in related results as long as these answer both of them alike, no matter what
either says to its log in between. The log may answer to a diagnostic what it likes; a note it has
to take.

Dialogues that are alike are told apart by nobody but the log. If they are run with the same engine
and the same source, each with a log of its own, then engine and source hear and answer the same, in
the same order, and are left in the same state (`Trisect.Dialogue.Alike.run`).

A step of a session is **oblivious** (`Trisect.Session.Oblivious`) if it is alike to itself from any
two states that agree on the replay, and leaves two such states. The rules of this file show so
along the program.
-/

namespace Trisect

variable {α β α' β' : Type}

/-! ### What is said to the log, and what is not -/

namespace Request

/-- Whether a request is for the engine or for the source. -/
def isSpoken : Request → Bool
  | query _ | execute _ | version | refreshSchema => true
  | baseSelect | predicate | groupPredicate _ | aggregate => true
  | openLog _ _ | writeQuery _ | flush | writeDiagnostic _ | writeReport _ _ _ => false

/-- Whether a request notes a statement or appends a diagnostic. -/
def IsRemark : Request → Prop
  | writeQuery _ | flush | writeDiagnostic _ => True
  | _ => False

theorem isSpoken_of_statement? {r : Request} {sql : String} (h : r.statement? = some sql) :
    r.isSpoken = true := by
  cases r with
  | query | execute => rfl
  | _ => cases h

theorem IsRemark.isSpoken {r : Request} (h : r.IsRemark) : r.isSpoken = false := by
  cases r with
  | writeQuery | flush | writeDiagnostic => rfl
  | _ => exact h.elim

end Request

/-- What was asked of the engine and of the source, with their answers. -/
def spokenOf (t : List Exchange) : List Exchange := t.filter fun e => e.request.isSpoken

/-- The statements that were sent are among what was said to the engine. -/
theorem statementsOf_spokenOf (t : List Exchange) : statementsOf (spokenOf t) = statementsOf t := by
  rw [statementsOf, spokenOf, List.filterMap_filter]
  congr 1
  funext e
  cases hsql : e.request.statement? with
  | none => split <;> rfl
  | some sql => exact if_pos (Request.isSpoken_of_statement? hsql)

/-! ### Dialogues -/

namespace Dialogue

/-- Two dialogues that ask engine and source the same, whatever they say to their logs. -/
inductive Alike (V : α → β → Prop) : Dialogue α → Dialogue β → Prop
  | done {a : α} {b : β} (h : V a b) : Alike V (.done a) (.done b)
  /-- Both ask the engine or the source. -/
  | ask {r : Request} {next : r.Answer → Dialogue α} {next' : r.Answer → Dialogue β}
      (hr : r.isSpoken = true) (h : ∀ answer, Alike V (next answer) (next' answer)) :
      Alike V (.ask r next) (.ask r next')
  /-- The first says something to its log. -/
  | left {r : Request} {next : r.Answer → Dialogue α} {e : Dialogue β} (hr : r.IsRemark)
      (h : ∀ answer, Exchange.isNoted ⟨r, some answer⟩ → Alike V (next answer) e) :
      Alike V (.ask r next) e
  /-- The second says something to its log. -/
  | right {r : Request} {d : Dialogue α} {next : r.Answer → Dialogue β} (hr : r.IsRemark)
      (h : ∀ answer, Exchange.isNoted ⟨r, some answer⟩ → Alike V d (next answer)) :
      Alike V d (.ask r next)

variable {V : α → β → Prop} {W : α' → β' → Prop} {d : Dialogue α} {e : Dialogue β}

theorem Alike.swap (h : Alike V d e) : Alike (fun b a => V a b) e d := by
  induction h with
  | done h => exact .done h
  | ask hr _ ih => exact .ask hr ih
  | left hr _ ih => exact .right hr ih
  | right hr _ ih => exact .left hr ih

theorem alike_bind {f : α → Dialogue α'} {g : β → Dialogue β'} (h : Alike V d e)
    (hf : ∀ a b, V a b → Alike W (f a) (g b)) : Alike W (d.bind f) (e.bind g) := by
  induction h with
  | done h => exact hf _ _ h
  | ask hr _ ih => exact .ask hr ih
  | left hr _ ih => exact .left hr ih
  | right hr _ ih => exact .right hr ih

end Dialogue

/-! ### Runs -/

section Runs

variable {γ σ κ κ' : Type} (c : Connection γ) (source : ShapeSource σ) (journal : Journal κ)
  (journal' : Journal κ')

/-- Two worlds with the same engine and the same source, but not the same log. -/
def World.SameBut (w : World γ σ κ) (w' : World γ σ κ') : Prop :=
  w.engine = w'.engine ∧ w.source = w'.source

variable {w : World γ σ κ} {w' : World γ σ κ'}

/-- What is said to the engine or the source is answered the same, whatever the log. -/
theorem World.handler_spoken {r : Request} (hr : r.isSpoken = true) (hw : w.SameBut w') :
    (handler c source journal r w).1 = (handler c source journal' r w').1 ∧
      (handler c source journal r w).2.SameBut (handler c source journal' r w').2 := by
  obtain ⟨g, s, k⟩ := w
  obtain ⟨g', s', k'⟩ := w'
  obtain ⟨rfl, rfl⟩ : g = g' ∧ s = s' := hw
  cases r with
  | openLog | writeQuery | flush | writeDiagnostic | writeReport => cases hr
  | refreshSchema =>
    simp only [handler, refresh]
    rcases (source.refresh s).run c g with ⟨_ | ⟨answer, s'⟩, g'⟩
    · exact ⟨rfl, rfl, rfl⟩
    · exact ⟨rfl, rfl, rfl⟩
  | _ => exact ⟨rfl, rfl, rfl⟩

/-- What is said to the log is answered, and changes nothing but the log. -/
theorem World.handler_remark {r : Request} (hr : r.IsRemark) (w : World γ σ κ) :
    ∃ answer k, handler c source journal r w = (some answer, { w with journal := k }) := by
  cases r with
  | writeQuery | flush | writeDiagnostic => exact ⟨_, _, rfl⟩
  | _ => exact hr.elim

/-- **Dialogues that are alike stay alike when they are run** with the same engine and source, each
with a log that takes every note. -/
theorem Dialogue.Alike.run {V : α → β → Prop} {d : Dialogue α} {e : Dialogue β} (h : Alike V d e)
    (hw : w.SameBut w')
    (hnoted : ∀ x ∈ d.transcript (World.handler c source journal) w, x.isNoted)
    (hnoted' : ∀ x ∈ e.transcript (World.handler c source journal') w', x.isNoted) :
    Option.Rel V (d.run (World.handler c source journal) w).1
        (e.run (World.handler c source journal') w').1 ∧
      (d.run (World.handler c source journal) w).2.SameBut
        (e.run (World.handler c source journal') w').2 ∧
      spokenOf (d.transcript (World.handler c source journal) w) =
        spokenOf (e.transcript (World.handler c source journal') w') := by
  induction h generalizing w w' with
  | done h => exact ⟨.some h, hw, rfl⟩
  | @ask r next next' hr _ ih =>
    rw [Dialogue.transcript] at hnoted hnoted'
    rw [Dialogue.run, Dialogue.run, Dialogue.transcript, Dialogue.transcript]
    obtain ⟨hanswer, hstate⟩ := World.handler_spoken c source journal journal' hr hw
    rcases hleft : World.handler c source journal r w with ⟨x, w₁⟩
    rcases hright : World.handler c source journal' r w' with ⟨y, w₁'⟩
    rw [hleft, hright] at hanswer hstate
    rw [hleft] at hnoted
    rw [hright] at hnoted'
    obtain rfl : x = y := hanswer
    -- the engine or the source answers both, or breaks down for both
    cases x with
    | none => exact ⟨.none, hstate, rfl⟩
    | some answer =>
      obtain ⟨hresult, hstate, hspoken⟩ := ih answer hstate
        (fun x hx => hnoted x (List.mem_cons_of_mem _ hx))
        (fun x hx => hnoted' x (List.mem_cons_of_mem _ hx))
      refine ⟨hresult, hstate, ?_⟩
      simp only [spokenOf, List.filter_cons, hr, if_true]
      exact congrArg _ hspoken
  | @left r next e hr _ ih =>
    obtain ⟨answer, k, hanswer⟩ := World.handler_remark c source journal hr w
    rw [Dialogue.transcript, hanswer] at hnoted
    rw [Dialogue.run, Dialogue.transcript, hanswer]
    obtain ⟨hresult, hstate, hspoken⟩ := ih answer (hnoted _ List.mem_cons_self)
      (show World.SameBut { w with journal := k } w' from hw)
      (fun x hx => hnoted x (List.mem_cons_of_mem _ hx)) hnoted'
    refine ⟨hresult, hstate, ?_⟩
    rw [← hspoken]
    simp [spokenOf, hr.isSpoken]
  | @right r d next hr _ ih =>
    obtain ⟨answer, k, hanswer⟩ := World.handler_remark c source journal' hr w'
    rw [Dialogue.transcript, hanswer] at hnoted'
    rw [Dialogue.run, Dialogue.transcript, hanswer]
    obtain ⟨hresult, hstate, hspoken⟩ := ih answer (hnoted' _ List.mem_cons_self)
      (show World.SameBut w { w' with journal := k } from hw) hnoted
      (fun x hx => hnoted' x (List.mem_cons_of_mem _ hx))
    refine ⟨hresult, hstate, ?_⟩
    rw [hspoken]
    simp [spokenOf, hr.isSpoken]

end Runs

/-! ### Steps of a session -/

namespace Session

/-- The same result, and states that agree on the replay. -/
def SameReplay (x y : α × Session) : Prop := x.1 = y.1 ∧ x.2.replay = y.2.replay

/-- **An oblivious step** does not see whether statements are noted, and what the log says. -/
def Oblivious (m : StateT Session Dialogue α) : Prop :=
  ∀ s s' : Session, s.replay = s'.replay → Dialogue.Alike SameReplay (m s) (m s')

theorem oblivious_pure (a : α) : Oblivious (pure a) := fun _ _ hs => .done ⟨rfl, hs⟩

theorem oblivious_bind {m : StateT Session Dialogue α} {f : α → StateT Session Dialogue β}
    (h : Oblivious m) (hf : ∀ a, Oblivious (f a)) : Oblivious (m >>= f) := by
  intro s s' hs
  refine Dialogue.alike_bind (h s s' hs) ?_
  rintro ⟨a, s₁⟩ ⟨b, s₁'⟩ ⟨hab, hs₁⟩
  obtain rfl : a = b := hab
  exact hf a s₁ s₁' hs₁

end Session

namespace SessionM

open Session (Oblivious)

theorem oblivious_ask {r : Request} (hr : r.isSpoken = true) : Oblivious (ask r).run :=
  fun _ _ hs => .ask hr fun _ => .done ⟨rfl, hs⟩

theorem oblivious_recordStatements (statements : List String) :
    Oblivious (recordStatements statements).run := by
  refine fun s s' hs => .done ⟨rfl, ?_⟩
  change (s.record statements).replay = (s'.record statements).replay
  rw [Session.record, Session.record, hs]

/-- A diagnostic is written and what comes of it is not looked at. -/
theorem oblivious_diagnostic (text : String) {m : StateT Session Dialogue α} (h : Oblivious m) :
    Oblivious ((ask (.writeDiagnostic text)).run >>= fun _ => m) := by
  intro s s' hs
  refine .left (r := .writeDiagnostic text) trivial fun _ _ => ?_
  exact .right (r := .writeDiagnostic text) trivial fun _ _ => h s s' hs

/-- A statement is noted or not, and if the log takes it nothing else has happened. -/
theorem alike_recordQuery {V : Except OracleError Unit × Session → β → Prop} {s : Session}
    {e : Dialogue β} (sql : String) (h : Dialogue.Alike V (.done (.ok (), s)) e) :
    Dialogue.Alike V (recordQuery sql s) e := by
  change Dialogue.Alike V ((if s.logEachSelect = true then
    (do ofIo (← ask (.writeQuery sql)); ofIo (← ask .flush)) else pure () : SessionM Unit) s) e
  split
  · refine .left (r := .writeQuery sql) trivial ?_
    rintro (cause | ⟨⟩) hwritten
    · cases hwritten
    · refine .left (r := .flush) trivial ?_
      rintro (cause | ⟨⟩) hflushed
      · cases hflushed
      · exact h
  · exact h

/-- **Noting a statement is oblivious**: the log takes it. -/
theorem oblivious_recordQuery (sql : String) : Oblivious (recordQuery sql).run :=
  fun _ _ hs => alike_recordQuery sql (alike_recordQuery sql (.done ⟨rfl, hs⟩)).swap

end SessionM

end Trisect
