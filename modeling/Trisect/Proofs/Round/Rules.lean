import Trisect.Session.Run

/-!
# What holds of everything that a round does

Some properties of the steps of a session are kept when steps are put together. Such a property
holds of a whole round as soon as it holds of the few actions of which rounds are made: asking the
source, sending a query, noting a statement, writing a diagnostic, keeping statements for the
replay. `Trisect.RoundRules` lists what has to be shown, and `Trisect.RoundRules.runRound` walks
through a round, once for all such properties. Rounds in a row have them as well
(`Trisect.RoundRules.playRounds`, `Trisect.RoundRules.mapM_runRound`).

A property is given for steps without an error of their own; a step that may end in an error is one
whose result says so.
-/

namespace Trisect

/-- Whether a request asks the source for a part of a round. -/
def Request.IsForShape : Request → Prop
  | baseSelect | predicate | groupPredicate _ | aggregate => True
  | _ => False

/-- **Rules for a property of steps** that is established along the program of a round. -/
structure RoundRules (P : (α : Type) → StateT Session Dialogue α → Prop) : Prop where
  pure {α : Type} (a : α) : P α (pure a)
  bind {α β : Type} {m : StateT Session Dialogue α} {f : α → StateT Session Dialogue β}
    (h : P α m) (hf : ∀ a, P β (f a)) : P β (m >>= f)
  askShape {r : Request} (hr : r.IsForShape) : P _ (SessionM.ask r).run
  query (sql : String) : P _ (SessionM.ask (.query sql)).run
  recordQuery (sql : String) : P _ (SessionM.recordQuery sql).run
  /-- What the log says to a diagnostic is not looked at. -/
  diagnostic {α : Type} (text : String) {m : StateT Session Dialogue α} (h : P α m) :
    P α ((SessionM.ask (.writeDiagnostic text)).run >>= fun _ => m)
  recordStatements (statements : List String) : P _ (SessionM.recordStatements statements).run

namespace RoundRules

variable {P : (α : Type) → StateT Session Dialogue α → Prop} (rules : RoundRules P)
  {α β : Type} {errors : ExpectedErrors}

include rules

/-! ### Steps that may end in an error -/

theorem bindRun {m : SessionM α} {f : α → SessionM β} (h : P _ m.run) (hf : ∀ a, P _ (f a).run) :
    P _ (m >>= f).run := by
  refine rules.bind h ?_
  rintro (e | a)
  · exact rules.pure _
  · exact hf a

theorem ofExcept (x : Except OracleError α) : P _ (SessionM.ofExcept x).run := by
  cases x with
  | ok a => exact rules.pure _
  | error e => exact rules.pure _

/-- Asking the source for something that it may refuse. -/
theorem offered {r : Request} (x : r.Answer → Except OracleError α) {f : α → SessionM β}
    (hr : r.IsForShape) (hf : ∀ a, P _ (f a).run) :
    P _ (SessionM.ask r >>= fun answer => SessionM.ofExcept (x answer) >>= f).run :=
  rules.bindRun (rules.askShape hr) fun answer => rules.bindRun (rules.ofExcept (x answer)) hf

/-! ### Statements -/

theorem collect (sql : String) : P _ (collect errors sql).run := by
  refine rules.bindRun (rules.recordQuery sql) fun _ => ?_
  exact rules.bindRun (rules.query sql) fun _ => rules.ofExcept _

theorem concatenate (queries : List String) : P _ (concatenate errors queries) := by
  induction queries with
  | nil => exact rules.pure _
  | cons q qs ih =>
    refine rules.bind (rules.collect q) ?_
    rintro (e | cells)
    · exact rules.pure _
    · exact rules.bind ih fun _ => rules.pure _

theorem combine (dialect : Dialect) (q : CombinedQuery) : P _ (combine dialect errors q) := by
  have hsingle : ∀ text, P _ (combineAs errors text) := fun text =>
    rules.bind (rules.collect text) fun _ => rules.pure _
  rw [Trisect.combine]
  split
  · exact hsingle _
  · exact rules.concatenate _
  · exact hsingle _
  · exact rules.pure _

/-! ### Rounds -/

theorem assertEqual (whole : String) (reconstructed : List String) (first second : List Cell) :
    P _ (assertEqual whole reconstructed first second).run := by
  rw [Trisect.assertEqual]
  split
  · exact rules.pure _
  · next mismatch _ =>
    let report : BugReport := ⟨whole, reconstructed, mismatch⟩
    have hraise : P _ (do
        SessionM.recordStatements report.statements
        throw (.logicBug report) : SessionM Unit).run :=
      rules.bindRun (rules.recordStatements report.statements) fun _ => rules.pure _
    exact rules.diagnostic report.diagnostic hraise

variable (o : Oracle)

theorem compare (whole : String) (reconstructed : List String) (first second : List Cell) :
    P _ (o.compare whole reconstructed first second).run := by
  rw [Oracle.compare]
  split
  · exact rules.assertEqual _ _ _ _
  · exact rules.assertEqual _ _ _ _

theorem checkParts (base : Select) (condition : String) :
    P _ (o.checkParts base condition).run := by
  refine rules.bindRun (rules.collect _) fun first => ?_
  refine rules.bindRun ?_ fun second => ?_
  · exact rules.bind (rules.combine _ _) fun _ => rules.pure _
  · exact rules.bindRun (rules.ofExcept _) fun _ => rules.compare o _ _ _ _

theorem checkAggregate (base : Select) (f : AggregateFn) (argument condition : String) :
    P _ (o.checkAggregate base f argument condition).run := by
  refine rules.bindRun (rules.collect _) fun first => ?_
  refine rules.bindRun (rules.collect _) fun second => ?_
  split
  · exact rules.pure _
  · exact rules.compare o _ _ _ _

theorem check : P _ o.check.run := by
  refine rules.bindRun ?_ fun base => ?_
  · exact rules.offered (r := .baseSelect) id trivial fun _ => rules.pure _
  · split
    · refine rules.offered (r := .aggregate) id trivial fun x => ?_
      exact rules.offered (r := .predicate) id trivial fun _ => rules.checkAggregate o _ _ _ _
    · exact rules.offered (r := .groupPredicate _) id trivial fun _ => rules.checkParts o _ _
    · exact rules.offered (r := .predicate) id trivial fun _ => rules.checkParts o _ _

/-- **What holds of the actions of a round holds of rounds.** -/
theorem runRound : P _ o.runRound := rules.bind (rules.check o) fun _ => rules.pure _

/-! ### Rounds in a row -/

theorem playRounds (rotation : Rotation) (outcomes : List RoundOutcome) (budget : Nat) :
    P _ (Session.playRounds rotation outcomes budget) := by
  induction budget generalizing rotation outcomes with
  | zero => exact rules.pure _
  | succ budget ih =>
    refine rules.bind (rules.runRound rotation.current) fun outcome => ?_
    split
    · exact rules.pure _
    · exact ih _ _

theorem mapM_runRound (oracles : List Oracle) : P _ (oracles.mapM Oracle.runRound) := by
  induction oracles with
  | nil => exact rules.pure _
  | cons o oracles ih =>
    rw [List.mapM_cons]
    refine rules.bind (rules.runRound o) fun outcome => ?_
    exact rules.bind ih fun _ => rules.pure _

end RoundRules

end Trisect
