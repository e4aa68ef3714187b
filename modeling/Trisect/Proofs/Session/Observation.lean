import Trisect.Proofs.Alike
import Trisect.Proofs.Round.Rules
import Trisect.Proofs.Round.Shape

/-!
# Looking on does not change what is seen

To note every statement and to write diagnostics is to look on at a session. The main statement of
this file, `Trisect.Session.outcomes_alike`, is that it makes no difference to what is found: rounds
that are run twice, from states that agree on the replay, with the same engine and the same source,
but once with notes and once without, or with another log, have the same outcomes and leave the same
replay, and the engine gets the same statements. The logs have to take every note, since a statement
that cannot be noted is not sent; but a diagnostic may be lost.

It is enough that every action of a round is oblivious (`Trisect.roundRules_oblivious`). The one
place where this could go wrong is the comparison, which writes its diagnostic after it has found a
bug and before it keeps the statements for the replay; what the log says to the diagnostic is not
looked at (`Trisect.SessionM.oblivious_diagnostic`).
-/

namespace Trisect

theorem Request.IsForShape.isSpoken {r : Request} (h : r.IsForShape) : r.isSpoken = true := by
  cases r with
  | baseSelect | predicate | groupPredicate | aggregate => rfl
  | _ => exact h.elim

/-- **No action of a round sees the log.** -/
theorem roundRules_oblivious : RoundRules fun _ => Session.Oblivious where
  pure := Session.oblivious_pure
  bind := Session.oblivious_bind
  askShape hr := SessionM.oblivious_ask hr.isSpoken
  query sql := SessionM.oblivious_ask (r := .query sql) rfl
  recordQuery := SessionM.oblivious_recordQuery
  diagnostic text _ h := SessionM.oblivious_diagnostic text h
  recordStatements := SessionM.oblivious_recordStatements

namespace Session

/-- The ways to run rounds: one of each of some oracles, or in turn until one ends the session. -/
inductive RunsRounds : StateT Session Dialogue (List RoundOutcome) → Prop
  | each (oracles : List Oracle) : RunsRounds (oracles.mapM Oracle.runRound)
  | inTurn (rotation : Rotation) (budget : Nat) : RunsRounds (playRounds rotation [] budget)

variable {γ σ κ κ' : Type}

/-- **Rounds that are run twice** end in the same outcomes, reports and all, and leave the same
replay, if the states of the two sessions agree on the replay and engine and source are the same,
and if both logs take every note that they are given. What is said to the engine and the source is
the same, and what they answer; in particular the statements are. Whether statements are noted, what
the logs are and what they make of diagnostics does not matter; nor does it whether an engine breaks
down, for then it does so in both runs. -/
theorem outcomes_alike (c : Connection γ) (source : ShapeSource σ) (journal : Journal κ)
    (journal' : Journal κ') {rounds : StateT Session Dialogue (List RoundOutcome)}
    (hrounds : RunsRounds rounds) {s s' : Session} (hreplay : s.replay = s'.replay)
    {w : World γ σ κ} {w' : World γ σ κ'} (hworld : w.SameBut w') :
    let h := World.handler c source journal
    let h' := World.handler c source journal'
    let t := (rounds.run s).transcript h w
    let t' := (rounds.run s').transcript h' w'
    (∀ x ∈ t, x.isNoted) → (∀ x ∈ t', x.isNoted) →
      Option.Rel SameReplay ((rounds.run s).run h w).1 ((rounds.run s').run h' w').1 ∧
        statementsOf t = statementsOf t' ∧ spokenOf t = spokenOf t' ∧
        ((rounds.run s).run h w).2.SameBut ((rounds.run s').run h' w').2 := by
  intro h h' t t' hnoted hnoted'
  have hoblivious : Oblivious rounds := by
    cases hrounds with
    | each oracles => exact roundRules_oblivious.mapM_runRound oracles
    | inTurn rotation budget => exact roundRules_oblivious.playRounds rotation [] budget
  obtain ⟨hresult, hstate, hspoken⟩ :=
    (hoblivious s s' hreplay).run c source journal journal' hworld hnoted hnoted'
  have hstatements : statementsOf t = statementsOf t' := by
    rw [← statementsOf_spokenOf t, ← statementsOf_spokenOf t']
    exact congrArg statementsOf hspoken
  exact ⟨hresult, hstatements, hspoken, hstate⟩

/-- A round with a row too few and a round that passes: with notes and a log that keeps everything,
and without notes and with a log that cannot be written. -/
theorem outcomes_alike_of_broken_log :
    let x : Offer := ⟨{ fetch := ["t.a"], tables := ["t"] }, "t.b > 0", default⟩
    let o : Oracle := ⟨.whereClause, ∅, .strict⟩
    let broken : Journal Unit := {
      openLog := fun _ _ k => (.error (.io .notFound), k)
      writeQuery := fun _ k => (.ok (), k)
      flush := fun k => (.ok (), k)
      writeDiagnostic := fun _ k => (.error (.other "disk full"), k)
      writeReport := fun _ _ _ k => (.error (.io .notFound), k) }
    let answers : List EngineAnswer :=
      [.ok (.rows [some "1"]), .ok (.rows []), .ok (.rows [some "1"]), .ok (.rows [some "1"])]
    let s := Session.new true "db0" 0
    let s' := Session.new false "db0" 0
    let rounds := [o, o].mapM Oracle.runRound
    let h := World.handler Connection.scripted x.source MemoryLog.journal
    let h' := World.handler Connection.scripted x.source broken
    let w : World (List EngineAnswer) Unit MemoryLog := ⟨answers, (), {}⟩
    let w' : World (List EngineAnswer) Unit Unit := ⟨answers, (), ()⟩
    let t := (rounds.run s).transcript h w
    let t' := (rounds.run s').transcript h' w'
    s.replay = s'.replay ∧ (∀ x ∈ t, x.isNoted) ∧ (∀ x ∈ t', x.isNoted) ∧
      (notesOf t).length = 4 ∧ notesOf t' = [] ∧
      (∃ report r, ((rounds.run s).run h w).1 = some ([.bug report, .passed], r)) ∧
      Option.Rel SameReplay ((rounds.run s).run h w).1 ((rounds.run s').run h' w').1 ∧
      statementsOf t = statementsOf t' ∧ spokenOf t = spokenOf t' ∧
      ((rounds.run s).run h w).2.SameBut ((rounds.run s').run h' w').2 := by
  intro x o broken answers s s' rounds h h' w w' t t'
  have hnoted : ∀ x ∈ t, x.isNoted := by decide
  have hnoted' : ∀ x ∈ t', x.isNoted := by decide
  have hnotes : (notesOf t).length = 4 := by decide
  have hnone : notesOf t' = [] := by decide
  have hreplay : s.replay = s'.replay := rfl
  have hworld : w.SameBut w' := ⟨rfl, rfl⟩
  refine ⟨hreplay, hnoted, hnoted', hnotes, hnone, ⟨_, _, rfl⟩, ?_⟩
  exact outcomes_alike Connection.scripted x.source MemoryLog.journal broken (.each [o, o]) hreplay
    hworld hnoted hnoted'

end Session

end Trisect
