import Mathlib.Logic.Function.Iterate
import Trisect.Proofs.Leading
import Trisect.Proofs.Session.Course

/-!
# Two sessions that hear the same

Two sessions that are answered in the same way are compared here: of one the budget may be smaller,
or it may expect other errors. Their oracles take turns **in step** (`Trisect.Rotation.InStep`): in
every round the two ask the same as long as they hear the same, and a relation holds of how the
round ends in the one and in the other.

What is known of their courses comes of induction on the rounds
(`Trisect.Session.Plays.accord`). Either the rounds of one session begin with those of the other, or
they have come to differ in a single round, which they have heard the same in. Before the first
round there is nothing to tell the sessions apart (`Trisect.Session.Course.accord`).
-/

namespace Trisect

/-- Oracles of two rotations that take turns together: whatever round it is, the two hear the same
in it and a relation holds of its two outcomes. -/
def Rotation.InStep (V : RoundOutcome → RoundOutcome → Prop) (r r' : Rotation) : Prop :=
  ∀ n, Session.Twin (fun _ => Eq) V (advance^[n] r).current.runRound
    (advance^[n] r').current.runRound

namespace Rotation

variable {V : RoundOutcome → RoundOutcome → Prop} {r r' : Rotation}

theorem InStep.current (h : InStep V r r') :
    Session.Twin (fun _ => Eq) V r.current.runRound r'.current.runRound := h 0

theorem InStep.advance (h : InStep V r r') : InStep V r.advance r'.advance := fun n => h (n + 1)

theorem inStep_self (r : Rotation) : InStep Eq r r := fun _ => Session.twin_self _

end Rotation

namespace Session

variable {V : RoundOutcome → RoundOutcome → Prop} {rotation rotation' : Rotation}
  {s s₁ s₂ : Session} {rounds rounds' : List PlayedRound} {u u' : List Exchange}

/-- **How the rounds of two sessions compare** that hear the same: the second goes on behind the
first, or is the shorter one, or the two part in a round that ends differently in them. -/
inductive Accord (V : RoundOutcome → RoundOutcome → Prop) (s₁ s₂ : Session) :
    List PlayedRound → List PlayedRound → Prop
  | longer (rounds more : List PlayedRound) {rotation : Rotation}
      (h : Plays rotation s₁ more s₂) : Accord V s₁ s₂ rounds (rounds ++ more)
  | shorter (rounds : List PlayedRound) (round : PlayedRound) (more : List PlayedRound) :
      Accord V s₁ s₂ (rounds ++ round :: more) rounds
  | parting (earlier more more' : List PlayedRound) {t : List Exchange} {o o' : RoundOutcome}
      (h : V o o') (hne : o ≠ o') :
      Accord V s₁ s₂ (earlier ++ ⟨t, o⟩ :: more) (earlier ++ ⟨t, o'⟩ :: more')

theorem Accord.cons (round : PlayedRound) (h : Accord V s₁ s₂ rounds rounds') :
    Accord V s₁ s₂ (round :: rounds) (round :: rounds') := by
  cases h with
  | longer _ more h => exact .longer _ more h
  | shorter _ last more => exact .shorter (round :: rounds') last more
  | parting earlier more more' h hne => exact .parting (round :: earlier) more more' h hne

/-- **The first of some rounds** is a path, and the rest is played behind it unless it has ended the
session. -/
theorem Plays.head {round : PlayedRound} (h : Plays rotation s (round :: rounds) s₁) :
    ∃ s', Path rotation.current.runRound s round.exchanges round.outcome s' ∧
      ((round.outcome.isTerminal = true ∧ rounds = [] ∧ s' = s₁) ∨
        (round.outcome.isTerminal = false ∧ Plays rotation.advance s' rounds s₁)) := by
  cases h with
  | last hpath hend => exact ⟨_, hpath, Or.inl ⟨hend, rfl, rfl⟩⟩
  | next hpath hend hrest => exact ⟨_, hpath, Or.inr ⟨hend, hrest⟩⟩

/-- **Rounds of which the same is heard are in accord.** -/
theorem Plays.accord (h : Plays rotation s rounds s₁) (h' : Plays rotation' s rounds' s₂)
    (hstep : rotation.InStep V rotation')
    (hheard : rounds.flatMap PlayedRound.exchanges ++ u =
      rounds'.flatMap PlayedRound.exchanges ++ u') :
    Accord V s₁ s₂ rounds rounds' := by
  induction rounds generalizing rotation rotation' s rounds' with
  | nil =>
    cases h
    exact .longer [] rounds' h'
  | cons round rest ih =>
    rcases rounds' with _ | ⟨round', rest'⟩
    · exact .shorter [] round rest
    obtain ⟨s', hpath, hrest⟩ := h.head
    obtain ⟨s'', hpath', hrest'⟩ := h'.head
    obtain ⟨t, o⟩ := round
    obtain ⟨t', o'⟩ := round'
    rw [List.flatMap_cons, List.flatMap_cons, List.append_assoc, List.append_assoc] at hheard
    -- the two first rounds hear the same, and so they differ in their outcomes if at all
    obtain ⟨rfl, hV, rfl⟩ := hstep.current.eq_of_paths hpath hpath' hheard
    by_cases ho : o = o'
    · subst ho
      obtain ⟨hend, rfl, rfl⟩ | ⟨hend, hrest⟩ := hrest
      · obtain ⟨-, rfl, rfl⟩ | ⟨hgoes, -⟩ := hrest'
        · exact .longer [_] [] (.none rotation _)
        · simp [hend] at hgoes
      · obtain ⟨hends, -⟩ | ⟨-, hrest'⟩ := hrest'
        · simp [hend] at hends
        · exact (ih hrest hrest' hstep.advance (List.append_cancel_left hheard)).cons _
    · exact .parting [] rest rest' hV ho

/-! ### Before the rounds -/

/-- What is left of a preparation that another one leads: nothing, unless the other ends in an
error. -/
def KeepsUp (x : Except OracleError Unit × Session)
    (e : Dialogue (Except OracleError Unit × Session)) : Prop :=
  e = .done x ∨ ∃ error, x.1 = .error error

variable {options options' : SessionOptions} {dialect dialect' : Dialect}
  {setup : List SetupStatement} {t t' : List Exchange} {summary summary' : SessionSummary}

/-- **Sessions that hear the same have the same rounds**, as far as their rounds are in step. -/
theorem Course.accord [PatternReader] (c : Course options dialect setup t summary)
    (c' : Course options' dialect' setup t' summary') (hopen : openLog options' = openLog options)
    (hprepare : Dialogue.Leads KeepsUp ((prepare c.errors setup).run (initial options))
      ((prepare c'.errors setup).run (initial options')))
    (hstep : c.rotation.InStep V c'.rotation) (hheard : t ++ u = t' ++ u') :
    Accord V c.final c'.final c.rounds c'.rounds := by
  rw [c.transcript_eq, c'.transcript_eq] at hheard
  simp only [List.append_assoc] at hheard
  have hopened := c'.opened
  rw [hopen] at hopened
  obtain ⟨hopening, -⟩ := c.opened.unique hopened hheard
  rw [hopening] at hheard
  replace hheard := List.append_cancel_left hheard
  obtain ⟨e, rest, rfl | ⟨error, herror⟩, hrest, hpreparation⟩ :=
    hprepare.path c.prepared c'.prepared hheard
  · obtain ⟨rfl, hready⟩ := Dialogue.path_done_iff.1 hrest
    rw [hpreparation, List.append_nil] at hheard
    have hplayed := c'.played
    rw [(Prod.mk.inj hready).2] at hplayed
    exact c.played.accord hplayed hstep (List.append_cancel_left hheard)
  · cases herror

end Session

end Trisect
