import Mathlib.Data.Int.CardIntervalMod
import Trisect.Pattern.Regular
import Trisect.Proofs.Session.Budget

/-!
# Every oracle gets its turn

The oracles of a session take turns, and an oracle which has had its turn has had it however its
round ended: the mark moves on with a check (`Trisect.Rotation.check`), not with a success. So the
state of a rotation after `i` checks (`Trisect.Rotation.after`) does not depend on what they came
to, and the mark is then at the rest of `i` modulo the number of oracles
(`Trisect.Rotation.next_after`). Checks in a row are therefore checks of the oracles at these
positions (`Trisect.Rotation.checks_eq`), whatever the source, the engine and the log say to them.

In a session the same loop stops early if a round ends the session. To say which oracle a round of
it belongs to, the loop is run with the position kept beside every outcome
(`Trisect.Session.playTurns`); without the positions it is the loop of a session
(`Trisect.Session.map_snd_playTurns`). The positions on any path of it are those of a rotation that
begins with the first oracle, so that how often each has been used is known from the number of
rounds alone, and no oracle is ahead of another by more than one round. Both are in
`Trisect.Session.turns_are_even`.
-/

namespace Trisect

namespace Rotation

/-! ### The mark -/

/-- A rotation after a number of turns. -/
def after (r : Rotation) : Nat → Rotation
  | 0 => r
  | i + 1 => r.advance.after i

@[simp] theorem oracles_advance (r : Rotation) : r.advance.oracles = r.oracles := rfl

@[simp] theorem next_advance (r : Rotation) :
    r.advance.next = (r.next + 1) % r.oracles.length := rfl

@[simp] theorem oracles_after (r : Rotation) (i : Nat) : (r.after i).oracles = r.oracles := by
  induction i generalizing r with
  | zero => rfl
  | succ i ih => exact ih r.advance

/-- **The mark after some turns**: it has moved on by one with each of them. -/
theorem next_after (r : Rotation) (i : Nat) :
    (r.after i).next = (r.next + i) % r.oracles.length := by
  induction i generalizing r with
  | zero => exact (Nat.mod_eq_of_lt r.next_lt).symm
  | succ i ih =>
    rw [after, ih, next_advance, oracles_advance, Nat.mod_add_mod]
    congr 1
    omega

/-- The oracle whose turn it is stands at the mark. -/
theorem getElem?_next (r : Rotation) : r.oracles[r.next]? = some r.current :=
  List.getElem?_eq_getElem r.next_lt

/-! ### Checks in a row -/

/-- The kind of the next check. -/
def nextKind (r : Rotation) : OracleKind := r.current.kind

/-- A check by turns: the oracle whose turn it is runs, and the mark moves on however that ends. -/
def check (r : Rotation) : StateT Session Dialogue (Except OracleError Unit × Rotation) := do
  let result ← r.current.check.run
  return (result, r.advance)

/-- A number of checks by turns, whatever they come to. -/
def checks (r : Rotation) :
    Nat → StateT Session Dialogue (List (Except OracleError Unit) × Rotation)
  | 0 => return ([], r)
  | m + 1 => do
    let (result, r) ← r.check
    let (results, r) ← r.checks m
    return (result :: results, r)

/-- **Checks by turns** are checks of the oracles whose turns they are, one after the other. -/
theorem checks_eq (r : Rotation) (m : Nat) :
    r.checks m = do
      let results ← ((List.range m).map fun i => (r.after i).current).mapM fun o => o.check.run
      return (results, r.after m) := by
  induction m generalizing r with
  | zero => rfl
  | succ m ih =>
    have hturns : (List.range (m + 1)).map (fun i => (r.after i).current) =
        r.current :: (List.range m).map fun i => (r.advance.after i).current := by
      rw [List.range_succ_eq_map, List.map_cons, List.map_map]
      rfl
    rw [checks, check, hturns, List.mapM_cons]
    simp only [bind_assoc, pure_bind, ih]
    rfl

/-- Kinds can take turns if there is one. -/
theorem exists_ofKinds {kinds : List OracleKind} (errors : ExpectedErrors) (dialect : Dialect)
    (h : kinds ≠ []) : ∃ r, ofKinds kinds errors dialect = .ok r := by
  cases kinds with
  | nil => exact absurd rfl h
  | cons k ks => exact ⟨_, rfl⟩

/-- A rotation of kinds has the kinds in order, and its mark at the first. -/
theorem of_ofKinds {kinds : List OracleKind} {errors : ExpectedErrors} {dialect : Dialect}
    {r : Rotation} (h : ofKinds kinds errors dialect = .ok r) :
    r.oracles = kinds.map (fun k => ⟨k, errors, dialect⟩) ∧ r.next = 0 := by
  cases kinds with
  | nil => cases h
  | cons k ks =>
    obtain rfl := Except.ok.inj h
    exact ⟨rfl, rfl⟩

/-- The mark goes round from the first oracle. -/
theorem next_after_of_ofKinds {kinds : List OracleKind} {errors : ExpectedErrors}
    {dialect : Dialect} {r : Rotation} (h : ofKinds kinds errors dialect = .ok r) (i : Nat) :
    (r.after i).next = i % kinds.length := by
  obtain ⟨horacles, hnext⟩ := of_ofKinds h
  rw [next_after, horacles, hnext, List.length_map, Nat.zero_add]

/-- **The oracle of a turn** is the one of the kind at this position. -/
theorem current_after_of_ofKinds {kinds : List OracleKind} {errors : ExpectedErrors}
    {dialect : Dialect} {r : Rotation} (h : ofKinds kinds errors dialect = .ok r) (i : Nat) :
    ∃ k, kinds[i % kinds.length]? = some k ∧ (r.after i).current = ⟨k, errors, dialect⟩ := by
  have hcurrent := (r.after i).getElem?_next
  rw [oracles_after, (of_ofKinds h).1, next_after_of_ofKinds h, List.getElem?_map] at hcurrent
  obtain ⟨k, hk, horacle⟩ := Option.map_eq_some_iff.1 hcurrent
  exact ⟨k, hk, horacle.symm⟩

end Rotation

/-! ### How often a position comes -/

/-- How often a rest comes among the first numbers. -/
theorem count_map_mod (n j r : Nat) :
    ((List.range r).map (· % n)).count j = Nat.count (fun i => i % n = j) r := by
  induction r with
  | zero => rfl
  | succ r ih =>
    rw [List.range_succ, List.map_append, List.count_append, ih, Nat.count_succ, List.map_singleton,
      List.count_singleton]
    simp only [beq_iff_eq]

/-- **No rest is ahead of another** by more than one. -/
theorem count_mod_le {n j k : Nat} (hj : j < n) (hk : k < n) (r : Nat) :
    Nat.count (fun i => i % n = j) r ≤ Nat.count (fun i => i % n = k) r + 1 := by
  have hcount : ∀ v, v < n → Nat.count (fun i => i % n = v) r =
      r / n + if v < r % n then 1 else 0 := by
    intro v hv
    have hmod := Nat.count_modEq_card r (Nat.zero_lt_of_lt hv) v
    simpa only [Nat.ModEq, Nat.mod_eq_of_lt hv] using hmod
  rw [hcount j hj, hcount k hk]
  split <;> split <;> omega

/-! ### Sessions -/

namespace Session

/-- The rounds of a session, with the position of the oracle beside the outcome of each. -/
def playTurns (rotation : Rotation) : Nat → StateT Session Dialogue (List (Nat × RoundOutcome))
  | 0 => return []
  | budget + 1 => do
    let (result, later) ← rotation.check
    let outcome := RoundOutcome.ofResult result
    if outcome.isTerminal then return [(rotation.next, outcome)]
    else return (rotation.next, outcome) :: (← playTurns later budget)

/-- **The loop of a session** is this one without the positions. -/
theorem map_snd_playTurns (rotation : Rotation) (outcomes : List RoundOutcome) (budget : Nat) :
    playRounds rotation outcomes budget = do
      let turns ← playTurns rotation budget
      return outcomes.reverse ++ turns.map Prod.snd := by
  induction budget generalizing rotation outcomes with
  | zero => simp [playRounds, playTurns]
  | succ budget ih =>
    rw [playRounds, playTurns, Oracle.runRound, Rotation.check]
    simp only [bind_assoc, pure_bind]
    refine bind_congr fun result => ?_
    split
    · simp
    · simp [ih]

section Paths

variable {rotation : Rotation} {s s' : Session} {t : List Exchange} {budget : Nat}

/-- A round is a check by turns, which moves the mark on. -/
theorem path_check_of_runRound {outcome : RoundOutcome}
    (h : Path rotation.current.runRound s t outcome s') :
    ∃ result, Path rotation.check s t (result, rotation.advance) s' ∧
      outcome = .ofResult result := by
  obtain ⟨t₁, result, s₁, t₂, h₁, h₂, rfl⟩ := path_bind_iff.1 h
  obtain ⟨rfl, rfl, rfl⟩ := path_pure_iff.1 h₂
  exact ⟨result, path_bind_iff.2 ⟨_, _, _, _, h₁, path_pure_iff.2 ⟨rfl, rfl, rfl⟩, rfl⟩, rfl⟩

/-- **Where the mark stood in each round** is what it is after as many turns. -/
theorem positions_of_path {turns : List (Nat × RoundOutcome)}
    (h : Path (playTurns rotation budget) s t turns s') :
    turns.map Prod.fst = (List.range turns.length).map fun i => (rotation.after i).next := by
  induction budget generalizing rotation s s' t turns with
  | zero =>
    obtain ⟨-, rfl, -⟩ := path_pure_iff.1 h
    rfl
  | succ budget ih =>
    obtain ⟨t₁, ⟨result, later⟩, s₁, t₂, h₁, h₂, rfl⟩ := path_bind_iff.1 h
    obtain ⟨t₃, result', s₂, t₄, -, h₃, rfl⟩ := path_bind_iff.1 h₁
    obtain ⟨-, hpair, -⟩ := path_pure_iff.1 h₃
    obtain ⟨rfl, rfl⟩ := Prod.mk.inj hpair
    dsimp only at h₂
    split at h₂
    · obtain ⟨-, rfl, -⟩ := path_pure_iff.1 h₂
      rfl
    · obtain ⟨t₅, rest, s₃, t₆, h₄, h₅, rfl⟩ := path_bind_iff.1 h₂
      obtain ⟨-, rfl, -⟩ := path_pure_iff.1 h₅
      rw [List.map_cons, ih h₄, List.length_cons, List.range_succ_eq_map, List.map_cons,
        List.map_map]
      rfl

/-- Behind a round that does not end the session, the others stop as all of them do. -/
theorem Stops.of_cons {round : PlayedRound} {rounds : List PlayedRound}
    (h : Stops (budget + 1) (round :: rounds)) (hend : round.outcome.isTerminal = false) :
    Stops budget rounds := by
  obtain hlen | ⟨_ | ⟨first, earlier⟩, last, heq, hlast⟩ := h
  · exact .inl (by simpa using hlen)
  · obtain ⟨rfl, -⟩ := List.cons.inj heq
    rw [hlast] at hend
    cases hend
  · exact .inr ⟨earlier, last, (List.cons.inj heq).2, hlast⟩

/-- A chain of rounds that has come to a stop is a path of the loop. -/
theorem Plays.path_playTurns {rounds : List PlayedRound} (h : Plays rotation s rounds s')
    (hlen : rounds.length ≤ budget) (hstops : Stops budget rounds) :
    ∃ turns, Path (playTurns rotation budget) s (rounds.flatMap PlayedRound.exchanges) turns s' ∧
      turns.map Prod.snd = rounds.map PlayedRound.outcome := by
  induction h generalizing budget with
  | none rotation s =>
    obtain hzero | ⟨earlier, last, heq, -⟩ := hstops
    · obtain rfl : 0 = budget := hzero
      exact ⟨[], path_pure_iff.2 ⟨rfl, rfl, rfl⟩, rfl⟩
    · simp at heq
  | @last rotation s s' t outcome h hend =>
    obtain ⟨budget, rfl⟩ := Nat.exists_eq_succ_of_ne_zero (Nat.ne_zero_of_lt hlen)
    obtain ⟨result, hcheck, rfl⟩ := path_check_of_runRound h
    refine ⟨[(rotation.next, .ofResult result)], ?_, rfl⟩
    refine path_bind_iff.2 ⟨t, _, s', [], hcheck, ?_, by simp⟩
    dsimp only
    rw [if_pos hend]
    exact path_pure_iff.2 ⟨rfl, rfl, rfl⟩
  | @next rotation s s₁ s' t outcome rounds h hend hrest ih =>
    obtain ⟨budget, rfl⟩ := Nat.exists_eq_succ_of_ne_zero (Nat.ne_zero_of_lt hlen)
    obtain ⟨result, hcheck, rfl⟩ := path_check_of_runRound h
    obtain ⟨turns, hturns, houtcomes⟩ := ih (Nat.le_of_succ_le_succ hlen) (hstops.of_cons hend)
    refine ⟨(rotation.next, .ofResult result) :: turns, ?_, by rw [List.map_cons, houtcomes]; rfl⟩
    refine path_bind_iff.2 ⟨t, _, s₁, _, hcheck, ?_, rfl⟩
    dsimp only
    rw [if_neg (by simp [hend])]
    exact path_bind_iff.2 ⟨_, turns, s', [], hturns, path_pure_iff.2 ⟨rfl, rfl, rfl⟩,
      (List.append_nil _).symm⟩

/-- Every round of a chain is one of the oracle whose turn it is. -/
theorem Plays.exists_path_of_getElem? {rounds : List PlayedRound} (h : Plays rotation s rounds s')
    {i : Nat} {round : PlayedRound} (hround : rounds[i]? = some round) :
    ∃ s₁ s₂, Path (rotation.after i).current.runRound s₁ round.exchanges round.outcome s₂ := by
  induction h generalizing i with
  | none => simp at hround
  | @last rotation s s' t outcome h hend =>
    cases i with
    | zero =>
      obtain rfl := Option.some.inj hround
      exact ⟨s, s', h⟩
    | succ i => simp at hround
  | @next rotation s s₁ s' t outcome rounds h hend hrest ih =>
    cases i with
    | zero =>
      obtain rfl := Option.some.inj hround
      exact ⟨s, s₁, h⟩
    | succ i => exact ih hround

end Paths

/-- **The turns of a session**: the loop has the rounds of the course, each with a position beside
its outcome. -/
structure TurnsOf [PatternReader] {options : SessionOptions} {dialect : Dialect}
    {setup : List SetupStatement} {t : List Exchange} {summary : SessionSummary}
    (c : Course options dialect setup t summary) (turns : List (Nat × RoundOutcome)) : Prop where
  path : Path (playTurns c.rotation options.rounds.toNat) c.ready
    (c.rounds.flatMap PlayedRound.exchanges) turns c.final
  outcomes : turns.map Prod.snd = c.rounds.map PlayedRound.outcome
  /-- The positions go round. -/
  positions : turns.map Prod.fst =
    (List.range summary.roundsRun).map (· % options.oracles.length)
  /-- Every round is one of the oracle of the kind at its position. -/
  oracles (i : Nat) (round : PlayedRound) : c.rounds[i]? = some round →
    ∃ k s₁ s₂, options.oracles[i % options.oracles.length]? = some k ∧
      Path (Oracle.runRound ⟨k, c.errors, dialect⟩) s₁ round.exchanges round.outcome s₂
  used (j : Nat) : (turns.map Prod.fst).count j =
    Nat.count (fun i => i % options.oracles.length = j) summary.roundsRun
  even (j k : Nat) : j < options.oracles.length → k < options.oracles.length →
    (turns.map Prod.fst).count j ≤ (turns.map Prod.fst).count k + 1

theorem Course.exists_turns [PatternReader] {options : SessionOptions} {dialect : Dialect}
    {setup : List SetupStatement} {t : List Exchange} {summary : SessionSummary}
    (c : Course options dialect setup t summary) : ∃ turns, TurnsOf c turns := by
  obtain ⟨turns, hpath, houtcomes⟩ := c.played.path_playTurns c.within_budget c.stops
  have hlength : turns.length = summary.roundsRun := by
    have hlen := congrArg List.length houtcomes
    rw [List.length_map, List.length_map] at hlen
    rw [hlen, c.roundsRun_eq]
  have hpositions : turns.map Prod.fst =
      (List.range summary.roundsRun).map (· % options.oracles.length) := by
    rw [positions_of_path hpath, hlength]
    exact List.map_congr_left fun i _ => Rotation.next_after_of_ofKinds c.rotation_eq i
  refine ⟨turns, hpath, houtcomes, hpositions, ?_, ?_, ?_⟩
  · intro i round hround
    obtain ⟨s₁, s₂, hrun⟩ := c.played.exists_path_of_getElem? hround
    obtain ⟨k, hk, hcurrent⟩ := Rotation.current_after_of_ofKinds c.rotation_eq i
    rw [hcurrent] at hrun
    exact ⟨k, s₁, s₂, hk, hrun⟩
  · intro j
    rw [hpositions, count_map_mod]
  · intro j k hj hk
    rw [hpositions, count_map_mod, count_map_mod]
    exact count_mod_le hj hk _

/-- **Oracles take turns, whatever their rounds do.** From a list of kinds that is not empty, the
`i`th check in a row is one of the oracle at the rest of `i`, which is announced before it and is
always there. In a session the rounds are such checks, so that an oracle is used as often as its
position comes among these rests, and none is ahead of another by more than one round. -/
theorem turns_are_even [PatternReader] :
    (∀ (kinds : List OracleKind) (errors : ExpectedErrors) (dialect : Dialect), kinds ≠ [] →
      ∃ rotation, Rotation.ofKinds kinds errors dialect = .ok rotation ∧
        (∀ i, (rotation.after i).next = i % kinds.length ∧
          (rotation.after i).next < kinds.length ∧
          ∃ k, kinds[i % kinds.length]? = some k ∧ (rotation.after i).nextKind = k ∧
            (rotation.after i).current = ⟨k, errors, dialect⟩) ∧
        ∀ m, rotation.checks m = do
          let results ←
            ((List.range m).map fun i => (rotation.after i).current).mapM fun o => o.check.run
          return (results, rotation.after m)) ∧
    (∀ (rotation : Rotation) (budget : Nat), playRounds rotation [] budget = do
      let turns ← playTurns rotation budget
      return turns.map Prod.snd) ∧
    ∀ {σ : Type} (h : Handler σ) (options : SessionOptions) (dialect : Dialect)
      (setup : List SetupStatement) (w w' : σ) (summary : SessionSummary),
      (play options dialect setup).run h w = (some (.ok summary), w') →
        ∃ (c : Course options dialect setup ((play options dialect setup).transcript h w) summary)
          (turns : List (Nat × RoundOutcome)), TurnsOf c turns := by
  refine ⟨fun kinds errors dialect hkinds => ?_, fun rotation budget => ?_, ?_⟩
  · obtain ⟨rotation, hrotation⟩ := Rotation.exists_ofKinds errors dialect hkinds
    refine ⟨rotation, hrotation, fun i => ?_, rotation.checks_eq⟩
    have hnext := Rotation.next_after_of_ofKinds hrotation i
    obtain ⟨k, hk, hcurrent⟩ := Rotation.current_after_of_ofKinds hrotation i
    refine ⟨hnext, ?_, k, hk, congrArg Oracle.kind hcurrent, hcurrent⟩
    rw [hnext]
    exact Nat.mod_lt _ (List.length_pos_iff.2 hkinds)
  · exact map_snd_playTurns rotation [] budget
  · intro σ h options dialect setup w w' summary hrun
    obtain ⟨c⟩ := exists_course (Dialogue.path_of_run hrun)
    obtain ⟨turns, hturns⟩ := c.exists_turns
    exact ⟨c, turns, hturns⟩

section

open scoped Pattern

/-- Two oracles, of which the first skips and the second passes, in three rounds. -/
theorem turns_are_even_of_two :
    let x : Offer := ⟨{ fetch := ["t.a"], tables := ["t"] }, "t.b > 0", default⟩
    let kinds : List OracleKind := [.whereClause, .distinct]
    let options : SessionOptions := { rounds := 3, oracles := kinds }
    let setup : List SetupStatement := [⟨"CREATE TABLE t (a, b)", true⟩]
    let w : World (List EngineAnswer) Unit MemoryLog :=
      ⟨[.ok .noResultSet, .ok (.rows [some "1"]), .ok (.rows [some "1"]), .ok .noResultSet], (), {}⟩
    let d := play options .strict setup
    (∃ rotation, Rotation.ofKinds kinds ∅ .strict = .ok rotation ∧ (rotation.after 2).next = 0) ∧
      ∃ summary w', d.run x.handler w = (some (.ok summary), w') ∧ summary.passed = 1 ∧
        ∃ (c : Course options .strict setup (d.transcript x.handler w) summary)
          (turns : List (Nat × RoundOutcome)), TurnsOf c turns ∧
            turns.map Prod.fst = [0, 1, 0] := by
  intro x kinds options setup w d
  have hplayed : ∃ summary w', d.run x.handler w = (some (.ok summary), w') ∧ summary.passed = 1 ∧
      summary.roundsRun = 3 := ⟨_, _, rfl, by decide, by decide⟩
  obtain ⟨summary, w', hrun, hpassed, hthree⟩ := hplayed
  obtain ⟨hchecks, -, hsessions⟩ := turns_are_even
  obtain ⟨rotation, hrotation, hturns, -⟩ := hchecks kinds ∅ .strict (by decide)
  obtain ⟨c, turns, hc⟩ := hsessions x.handler options .strict setup w w' summary hrun
  refine ⟨⟨rotation, hrotation, (hturns 2).1.trans (by decide)⟩, summary, w', hrun, hpassed, c,
    turns, hc, ?_⟩
  rw [hc.positions, hthree]
  decide

end

end Session

end Trisect
