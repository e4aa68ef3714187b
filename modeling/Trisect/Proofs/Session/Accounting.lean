import Mathlib.Algebra.GroupWithZero.Nat
import Trisect.Pattern.Regular
import Trisect.Proofs.Asking
import Trisect.Proofs.Round.Shape
import Trisect.Proofs.Session.Course

/-!
# The accounts of a session

A summary counts the rounds that were run, those that passed and those that were skipped, and the
skipped ones again for each reason. Whatever the rounds were, the books balance
(`Trisect.SessionSummary.Accounts`): a session that was not cut short has used its budget, and every
round of it was passed or skipped; one that was cut short has one round more than these, the last.

That the counters are counts of outcomes is proved of the summary of any list of outcomes, by
induction on the list. What makes the books balance is the course of the session, in which no round
but the last can end it. The main statement, `Trisect.Session.accounts_of_run`, is about every run
that comes to a summary, whoever answers.
-/

namespace Trisect

/-! ### Counts for tags -/

namespace TagCounts

variable {tag : String} {f : Nat → Nat} {entries : List (String × Nat)}

theorem lookup_cons_eq_ite (e : String × Nat) (entries : List (String × Nat)) (tag : String) :
    (e :: entries).lookup tag = if tag = e.1 then some e.2 else entries.lookup tag := by
  rw [List.lookup_cons]
  by_cases h : tag = e.1
  · rw [if_pos h, beq_iff_eq.2 h]
  · rw [if_neg h, beq_eq_false_iff_ne.2 h]

theorem lookup_eq_none_of_lt (h : ∀ e ∈ entries, tag < e.1) : entries.lookup tag = none := by
  induction entries with
  | nil => rfl
  | cons d rest ih =>
    have hne : tag ≠ d.1 := by
      intro heq
      have := h d List.mem_cons_self
      rw [heq] at this
      exact String.lt_irrefl _ this
    rw [lookup_cons_eq_ite, if_neg hne]
    exact ih fun e he => h e (List.mem_cons_of_mem _ he)

/-- In a sorted list every entry is the one that is found. -/
theorem lookup_eq_some_of_mem (hsorted : entries.Pairwise fun a b => a.1 < b.1) {e : String × Nat}
    (he : e ∈ entries) : entries.lookup e.1 = some e.2 := by
  induction entries with
  | nil => simp at he
  | cons d rest ih =>
    rw [List.pairwise_cons] at hsorted
    rw [lookup_cons_eq_ite]
    rcases List.mem_cons.1 he with rfl | he
    · rw [if_pos rfl]
    · have hne : e.1 ≠ d.1 := by
        intro heq
        have := hsorted.1 e he
        rw [heq] at this
        exact String.lt_irrefl _ this
      rw [if_neg hne]
      exact ih hsorted.2 he

/-- **A count that is altered** is the count of its tag, and no other count changes. -/
theorem lookup_alter (hsorted : entries.Pairwise fun a b => a.1 < b.1) (tag' : String) :
    (alter tag f entries).lookup tag' =
      if tag' = tag then some (f ((entries.lookup tag).getD 0)) else entries.lookup tag' := by
  induction entries with
  | nil => rw [alter, lookup_cons_eq_ite, List.lookup_nil, List.lookup_nil, Option.getD_none]
  | cons d rest ih =>
    obtain ⟨t, n⟩ := d
    rw [List.pairwise_cons] at hsorted
    rw [alter]
    split
    · next hlt =>
      -- the tag comes before all others, and so it is not among them
      have hnone : ((t, n) :: rest).lookup tag = none := by
        refine lookup_eq_none_of_lt fun e he => ?_
        rcases List.mem_cons.1 he with rfl | he
        · exact hlt
        · exact String.lt_trans hlt (hsorted.1 e he)
      rw [hnone, lookup_cons_eq_ite, Option.getD_none]
    · split
      · next hgt =>
        have hne : tag ≠ t := by
          rintro rfl
          exact String.lt_irrefl _ hgt
        rw [lookup_cons_eq_ite, ih hsorted.2, lookup_cons_eq_ite, lookup_cons_eq_ite, if_neg hne]
        by_cases h : tag' = t
        · have hne' : tag' ≠ tag := fun heq => hne (heq.symm.trans h)
          rw [if_pos h, if_neg hne', if_pos h]
        · rw [if_neg h, if_neg h]
      · next hlt hgt =>
        have heq : tag = t := String.le_antisymm (String.not_lt.1 hgt) (String.not_lt.1 hlt)
        subst heq
        rw [lookup_cons_eq_ite, lookup_cons_eq_ite, lookup_cons_eq_ite, if_pos rfl,
          Option.getD_some]
        by_cases h : tag' = tag
        · rw [if_pos h, if_pos h]
        · rw [if_neg h, if_neg h, if_neg h]

theorem sum_alter_succ (tag : String) (entries : List (String × Nat)) :
    ((alter tag (· + 1) entries).map Prod.snd).sum = (entries.map Prod.snd).sum + 1 := by
  induction entries with
  | nil => rfl
  | cons d rest ih =>
    obtain ⟨t, n⟩ := d
    rw [alter]
    split
    · simp only [List.map_cons, List.sum_cons]
      omega
    · split
      · simp only [List.map_cons, List.sum_cons, ih]
        omega
      · simp only [List.map_cons, List.sum_cons]
        omega

theorem count_increment (c : TagCounts) (tag tag' : String) :
    (c.increment tag).count tag' = c.count tag' + if tag' = tag then 1 else 0 := by
  rw [count, increment, lookup_alter c.sorted, count]
  by_cases h : tag' = tag <;> simp [h]

theorem count_of_mem (c : TagCounts) {e : String × Nat} (he : e ∈ c.entries) :
    c.count e.1 = e.2 := by
  rw [count, lookup_eq_some_of_mem c.sorted he, Option.getD_some]

/-- The sum of all counts. -/
def total (c : TagCounts) : Nat := (c.entries.map Prod.snd).sum

theorem total_increment (c : TagCounts) (tag : String) :
    (c.increment tag).total = c.total + 1 := sum_alter_succ tag c.entries

/-- Every count is of a reason, and is not zero. -/
def CountsReasons (c : TagCounts) : Prop :=
  ∀ e ∈ c.entries, 0 < e.2 ∧ ∃ reason : SkipReason, e.1 = reason.tag

theorem CountsReasons.increment {c : TagCounts} (h : c.CountsReasons) (reason : SkipReason) :
    (c.increment reason.tag).CountsReasons := by
  intro e he
  have hcount := count_of_mem _ he
  rw [count_increment] at hcount
  by_cases htag : e.1 = reason.tag
  · rw [if_pos htag] at hcount
    exact ⟨by omega, reason, htag⟩
  · rw [if_neg htag, Nat.add_zero] at hcount
    -- another tag than the one that is counted was there before
    rcases mem_alter he with hmem | hmem
    · exact absurd hmem htag
    · obtain ⟨d, hd, hde⟩ := List.mem_map.1 hmem
      obtain ⟨hpos, htags⟩ := h d hd
      rw [← hde, count_of_mem c hd] at hcount
      exact ⟨hcount ▸ hpos, by rwa [← hde]⟩

end TagCounts

/-! ### Counters -/

/-- Whether a round was skipped. -/
def RoundOutcome.isSkip : RoundOutcome → Bool
  | skipped _ => true
  | _ => false

@[simp] theorem RoundOutcome.isSkip_passed : passed.isSkip = false := rfl

@[simp] theorem RoundOutcome.isSkip_skipped (reason : SkipReason) :
    (skipped reason).isSkip = true := rfl

@[simp] theorem RoundOutcome.isSkip_bug (report : BugReport) : (bug report).isSkip = false := rfl

@[simp] theorem RoundOutcome.isSkip_failed (e : OracleError) : (failed e).isSkip = false := rfl

/-- What a session ends in that ends with a round. -/
def RoundOutcome.verdict (path : Option String) : RoundOutcome → SessionOutcome
  | bug report => .logicBug report path
  | failed e => .failed e.message
  | _ => .completed

namespace SessionSummary

variable {path : Option String}

theorem roundsRun_foldl (outcomes : List RoundOutcome) (s : SessionSummary) :
    (outcomes.foldl (addOutcome path) s).roundsRun = s.roundsRun + outcomes.length := by
  induction outcomes generalizing s with
  | nil => rfl
  | cons o rest ih =>
    rw [List.foldl_cons, ih, List.length_cons]
    cases o <;> simp [addOutcome] <;> omega

theorem passed_foldl (outcomes : List RoundOutcome) (s : SessionSummary) :
    (outcomes.foldl (addOutcome path) s).passed = s.passed + outcomes.count .passed := by
  induction outcomes generalizing s with
  | nil => rfl
  | cons o rest ih =>
    rw [List.foldl_cons, ih, List.count_cons]
    cases o with
    | passed =>
      simp only [addOutcome, beq_self_eq_true, if_pos]
      omega
    | _ => simp [addOutcome]

theorem skipped_foldl (outcomes : List RoundOutcome) (s : SessionSummary) :
    (outcomes.foldl (addOutcome path) s).skipped = s.skipped + outcomes.countP (·.isSkip) := by
  induction outcomes generalizing s with
  | nil => rfl
  | cons o rest ih =>
    rw [List.foldl_cons, ih, List.countP_cons]
    cases o with
    | skipped reason =>
      simp only [addOutcome, RoundOutcome.isSkip_skipped, if_pos]
      omega
    | _ => simp [addOutcome]

theorem total_skipReasons_foldl (outcomes : List RoundOutcome) (s : SessionSummary) :
    (outcomes.foldl (addOutcome path) s).skipReasons.total =
      s.skipReasons.total + outcomes.countP (·.isSkip) := by
  induction outcomes generalizing s with
  | nil => rfl
  | cons o rest ih =>
    rw [List.foldl_cons, ih, List.countP_cons]
    cases o with
    | skipped reason =>
      simp only [addOutcome, TagCounts.total_increment, RoundOutcome.isSkip_skipped, if_pos]
      omega
    | _ => simp [addOutcome]

theorem count_skipReasons_foldl (reason : SkipReason) (outcomes : List RoundOutcome)
    (s : SessionSummary) :
    (outcomes.foldl (addOutcome path) s).skipReasons.count reason.tag =
      s.skipReasons.count reason.tag + outcomes.count (.skipped reason) := by
  induction outcomes generalizing s with
  | nil => rfl
  | cons o rest ih =>
    rw [List.foldl_cons, ih, List.count_cons]
    cases o with
    | skipped reason' =>
      have htag : reason.tag = reason'.tag ↔ reason' = reason :=
        ⟨fun h => (SkipReason.tag_injective h).symm, fun h => h ▸ rfl⟩
      simp only [addOutcome, TagCounts.count_increment, htag, beq_iff_eq,
        RoundOutcome.skipped.injEq]
      omega
    | _ => simp [addOutcome]

theorem countsReasons_foldl (outcomes : List RoundOutcome) {s : SessionSummary}
    (h : s.skipReasons.CountsReasons) :
    (outcomes.foldl (addOutcome path) s).skipReasons.CountsReasons := by
  induction outcomes generalizing s with
  | nil => exact h
  | cons o rest ih =>
    rw [List.foldl_cons]
    cases o with
    | skipped reason => exact ih (h.increment reason)
    | _ => exact ih h

/-- Rounds that do not end the session do not change how it ends. -/
theorem outcome_foldl {outcomes : List RoundOutcome}
    (h : ∀ o ∈ outcomes, o.isTerminal = false) (s : SessionSummary) :
    (outcomes.foldl (addOutcome path) s).outcome = s.outcome := by
  induction outcomes generalizing s with
  | nil => rfl
  | cons o rest ih =>
    rw [List.foldl_cons, ih fun o ho => h o (List.mem_cons_of_mem _ ho)]
    have ho := h o List.mem_cons_self
    cases o with
    | passed => rfl
    | skipped reason => rfl
    | bug report => simp [RoundOutcome.isTerminal] at ho
    | failed e => simp [RoundOutcome.isTerminal] at ho

/-- A round that does not end the session is passed or skipped. -/
theorem count_passed_add_countP_isSkip {outcomes : List RoundOutcome}
    (h : ∀ o ∈ outcomes, o.isTerminal = false) :
    outcomes.count .passed + outcomes.countP (·.isSkip) = outcomes.length := by
  induction outcomes with
  | nil => rfl
  | cons o rest ih =>
    have hrest := ih fun o ho => h o (List.mem_cons_of_mem _ ho)
    have ho := h o List.mem_cons_self
    rw [List.count_cons, List.countP_cons, List.length_cons]
    cases o with
    | passed => simp; omega
    | skipped reason => simp; omega
    | bug report => simp [RoundOutcome.isTerminal] at ho
    | failed e => simp [RoundOutcome.isTerminal] at ho

/-! ### Balance -/

variable {options : SessionOptions} {replay : ReplayState}

/-- **The accounts of a session** that had a budget of rounds and whose rounds ended in certain
ways. -/
structure Accounts (budget : Nat) (path : Option String) (outcomes : List RoundOutcome)
    (summary : SessionSummary) : Prop where
  rounds_run : summary.roundsRun = outcomes.length
  passed : summary.passed = outcomes.count .passed
  skipped : summary.skipped = outcomes.countP (·.isSkip)
  within_budget : summary.roundsRun ≤ budget
  /-- Where every round was run, the budget is spent, and every round was passed or skipped. -/
  completed : summary.outcome = .completed →
    summary.roundsRun = budget ∧ summary.passed + summary.skipped = summary.roundsRun
  /-- Where a round has ended the session, it is the last one, and the others were passed or
  skipped. -/
  cut_short : summary.outcome ≠ .completed →
    1 ≤ summary.roundsRun ∧ summary.passed + summary.skipped + 1 = summary.roundsRun ∧
      ∃ earlier last, outcomes = earlier ++ [last] ∧ (∀ o ∈ earlier, o.isTerminal = false) ∧
        last.isTerminal = true ∧ summary.outcome = last.verdict path
  reasons_pos : ∀ e ∈ summary.skipReasons.entries, 0 < e.2
  reasons_sum : (summary.skipReasons.entries.map Prod.snd).sum = summary.skipped
  /-- A key is the tag of a reason, and counts the rounds that were skipped for it. -/
  reasons_count : ∀ e ∈ summary.skipReasons.entries,
    ∃ reason : SkipReason, e.1 = reason.tag ∧ e.2 = outcomes.count (.skipped reason)

/-- Every counter of a summary fits into a word of 64 bits. -/
def CountersFit (summary : SessionSummary) : Prop :=
  summary.roundsRun < 2 ^ 64 ∧ summary.passed < 2 ^ 64 ∧ summary.skipped < 2 ^ 64 ∧
    ∀ e ∈ summary.skipReasons.entries, e.2 < 2 ^ 64

theorem roundsRun_ofOutcomes (outcomes : List RoundOutcome) :
    (ofOutcomes options outcomes path replay).roundsRun = outcomes.length := by
  rw [ofOutcomes, roundsRun_foldl, Nat.zero_add]

theorem passed_ofOutcomes (outcomes : List RoundOutcome) :
    (ofOutcomes options outcomes path replay).passed = outcomes.count .passed := by
  rw [ofOutcomes, passed_foldl, Nat.zero_add]

theorem skipped_ofOutcomes (outcomes : List RoundOutcome) :
    (ofOutcomes options outcomes path replay).skipped = outcomes.countP (·.isSkip) := by
  rw [ofOutcomes, skipped_foldl, Nat.zero_add]

theorem countsReasons_ofOutcomes (outcomes : List RoundOutcome) :
    (ofOutcomes options outcomes path replay).skipReasons.CountsReasons :=
  countsReasons_foldl outcomes fun e he => by simp at he

theorem eq_count_of_mem_skipReasons {outcomes : List RoundOutcome} {e : String × Nat}
    (he : e ∈ (ofOutcomes options outcomes path replay).skipReasons.entries) :
    ∃ reason : SkipReason, e.1 = reason.tag ∧ e.2 = outcomes.count (.skipped reason) := by
  obtain ⟨-, reason, htag⟩ := countsReasons_ofOutcomes outcomes e he
  have hcount := TagCounts.count_of_mem _ he
  rw [htag, ofOutcomes, count_skipReasons_foldl] at hcount
  refine ⟨reason, htag, hcount.symm.trans ?_⟩
  exact Nat.zero_add _

/-- **The last round decides** how the session ends, if it does end the session. -/
theorem outcome_ofOutcomes {earlier : List RoundOutcome} {last : RoundOutcome}
    (hlast : last.isTerminal = true) :
    (ofOutcomes options (earlier ++ [last]) path replay).outcome = last.verdict path := by
  rw [ofOutcomes, List.foldl_append]
  cases last with
  | bug report => rfl
  | failed e => rfl
  | passed => simp [RoundOutcome.isTerminal] at hlast
  | skipped reason => simp [RoundOutcome.isTerminal] at hlast

/-- The books balance if the budget is spent by rounds that do not end the session, or if the last
of the rounds is the only one that does. -/
theorem accounts_ofOutcomes {budget : Nat} {outcomes : List RoundOutcome}
    (hbudget : outcomes.length ≤ budget)
    (h : ((∀ o ∈ outcomes, o.isTerminal = false) ∧ outcomes.length = budget) ∨
      ∃ earlier last, outcomes = earlier ++ [last] ∧ (∀ o ∈ earlier, o.isTerminal = false) ∧
        last.isTerminal = true) :
    (ofOutcomes options outcomes path replay).Accounts budget path outcomes where
  rounds_run := roundsRun_ofOutcomes outcomes
  passed := passed_ofOutcomes outcomes
  skipped := skipped_ofOutcomes outcomes
  within_budget := by rwa [roundsRun_ofOutcomes]
  completed := by
    intro hcompleted
    rw [roundsRun_ofOutcomes, passed_ofOutcomes, skipped_ofOutcomes]
    obtain ⟨hgoes, hspent⟩ | ⟨earlier, last, rfl, hearlier, hlast⟩ := h
    · exact ⟨hspent, count_passed_add_countP_isSkip hgoes⟩
    · rw [ofOutcomes, List.foldl_append] at hcompleted
      cases last <;> simp [addOutcome, RoundOutcome.isTerminal] at hcompleted hlast
  cut_short := by
    intro hcut
    obtain ⟨hgoes, -⟩ | ⟨earlier, last, rfl, hearlier, hlast⟩ := h
    · exact absurd (outcome_foldl hgoes _) hcut
    · have hrest := count_passed_add_countP_isSkip hearlier
      rw [roundsRun_ofOutcomes, passed_ofOutcomes, skipped_ofOutcomes, List.count_append,
        List.countP_append, List.length_append, List.length_singleton]
      have hone : [last].count .passed + [last].countP (·.isSkip) = 0 := by
        cases last <;> simp [RoundOutcome.isTerminal] at hlast ⊢
      exact ⟨by omega, by omega, earlier, last, rfl, hearlier, hlast, outcome_ofOutcomes hlast⟩
  reasons_pos := fun e he => (countsReasons_ofOutcomes outcomes e he).1
  reasons_sum := by
    rw [skipped_ofOutcomes]
    exact (total_skipReasons_foldl outcomes _).trans (Nat.zero_add _)
  reasons_count := fun e => eq_count_of_mem_skipReasons

theorem countersFit_ofOutcomes {outcomes : List RoundOutcome} (h : outcomes.length < 2 ^ 64) :
    (ofOutcomes options outcomes path replay).CountersFit := by
  rw [CountersFit, roundsRun_ofOutcomes, passed_ofOutcomes, skipped_ofOutcomes]
  refine ⟨h, Nat.lt_of_le_of_lt List.count_le_length h, Nat.lt_of_le_of_lt List.countP_le_length h,
    fun e he => ?_⟩
  obtain ⟨reason, -, hcount⟩ := eq_count_of_mem_skipReasons he
  rw [hcount]
  exact Nat.lt_of_le_of_lt List.count_le_length h

end SessionSummary

/-! ### Sessions -/

/-- Whether a request is for the log, and neither for the engine nor for the source. -/
def Request.IsForLog : Request → Prop
  | openLog _ _ | writeQuery _ | flush | writeDiagnostic _ | writeReport _ _ _ => True
  | query _ | execute _ | version | refreshSchema => False
  | baseSelect | predicate | groupPredicate _ | aggregate => False

namespace Session

variable {options : SessionOptions} {dialect : Dialect} {setup : List SetupStatement}
  {t : List Exchange} {summary : SessionSummary}

/-- The rounds of a course are passed or skipped until the budget is spent, or up to the last. -/
theorem Course.outcomes_cases [PatternReader] (c : Course options dialect setup t summary) :
    let outcomes := c.rounds.map PlayedRound.outcome
    ((∀ o ∈ outcomes, o.isTerminal = false) ∧ outcomes.length = options.rounds.toNat) ∨
      ∃ earlier last, outcomes = earlier ++ [last] ∧ (∀ o ∈ earlier, o.isTerminal = false) ∧
        last.isTerminal = true := by
  intro outcomes
  have hearlier : ∀ round ∈ c.rounds.dropLast, round.outcome.isTerminal = false := fun _ =>
    c.played.isTerminal_of_mem_dropLast
  obtain hnil | ⟨earlier, last, hrounds⟩ := List.eq_nil_or_concat c.rounds
  · refine Or.inl ⟨fun o ho => by simp [outcomes, hnil] at ho, ?_⟩
    obtain hlen | ⟨earlier, last, hrounds, -⟩ := c.stops
    · rw [List.length_map, hlen]
    · rw [hnil] at hrounds
      simp at hrounds
  · rw [List.concat_eq_append] at hrounds
    rw [hrounds, List.dropLast_concat] at hearlier
    have houtcomes : outcomes = earlier.map PlayedRound.outcome ++ [last.outcome] := by
      rw [← List.map_singleton, ← List.map_append, ← hrounds]
    have hgoes : ∀ o ∈ earlier.map PlayedRound.outcome, o.isTerminal = false := by
      intro o ho
      obtain ⟨round, hround, rfl⟩ := List.mem_map.1 ho
      exact hearlier round hround
    by_cases hlast : last.outcome.isTerminal = true
    · exact Or.inr ⟨_, _, houtcomes, hgoes, hlast⟩
    · refine Or.inl ⟨?_, ?_⟩
      · intro o ho
        rw [houtcomes] at ho
        rcases List.mem_append.1 ho with ho | ho
        · exact hgoes o ho
        · rw [List.mem_singleton.1 ho]
          simpa using hlast
      · obtain hlen | ⟨earlier', last', hrounds', hlast'⟩ := c.stops
        · rw [List.length_map, hlen]
        · rw [hrounds] at hrounds'
          obtain ⟨-, rfl⟩ := List.append_inj' hrounds' rfl |>.imp id List.singleton_inj.1
          exact absurd hlast' hlast

/-- **The books of a session balance**, whoever answers. A session that comes to a summary has had
a course; its counters are those of the rounds of that course, after every one of them they fit
into a word, and behind the last round nobody but the log is asked. -/
theorem accounts_of_run [PatternReader] {σ : Type} (h : Handler σ) (options : SessionOptions)
    (dialect : Dialect) (setup : List SetupStatement) (w w' : σ) (summary : SessionSummary)
    (hrun : (play options dialect setup).run h w = (some (.ok summary), w')) :
    ∃ c : Course options dialect setup ((play options dialect setup).transcript h w) summary,
      summary.Accounts options.rounds.toNat c.path (c.rounds.map PlayedRound.outcome) ∧
      (∀ x ∈ c.closing, x.request.IsForLog) ∧
      ∀ played, played <+: c.rounds.map PlayedRound.outcome →
        (SessionSummary.ofOutcomes options played c.path c.final.replay).CountersFit := by
  obtain ⟨c⟩ := exists_course (Dialogue.path_of_run hrun)
  have hbudget : (c.rounds.map PlayedRound.outcome).length ≤ options.rounds.toNat := by
    rw [List.length_map]
    exact c.within_budget
  refine ⟨c, ?_, fun x hx => ?_, fun played hplayed => ?_⟩
  · have haccounts : (SessionSummary.ofOutcomes options (c.rounds.map PlayedRound.outcome) c.path
        c.final.replay).Accounts options.rounds.toNat c.path (c.rounds.map PlayedRound.outcome) :=
      SessionSummary.accounts_ofOutcomes hbudget c.outcomes_cases
    rwa [← c.summary_eq] at haccounts
  · obtain ⟨directory, report, -, hx⟩ := (asks_writeReport options _).of_mem_path c.reported hx
    rw [hx]
    trivial
  · refine SessionSummary.countersFit_ofOutcomes ?_
    have hlen := hplayed.length_le
    have hword : options.rounds.toNat < 2 ^ 64 := options.rounds.toNat_lt
    omega

section

open scoped Pattern

/-- One round that passes, one without a result set, and one with a row too few: the last of a
budget of five. -/
theorem accounts_of_short_session :
    let x : Offer := ⟨{ fetch := ["t.a"], tables := ["t"] }, "t.b > 0", default⟩
    let options : SessionOptions := { rounds := 5, oracles := [.whereClause] }
    let setup : List SetupStatement := [⟨"CREATE TABLE t (a, b)", true⟩]
    let w : World (List EngineAnswer) Unit MemoryLog :=
      ⟨[.ok (.rows [some "1"]), .ok (.rows [some "1"]), .ok .noResultSet,
        .ok (.rows [some "1"]), .ok (.rows [])], (), {}⟩
    let d := play options .strict setup
    ∃ summary w', d.run x.handler w = (some (.ok summary), w') ∧
      summary.skipReasons.entries = [("no_result_set", 1)] ∧ summary.outcome ≠ .completed ∧
      ∃ c : Course options .strict setup (d.transcript x.handler w) summary,
        summary.Accounts options.rounds.toNat c.path (c.rounds.map PlayedRound.outcome) ∧
        (∀ x ∈ c.closing, x.request.IsForLog) ∧
        ∀ played, played <+: c.rounds.map PlayedRound.outcome →
          (SessionSummary.ofOutcomes options played c.path c.final.replay).CountersFit := by
  intro x options setup w d
  have hrun : ∃ summary w', d.run x.handler w = (some (.ok summary), w') ∧
      summary.skipReasons.entries = [("no_result_set", 1)] ∧ summary.outcome ≠ .completed :=
    ⟨_, _, rfl, by decide, by decide⟩
  obtain ⟨summary, w', hrun, hreasons, hcut⟩ := hrun
  exact ⟨summary, w', hrun, hreasons, hcut,
    accounts_of_run x.handler options .strict setup w w' summary hrun⟩

end

end Session

end Trisect
