import Mathlib.Data.List.Forall2
import Trisect.Proofs.Round.Shape

/-!
# The verdict of a round

How a round ends is a function of the answers to its statements, and this file says which. An
answer that is not a list of rows ends the round, and decides how
(`Trisect.ExpectedErrors.refusal?`). If every answer is a list of rows, the cells are brought to
the form in which the oracle sees them (`Trisect.Oracle.view`), and the round passes if the two
sides are the same result, or if both are single values that pass for one aggregate
(`Trisect.Oracle.Accepts`); otherwise it ends in a report of the mismatch.

`Trisect.Oracle.Verdict` holds all of that together, in the terms of the answers alone. The main
statement, `Trisect.Oracle.runRound_verdict`, is that every round in which the source and the log do
their part ends so, whatever the engine answers.
-/

namespace Trisect

/-! ### Answers that end a round -/

/-- What an answer that is not a list of rows makes of a round. -/
def ExpectedErrors.refusal? (errors : ExpectedErrors) (sql : String) :
    EngineAnswer → Option RoundOutcome
  | .ok (.rows _) => none
  | .ok .noResultSet => some (.skipped .noResultSet)
  | .error (.conversion _) => some (.skipped .valueConversion)
  | .error .silent => some (.failed (.unexpectedEngineError sql none))
  | .error (.rejected text) =>
    if errors.expects text then some (.skipped .expectedError)
    else some (.failed (.unexpectedEngineError sql (some text)))

section Refusal

variable {errors : ExpectedErrors} {sql : String} {queries : List String}
  {answers : List (String × EngineAnswer)}

/-- Sorting the meaning of an answer gives the outcome that the answer decides. -/
theorem ofResult_of_refusal? {answer : EngineAnswer} {outcome : RoundOutcome}
    (h : errors.refusal? sql answer = some outcome) :
    ∃ e, collected sql errors answer = .error e ∧ RoundOutcome.ofResult (.error e) = outcome := by
  rcases answer with (text | _ | detail) | (_ | cells)
  · simp only [ExpectedErrors.refusal?] at h
    by_cases hexp : errors.expects text
    · rw [if_pos hexp] at h
      obtain rfl := Option.some.inj h
      exact ⟨_, rfl, by simp [EngineError.classify, hexp, RoundOutcome.ofResult]⟩
    · rw [if_neg hexp] at h
      obtain rfl := Option.some.inj h
      exact ⟨_, rfl, by simp [EngineError.classify, hexp, RoundOutcome.ofResult]⟩
  · obtain rfl := Option.some.inj h
    exact ⟨_, rfl, rfl⟩
  · obtain rfl := Option.some.inj h
    exact ⟨_, rfl, rfl⟩
  · obtain rfl := Option.some.inj h
    exact ⟨_, rfl, rfl⟩
  · simp [ExpectedErrors.refusal?] at h

/-- An answer is a list of rows, or it decides, but not that there is something to report. -/
theorem rows_or_refusal? (errors : ExpectedErrors) (sql : String) (answer : EngineAnswer) :
    (∃ cells, answer = .ok (.rows cells)) ∨
      ∃ outcome, errors.refusal? sql answer = some outcome ∧ ∀ report, outcome ≠ .bug report := by
  rcases answer with (text | _ | detail) | (_ | cells)
  · by_cases hexp : errors.expects text
    · exact .inr ⟨_, if_pos hexp, by simp⟩
    · exact .inr ⟨_, if_neg hexp, by simp⟩
  · exact .inr ⟨_, rfl, by simp⟩
  · exact .inr ⟨_, rfl, by simp⟩
  · exact .inr ⟨_, rfl, by simp⟩
  · exact .inl ⟨cells, rfl⟩

/-- **An answer that is not a list of rows is the meaning of them all**: what came before it was
rows, and nothing comes after it. -/
theorem InOrder.gather_of_refused (h : InOrder queries answers) {q : String × EngineAnswer}
    (hq : q ∈ answers) {e : OracleError} (he : collected q.1 errors q.2 = .error e) :
    gather errors answers = .error e := by
  induction h with
  | nil => simp at hq
  | stopped sql rest hnone =>
    obtain rfl := List.mem_singleton.1 hq
    simp [gather, he]
  | answered sql cells hrest ih =>
    rcases List.mem_cons.1 hq with rfl | hq
    · simp [collected] at he
    · simp [gather, collected, ih hq, Except.map]

theorem InOrder.map_fst_prefix (h : InOrder queries answers) :
    answers.map Prod.fst <+: queries := by
  induction h with
  | nil => exact List.prefix_rfl
  | stopped sql rest _ => exact ⟨rest, rfl⟩
  | answered sql cells _ ih => exact List.prefix_cons_inj sql |>.2 ih

theorem InOrder.rows_of_mem_dropLast (h : InOrder queries answers) {q : String × EngineAnswer}
    (hq : q ∈ answers.dropLast) : ∃ cells, q.2 = .ok (.rows cells) := by
  induction h with
  | nil => simp at hq
  | stopped sql rest _ => simp at hq
  | @answered sql cells rest later hrest ih =>
    cases later with
    | nil => simp at hq
    | cons q' later =>
      rw [List.dropLast_cons_cons] at hq
      rcases List.mem_cons.1 hq with rfl | hq
      · exact ⟨cells, rfl⟩
      · exact ih hq

/-- If every answer is a list of rows, all statements are sent. -/
theorem InOrder.map_fst_of_rows (h : InOrder queries answers)
    (hrows : ∀ q ∈ answers, ∃ cells, q.2 = .ok (.rows cells)) : answers.map Prod.fst = queries := by
  induction h with
  | nil => rfl
  | @stopped sql rest answer hnone =>
    obtain ⟨cells, hcells⟩ := hrows (sql, answer) (by simp)
    obtain rfl : answer = .ok (.rows cells) := hcells
    simp [EngineAnswer.cells?] at hnone
  | answered sql cells _ ih =>
    rw [List.map_cons, ih fun q hq => hrows q (List.mem_cons_of_mem _ hq)]

/-- If every answer is a list of rows, what is gathered are their cells in normal form. -/
theorem gather_of_rows {results : List (List Cell)}
    (h : answers.map Prod.snd = results.map fun cells => .ok (.rows cells)) :
    gather errors answers = .ok (results.map (List.map Cell.normalized)) := by
  induction answers generalizing results with
  | nil =>
    obtain rfl : results = [] := by simpa using h.symm
    rfl
  | cons q later ih =>
    cases results with
    | nil => simp at h
    | cons cells results =>
      obtain ⟨hq, hlater⟩ := List.cons.inj h
      simp [gather, show q.2 = .ok (.rows cells) from hq, collected, ih hlater, Except.map]

/-- If no answer was refused, all of them are lists of rows. -/
theorem exists_rows_of_gather_eq_ok {cells : List (List Cell)}
    (h : gather errors answers = .ok cells) :
    ∃ results : List (List Cell),
      answers.map Prod.snd = results.map fun cells => .ok (.rows cells) := by
  induction answers generalizing cells with
  | nil => exact ⟨[], rfl⟩
  | cons q later ih =>
    obtain ⟨sql, failure | (_ | rows)⟩ := q
    · simp [gather, collected] at h
    · simp [gather, collected] at h
    · cases hg : gather errors later with
      | error e => simp [gather, collected, hg, Except.map] at h
      | ok cells' =>
        obtain ⟨results, hresults⟩ := ih hg
        exact ⟨rows :: results, by rw [List.map_cons, List.map_cons, hresults]⟩

theorem InOrder.ne_nil {sql : String} (h : InOrder (sql :: queries) answers) : answers ≠ [] := by
  cases h <;> simp

end Refusal

/-! ### The judgement of rows -/

/-- Two cells that pass for the value of one aggregate: they are the same, or numbers that are
close. -/
def Cell.Close : Cell → Cell → Prop
  | none, none => True
  | some a, some b => a = b ∨ Decimal.nearlyEqual a b = true
  | _, _ => False

theorem singleValuesAgree_iff {first second : List Cell} :
    singleValuesAgree first second = true ↔
      ∃ a b, first = [a] ∧ second = [b] ∧ Cell.Close a b := by
  constructor
  · intro h
    unfold singleValuesAgree at h
    split at h
    · next a b => exact ⟨some a, some b, rfl, rfl, by simpa [Cell.Close] using h⟩
    · exact ⟨none, none, rfl, rfl, trivial⟩
    · simp at h
  · rintro ⟨a, b, rfl, rfl, h⟩
    cases a with
    | none =>
      cases b with
      | none => rfl
      | some b => exact h.elim
    | some a =>
      cases b with
      | none => exact h.elim
      | some b => simpa [singleValuesAgree, Cell.Close] using h

namespace Oracle

/-- The form in which an oracle sees a cell: without the zeros at the end of a plain decimal and, if
the dialect says so, without the sign of a zero. NULL stays NULL. -/
def view (o : Oracle) (c : Cell) : Cell :=
  c.map fun text =>
    if o.dialect.canonicalizeNegativeZero then Decimal.foldMinusZero (Decimal.stripZeros text)
    else Decimal.stripZeros text

/-- When an oracle accepts that the rows of the whole are those of the parts. -/
def Accepts (o : Oracle) (first second : List Cell) : Prop :=
  SameResult (first.map o.view) (second.map o.view) ∨
    o.kind = .aggregate ∧ ∃ a b, first.map Cell.normalized = [a] ∧
      second.map Cell.normalized = [b] ∧ Cell.Close a b

/-- **How the answers to the statements of a round decide its outcome.** -/
structure Verdict (o : Oracle) (whole : String) (parts : List String)
    (answers : List (String × EngineAnswer)) (outcome : RoundOutcome) : Prop where
  /-- The query over the whole is sent, and then the statements of the parts, in order. -/
  in_order : answers ≠ [] ∧ answers.map Prod.fst <+: whole :: parts
  /-- Nothing is sent after an answer that is not a list of rows. -/
  stops : ∀ q ∈ answers.dropLast, ∃ cells, q.2 = .ok (.rows cells)
  /-- As long as the answers are lists of rows, the next statement is sent. -/
  goes_on : (∀ q ∈ answers, ∃ cells, q.2 = .ok (.rows cells)) →
    answers.map Prod.fst = whole :: parts
  /-- An answer that is not a list of rows decides. -/
  refused : ∀ q ∈ answers, ∀ out, o.errors.refusal? q.1 q.2 = some out → outcome = out
  /-- If all answers are lists of rows, the round passes exactly if the oracle accepts them. -/
  passes : ∀ first rest,
    answers.map Prod.snd = (first :: rest).map (fun cells => .ok (.rows cells)) →
      (outcome = .passed ↔ o.Accepts first rest.flatten)
  /-- If it does not, the round ends in the report of the mismatch. -/
  reports : ∀ first rest,
    answers.map Prod.snd = (first :: rest).map (fun cells => .ok (.rows cells)) →
      ¬o.Accepts first rest.flatten →
        ∃ m, Mismatch.Describes (first.map o.view) (rest.flatten.map o.view) m ∧
          outcome = .bug ⟨whole, parts, m⟩

variable {o : Oracle} {whole : String} {parts : List String} {s s' : Session}
  {t : List Exchange} {r : Except OracleError Unit}

/-- In normal form only the sign of a zero is left to drop. -/
theorem map_view (o : Oracle) (cells : List Cell) :
    cells.map o.view =
      if o.dialect.canonicalizeNegativeZero then (cells.map Cell.normalized).map Cell.foldMinusZero
      else cells.map Cell.normalized := by
  by_cases hfold : o.dialect.canonicalizeNegativeZero
  · rw [if_pos hfold, List.map_map]
    refine List.map_congr_left fun c _ => ?_
    cases c <;> simp [view, hfold, Cell.foldMinusZero, Cell.normalized]
  · rw [if_neg hfold]
    refine List.map_congr_left fun c _ => ?_
    cases c <;> simp [view, hfold, Cell.normalized]

/-- **A comparison does not see the order of the rows**, not even in what it reports. -/
theorem compare_eq_of_perm (o : Oracle) {first second first' second' : List Cell}
    (h₁ : first.Perm first') (h₂ : second.Perm second') :
    o.compare whole parts first second = o.compare whole parts first' second' := by
  rw [compare, compare, assertEqual_eq_of_perm h₁ h₂, assertEqualUnder_eq_of_perm _ h₁ h₂]

/-- What comparing two results in normal form ends in; no statement is sent. -/
theorem path_compare {first second : List Cell}
    (h : SessionM.Path
      (o.compare whole parts (first.map Cell.normalized) (second.map Cell.normalized)) s t r s') :
    sent t = [] ∧
      ((SameResult (first.map o.view) (second.map o.view) ∧ RoundOutcome.ofResult r = .passed) ∨
        ∃ m, Mismatch.Describes (first.map o.view) (second.map o.view) m ∧
          RoundOutcome.ofResult r = .bug ⟨whole, parts, m⟩) := by
  have h' : SessionM.Path (assertEqual whole parts (first.map o.view) (second.map o.view))
      s t r s' := by
    rw [map_view, map_view]
    rw [compare] at h
    by_cases hfold : o.dialect.canonicalizeNegativeZero
    · rw [if_pos hfold] at h
      rwa [if_pos hfold, if_pos hfold]
    · rw [if_neg hfold] at h
      rwa [if_neg hfold, if_neg hfold]
  obtain ⟨hsame, rfl, rfl, -⟩ | ⟨m, hm, ⟨answer, rfl⟩, rfl, -⟩ := path_assertEqual h'
  · exact ⟨rfl, Or.inl ⟨hsame, rfl⟩⟩
  · exact ⟨rfl, Or.inr ⟨m, hm, rfl⟩⟩

/-- **What the judgement of a round ends in**; no statement is sent. -/
theorem path_judge {first : List Cell} {rest : List (List Cell)}
    (h : SessionM.Path (o.judge whole parts ((first :: rest).map (List.map Cell.normalized)))
      s t r s') :
    sent t = [] ∧
      ((o.Accepts first rest.flatten ∧ RoundOutcome.ofResult r = .passed) ∨
        ¬o.Accepts first rest.flatten ∧
          ∃ m, Mismatch.Describes (first.map o.view) (rest.flatten.map o.view) m ∧
            RoundOutcome.ofResult r = .bug ⟨whole, parts, m⟩) := by
  rw [List.map_cons, judge, ← List.map_flatten] at h
  split at h
  · next hclose =>
    obtain ⟨rfl, rfl, rfl⟩ := SessionM.path_pure_iff.1 h
    exact ⟨rfl, Or.inl ⟨Or.inr ⟨hclose.1, singleValuesAgree_iff.1 hclose.2⟩, rfl⟩⟩
  · next hclose =>
    obtain ⟨hsent, ⟨hsame, hr⟩ | ⟨m, hm, hr⟩⟩ := path_compare h
    · exact ⟨hsent, Or.inl ⟨Or.inl hsame, hr⟩⟩
    · refine ⟨hsent, Or.inr ⟨?_, m, hm, hr⟩⟩
      rintro (hsame | ⟨hkind, hsingle⟩)
      · exact hm.not_sameResult hsame
      · exact hclose ⟨hkind, singleValuesAgree_iff.2 hsingle⟩

/-- If what is gathered is an error, then an answer was refused, and the error is what it means. -/
theorem verdict_of_gather_error {answers : List (String × EngineAnswer)} {e : OracleError}
    (hin : InOrder (whole :: parts) answers) (he : gather o.errors answers = .error e) :
    o.Verdict whole parts answers (RoundOutcome.ofResult (.error e)) := by
  have hno : ∀ results : List (List Cell),
      answers.map Prod.snd ≠ results.map fun cells => .ok (.rows cells) := by
    intro results hrows
    rw [gather_of_rows hrows] at he
    cases he
  refine ⟨⟨hin.ne_nil, hin.map_fst_prefix⟩, fun q => hin.rows_of_mem_dropLast,
    hin.map_fst_of_rows, fun q hq out hout => ?_, fun first rest hrows => ?_,
    fun first rest hrows => ?_⟩
  · obtain ⟨e', he', rfl⟩ := ofResult_of_refusal? hout
    rw [hin.gather_of_refused hq he'] at he
    rw [Except.error.inj he]
  · exact absurd hrows (hno _)
  · exact absurd hrows (hno _)

/-- If every answer is a list of rows, then the judgement of their cells is the verdict. -/
theorem verdict_of_rows {answers : List (String × EngineAnswer)} {first : List Cell}
    {rest : List (List Cell)} {outcome : RoundOutcome} (hin : InOrder (whole :: parts) answers)
    (hresults : answers.map Prod.snd = (first :: rest).map fun cells => .ok (.rows cells))
    (hjudged : (o.Accepts first rest.flatten ∧ outcome = .passed) ∨
      ¬o.Accepts first rest.flatten ∧
        ∃ m, Mismatch.Describes (first.map o.view) (rest.flatten.map o.view) m ∧
          outcome = .bug ⟨whole, parts, m⟩) :
    o.Verdict whole parts answers outcome := by
  -- the cells of the answers determine the two sides of the comparison
  have hsides : ∀ first' rest', answers.map Prod.snd =
      (first' :: rest').map (fun cells => .ok (.rows cells)) → first' = first ∧ rest' = rest := by
    intro first' rest' h'
    rw [hresults, List.map_inj_right fun x y hxy => by simpa using hxy] at h'
    exact ⟨(List.cons.inj h').1.symm, (List.cons.inj h').2.symm⟩
  refine ⟨⟨hin.ne_nil, hin.map_fst_prefix⟩, fun q => hin.rows_of_mem_dropLast,
    hin.map_fst_of_rows, fun q hq out hout => ?_, fun first' rest' hrows => ?_,
    fun first' rest' hrows hno => ?_⟩
  · obtain ⟨e, he, -⟩ := ofResult_of_refusal? hout
    have hgather := hin.gather_of_refused hq he
    rw [gather_of_rows hresults] at hgather
    cases hgather
  · obtain ⟨rfl, rfl⟩ := hsides first' rest' hrows
    obtain ⟨hacc, hr⟩ | ⟨hacc, m, -, hr⟩ := hjudged
    · exact iff_of_true hr hacc
    · exact iff_of_false (by simp [hr]) hacc
  · obtain ⟨rfl, rfl⟩ := hsides first' rest' hrows
    obtain ⟨hacc, -⟩ | ⟨-, hm⟩ := hjudged
    · exact absurd hacc hno
    · exact hm

/-- **A path that sends and judges ends in the verdict on its answers.** -/
theorem verdict_of_sends (h : Sends o.errors (whole :: parts) (o.judge whole parts) s t r s') :
    o.Verdict whole parts (sent t) (RoundOutcome.ofResult r) := by
  obtain ⟨t₁, t₂, rfl, hin, ⟨e, he, rfl, rfl, rfl⟩ | ⟨cells, hcells, hpath⟩⟩ := h
  · rw [List.append_nil]
    exact verdict_of_gather_error hin he
  · obtain ⟨results, hresults⟩ := exists_rows_of_gather_eq_ok hcells
    rw [gather_of_rows hresults] at hcells
    obtain rfl := Except.ok.inj hcells
    cases results with
    | nil => exact absurd (by simpa using hresults) hin.ne_nil
    | cons first rest =>
      obtain ⟨hsent, hjudged⟩ := path_judge hpath
      rw [sent_append, hsent, List.append_nil]
      exact verdict_of_rows hin hresults hjudged

/-- **Every path of a round** on which the source and the log do their part takes an offer, and ends
in the verdict on the answers to its statements. -/
theorem verdict_of_path {outcome : RoundOutcome}
    (h : Session.Path o.runRound s t outcome s') (hall : ∀ e ∈ t, e.isSmooth) :
    ∃ x, o.kind.offering x <+: t ∧
      o.Verdict (o.wholeQuery x) (o.partQueries x) (sent t) outcome := by
  obtain ⟨t₁, r, s₁, t₂, h₁, h₂, rfl⟩ := Session.path_bind_iff.1 h
  obtain ⟨rfl, rfl, rfl⟩ := Session.path_pure_iff.1 h₂
  rw [List.append_nil] at hall ⊢
  obtain ⟨x, t', rfl, hsends⟩ := path_check h₁ hall
  refine ⟨x, List.prefix_append _ _, ?_⟩
  have hoffer : sent (o.kind.offering x) = [] := by
    cases hk : o.kind <;> rfl
  rw [sent_append, hoffer, List.nil_append]
  exact verdict_of_sends hsends

/-- If the offer is known, so are the statements that the verdict is about. -/
theorem exists_verdict_of_offering {σ : Type} {h : Handler σ} {w : σ} {x : Offer}
    (hall : ∀ e ∈ (o.runRound.run s).transcript h w, e.isSmooth)
    (hoffer : o.kind.offering x <+: (o.runRound.run s).transcript h w) :
    ∃ outcome s' w', (o.runRound.run s).run h w = (some (outcome, s'), w') ∧
      o.Verdict (o.wholeQuery x) (o.partQueries x) (sent ((o.runRound.run s).transcript h w))
        outcome := by
  obtain ⟨⟨outcome, s'⟩, w', hrun⟩ := Dialogue.exists_run_of_answered (h := h)
    (d := o.runRound.run s) (s := w) fun e he => Exchange.isSome_of_isSmooth (hall e he)
  obtain ⟨y, hy, hverdict⟩ := verdict_of_path (Dialogue.path_of_run hrun) hall
  obtain ⟨hwhole, hparts⟩ := queries_eq_of_offering hoffer hy
  rw [hwhole, hparts]
  exact ⟨outcome, s', w', hrun, hverdict⟩

/-- Only statements of the round are sent. -/
theorem Verdict.mem_statements {answers : List (String × EngineAnswer)} {outcome : RoundOutcome}
    (hv : o.Verdict whole parts answers outcome) {q : String × EngineAnswer} (hq : q ∈ answers) :
    q.1 ∈ whole :: parts :=
  hv.in_order.2.subset (List.mem_map_of_mem hq)

/-- If every answer is a list of rows of a certain sort, then there is one for each statement. -/
theorem Verdict.exists_results {answers : List (String × EngineAnswer)} {outcome : RoundOutcome}
    (hv : o.Verdict whole parts answers outcome) (Right : String → List Cell → Prop)
    (hright : ∀ q ∈ answers, ∃ cells, q.2 = .ok (.rows cells) ∧ Right q.1 cells) :
    ∃ first rest, answers.map Prod.snd = (first :: rest).map (fun cells => .ok (.rows cells)) ∧
      Right whole first ∧ List.Forall₂ Right parts rest := by
  have hfst : answers.map Prod.fst = whole :: parts := hv.goes_on fun q hq =>
    let ⟨cells, hcells, _⟩ := hright q hq
    ⟨cells, hcells⟩
  obtain ⟨results, hresults, hall⟩ : ∃ results : List (List Cell),
      answers.map Prod.snd = results.map (fun cells => .ok (.rows cells)) ∧
        List.Forall₂ Right (answers.map Prod.fst) results := by
    -- the answers are taken one by one, whichever statements they belong to
    clear hv hfst
    induction answers with
    | nil => exact ⟨[], rfl, .nil⟩
    | cons q later ih =>
      obtain ⟨cells, hcells, hq⟩ := hright q List.mem_cons_self
      obtain ⟨results, hresults, hall⟩ := ih fun q hq => hright q (List.mem_cons_of_mem _ hq)
      refine ⟨cells :: results, ?_, .cons hq hall⟩
      rw [List.map_cons, List.map_cons, hresults, hcells]
  rw [hfst] at hall
  cases hall with
  | cons hfirst hrest => exact ⟨_, _, hresults, hfirst, hrest⟩

/-- **A report is about the statements of the round.** -/
theorem Verdict.queries_of_bug {answers : List (String × EngineAnswer)} {report : BugReport}
    (hv : o.Verdict whole parts answers (.bug report)) :
    report.wholeQuery = whole ∧ report.reconstructedQueries = parts := by
  have hrows : ∀ q ∈ answers, ∃ cells, q.2 = .ok (.rows cells) ∧ True := by
    intro q hq
    obtain ⟨cells, hcells⟩ | ⟨outcome, hrefusal, hne⟩ := rows_or_refusal? o.errors q.1 q.2
    · exact ⟨cells, hcells, trivial⟩
    · exact absurd (hv.refused q hq outcome hrefusal).symm (hne report)
  obtain ⟨first, rest, hresults, -⟩ := hv.exists_results (fun _ _ => True) hrows
  have hno : ¬o.Accepts first rest.flatten := by
    rw [← hv.passes first rest hresults]
    simp
  obtain ⟨m, -, hbug⟩ := hv.reports first rest hresults hno
  rw [RoundOutcome.bug.inj hbug]
  exact ⟨rfl, rfl⟩

/-- **The exact verdict of a round**, whoever answers: if the source gives what it is asked for and
the log takes what it is given, the round comes to an end, and its outcome is the verdict on the
answers to its statements, which are the queries over the whole and over the parts of the offer. -/
theorem runRound_verdict {σ : Type} (h : Handler σ) (o : Oracle) (s : Session) (w : σ)
    (hall : ∀ e ∈ (o.runRound.run s).transcript h w, e.isSmooth) :
    ∃ x outcome s' w', (o.runRound.run s).run h w = (some (outcome, s'), w') ∧
      o.kind.offering x <+: (o.runRound.run s).transcript h w ∧
      o.Verdict (o.wholeQuery x) (o.partQueries x) (sent ((o.runRound.run s).transcript h w))
        outcome := by
  obtain ⟨⟨outcome, s'⟩, w', hrun⟩ := Dialogue.exists_run_of_answered (h := h)
    (d := o.runRound.run s) (s := w) fun e he => Exchange.isSome_of_isSmooth (hall e he)
  obtain ⟨x, hoffer, hverdict⟩ := verdict_of_path (Dialogue.path_of_run hrun) hall
  exact ⟨x, outcome, s', w', hrun, hoffer, hverdict⟩

/-- Groups in order, the parts run one after the other, and the second of them without a result. -/
theorem runRound_verdict_of_script :
    let o : Oracle := ⟨.having, ∅, .sqlite⟩
    let base : Select := { fetch := ["t.a"], tables := ["t"], orderBy := ["t.a"] }
    let x : Offer := ⟨base, "MAX(t.b) > 1", default⟩
    let s : Session := .new true "db0" 0
    let w : World (List EngineAnswer) Unit MemoryLog :=
      ⟨[.ok (.rows [some "2.00", none]), .ok (.rows [some "2"]), .ok .noResultSet], (), {}⟩
    (∀ e ∈ (o.runRound.run s).transcript x.handler w, e.isSmooth) ∧
      ∃ x' outcome s' w', (o.runRound.run s).run x.handler w = (some (outcome, s'), w') ∧
        o.kind.offering x' <+: (o.runRound.run s).transcript x.handler w ∧
        o.Verdict (o.wholeQuery x') (o.partQueries x')
          (sent ((o.runRound.run s).transcript x.handler w)) outcome :=
  ⟨by decide, runRound_verdict _ _ _ _ (by decide)⟩

end Oracle

end Trisect
