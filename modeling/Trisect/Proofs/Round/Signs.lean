import Trisect.Proofs.Alike
import Trisect.Proofs.Comparing
import Trisect.Proofs.Decimal.Projection
import Trisect.Proofs.Round.Deciding

/-!
# What it takes away to drop the signs of zeros

Whether the sign of a zero counts is up to the dialect (`Trisect.Oracle.folding`). An oracle looks
at that in one place only, right before it compares, so that a round falls into two parts: up to the
comparison it comes to its two sides (`Trisect.Oracle.sides`), and this part is the same program for
both dialects; what is left is to compare them (`Trisect.Oracle.conclude`), in which nothing is
asked but to take a diagnostic. The aggregate oracle may also find that there is nothing to compare,
because two single values are close enough; it finds so before the signs are looked at.

A function on cells keeps the number of rows, and takes equal sets of cells to equal ones. So what
passes without it passes under it (`Trisect.SameResult.map`), and dropping signs only takes reports
away, or changes which cells they list (`Trisect.RoundOutcome.Spared`). Behind the first step a cell
is dropped the sign of only if it is the text `-0` (`Trisect.Cell.foldMinusZero_normalized_of_ne`):
the zeros at the end of `-0.0` are gone by then. The main statement is
`Trisect.dropping_signs_only_spares`.
-/

namespace Trisect

/-! ### Cells -/

/-- **In normal form only one text has a sign to drop.** -/
theorem Cell.foldMinusZero_normalized_of_ne {c : Cell} (h : c.normalized ≠ some "-0") :
    c.normalized.foldMinusZero = c.normalized := by
  cases c with
  | none => rfl
  | some s =>
    exact congrArg some (Decimal.foldMinusZero_of_ne (Decimal.stripZeros_ne_minusZero s)
      fun heq => h (congrArg some heq))

/-- What is the same stays the same under every function on cells. -/
theorem SameResult.map {first second : List Cell} (f : Cell → Cell) (h : SameResult first second) :
    SameResult (first.map f) (second.map f) := by
  refine ⟨by rw [List.length_map, List.length_map, h.1], fun c => ?_⟩
  simp only [List.mem_map, h.2]

/-! ### Two outcomes -/

namespace RoundOutcome

/-- **What an outcome may become when signs are dropped**: the second is that of the round which
drops them. -/
structure Spared (kept dropped : RoundOutcome) : Prop where
  passed : kept = .passed → dropped = .passed
  /-- A report stands against the same queries. -/
  bug (report : BugReport) :
    dropped = .bug report → ∃ m, kept = .bug { report with mismatch := m }
  skipped (reason : SkipReason) : kept = .skipped reason ↔ dropped = .skipped reason
  failed (e : OracleError) : kept = .failed e ↔ dropped = .failed e

theorem spared_self (outcome : RoundOutcome) : Spared outcome outcome :=
  ⟨id, fun report h => ⟨report.mismatch, h⟩, fun _ => Iff.rfl, fun _ => Iff.rfl⟩

/-- A report is taken away. -/
theorem spared_passed (report : BugReport) : Spared (.bug report) .passed := by
  refine ⟨?_, ?_, ?_, ?_⟩ <;> simp

/-- A report lists other cells. -/
theorem spared_bug (whole : String) (parts : List String) (m m' : Mismatch) :
    Spared (.bug ⟨whole, parts, m⟩) (.bug ⟨whole, parts, m'⟩) := by
  refine ⟨by simp, ?_, by simp, by simp⟩
  rintro report ⟨⟩
  exact ⟨m, rfl⟩

end RoundOutcome

/-! ### A round up to its comparison -/

/-- The two sides of a comparison, with the texts for its report. -/
structure Sides where
  whole : String
  reconstructed : List String
  first : List Cell
  second : List Cell

namespace Oracle

/-- The oracle with the signs of zeros dropped or kept, and the same in all else. -/
def folding (o : Oracle) (drops : Bool) : Oracle :=
  { o with dialect := { o.dialect with canonicalizeNegativeZero := drops } }

/-- What an oracle makes of a cell right before it compares. -/
def fold (o : Oracle) : Cell → Cell :=
  if o.dialect.canonicalizeNegativeZero then Cell.foldMinusZero else id

theorem compare_eq_under (o : Oracle) (whole : String) (parts : List String)
    (first second : List Cell) :
    o.compare whole parts first second = assertEqualUnder o.fold whole parts first second := by
  rw [compare, fold]
  split
  · rfl
  · rw [assertEqual_eq_under]

/-- The sides that a base query and the queries of its parts come to. -/
def sidesOfParts (o : Oracle) (base : Select) (condition : String) : SessionM (Option Sides) := do
  let first ← collect o.errors base.sql
  let parts : CombinedQuery :=
    ⟨o.kind.components base condition, o.kind.combination, o.singleStatement base⟩
  let second ← (combine o.dialect o.errors parts : StateT Session Dialogue CombinedResult)
  return some ⟨base.sql, second.reconstructed, first, ← SessionM.ofExcept second.cells⟩

/-- The sides that an aggregate and its reconstruction come to, if they are not close enough. -/
def sidesOfAggregate (o : Oracle) (base : Select) (f : AggregateFn) (argument condition : String) :
    SessionM (Option Sides) := do
  let whole := aggregateOfWhole base f argument
  let parts := aggregateOfParts base f argument condition
  let first ← collect o.errors whole
  let second ← collect o.errors parts
  if singleValuesAgree first second then return none
  return some ⟨whole, [parts], first, second⟩

/-- The sides that a round comes to. -/
def sides (o : Oracle) : SessionM (Option Sides) := do
  let base ← askBase o.kind
  match o.kind with
  | .aggregate =>
    let (f, argument) ← SessionM.ofExcept (← SessionM.ask .aggregate)
    let condition ← SessionM.ofExcept (← SessionM.ask .predicate)
    o.sidesOfAggregate base f argument condition
  | .having =>
    let condition ← SessionM.ofExcept (← SessionM.ask (.groupPredicate base.groupBy))
    o.sidesOfParts base condition
  | _ =>
    let condition ← SessionM.ofExcept (← SessionM.ask .predicate)
    o.sidesOfParts base condition

/-- What is left of a round when it has come to its sides. -/
def conclude (o : Oracle) : Option Sides → SessionM Unit
  | none => pure ()
  | some x => o.compare x.whole x.reconstructed x.first x.second

theorem sidesOfParts_bind (o : Oracle) (base : Select) (condition : String) :
    o.sidesOfParts base condition >>= o.conclude = o.checkParts base condition := by
  simp only [sidesOfParts, checkParts, bind_assoc, pure_bind, conclude]

theorem sidesOfAggregate_bind (o : Oracle) (base : Select) (f : AggregateFn)
    (argument condition : String) :
    o.sidesOfAggregate base f argument condition >>= o.conclude =
      o.checkAggregate base f argument condition := by
  simp only [sidesOfAggregate, checkAggregate, bind_assoc]
  refine bind_congr fun first => bind_congr fun second => ?_
  split
  · rfl
  · rfl

/-- **A round comes to its sides and concludes from them.** -/
theorem sides_bind (o : Oracle) : o.sides >>= o.conclude = o.check := by
  simp only [sides, check, bind_assoc]
  refine bind_congr fun base => ?_
  obtain ⟨kind, errors, dialect⟩ := o
  cases kind with
  | aggregate => simp only [bind_assoc, sidesOfAggregate_bind]
  | _ => simp only [bind_assoc, sidesOfParts_bind]

/-- **Both dialects come to the same sides** in the same way. -/
theorem sides_folding (o : Oracle) (drops : Bool) : (o.folding drops).sides = o.sides := rfl

end Oracle

/-! ### What the engine returned -/

/-- The cells that the engine returned, as it returned them. -/
def returned (t : List Exchange) : List Cell :=
  (sent t).flatMap fun q => (EngineAnswer.cells? q.2).getD []

theorem returned_append (t₁ t₂ : List Exchange) :
    returned (t₁ ++ t₂) = returned t₁ ++ returned t₂ := by
  rw [returned, sent_append, List.flatMap_append, returned, returned]

/-- Cells of which each is the normal form of one that was returned. -/
def NormalFormsOf (t : List Exchange) (cells : List Cell) : Prop :=
  ∀ c ∈ cells, ∃ d ∈ returned t, c = d.normalized

namespace NormalFormsOf

variable {t t₁ t₂ : List Exchange} {cells cells' : List Cell}

theorem append_left (h : NormalFormsOf t cells) (t₁ : List Exchange) :
    NormalFormsOf (t₁ ++ t) cells := by
  intro c hc
  obtain ⟨d, hd, hnormal⟩ := h c hc
  exact ⟨d, by rw [returned_append]; exact List.mem_append_right _ hd, hnormal⟩

theorem append_right (h : NormalFormsOf t cells) (t₂ : List Exchange) :
    NormalFormsOf (t ++ t₂) cells := by
  intro c hc
  obtain ⟨d, hd, hnormal⟩ := h c hc
  exact ⟨d, by rw [returned_append]; exact List.mem_append_left _ hd, hnormal⟩

theorem append (h : NormalFormsOf t₁ cells) (h' : NormalFormsOf t₂ cells') :
    NormalFormsOf (t₁ ++ t₂) (cells ++ cells') := by
  intro c hc
  rcases List.mem_append.1 hc with hc | hc
  · exact h.append_right t₂ c hc
  · exact h'.append_left t₁ c hc

/-- Dropping signs changes no normal forms of cells that have no sign to drop. -/
theorem map_foldMinusZero (h : NormalFormsOf t cells)
    (hnone : ∀ c ∈ returned t, c.normalized ≠ some "-0") :
    cells.map Cell.foldMinusZero = cells := by
  refine (List.map_congr_left fun c hc => ?_).trans cells.map_id
  obtain ⟨d, hd, rfl⟩ := h c hc
  exact Cell.foldMinusZero_normalized_of_ne (hnone d hd)

end NormalFormsOf

section Sides

variable {errors : ExpectedErrors} {s s' : Session} {t : List Exchange}

theorem normalFormsOf_collect {sql : String} {cells : List Cell}
    (h : SessionM.Path (collect errors sql) s t (.ok cells) s') : NormalFormsOf t cells := by
  obtain ⟨-, hran⟩ := ran_of_path h
  generalize hr : Except.ok cells = r at hran
  cases hran with
  | refused => cases hr
  | answered answer =>
    rcases answer with failure | (_ | rows)
    · cases hr
    · cases hr
    · obtain rfl := Except.ok.inj hr
      intro c hc
      obtain ⟨d, hd, rfl⟩ := List.mem_map.1 hc
      refine ⟨d, ?_, rfl⟩
      simpa [returned, EngineAnswer.cells?] using hd

theorem normalFormsOf_combineAs {text : String} {result : CombinedResult} {cells : List Cell}
    (h : Session.Path (combineAs errors text) s t result s') (hcells : result.cells = .ok cells) :
    NormalFormsOf t cells := by
  obtain ⟨t₁, r, s₁, t₂, h₁, h₂, rfl⟩ := Session.path_bind_iff.1 h
  obtain ⟨rfl, rfl, rfl⟩ := Session.path_pure_iff.1 h₂
  obtain rfl : r = .ok cells := hcells
  exact (normalFormsOf_collect h₁).append_right []

theorem normalFormsOf_concatenate {queries : List String} {result : CombinedResult}
    {cells : List Cell} (h : Session.Path (concatenate errors queries) s t result s')
    (hcells : result.cells = .ok cells) : NormalFormsOf t cells := by
  induction queries generalizing s t result cells with
  | nil =>
    obtain ⟨rfl, rfl, rfl⟩ := Session.path_pure_iff.1 h
    obtain rfl := Except.ok.inj hcells
    exact fun c hc => absurd hc (by simp)
  | cons q qs ih =>
    obtain ⟨t₁, r, s₁, t₂, h₁, h₂, rfl⟩ := Session.path_bind_iff.1 h
    cases r with
    | error e =>
      obtain ⟨rfl, rfl, rfl⟩ := Session.path_pure_iff.1 h₂
      cases hcells
    | ok first =>
      obtain ⟨t₃, rest, s₂, t₄, h₃, h₄, rfl⟩ := Session.path_bind_iff.1 h₂
      obtain ⟨rfl, rfl, rfl⟩ := Session.path_pure_iff.1 h₄
      cases hrest : rest.cells with
      | error e => simp [hrest, Except.map] at hcells
      | ok later =>
        obtain rfl : first ++ later = cells := by simpa [hrest, Except.map] using hcells
        rw [List.append_nil]
        exact (normalFormsOf_collect h₁).append (ih h₃ hrest)

theorem normalFormsOf_combine {dialect : Dialect} {q : CombinedQuery} {result : CombinedResult}
    {cells : List Cell} (h : Session.Path (combine dialect errors q) s t result s')
    (hcells : result.cells = .ok cells) : NormalFormsOf t cells := by
  rw [combine] at h
  split at h
  · exact normalFormsOf_combineAs h hcells
  · exact normalFormsOf_concatenate h hcells
  · exact normalFormsOf_combineAs h hcells
  · obtain ⟨-, rfl, -⟩ := Session.path_pure_iff.1 h
    cases hcells

namespace Oracle

variable {o : Oracle} {x : Sides}

/-- Sides of which each cell is the normal form of one that was returned. -/
def Collects (m : SessionM (Option Sides)) : Prop :=
  ∀ s t x s', SessionM.Path m s t (.ok (some x)) s' →
    NormalFormsOf t x.first ∧ NormalFormsOf t x.second

/-- What comes before does not matter. -/
theorem collects_bind {α : Type} {m : SessionM α} {f : α → SessionM (Option Sides)}
    (hf : ∀ a, Collects (f a)) : Collects (m >>= f) := by
  intro s t x s' h
  obtain ⟨e, -, he⟩ | ⟨t₁, a, s₁, t₂, -, h₂, rfl⟩ := SessionM.path_bind_iff.1 h
  · cases he
  · obtain ⟨hfirst, hsecond⟩ := hf a _ _ _ _ h₂
    exact ⟨hfirst.append_left t₁, hsecond.append_left t₁⟩

theorem collects_sidesOfParts (base : Select) (condition : String) :
    Collects (o.sidesOfParts base condition) := by
  intro s t x s' h
  obtain ⟨e, -, he⟩ | ⟨t₁, first, s₁, t₂, h₁, h₂, rfl⟩ := SessionM.path_bind_iff.1 h
  · cases he
  obtain ⟨e, -, he⟩ | ⟨t₃, result, s₂, t₄, h₃, h₄, rfl⟩ := SessionM.path_bind_iff.1 h₂
  · cases he
  obtain ⟨e, -, -, he, -⟩ | ⟨second, hsecond, h₅⟩ := SessionM.path_ofExcept_bind_iff.1 h₄
  · cases he
  obtain ⟨rfl, hx, rfl⟩ := SessionM.path_pure_iff.1 h₅
  obtain rfl := Option.some.inj (Except.ok.inj hx)
  obtain ⟨result', h₆, hresult⟩ := SessionM.path_lift_iff.1 h₃
  obtain rfl := Except.ok.inj hresult
  rw [List.append_nil]
  exact ⟨(normalFormsOf_collect h₁).append_right t₃,
    (normalFormsOf_combine h₆ hsecond).append_left t₁⟩

theorem collects_sidesOfAggregate (base : Select) (f : AggregateFn) (argument condition : String) :
    Collects (o.sidesOfAggregate base f argument condition) := by
  intro s t x s' h
  obtain ⟨e, -, he⟩ | ⟨t₁, first, s₁, t₂, h₁, h₂, rfl⟩ := SessionM.path_bind_iff.1 h
  · cases he
  obtain ⟨e, -, he⟩ | ⟨t₃, second, s₂, t₄, h₃, h₄, rfl⟩ := SessionM.path_bind_iff.1 h₂
  · cases he
  split at h₄
  · obtain ⟨-, hx, -⟩ := SessionM.path_pure_iff.1 h₄
    cases hx
  · obtain ⟨rfl, hx, rfl⟩ := SessionM.path_pure_iff.1 h₄
    obtain rfl := Option.some.inj (Except.ok.inj hx)
    rw [List.append_nil]
    exact ⟨(normalFormsOf_collect h₁).append_right t₃,
      (normalFormsOf_collect h₃).append_left t₁⟩

/-- **What is compared was returned by the engine**, and is in normal form. -/
theorem collects_sides (o : Oracle) : Collects o.sides := by
  refine collects_bind fun base => ?_
  split
  · refine collects_bind fun answer => collects_bind fun x => ?_
    refine collects_bind fun answer => collects_bind fun condition => ?_
    exact collects_sidesOfAggregate base _ _ condition
  · refine collects_bind fun answer => collects_bind fun condition => ?_
    exact collects_sidesOfParts base condition
  · refine collects_bind fun answer => collects_bind fun condition => ?_
    exact collects_sidesOfParts base condition

end Oracle

end Sides

/-! ### Two rounds -/

/-- What was asked and answered, but for diagnostics. -/
def withoutDiagnostics (t : List Exchange) : List Exchange :=
  t.filter fun x => x.request.diagnostic?.isNone

theorem withoutDiagnostics_append (t₁ t₂ : List Exchange) :
    withoutDiagnostics (t₁ ++ t₂) = withoutDiagnostics t₁ ++ withoutDiagnostics t₂ :=
  List.filter_append ..

/-- A diagnostic is no statement. -/
theorem statementsOf_withoutDiagnostics (t : List Exchange) :
    statementsOf (withoutDiagnostics t) = statementsOf t := by
  rw [statementsOf, withoutDiagnostics, List.filterMap_filter]
  congr 1
  funext x
  obtain ⟨r, answer⟩ := x
  cases r <;> rfl

section Runs

variable {γ σ κ : Type}

/-- **What dropping signs changes in a run**: nothing that is said to the engine or the source, or
noted, and nothing that these are left with; and of the outcome only what may be spared. -/
structure SparedRun (h : Handler (World γ σ κ)) (w : World γ σ κ)
    (kept dropped : Dialogue (RoundOutcome × Session)) : Prop where
  exchanges : withoutDiagnostics (dropped.transcript h w) =
    withoutDiagnostics (kept.transcript h w)
  world : (dropped.run h w).2.SameBut (kept.run h w).2
  /-- Both break down or neither does. -/
  outcome : Option.Rel (fun x y => x.1.Spared y.1) (kept.run h w).1 (dropped.run h w).1

variable {h : Handler (World γ σ κ)} {w : World γ σ κ}

theorem sparedRun_self (d : Dialogue (RoundOutcome × Session)) : SparedRun h w d d := by
  refine ⟨rfl, ⟨rfl, rfl⟩, ?_⟩
  cases (d.run h w).1 with
  | none => exact .none
  | some x => exact .some (RoundOutcome.spared_self x.1)

/-- What both runs begin with makes no difference. -/
theorem sparedRun_bind {α : Type} (d : Dialogue α) {f g : α → Dialogue (RoundOutcome × Session)}
    (hfg : ∀ a w, SparedRun h w (f a) (g a)) : SparedRun h w (d.bind f) (d.bind g) := by
  rcases hrun : d.run h w with ⟨_ | a, w'⟩
  · refine ⟨?_, ?_, ?_⟩
    · rw [Dialogue.transcript_bind, Dialogue.transcript_bind, hrun]
    · rw [Dialogue.run_bind, Dialogue.run_bind, hrun]
      exact ⟨rfl, rfl⟩
    · rw [Dialogue.run_bind, Dialogue.run_bind, hrun]
      exact .none
  · obtain ⟨hexchanges, hworld, houtcome⟩ := hfg a w'
    refine ⟨?_, ?_, ?_⟩
    · rw [Dialogue.transcript_bind, Dialogue.transcript_bind, hrun, withoutDiagnostics_append,
        withoutDiagnostics_append]
      exact congrArg _ hexchanges
    · rwa [Dialogue.run_bind, Dialogue.run_bind, hrun]
    · rwa [Dialogue.run_bind, Dialogue.run_bind, hrun]

end Runs

namespace Oracle

/-- The end of a round, from what the way to its sides has come to. -/
def ending (o : Oracle) :
    Except OracleError (Option Sides) × Session → Dialogue (RoundOutcome × Session)
  | (.error e, s) => .done (.ofResult (.error e), s)
  | (.ok x, s) => ((o.conclude x).run s).bind fun y => .done (.ofResult y.1, y.2)

theorem runRound_eq_bind (o : Oracle) (s : Session) :
    o.runRound.run s = (o.sides.run s).bind o.ending := by
  have hcheck : o.runRound.run s = (o.check.run s).bind fun y => .done (.ofResult y.1, y.2) := rfl
  have hsides : (o.sides >>= o.conclude).run s = (o.sides.run s).bind fun y =>
      match y.1 with
      | .error e => .done (.error e, y.2)
      | .ok x => (o.conclude x).run y.2 := by
    change (o.sides.run s).bind _ = _
    congr 1
    funext y
    rcases y with ⟨e | x, s'⟩ <;> rfl
  rw [hcheck, ← sides_bind, hsides, Dialogue.bind_assoc]
  congr 1
  funext y
  rcases y with ⟨e | x, s'⟩ <;> rfl

/-- **What is left of a round that compares**: a diagnostic and a report, if the sides differ. -/
theorem ending_some (o : Oracle) (x : Sides) (s : Session) :
    o.ending (.ok (some x), s) =
      match Mismatch.between? (x.first.map o.fold) (x.second.map o.fold) with
      | none => .done (.passed, s)
      | some m =>
        .ask (.writeDiagnostic (BugReport.diagnostic ⟨x.whole, x.reconstructed, m⟩)) fun _ =>
          .done (.bug ⟨x.whole, x.reconstructed, m⟩,
            s.record (BugReport.statements ⟨x.whole, x.reconstructed, m⟩)) := by
  rw [ending, conclude, compare_eq_under, run_assertEqualUnder]
  cases Mismatch.between? (x.first.map o.fold) (x.second.map o.fold) <;> rfl

variable {γ σ κ : Type} (c : Connection γ) (source : ShapeSource σ) (journal : Journal κ)
  (o : Oracle)

theorem map_fold_keeping (cells : List Cell) : cells.map (o.folding false).fold = cells :=
  List.map_id cells

/-- **A comparison that drops signs** takes a report away, or changes what it lists. -/
theorem sparedRun_ending (y : Except OracleError (Option Sides) × Session) (w : World γ σ κ) :
    SparedRun (World.handler c source journal) w ((o.folding false).ending y)
      ((o.folding true).ending y) := by
  obtain ⟨e | _ | x, s⟩ := y
  · exact sparedRun_self _
  · exact sparedRun_self _
  -- both sides pass under the function if they pass without it
  have hpass : Mismatch.between? x.first x.second = none →
      Mismatch.between? (x.first.map (o.folding true).fold)
        (x.second.map (o.folding true).fold) = none := fun hnone =>
    Mismatch.between?_eq_none_iff.2 ((Mismatch.between?_eq_none_iff.1 hnone).map _)
  rw [ending_some, ending_some, map_fold_keeping, map_fold_keeping]
  cases hkept : Mismatch.between? x.first x.second with
  | none =>
    rw [hpass hkept]
    exact sparedRun_self _
  | some m =>
    obtain ⟨answer, k, hanswer⟩ := World.handler_remark c source journal
      (r := .writeDiagnostic (BugReport.diagnostic ⟨x.whole, x.reconstructed, m⟩)) trivial w
    cases hdropped : Mismatch.between? (x.first.map (o.folding true).fold)
        (x.second.map (o.folding true).fold) with
    | none =>
      refine ⟨?_, ?_, ?_⟩
      · simp only [Dialogue.transcript, hanswer]
        rfl
      · simp only [Dialogue.run, hanswer]
        exact ⟨rfl, rfl⟩
      · simp only [Dialogue.run, hanswer]
        exact .some (RoundOutcome.spared_passed _)
    | some m' =>
      obtain ⟨answer', k', hanswer'⟩ := World.handler_remark c source journal
        (r := .writeDiagnostic (BugReport.diagnostic ⟨x.whole, x.reconstructed, m'⟩)) trivial w
      refine ⟨?_, ?_, ?_⟩
      · simp only [Dialogue.transcript, hanswer, hanswer']
        rfl
      · simp only [Dialogue.run, hanswer, hanswer']
        exact ⟨rfl, rfl⟩
      · simp only [Dialogue.run, hanswer, hanswer']
        exact .some (RoundOutcome.spared_bug _ _ _ _)

/-- Where there is no sign to drop, what is left of the two rounds is the same. -/
theorem ending_eq_of_no_sign {t : List Exchange} {s s' : Session}
    {r : Except OracleError (Option Sides)} (h : SessionM.Path o.sides s t r s')
    (hnone : ∀ c ∈ returned t, c.normalized ≠ some "-0") :
    (o.folding true).ending (r, s') = (o.folding false).ending (r, s') := by
  rcases r with e | _ | x
  · rfl
  · rfl
  · obtain ⟨hfirst, hsecond⟩ := o.collects_sides _ _ _ _ h
    have hmap : ∀ cells, NormalFormsOf t cells → cells.map (o.folding true).fold = cells :=
      fun cells hcells => hcells.map_foldMinusZero hnone
    rw [ending_some, ending_some, map_fold_keeping, map_fold_keeping, hmap _ hfirst,
      hmap _ hsecond]

end Oracle

/-- **Dropping the signs of zeros only takes reports away.** Two rounds of one kind, whose dialects
differ in nothing else, send the same statements and leave engine and source the same. One that
passes with the signs passes without them, a report without them is one with them, against the same
queries, and the other outcomes coincide; if nothing that was returned has the normal form `-0`,
then so do the rounds as a whole. And whatever the function on cells is, a comparison that ends well
without it ends well under it. -/
theorem dropping_signs_only_spares :
    (∀ {γ σ κ : Type} (c : Connection γ) (source : ShapeSource σ) (journal : Journal κ)
      (o : Oracle) (s : Session) (w : World γ σ κ),
      let h := World.handler c source journal
      let kept := (o.folding false).runRound.run s
      let dropped := (o.folding true).runRound.run s
      statementsOf (dropped.transcript h w) = statementsOf (kept.transcript h w) ∧
        SparedRun h w kept dropped ∧
        ((∀ c ∈ returned (kept.transcript h w), c.normalized ≠ some "-0") →
          dropped.transcript h w = kept.transcript h w ∧ dropped.run h w = kept.run h w)) ∧
    ∀ {σ : Type} (h : Handler σ) (f : Cell → Cell) (whole : String) (parts : List String)
      (first second : List Cell) (s s' : Session) (w w' : σ),
      ((assertEqual whole parts first second).run s).run h w = (some (.ok (), s'), w') →
        ((assertEqualUnder f whole parts first second).run s).run h w =
          (some (.ok (), s'), w') := by
  refine ⟨fun c source journal o s w => ?_, fun h f whole parts first second s s' w w' hrun => ?_⟩
  · intro h kept dropped
    have hround : ∀ drops, (o.folding drops).runRound.run s =
        (o.sides.run s).bind (o.folding drops).ending := fun drops => by
      rw [Oracle.runRound_eq_bind, Oracle.sides_folding]
    have hkept : kept = _ := hround false
    have hdropped : dropped = _ := hround true
    have hspared : SparedRun h w kept dropped := by
      rw [hkept, hdropped]
      exact sparedRun_bind _ (o.sparedRun_ending c source journal)
    refine ⟨?_, hspared, fun hnone => ?_⟩
    · rw [← statementsOf_withoutDiagnostics, hspared.exchanges, statementsOf_withoutDiagnostics]
    · rw [hkept, Dialogue.transcript_bind, returned_append] at hnone
      rw [hkept, hdropped, Dialogue.transcript_bind, Dialogue.transcript_bind, Dialogue.run_bind,
        Dialogue.run_bind]
      rcases hrun : (o.sides.run s).run h w with ⟨_ | ⟨r, s₁⟩, w₁⟩
      · exact ⟨rfl, rfl⟩
      · have hpath : SessionM.Path o.sides s ((o.sides.run s).transcript h w) r s₁ :=
          Dialogue.path_of_run hrun
        have hending := o.ending_eq_of_no_sign hpath fun c hc =>
          hnone c (List.mem_append_left _ hc)
        simp only [hending, and_self]
  · rw [assertEqual_eq_under] at hrun
    have hsame : SameResult first second := by
      have hid := (reached h id whole parts first second s w).ok_iff.1 ⟨s', w', hrun⟩
      rwa [List.map_id, List.map_id] at hid
    -- nothing is asked on either way, so that both end where they began
    have hplain := (reached h id whole parts first second s w).same (hsame.map id)
    have hunder := (reached h f whole parts first second s w).same (hsame.map f)
    rw [hunder.2, ← hrun, hplain.2]

/-- Values with a zero at their end but no sign, and a comparison of equal values with one. -/
theorem dropping_signs_only_spares_of_ones :
    let x : Offer := ⟨{ fetch := ["t.a"], tables := ["t"] }, "t.b > 0", default⟩
    let o : Oracle := ⟨.whereClause, ∅, .strict⟩
    let s : Session := .detached
    let w : World (List EngineAnswer) Unit MemoryLog :=
      ⟨[.ok (.rows [some "1.0", none]), .ok (.rows [none, some "1"])], (), {}⟩
    let kept := (o.folding false).runRound.run s
    let dropped := (o.folding true).runRound.run s
    (∀ c ∈ returned (kept.transcript x.handler w), c.normalized ≠ some "-0") ∧
      (returned (kept.transcript x.handler w)).length = 4 ∧
      dropped.run x.handler w = kept.run x.handler w ∧
      ((assertEqual "" [] [some "-0"] [some "-0"]).run s).run x.handler w =
        (some (.ok (), s), w) ∧
      ((assertEqualUnder Cell.foldMinusZero "" [] [some "-0"] [some "-0"]).run s).run x.handler w =
        (some (.ok (), s), w) := by
  intro x o s w kept dropped
  have hnone : ∀ c ∈ returned (kept.transcript x.handler w), c.normalized ≠ some "-0" := by decide
  obtain ⟨hrounds, hcomparisons⟩ := dropping_signs_only_spares
  obtain ⟨-, -, hsame⟩ := hrounds Connection.scripted x.source MemoryLog.journal o s w
  have hrun : ((assertEqual "" [] [some "-0"] [some "-0"]).run s).run x.handler w =
      (some (.ok (), s), w) := rfl
  exact ⟨hnone, by decide, (hsame hnone).2, hrun, hcomparisons _ _ _ _ _ _ _ _ _ _ hrun⟩

/-- A sign that is dropped takes a report away. -/
example :
    let x : Offer := ⟨{ fetch := ["t.a"], tables := ["t"] }, "t.b > 0", default⟩
    let o : Oracle := ⟨.whereClause, ∅, .strict⟩
    let w : World (List EngineAnswer) Unit MemoryLog :=
      ⟨[.ok (.rows [some "-0.0"]), .ok (.rows [some "0"])], (), {}⟩
    let outcome := fun o : Oracle => ((o.runRound.run .detached).run x.handler w).1.map Prod.fst
    (outcome (o.folding false)).map RoundOutcome.isTerminal = some true ∧
      outcome (o.folding true) = some .passed := by decide

end Trisect
