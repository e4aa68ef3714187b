import Trisect.Proofs.Sending
import Trisect.Proofs.Session.Noting

/-!
# What is kept of a combination

Every statement of a combination is kept in a list before it is run, so that a report can name what
was run to rebuild a result. The run of a statement may end the combination at two points, when the
log refuses the statement and when its answer is not a list of rows, and what is kept is exact in
either case: statement for statement what was sent, but for a last one that the log refused.

`Trisect.Ran` is the run of a single statement and `Trisect.Accounted` what comes of several, with
`Trisect.Accounted.cons` for the step from one to the other. The main statement is
`Trisect.kept_of_combining`: **what a combination adds to a list, sends and returns is accounted
for**, whoever answers and whatever was in the list before (`Trisect.combineOnto`).
-/

namespace Trisect

variable {errors : ExpectedErrors} {notes : Bool} {sql : String} {statements added : List String}
  {cells : List Cell} {s s' : Session} {t t' : List Exchange}

/-- The statements of some queries with the rows that each was answered with. -/
def rowsFor (queries : List String) (answers : List (List Cell)) : List (String × EngineAnswer) :=
  List.zipWith (fun sql rows => (sql, .ok (.rows rows))) queries answers

/-- **What comes of statements that are run in turn**: what is kept of them, what was said, and the
cells or the error in the end. -/
structure Accounted (errors : ExpectedErrors) (notes : Bool) (statements : List String)
    (t : List Exchange) (added : List String) (r : Except OracleError (List Cell)) : Prop where
  /-- If the log refused nothing, what is kept is what was sent. -/
  sent_eq : (∀ x ∈ t, x.logFailure? = none) → added = statementsOf t
  /-- If it refused something, the last statement was kept and not sent, and that is the error. -/
  refused : ∀ x ∈ t, ∀ cause, x.logFailure? = some cause →
    r = .error (.io cause) ∧ ∃ sql, added = statementsOf t ++ [sql]
  /-- What is kept was offered to the log, if statements are noted. -/
  noted : notesOf t = if notes then added else []
  /-- With a result all statements were kept, and answered with rows; the result is these rows in
  normal form, those of the first statement first. -/
  ok : ∀ cells, r = .ok cells → added = statements ∧ ∃ answers : List (List Cell),
    answers.length = statements.length ∧ sent t = rowsFor statements answers ∧
      cells = answers.flatMap (List.map Cell.normalized)
  /-- With an error the statements up to one were kept. Those before it were sent and answered with
  rows, the error is that of its run, and nothing came after that. -/
  error : ∀ e, r = .error e → ∃ before sql after t₁ t₂, statements = before ++ sql :: after ∧
    added = before ++ [sql] ∧ t = t₁ ++ t₂ ∧
    (∃ answers : List (List Cell), answers.length = before.length ∧
      sent t₁ = rowsFor before answers) ∧ statementsOf t₁ = before ∧
    Ran errors notes sql t₂ (.error e)

/-! ### A single statement -/

@[simp] theorem statementsOf_sending (notes : Bool) (sql : String) (answer : EngineAnswer) :
    statementsOf (sending notes sql answer) = [sql] := by
  cases notes <;> rfl

@[simp] theorem notesOf_sending (notes : Bool) (sql : String) (answer : EngineAnswer) :
    notesOf (sending notes sql answer) = if notes then [sql] else [] := by
  cases notes <;> rfl

/-- The log fails nowhere over a statement that is sent. -/
theorem logFailure?_of_mem_sending {answer : EngineAnswer} {x : Exchange}
    (h : x ∈ sending notes sql answer) : x.logFailure? = none := by
  cases notes with
  | true =>
    simp only [sending, noting, if_true, List.cons_append, List.nil_append, List.mem_cons,
      List.not_mem_nil, or_false] at h
    rcases h with rfl | rfl | rfl
    · rfl
    · rfl
    · rfl
  | false =>
    obtain rfl := List.mem_singleton.1 h
    rfl

namespace Refused

variable {cause : IoError}

theorem statementsOf_eq_nil (h : Refused sql t cause) : statementsOf t = [] := by
  cases h <;> rfl

theorem notesOf_eq (h : Refused sql t cause) : notesOf t = [sql] := by
  cases h <;> rfl

theorem exists_logFailure (h : Refused sql t cause) : ∃ x ∈ t, x.logFailure? = some cause := by
  cases h with
  | written => exact ⟨_, List.mem_singleton_self _, rfl⟩
  | flushed => exact ⟨_, List.mem_cons_of_mem _ (List.mem_singleton_self _), rfl⟩

theorem eq_of_logFailure (h : Refused sql t cause) {x : Exchange} (hx : x ∈ t) {cause' : IoError}
    (hcause : x.logFailure? = some cause') : cause' = cause := by
  cases h with
  | written =>
    obtain rfl := List.mem_singleton.1 hx
    exact (Option.some.inj hcause).symm
  | flushed =>
    rcases List.mem_cons.1 hx with rfl | hx
    · cases hcause
    · obtain rfl := List.mem_singleton.1 hx
      exact (Option.some.inj hcause).symm

end Refused

/-- A statement that is run with a result is answered with rows. -/
theorem Ran.exists_rows (h : Ran errors notes sql t (.ok cells)) :
    ∃ rows, t = sending notes sql (.ok (.rows rows)) ∧ cells = rows.map Cell.normalized := by
  generalize hr : Except.ok cells = r at h
  cases h with
  | refused => cases hr
  | answered answer =>
    rcases answer with failure | (_ | rows)
    · cases hr
    · cases hr
    · exact ⟨rows, rfl, Except.ok.inj hr⟩

/-! ### Statements in turn -/

namespace Accounted

theorem nil : Accounted errors notes [] [] [] (.ok []) where
  sent_eq _ := rfl
  refused _ hx := by cases hx
  noted := by cases notes <;> rfl
  ok cells h := ⟨rfl, [], rfl, rfl, (Except.ok.inj h).symm⟩
  error _ h := by cases h

/-- A statement that the log refuses is the last one. -/
theorem of_refused {cause : IoError} (hnotes : notes = true) (h : Refused sql t cause)
    (after : List String) : Accounted errors notes (sql :: after) t [sql] (.error (.io cause)) where
  sent_eq hnone := by
    obtain ⟨x, hx, hcause⟩ := h.exists_logFailure
    rw [hnone x hx] at hcause
    cases hcause
  refused x hx cause' hcause := by
    obtain rfl := h.eq_of_logFailure hx hcause
    exact ⟨rfl, sql, by rw [h.statementsOf_eq_nil]; rfl⟩
  noted := by rw [h.notesOf_eq, if_pos hnotes]
  ok _ hok := by cases hok
  error _ he := by
    cases he
    exact ⟨[], sql, after, [], t, rfl, rfl, rfl, ⟨[], rfl, rfl⟩, rfl, .refused hnotes h⟩

/-- A statement whose answer is not a list of rows is the last one. -/
theorem of_answer {answer : EngineAnswer} {e : OracleError}
    (h : collected sql errors answer = .error e) (after : List String) :
    Accounted errors notes (sql :: after) (sending notes sql answer) [sql] (.error e) where
  sent_eq _ := (statementsOf_sending notes sql answer).symm
  refused x hx cause hcause := by
    rw [logFailure?_of_mem_sending hx] at hcause
    cases hcause
  noted := notesOf_sending notes sql answer
  ok _ hok := by cases hok
  error _ he := by
    cases he
    have hran : Ran errors notes sql (sending notes sql answer) (.error e) := h ▸ .answered answer
    exact ⟨[], sql, after, [], _, rfl, rfl, rfl, ⟨[], rfl, rfl⟩, rfl, hran⟩

theorem of_error {e : OracleError} (h : Ran errors notes sql t (.error e)) (after : List String) :
    Accounted errors notes (sql :: after) t [sql] (.error e) := by
  generalize hr : Except.error e = r at h
  cases h with
  | refused hnotes hrefused => exact of_refused hnotes hrefused after
  | answered answer =>
    rw [← hr]
    exact of_answer hr.symm after

/-- **One statement more**, which is answered with rows before the others are run. -/
theorem cons {r : Except OracleError (List Cell)} (h : Ran errors notes sql t (.ok cells))
    (hrest : Accounted errors notes statements t' added r) :
    Accounted errors notes (sql :: statements) (t ++ t') (sql :: added) (r.map (cells ++ ·)) := by
  obtain ⟨rows, rfl, rfl⟩ := h.exists_rows
  refine ⟨?_, ?_, ?_, ?_, ?_⟩
  · intro hnone
    rw [statementsOf_append, statementsOf_sending,
      hrest.sent_eq fun x hx => hnone x (List.mem_append_right _ hx)]
    rfl
  · intro x hx cause hcause
    rcases List.mem_append.1 hx with hx | hx
    · rw [logFailure?_of_mem_sending hx] at hcause
      cases hcause
    · obtain ⟨rfl, last, hlast⟩ := hrest.refused x hx cause hcause
      refine ⟨rfl, last, ?_⟩
      rw [statementsOf_append, statementsOf_sending, hlast]
      rfl
  · rw [notesOf_append, notesOf_sending, hrest.noted]
    cases notes <;> rfl
  · intro all hall
    cases r with
    | error e => cases hall
    | ok more =>
      obtain ⟨rfl, answers, hlen, hanswers, rfl⟩ := hrest.ok more rfl
      refine ⟨rfl, rows :: answers, by simp [hlen], ?_, (Except.ok.inj hall).symm⟩
      rw [sent_append, sent_sending, hanswers]
      rfl
  · intro e he
    cases r with
    | ok more => cases he
    | error e' =>
      cases he
      obtain ⟨before, last, after, t₁, t₂, rfl, rfl, rfl, ⟨answers, hlen, hanswers⟩, hbefore,
        hran⟩ := hrest.error e rfl
      refine ⟨sql :: before, last, after, sending notes sql (.ok (.rows rows)) ++ t₁, t₂, rfl, rfl,
        (List.append_assoc _ _ _).symm, ⟨rows :: answers, by simp [hlen], ?_⟩, ?_, hran⟩
      · rw [sent_append, sent_sending, hanswers]
        rfl
      · rw [statementsOf_append, statementsOf_sending, hbefore]
        rfl

end Accounted

/-- **Queries run one after the other** are accounted for. -/
theorem accounted_of_concatenate {result : CombinedResult}
    (h : Session.Path (concatenate errors statements) s t result s') :
    s' = s ∧ Accounted errors s.logEachSelect statements t result.reconstructed result.cells := by
  induction statements generalizing t result with
  | nil =>
    obtain ⟨rfl, rfl, rfl⟩ := Session.path_pure_iff.1 h
    exact ⟨rfl, .nil⟩
  | cons q qs ih =>
    rw [concatenate, Session.path_bind_iff] at h
    obtain ⟨t₁, r, s₁, t₂, h₁, h₂, rfl⟩ := h
    obtain ⟨rfl, hran⟩ := ran_of_path h₁
    cases r with
    | error e =>
      obtain ⟨rfl, rfl, rfl⟩ := Session.path_pure_iff.1 h₂
      rw [List.append_nil]
      exact ⟨rfl, .of_error hran qs⟩
    | ok cells =>
      obtain ⟨t₃, rest, s₂, t₄, h₃, h₄, rfl⟩ := Session.path_bind_iff.1 h₂
      obtain ⟨rfl, rfl, rfl⟩ := Session.path_pure_iff.1 h₄
      obtain ⟨rfl, hrest⟩ := ih h₃
      rw [List.append_nil]
      exact ⟨rfl, .cons hran hrest⟩

/-! ### Onto a list -/

/-- Behind what is there already, a result adds its statements and its cells. -/
def CombinedResult.behind (kept : List String) (cells : List Cell) (result : CombinedResult) :
    CombinedResult :=
  ⟨kept ++ result.reconstructed, result.cells.map (cells ++ ·)⟩

theorem CombinedResult.behind_behind (kept kept' : List String) (cells cells' : List Cell)
    (result : CombinedResult) : (result.behind kept' cells').behind kept cells =
      result.behind (kept ++ kept') (cells ++ cells') := by
  obtain ⟨statements, r⟩ := result
  cases r with
  | error e => simp [behind, Except.map]
  | ok more => simp [behind, Except.map]

/-- **Behind statements and cells** queries are run as without them. -/
theorem concatenateOnto_eq (errors : ExpectedErrors) (kept : List String) (cells : List Cell)
    (statements : List String) : concatenateOnto errors kept cells statements =
      CombinedResult.behind kept cells <$> concatenate errors statements := by
  induction statements generalizing kept cells with
  | nil =>
    rw [concatenateOnto, concatenate, map_pure, CombinedResult.behind, List.append_nil]
    simp only [Except.map, List.append_nil]
  | cons q qs ih =>
    rw [concatenateOnto, concatenate, map_bind]
    refine bind_congr fun r => ?_
    cases r with
    | error e => rfl
    | ok more =>
      -- what comes later is behind the first statement, and that one behind what was there
      dsimp only
      rw [ih, map_eq_pure_bind, map_bind]
      refine bind_congr fun rest => ?_
      rw [map_pure, ← CombinedResult.behind_behind]
      rfl

/-- A single statement is a series of one. -/
theorem combineAs_eq (errors : ExpectedErrors) (text : String) :
    combineAs errors text = concatenate errors [text] := by
  rw [combineAs, concatenate]
  refine bind_congr fun r => ?_
  cases r with
  | error e => rfl
  | ok cells => simp [concatenate, Except.map]

/-- Whether a combination is refused, as one that takes a single statement and has none. -/
def CombinedQuery.IsRefused (q : CombinedQuery) : Prop :=
  q.combination = .eliminateDuplicates ∧ q.singleStatement = false

instance (q : CombinedQuery) : Decidable q.IsRefused := inferInstanceAs (Decidable (_ ∧ _))

/-- **A combination** is refused, or runs the statements of its form in turn. -/
theorem combine_eq (dialect : Dialect) (errors : ExpectedErrors) (q : CombinedQuery) :
    combine dialect errors q = if q.IsRefused then return ⟨[], .error CombinedQuery.refusal⟩
      else concatenate errors (q.statements dialect) := by
  obtain ⟨components, combination, singleStatement⟩ := q
  cases combination with
  | preserveDuplicates =>
    rw [if_neg (by simp [CombinedQuery.IsRefused])]
    cases singleStatement with
    | true => exact combineAs_eq errors _
    | false => rfl
  | eliminateDuplicates =>
    cases singleStatement with
    | true =>
      rw [if_neg (by simp [CombinedQuery.IsRefused])]
      exact combineAs_eq errors _
    | false =>
      rw [if_pos ⟨rfl, rfl⟩]
      rfl

/-- **Onto a list** a combination is the same, behind what was kept before. -/
theorem combineOnto_eq (dialect : Dialect) (errors : ExpectedErrors) (kept : List String)
    (q : CombinedQuery) : combineOnto dialect errors kept q =
      CombinedResult.behind kept [] <$> combine dialect errors q := by
  have hone : ∀ text, concatenateOnto errors kept [] [text] =
      CombinedResult.behind kept [] <$> combineAs errors text := by
    intro text
    rw [combineAs_eq, concatenateOnto_eq]
  obtain ⟨components, combination, singleStatement⟩ := q
  cases combination with
  | preserveDuplicates =>
    cases singleStatement with
    | true => exact hone _
    | false => exact concatenateOnto_eq errors kept [] components
  | eliminateDuplicates =>
    cases singleStatement with
    | true => exact hone _
    | false =>
      rw [combine, combineOnto, map_pure, CombinedResult.behind, List.append_nil]
      rfl

/-- What a combination comes to behind the statements that are kept already. -/
theorem accounted_of_combineOnto {dialect : Dialect} {kept : List String} {q : CombinedQuery}
    {result : CombinedResult}
    (h : Session.Path (combineOnto dialect errors kept q) s t result s') :
    s' = s ∧ ∃ added, result.reconstructed = kept ++ added ∧
      if q.IsRefused then added = [] ∧ t = [] ∧ result.cells = .error CombinedQuery.refusal
      else Accounted errors s.logEachSelect (q.statements dialect) t added result.cells := by
  rw [combineOnto_eq, combine_eq, map_eq_pure_bind] at h
  obtain ⟨t₁, inner, s₁, t₂, h₁, h₂, rfl⟩ := Session.path_bind_iff.1 h
  obtain ⟨rfl, rfl, rfl⟩ := Session.path_pure_iff.1 h₂
  have hcells : (inner.behind kept []).cells = inner.cells := by
    obtain ⟨statements, r⟩ := inner
    cases r <;> rfl
  rw [List.append_nil, hcells]
  split at h₁
  · next hrefused =>
    obtain ⟨rfl, rfl, rfl⟩ := Session.path_pure_iff.1 h₁
    refine ⟨rfl, [], rfl, ?_⟩
    rw [if_pos hrefused]
    exact ⟨rfl, rfl, rfl⟩
  · next hrefused =>
    obtain ⟨rfl, haccounted⟩ := accounted_of_concatenate h₁
    refine ⟨rfl, inner.reconstructed, rfl, ?_⟩
    rwa [if_neg hrefused]

/-- **What is kept of a combination is what was run.** A combination adds to the statements that are
kept already, and does the same whatever these are. Whoever answers, it comes to a result unless
somebody breaks down, and leaves the session as it is. If it is refused, nothing is added and
nothing said; else what is added, said and returned is accounted for. -/
theorem kept_of_combining {σ : Type} (h : Handler σ) (dialect : Dialect) (errors : ExpectedErrors)
    (kept : List String) (q : CombinedQuery) (s : Session) (w : σ) :
    combineOnto dialect errors kept q =
        CombinedResult.behind kept [] <$> combine dialect errors q ∧
      match ((combineOnto dialect errors kept q).run s).run h w with
      | (none, _) =>
        ∃ x ∈ ((combineOnto dialect errors kept q).run s).transcript h w, x.answer = none
      | (some (result, s'), _) => s' = s ∧ ∃ added, result.reconstructed = kept ++ added ∧
        if q.IsRefused then
          added = [] ∧ ((combineOnto dialect errors kept q).run s).transcript h w = [] ∧
            result.cells = .error CombinedQuery.refusal
        else
          Accounted errors s.logEachSelect (q.statements dialect)
            (((combineOnto dialect errors kept q).run s).transcript h w) added result.cells := by
  refine ⟨combineOnto_eq dialect errors kept q, ?_⟩
  split
  · next w' hrun => exact Dialogue.exists_breakdown_of_run hrun
  · next result s' w' hrun => exact accounted_of_combineOnto (Dialogue.path_of_run hrun)

end Trisect
