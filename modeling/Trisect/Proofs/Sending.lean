import Trisect.Combining
import Trisect.Proofs.Path

/-!
# The statements on a path

Of all that is said on a path, an oracle judges by the statements to the engine and their answers
alone, which `Trisect.sent` reads off. Whatever an oracle has to ask, it asks in one manner:
statement after statement, up to the first that is not answered with rows (`Trisect.InOrder`); what
it has then is `Trisect.gather`, the cells of every answer or the meaning of the answer that was
none.

The main statement, `Trisect.path_combine`, is that putting the parts of a partition together is of
that manner, whichever of the three forms it takes: the form only decides which statements these are
(`Trisect.CombinedQuery.statements`). It is about paths on which nobody but the engine fails
(`Trisect.Exchange.isSmooth`).
-/

namespace Trisect

/-- What an engine answers to a query. -/
abbrev EngineAnswer := Except EngineError QueryOutput

/-- The cells of an answer that is a list of rows. -/
def EngineAnswer.cells? : EngineAnswer → Option (List Cell)
  | .ok (.rows cells) => some cells
  | .ok .noResultSet => none
  | .error _ => none

namespace Exchange

/-- The statement and its answer, if an exchange is a statement to the engine that was answered. One
that was run for its effect, and succeeded, has no result set. -/
def sent? : Exchange → Option (String × EngineAnswer)
  | ⟨.query sql, some answer⟩ => some (sql, answer)
  | ⟨.execute sql, some answer⟩ => some (sql, answer.map fun _ => .noResultSet)
  | _ => none

/-- Whether an exchange went as a round may hope: nobody broke down over it, the source gave what it
was asked for, and the log took what it was given. What an engine answers makes no difference. -/
def isSmooth : Exchange → Bool
  | ⟨_, none⟩ => false
  | ⟨.baseSelect, some answer⟩ => answer.isOk
  | ⟨.predicate, some answer⟩ => answer.isOk
  | ⟨.groupPredicate _, some answer⟩ => answer.isOk
  | ⟨.aggregate, some answer⟩ => answer.isOk
  | ⟨.writeQuery _, some answer⟩ => answer.isOk
  | ⟨.flush, some answer⟩ => answer.isOk
  | ⟨_, some _⟩ => true

theorem isSome_of_isSmooth {e : Exchange} (h : e.isSmooth) : e.answer.isSome := by
  obtain ⟨r, _ | answer⟩ := e
  · simp [isSmooth] at h
  · rfl

end Exchange

/-- The statements to the engine among some exchanges, in order, with their answers. -/
def sent (t : List Exchange) : List (String × EngineAnswer) := t.filterMap Exchange.sent?

@[simp] theorem sent_append (t₁ t₂ : List Exchange) : sent (t₁ ++ t₂) = sent t₁ ++ sent t₂ :=
  List.filterMap_append

/-- **Statements sent one after the other**, up to the first that is not answered with rows. -/
inductive InOrder : List String → List (String × EngineAnswer) → Prop
  | nil : InOrder [] []
  | stopped (sql : String) (rest : List String) {answer : EngineAnswer}
      (h : EngineAnswer.cells? answer = none) : InOrder (sql :: rest) [(sql, answer)]
  | answered (sql : String) (cells : List Cell) {rest : List String}
      {later : List (String × EngineAnswer)} (h : InOrder rest later) :
      InOrder (sql :: rest) ((sql, .ok (.rows cells)) :: later)

/-- The cells of every answer, or what the first that is not a list of rows means. -/
def gather (errors : ExpectedErrors) :
    List (String × EngineAnswer) → Except OracleError (List (List Cell))
  | [] => .ok []
  | q :: qs =>
    match collected q.1 errors q.2 with
    | .error e => .error e
    | .ok cells => (gather errors qs).map (cells :: ·)

section Collecting

variable {errors : ExpectedErrors} {sql : String} {s s' : Session} {t : List Exchange}

/-- An answer that is not a list of rows is the last one, and what it means is the outcome. -/
theorem inOrder_stopped_of_error {answer : EngineAnswer} {e : OracleError} (rest : List String)
    (h : collected sql errors answer = .error e) :
    InOrder (sql :: rest) [(sql, answer)] ∧ gather errors [(sql, answer)] = .error e := by
  refine ⟨.stopped sql rest ?_, by simp [gather, h]⟩
  rcases answer with failure | (_ | cells)
  · rfl
  · rfl
  · simp [collected] at h

/-- After an answer with rows the statements that are left are sent in the same manner. -/
theorem inOrder_cons_of_ok {answer : EngineAnswer} {cells : List Cell} {rest : List String}
    {later : List (String × EngineAnswer)} (h : collected sql errors answer = .ok cells)
    (hrest : InOrder rest later) :
    InOrder (sql :: rest) ((sql, answer) :: later) ∧
      gather errors ((sql, answer) :: later) = (gather errors later).map (cells :: ·) := by
  refine ⟨?_, by simp [gather, h]⟩
  rcases answer with failure | (_ | cells')
  · simp [collected] at h
  · simp [collected] at h
  · exact .answered sql cells' hrest

/-! ### A single statement -/

/-- What is said over a statement that the log takes; nothing if statements are not noted. -/
def noting (notes : Bool) (sql : String) : List Exchange :=
  if notes then [⟨.writeQuery sql, some (.ok ())⟩, ⟨.flush, some (.ok ())⟩] else []

@[simp] theorem sent_noting (notes : Bool) (sql : String) : sent (noting notes sql) = [] := by
  cases notes <;> rfl

/-- What is said over a statement that is sent to the engine. -/
def sending (notes : Bool) (sql : String) (answer : EngineAnswer) : List Exchange :=
  noting notes sql ++ [⟨.query sql, some answer⟩]

@[simp] theorem sent_sending (notes : Bool) (sql : String) (answer : EngineAnswer) :
    sent (sending notes sql answer) = [(sql, answer)] := by
  rw [sending, sent_append, sent_noting]
  rfl

/-- What is said over a statement that the log refuses, and why it does. -/
inductive Refused (sql : String) : List Exchange → IoError → Prop
  | written (cause : IoError) : Refused sql [⟨.writeQuery sql, some (.error cause)⟩] cause
  | flushed (cause : IoError) :
    Refused sql [⟨.writeQuery sql, some (.ok ())⟩, ⟨.flush, some (.error cause)⟩] cause

theorem Refused.not_isSmooth {cause : IoError} (h : Refused sql t cause) :
    ¬∀ e ∈ t, e.isSmooth := by
  cases h <;> simp [Exchange.isSmooth, Except.isOk, Except.toBool]

/-- **Noting a statement** sends nothing and leaves the session as it is. Where statements are noted
it may end in a refusal of the log. -/
theorem path_recordQuery {r : Except OracleError Unit}
    (h : SessionM.Path (SessionM.recordQuery sql) s t r s') :
    s' = s ∧ (t = noting s.logEachSelect sql ∧ r = .ok () ∨
      s.logEachSelect = true ∧ ∃ cause, Refused sql t cause ∧ r = .error (.io cause)) := by
  rw [SessionM.recordQuery, SessionM.path_bind_iff] at h
  obtain ⟨e, h, -⟩ | ⟨t₁, a, s₁, t₂, h₁, h₂, rfl⟩ := h
  · simpa using (SessionM.path_get_iff.1 h).2.1
  obtain ⟨rfl, ha, rfl⟩ := SessionM.path_get_iff.1 h₁
  obtain rfl := Except.ok.inj ha
  rw [List.nil_append]
  split at h₂
  · -- the statement is written and then flushed, and the log may refuse either
    next hnotes =>
    obtain ⟨written, t₃, h₃, rfl⟩ := SessionM.path_ask_bind_iff.1 h₂
    obtain ⟨e, h₄, rfl⟩ | ⟨t₄, _, s₁, t₅, h₄, h₅, rfl⟩ := SessionM.path_bind_iff.1 h₃
    · obtain ⟨rfl, he, rfl⟩ := SessionM.path_ofIo_iff.1 h₄
      rcases written with cause | ⟨⟩
      · obtain rfl := Except.error.inj he
        exact ⟨rfl, .inr ⟨hnotes, cause, .written cause, rfl⟩⟩
      · cases he
    · obtain ⟨rfl, hok, rfl⟩ := SessionM.path_ofIo_iff.1 h₄
      obtain ⟨flushed, t₆, h₆, rfl⟩ := SessionM.path_ask_bind_iff.1 h₅
      obtain ⟨rfl, rfl, rfl⟩ := SessionM.path_ofIo_iff.1 h₆
      rcases written with cause | ⟨⟩
      · cases hok
      rcases flushed with cause | ⟨⟩
      · exact ⟨rfl, .inr ⟨hnotes, cause, .flushed cause, rfl⟩⟩
      · exact ⟨rfl, .inl ⟨by rw [noting, if_pos hnotes]; rfl, rfl⟩⟩
  · next hnotes =>
    obtain ⟨rfl, rfl, rfl⟩ := SessionM.path_pure_iff.1 h₂
    exact ⟨rfl, .inl ⟨by rw [noting, if_neg hnotes], rfl⟩⟩

/-- **The run of a statement**: the log refuses it, or takes it and the statement is sent; what the
answer means is the result. -/
inductive Ran (errors : ExpectedErrors) (notes : Bool) (sql : String) :
    List Exchange → Except OracleError (List Cell) → Prop
  | refused {t : List Exchange} {cause : IoError} (hnotes : notes = true)
      (h : Refused sql t cause) : Ran errors notes sql t (.error (.io cause))
  | answered (answer : EngineAnswer) :
    Ran errors notes sql (sending notes sql answer) (collected sql errors answer)

/-- **Collecting runs a statement**, and leaves the session as it is. -/
theorem ran_of_path {r : Except OracleError (List Cell)}
    (h : SessionM.Path (collect errors sql) s t r s') :
    s' = s ∧ Ran errors s.logEachSelect sql t r := by
  rw [collect, SessionM.path_bind_iff] at h
  obtain ⟨e, h, rfl⟩ | ⟨t₁, _, s₁, t₂, h₁, h₂, rfl⟩ := h
  · obtain ⟨rfl, ⟨-, he⟩ | ⟨hnotes, cause, hrefused, he⟩⟩ := path_recordQuery h
    · cases he
    · cases he
      exact ⟨rfl, .refused hnotes hrefused⟩
  · obtain ⟨rfl, ⟨rfl, -⟩ | ⟨-, cause, -, hok⟩⟩ := path_recordQuery h₁
    · obtain ⟨answer, t₃, h₃, rfl⟩ := SessionM.path_ask_bind_iff.1 h₂
      obtain ⟨rfl, rfl, rfl⟩ := SessionM.path_ofExcept_iff.1 h₃
      exact ⟨rfl, .answered answer⟩
    · cases hok

/-- **Collecting sends one statement**, and ends in what the answer means. -/
theorem path_collect {r : Except OracleError (List Cell)}
    (h : SessionM.Path (collect errors sql) s t r s') (hall : ∀ e ∈ t, e.isSmooth) :
    s' = s ∧ ∃ answer, sent t = [(sql, answer)] ∧ r = collected sql errors answer := by
  obtain ⟨rfl, hran⟩ := ran_of_path h
  cases hran with
  | refused hnotes hrefused => exact absurd hall hrefused.not_isSmooth
  | answered answer => exact ⟨rfl, answer, sent_sending _ sql answer, rfl⟩

/-! ### Several statements -/

/-- **Sending and then going on**: the statements are sent in order, and either one of them is not
answered with rows, which ends the step, or all are, and the step goes on with their cells. -/
def Sends (errors : ExpectedErrors) (queries : List String)
    (next : List (List Cell) → SessionM Unit) (s : Session) (t : List Exchange)
    (r : Except OracleError Unit) (s' : Session) : Prop :=
  ∃ t₁ t₂, t = t₁ ++ t₂ ∧ InOrder queries (sent t₁) ∧
    ((∃ e, gather errors (sent t₁) = .error e ∧ t₂ = [] ∧ r = .error e ∧ s' = s) ∨
      ∃ cells, gather errors (sent t₁) = .ok cells ∧ SessionM.Path (next cells) s t₂ r s')

theorem sends_nil {next : List (List Cell) → SessionM Unit} {r : Except OracleError Unit}
    (h : SessionM.Path (next []) s t r s') : Sends errors [] next s t r s' :=
  ⟨[], t, rfl, .nil, Or.inr ⟨[], rfl, h⟩⟩

/-- Collecting and then sending further statements is sending one statement more. -/
theorem sends_cons {queries : List String} {next : List (List Cell) → SessionM Unit}
    {k : List Cell → SessionM Unit} {r : Except OracleError Unit}
    (h : SessionM.Path (collect errors sql >>= k) s t r s') (hall : ∀ e ∈ t, e.isSmooth)
    (hk : ∀ first t', SessionM.Path (k first) s t' r s' → (∀ e ∈ t', e.isSmooth) →
      Sends errors queries (fun rest => next (first :: rest)) s t' r s') :
    Sends errors (sql :: queries) next s t r s' := by
  obtain ⟨e, h₁, rfl⟩ | ⟨t₁, first, s₁, t₂, h₁, h₂, rfl⟩ := SessionM.path_bind_iff.1 h
  · obtain ⟨rfl, answer, hsent, he⟩ := path_collect h₁ hall
    obtain ⟨hin, hgather⟩ := inOrder_stopped_of_error queries he.symm
    rw [← hsent] at hin hgather
    exact ⟨t, [], (List.append_nil t).symm, hin, Or.inl ⟨e, hgather, rfl, rfl, rfl⟩⟩
  · obtain ⟨rfl, answer, hsent, hok⟩ :=
      path_collect h₁ fun e he => hall e (List.mem_append_left _ he)
    obtain ⟨t₃, t₄, rfl, hin, hend⟩ :=
      hk first t₂ h₂ fun e he => hall e (List.mem_append_right _ he)
    obtain ⟨hin', hgather⟩ := inOrder_cons_of_ok hok.symm hin
    have hsent' : sent (t₁ ++ t₃) = (sql, answer) :: sent t₃ := by
      rw [sent_append, hsent, List.singleton_append]
    rw [← hsent'] at hin' hgather
    refine ⟨t₁ ++ t₃, t₄, (List.append_assoc t₁ t₃ t₄).symm, hin', ?_⟩
    rw [hgather]
    obtain ⟨e, he, ht, hr, hs⟩ | ⟨rest, hrest, hnext⟩ := hend
    · exact Or.inl ⟨e, by rw [he]; rfl, ht, hr, hs⟩
    · exact Or.inr ⟨first :: rest, by rw [hrest]; rfl, hnext⟩

theorem path_concatenate {queries : List String} {result : CombinedResult}
    (h : Session.Path (concatenate errors queries) s t result s') (hall : ∀ e ∈ t, e.isSmooth) :
    s' = s ∧ InOrder queries (sent t) ∧
      result.cells = (gather errors (sent t)).map List.flatten ∧
      (∀ cells, result.cells = .ok cells → result.reconstructed = queries) := by
  induction queries generalizing s t result with
  | nil =>
    obtain ⟨rfl, rfl, rfl⟩ := Session.path_pure_iff.1 h
    exact ⟨rfl, .nil, rfl, fun _ _ => rfl⟩
  | cons q qs ih =>
    rw [concatenate, Session.path_bind_iff] at h
    obtain ⟨t₁, r, s₁, t₂, h₁, h₂, rfl⟩ := h
    obtain ⟨rfl, answer, hsent, hr⟩ :=
      path_collect h₁ fun e he => hall e (List.mem_append_left _ he)
    cases r with
    | error e =>
      obtain ⟨rfl, rfl, rfl⟩ := Session.path_pure_iff.1 h₂
      obtain ⟨hin, hgather⟩ := inOrder_stopped_of_error qs hr.symm
      rw [List.append_nil, hsent, hgather]
      exact ⟨rfl, hin, rfl, fun _ hok => by simp at hok⟩
    | ok cells =>
      obtain ⟨t₃, rest, s₂, t₄, h₃, h₄, rfl⟩ := Session.path_bind_iff.1 h₂
      obtain ⟨rfl, rfl, rfl⟩ := Session.path_pure_iff.1 h₄
      rw [List.append_nil] at hall ⊢
      obtain ⟨rfl, hrest, hcells, hrec⟩ := ih h₃ fun e he => hall e (List.mem_append_right _ he)
      obtain ⟨hin, hgather⟩ := inOrder_cons_of_ok hr.symm hrest
      rw [sent_append, hsent, List.singleton_append, hgather]
      refine ⟨rfl, hin, ?_, ?_⟩
      · rw [hcells]
        cases gather errors (sent t₃) <;> rfl
      · intro all hok
        cases hc : rest.cells with
        | error e => simp [hc, Except.map] at hok
        | ok later => rw [hrec later hc]

theorem path_combineAs {text : String} {result : CombinedResult}
    (h : Session.Path (combineAs errors text) s t result s') (hall : ∀ e ∈ t, e.isSmooth) :
    s' = s ∧ InOrder [text] (sent t) ∧
      result.cells = (gather errors (sent t)).map List.flatten ∧ result.reconstructed = [text] := by
  rw [combineAs, Session.path_bind_iff] at h
  obtain ⟨t₁, r, s₁, t₂, h₁, h₂, rfl⟩ := h
  obtain ⟨rfl, rfl, rfl⟩ := Session.path_pure_iff.1 h₂
  rw [List.append_nil] at hall ⊢
  obtain ⟨rfl, answer, hsent, rfl⟩ := path_collect h₁ hall
  rw [hsent]
  cases hc : collected text errors answer with
  | error e =>
    obtain ⟨hin, hgather⟩ := inOrder_stopped_of_error [] hc
    exact ⟨rfl, hin, by rw [hgather]; rfl, rfl⟩
  | ok cells =>
    obtain ⟨hin, hgather⟩ := inOrder_cons_of_ok hc .nil
    exact ⟨rfl, hin, by rw [hgather]; simp [gather, Except.map], rfl⟩

/-- The statements that put the parts of a partition together. -/
def CombinedQuery.statements (dialect : Dialect) (q : CombinedQuery) : List String :=
  match q.combination, q.singleStatement with
  | .preserveDuplicates, true => [q.unionAllText]
  | .preserveDuplicates, false => q.components
  | .eliminateDuplicates, _ => [q.distinctText dialect.bareUnion]

/-- **Putting the parts together** sends the statements of the form it takes, in order and up to the
first that is not answered with rows. Duplicates can be eliminated in a single statement only. -/
theorem path_combine {dialect : Dialect} {q : CombinedQuery} {result : CombinedResult}
    (hq : q.combination = .eliminateDuplicates → q.singleStatement = true)
    (h : Session.Path (combine dialect errors q) s t result s') (hall : ∀ e ∈ t, e.isSmooth) :
    s' = s ∧ InOrder (q.statements dialect) (sent t) ∧
      result.cells = (gather errors (sent t)).map List.flatten ∧
      (∀ cells, result.cells = .ok cells → result.reconstructed = q.statements dialect) := by
  rw [combine] at h
  rw [CombinedQuery.statements]
  split at h
  · next hc hs =>
    obtain ⟨hstate, hin, hcells, hrec⟩ := path_combineAs h hall
    rw [hc, hs]
    exact ⟨hstate, hin, hcells, fun _ _ => hrec⟩
  · next hc hs =>
    rw [hc, hs]
    exact path_concatenate h hall
  · next hc hs =>
    obtain ⟨hstate, hin, hcells, hrec⟩ := path_combineAs h hall
    rw [hc]
    exact ⟨hstate, hin, hcells, fun _ _ => hrec⟩
  · next hc hs => simp [hq hc] at hs

end Collecting

end Trisect
