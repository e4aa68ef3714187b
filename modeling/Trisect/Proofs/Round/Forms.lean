import Trisect.Proofs.Comparing
import Trisect.Proofs.Round.Verdict

/-!
# The forms of putting parts together agree

The results of the parts can be added up by the engine or by running one query after the other, and
rows can be kept once by a bare `UNION` or by selecting the distinct rows of the sum. Which form is
taken depends on the dialect and on the queries. It makes no difference to a comparison so long as
the engine itself makes none: if its answers to the texts of two forms are the same up to the order
of rows, so are the cells that are put together (`Trisect.Session.comesTo_combine`), although in one
form the cells are brought to their normal form before they are joined and in the other after that.

The engine is a function from texts to rows here, and the log takes every statement
(`Trisect.Handler.Connects`). The main statement is `Trisect.combination_forms_agree`: **either form
comes to cells, and the two are interchangeable** (`Trisect.Interchangeable`):
whatever the result is that they are compared with, and whatever the cells are compared under, there
is the same verdict and the same mismatch.
-/

namespace Trisect

variable {σ α β : Type} {h : Handler σ} {rows : String → List Cell}

/-- The engine answers every query with the rows that a function gives for its text, and the log
takes every statement. -/
structure Handler.Connects (h : Handler σ) (rows : String → List Cell) : Prop where
  query : ∀ sql w, (h (.query sql) w).1 = some (.ok (.rows (rows sql)))
  writeQuery : ∀ sql w, (h (.writeQuery sql) w).1 = some (.ok ())
  flush : ∀ w, (h .flush w).1 = some (.ok ())

/-! ### What a step comes to -/

namespace Session

/-- A step comes to a result in any session, and leaves the session as it is. -/
def ComesTo (h : Handler σ) (m : StateT Session Dialogue α) (a : α) : Prop :=
  ∀ s w, ∃ w', (m.run s).run h w = (some (a, s), w')

theorem comesTo_pure (a : α) : ComesTo h (pure a) a := fun _ w => ⟨w, rfl⟩

theorem comesTo_bind {m : StateT Session Dialogue α} {f : α → StateT Session Dialogue β} {a : α}
    {b : β} (hm : ComesTo h m a) (hf : ComesTo h (f a) b) : ComesTo h (m >>= f) b := by
  intro s w
  obtain ⟨w₁, hrun⟩ := hm s w
  obtain ⟨w₂, hrest⟩ := hf s w₁
  refine ⟨w₂, ?_⟩
  change ((m s).bind _).run h w = _
  rw [Dialogue.run_bind]
  change (m s).run h w = _ at hrun
  rw [hrun]
  exact hrest

end Session

namespace SessionM

open Session (ComesTo)

theorem comesTo_bind {m : SessionM α} {f : α → SessionM β} {a : α} {r : Except OracleError β}
    (hm : ComesTo h m.run (.ok a)) (hf : ComesTo h (f a).run r) : ComesTo h (m >>= f).run r :=
  Session.comesTo_bind (f := ExceptT.bindCont f) hm hf

theorem comesTo_ask {r : Request} {answer : r.Answer} (hr : ∀ w, (h r w).1 = some answer) :
    ComesTo h (ask r).run (.ok answer) := by
  intro s w
  refine ⟨(h r w).2, ?_⟩
  change ((Dialogue.request r).bind _).run h w = _
  rw [Dialogue.run_bind, Dialogue.request, Dialogue.run]
  have hanswer : h r w = (some answer, (h r w).2) := Prod.ext (hr w) rfl
  rw [hanswer]
  rfl

theorem comesTo_ofExcept (x : Except OracleError α) : ComesTo h (ofExcept x).run x := by
  cases x with
  | ok a => exact Session.comesTo_pure _
  | error e => exact Session.comesTo_pure _

/-- A statement is noted, if statements are noted. -/
theorem comesTo_recordQuery (hrows : h.Connects rows) (sql : String) :
    ComesTo h (recordQuery sql).run (.ok ()) := by
  have hnoted : ComesTo h
      (do ofIo (← ask (.writeQuery sql)); ofIo (← ask .flush) : SessionM Unit).run (.ok ()) := by
    refine comesTo_bind (comesTo_ask (hrows.writeQuery sql)) (comesTo_bind (a := ()) ?_ ?_)
    · exact Session.comesTo_pure _
    · exact comesTo_bind (comesTo_ask hrows.flush) (Session.comesTo_pure _)
  intro s w
  rcases s with ⟨logEachSelect, replay⟩
  cases logEachSelect with
  | true => exact hnoted ⟨true, replay⟩ w
  | false => exact ⟨w, rfl⟩

end SessionM

namespace Session

theorem comesTo_collect (hrows : h.Connects rows) (errors : ExpectedErrors) (sql : String) :
    ComesTo h (collect errors sql).run (.ok ((rows sql).map Cell.normalized)) :=
  SessionM.comesTo_bind (SessionM.comesTo_recordQuery hrows sql)
    (SessionM.comesTo_bind (SessionM.comesTo_ask (hrows.query sql)) (SessionM.comesTo_ofExcept _))

theorem comesTo_combineAs (hrows : h.Connects rows) (errors : ExpectedErrors) (text : String) :
    ComesTo h (combineAs errors text) ⟨[text], .ok ((rows text).map Cell.normalized)⟩ :=
  comesTo_bind (comesTo_collect hrows errors text) (comesTo_pure _)

/-- Queries that are run one after the other give their rows one after the other. -/
theorem comesTo_concatenate (hrows : h.Connects rows) (errors : ExpectedErrors)
    (queries : List String) :
    ComesTo h (concatenate errors queries)
      ⟨queries, .ok ((queries.flatMap rows).map Cell.normalized)⟩ := by
  induction queries with
  | nil => exact comesTo_pure _
  | cons q qs ih =>
    rw [concatenate, List.flatMap_cons, List.map_append]
    exact comesTo_bind (comesTo_collect hrows errors q) (comesTo_bind ih (comesTo_pure _))

/-- **Putting parts together gives the cells of its statements** in normal form, whichever form it
takes. -/
theorem comesTo_combine (hrows : h.Connects rows) (errors : ExpectedErrors) (dialect : Dialect)
    {q : CombinedQuery} (hq : q.combination = .eliminateDuplicates → q.singleStatement = true) :
    ComesTo h (combine dialect errors q) ⟨q.statements dialect,
      .ok (((q.statements dialect).flatMap rows).map Cell.normalized)⟩ := by
  obtain ⟨components, combination, singleStatement⟩ := q
  have hone : ∀ text, ComesTo h (combineAs errors text)
      ⟨[text], .ok (([text].flatMap rows).map Cell.normalized)⟩ := by
    intro text
    rw [List.flatMap_singleton]
    exact comesTo_combineAs hrows errors text
  cases combination with
  | preserveDuplicates =>
    cases singleStatement with
    | true => exact hone _
    | false => exact comesTo_concatenate hrows errors components
  | eliminateDuplicates =>
    obtain rfl : singleStatement = true := hq rfl
    exact hone _

end Session

/-! ### The forms -/

/-- **Cells that may stand for others**: they are the same up to their order, and no comparison
tells them apart, whatever the result is on its other side. -/
structure Interchangeable (cells cells' : List Cell) : Prop where
  perm : cells.Perm cells'
  /-- They pass alike, under any function on cells. -/
  passes : ∀ (f : Cell → Cell) (first : List Cell),
    PassUnder f first cells ↔ PassUnder f first cells'
  /-- They make for the same mismatch, under any function on cells. -/
  differs : ∀ (f : Cell → Cell) (first : List Cell) (m : Mismatch),
    DifferUnder f first cells m ↔ DifferUnder f first cells' m
  /-- An oracle does the same with them, whether it drops the signs of zeros or not. -/
  compare : ∀ (o : Oracle) (whole : String) (parts : List String) (first : List Cell),
    o.compare whole parts first cells = o.compare whole parts first cells'

/-- A comparison does not look at the order of cells. -/
theorem interchangeable_of_perm {cells cells' : List Cell} (h : cells.Perm cells') :
    Interchangeable cells cells' := by
  have hunder : ∀ (f : Cell → Cell) (whole : String) (parts : List String) (first : List Cell),
      assertEqualUnder f whole parts first cells =
        assertEqualUnder f whole parts first cells' := fun f _ _ first =>
    assertEqualUnder_eq_of_perm f (List.Perm.refl first) h
  refine ⟨h, ?_, ?_, ?_⟩
  · intro f first
    simp only [PassUnder, hunder]
  · intro f first m
    simp only [DifferUnder, hunder]
  · intro o whole parts first
    exact o.compare_eq_of_perm (List.Perm.refl first) h

/-- Two ways of putting parts together that both come to the given rows in normal form, up to their
order, and to cells that may stand for each other. -/
def Session.FormsAgree (h : Handler σ) (given : List Cell)
    (m m' : StateT Session Dialogue CombinedResult) : Prop :=
  ∃ texts texts' cells cells', ComesTo h m ⟨texts, .ok cells⟩ ∧
    ComesTo h m' ⟨texts', .ok cells'⟩ ∧ cells.Perm (given.map Cell.normalized) ∧
    Interchangeable cells cells'

/-- Forms agree if the engine gives the same rows for the statements of both, up to the order. -/
theorem Session.formsAgree_of_perm (hrows : h.Connects rows) (errors : ExpectedErrors)
    {d d' : Dialect} {q q' : CombinedQuery} {given : List Cell}
    (hq : q.combination = .eliminateDuplicates → q.singleStatement = true)
    (hq' : q'.combination = .eliminateDuplicates → q'.singleStatement = true)
    (hgiven : ((q.statements d).flatMap rows).Perm given)
    (hgiven' : ((q'.statements d').flatMap rows).Perm given) :
    FormsAgree h given (combine d errors q) (combine d' errors q') :=
  ⟨_, _, _, _, comesTo_combine hrows errors d hq, comesTo_combine hrows errors d' hq',
    hgiven.map Cell.normalized,
    interchangeable_of_perm ((hgiven.trans hgiven'.symm).map Cell.normalized)⟩

open Session (FormsAgree)

/-- **The combination forms agree.** Let the engine be a function from texts to rows. If it gives
for the sum of some queries what it gives for them one after the other, and for a bare `UNION` what
it gives for the distinct rows of the sum, in any order, then it makes no difference in which form
the queries are put together, neither where duplicates survive nor where they do not: what comes of
it is what the engine gave, in normal form and up to the order. -/
theorem combination_forms_agree (hrows : h.Connects rows) (components : List String)
    (hsum : (rows (" UNION ALL ".intercalate components)).Perm (components.flatMap rows))
    (hdistinct : (rows (" UNION ".intercalate components)).Perm
      (rows ("SELECT DISTINCT * FROM (" ++ " UNION ALL ".intercalate components ++ ")")))
    (errors : ExpectedErrors) :
    (∀ d d' : Dialect, FormsAgree h (components.flatMap rows)
        (combine d errors ⟨components, .preserveDuplicates, true⟩)
        (combine d' errors ⟨components, .preserveDuplicates, false⟩)) ∧
      ∀ d d' : Dialect, d.bareUnion = true → d'.bareUnion = false →
        FormsAgree h (rows (" UNION ".intercalate components))
          (combine d errors ⟨components, .eliminateDuplicates, true⟩)
          (combine d' errors ⟨components, .eliminateDuplicates, true⟩) := by
  constructor
  · intro d d'
    refine Session.formsAgree_of_perm hrows errors nofun nofun ?_ (List.Perm.refl _)
    change ([_].flatMap rows).Perm (components.flatMap rows)
    rw [List.flatMap_singleton]
    exact hsum
  · intro d d' hd hd'
    refine Session.formsAgree_of_perm hrows errors (fun _ => rfl) (fun _ => rfl) ?_ ?_
    · simp only [CombinedQuery.statements, CombinedQuery.distinctText, hd, if_true,
        List.flatMap_singleton]
      exact List.Perm.refl _
    · simp only [CombinedQuery.statements, CombinedQuery.distinctText, hd', Bool.false_eq_true,
        if_false, List.flatMap_singleton]
      exact hdistinct.symm

/-- The connection to an engine that gives rows by a function, with a log that takes every
statement; nothing else is answered. -/
def Handler.ofRows (rows : String → List Cell) : Handler Unit
  | .query sql, w => (some (.ok (.rows (rows sql))), w)
  | .writeQuery _, w => (some (.ok ()), w)
  | .flush, w => (some (.ok ()), w)
  | _, w => (none, w)

theorem Handler.connects_ofRows (rows : String → List Cell) : (ofRows rows).Connects rows :=
  ⟨fun _ _ => rfl, fun _ _ => rfl, fun _ => rfl⟩

/-- The parts of a table of one column, in which a number occurs twice. -/
def sampleParts : List String :=
  ["SELECT c FROM t WHERE c", "SELECT c FROM t WHERE NOT (c)", "SELECT c FROM t WHERE (c) IS NULL"]

/-- What an engine gives for the parts of the table, their sum, and their distinct rows. -/
def sampleRows (sql : String) : List Cell :=
  if sql = "SELECT c FROM t WHERE c" then [some "2.0", some "2.0"]
  else if sql = "SELECT c FROM t WHERE NOT (c)" then [some "-0.0"]
  else if sql = "SELECT c FROM t WHERE (c) IS NULL" then [none]
  else if sql = " UNION ALL ".intercalate sampleParts then
    [some "2.0", some "-0.0", none, some "2.0"]
  else if sql = " UNION ".intercalate sampleParts then [none, some "-0.0", some "2.0"]
  else [some "2.0", some "-0.0", none]

/-- The forms agree about the parts of a table. -/
theorem combination_forms_agree_sample :
    (Handler.ofRows sampleRows).Connects sampleRows ∧
      (sampleRows (" UNION ALL ".intercalate sampleParts)).Perm (sampleParts.flatMap sampleRows) ∧
      (sampleRows (" UNION ".intercalate sampleParts)).Perm (sampleRows
        ("SELECT DISTINCT * FROM (" ++ " UNION ALL ".intercalate sampleParts ++ ")")) ∧
      FormsAgree (Handler.ofRows sampleRows) (sampleParts.flatMap sampleRows)
        (combine .sqlite ∅ ⟨sampleParts, .preserveDuplicates, true⟩)
        (combine .sqlite ∅ ⟨sampleParts, .preserveDuplicates, false⟩) ∧
      FormsAgree (Handler.ofRows sampleRows) (sampleRows (" UNION ".intercalate sampleParts))
        (combine .sqlite ∅ ⟨sampleParts, .eliminateDuplicates, true⟩)
        (combine ⟨"plain", false, false, false, [], []⟩ ∅
          ⟨sampleParts, .eliminateDuplicates, true⟩) := by
  have hrows := Handler.connects_ofRows sampleRows
  have hsum : (sampleRows (" UNION ALL ".intercalate sampleParts)).Perm
      (sampleParts.flatMap sampleRows) := by decide
  have hdistinct : (sampleRows (" UNION ".intercalate sampleParts)).Perm (sampleRows
      ("SELECT DISTINCT * FROM (" ++ " UNION ALL ".intercalate sampleParts ++ ")")) := by decide
  have hforms := combination_forms_agree hrows sampleParts hsum hdistinct ∅
  exact ⟨hrows, hsum, hdistinct, hforms.1 _ _, hforms.2 _ _ rfl rfl⟩

end Trisect
