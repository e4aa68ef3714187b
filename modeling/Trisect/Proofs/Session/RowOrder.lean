import Trisect.Pattern.Regular
import Trisect.Proofs.Disagreement
import Trisect.Proofs.Round.Verdict
import Trisect.Proofs.Twin
import Trisect.Session.Run
import Trisect.Session.World

/-!
# The order of the rows

Two engines that give the same answers, but deliver the rows of a result in different orders
(`Trisect.Connection.SameUpToOrder`), are one to a session: it sends both the same statements, and
ends with the same summary or the same error, down to the text of a report
(`Trisect.Session.play_same`).

The session itself looks at no order. The source of its shapes is the code of another, which is
handed the connection to read the schema again: one that sends queries for that is given their rows.
A schema does not depend on the order they come in, and that the source makes nothing of it is what
is asked of its code here (`Trisect.ShapeSource.OverlooksOrder`). It goes without saying for a
source that sends no query (`Trisect.SchemaReading.SendsNoQuery.overlooksOrder`), as the source of
random shapes, which asks for the tables.

The order is lost in the comparison, since neither the mismatch nor the agreement of single values
depends on it. Up to there it is carried along, through the normal form of the cells and through
the concatenation of the parts (`Trisect.CombinedResult.SameRows`); everything behind is equal on
both sides. So a session is its own twin with respect to `Trisect.Request.SameUpToOrder`, step by
step.
-/

namespace Trisect

/-- The same answer, but for the order of the rows. -/
inductive SameRows : EngineAnswer → EngineAnswer → Prop
  | rows {cells cells' : List Cell} (h : cells.Perm cells') :
      SameRows (.ok (.rows cells)) (.ok (.rows cells'))
  | same (answer : EngineAnswer) : SameRows answer answer

/-- Answers that are the same, but for the order of the rows if the request is a query. -/
def Request.SameUpToOrder : AnswerRelation
  | query _ => SameRows
  | _ => Eq

/-- Two results of the parts that are the same, but for the order of the rows. -/
structure CombinedResult.SameRows (a b : CombinedResult) : Prop where
  reconstructed : a.reconstructed = b.reconstructed
  cells : SameEnd List.Perm a.cells b.cells

open Request (SameUpToOrder)

/-! ### Statements -/

section Statements

variable {errors : ExpectedErrors}

end Statements

/-! ### Rounds -/

section Rounds

variable {whole : String} {reconstructed : List String} {first second first' second' : List Cell}

variable (o : Oracle)

end Rounds

/-! ### Sessions -/

namespace Session

variable {errors : ExpectedErrors}

end Session

/-! ### Engines -/

/-- Answers of an engine that are the same, but for the order of the rows if the question is a
query. -/
def Inquiry.SameUpToOrder : (q : Inquiry) → q.Answer → q.Answer → Prop
  | query _ => SameRows
  | _ => Eq

/-- **Two engines that differ in the order of rows only**: call by call on the same text, and on
the same question for the tables or the version, they give the same answer but for the order of the
rows, and go on to states that are related again. -/
structure Connection.SameUpToOrder {γ δ : Type} (c : Connection γ) (c' : Connection δ)
    (R : γ → δ → Prop) : Prop where
  query : ∀ sql g g', R g g' →
    Option.Rel SameRows (c.query sql g).1 (c'.query sql g').1 ∧
      R (c.query sql g).2 (c'.query sql g').2
  execute : ∀ sql g g', R g g' →
    (c.execute sql g).1 = (c'.execute sql g').1 ∧ R (c.execute sql g).2 (c'.execute sql g').2
  tables : ∀ g g', R g g' → (c.tables g).1 = (c'.tables g').1 ∧ R (c.tables g).2 (c'.tables g').2
  version : ∀ g g', R g g' →
    (c.version g).1 = (c'.version g').1 ∧ R (c.version g).2 (c'.version g').2

theorem optionRel_eq_iff {α : Type} {x y : Option α} : Option.Rel Eq x y ↔ x = y := by
  constructor
  · rintro (hxy | _)
    · rw [hxy]
    · rfl
  · rintro rfl
    cases x with
    | none => exact .none
    | some a => exact .some rfl

/-- Whatever they are asked, the two engines give the same answer but for the order of the rows. -/
theorem Connection.SameUpToOrder.answer {γ δ : Type} {c : Connection γ} {c' : Connection δ}
    {R : γ → δ → Prop} (hc : c.SameUpToOrder c' R) (q : Inquiry) {g : γ} {g' : δ} (hg : R g g') :
    Option.Rel q.SameUpToOrder (c.answer q g).1 (c'.answer q g').1 ∧
      R (c.answer q g).2 (c'.answer q g').2 := by
  cases q with
  | query sql => exact hc.query sql g g' hg
  | execute sql => exact (hc.execute sql g g' hg).imp_left optionRel_eq_iff.2
  | tables => exact (hc.tables g g' hg).imp_left optionRel_eq_iff.2
  | version => exact (hc.version g g' hg).imp_left optionRel_eq_iff.2

/-! ### Sources -/

/-- A reading of the schema that overlooks in which order it gets the rows of a query: it goes on in
the same way. -/
def SchemaReading.OverlooksOrder {α : Type} : SchemaReading α → Prop
  | .done _ => True
  | .ask q next =>
    (∀ x y, q.SameUpToOrder x y → next x = next y) ∧ ∀ x, (next x).OverlooksOrder

/-- **A source that overlooks the order of the rows** when it learns the schema, if it sends queries
for that. -/
def ShapeSource.OverlooksOrder {σ : Type} (source : ShapeSource σ) : Prop :=
  ∀ s, (source.refresh s).OverlooksOrder

/-- A reading of the schema that sends no query, but may run statements and ask for the tables. -/
def SchemaReading.SendsNoQuery {α : Type} : SchemaReading α → Prop
  | .done _ => True
  | .ask q next => (∀ sql, q ≠ .query sql) ∧ ∀ x, (next x).SendsNoQuery

/-- Who sends no query gets no rows whose order there would be to overlook. -/
theorem SchemaReading.SendsNoQuery.overlooksOrder {α : Type} {reading : SchemaReading α}
    (h : reading.SendsNoQuery) : reading.OverlooksOrder := by
  induction reading with
  | done a => exact trivial
  | ask q next ih =>
    refine ⟨fun x y hxy => ?_, fun x => ih x (h.2 x)⟩
    cases q with
    | query sql => exact absurd rfl (h.1 sql)
    | execute | tables | version => exact congrArg next hxy

/-- The source of random shapes is one that asks for the tables only. -/
theorem RandomShapes.overlooksOrder_source : RandomShapes.source.OverlooksOrder := by
  refine fun s => SchemaReading.SendsNoQuery.overlooksOrder ⟨fun _ => ?_, fun answer => ?_⟩
  · intro h
    cases h
  · rcases answer with e | tables
    · exact trivial
    · exact trivial

/-- Two worlds that differ in the state of the engine only. -/
structure World.SameUpToEngine {γ δ σ κ : Type} (R : γ → δ → Prop) (w : World γ σ κ)
    (w' : World δ σ κ) : Prop where
  engine : R w.engine w'.engine
  source : w.source = w'.source
  journal : w.journal = w'.journal

/-- The statements that the engine is sent over a request: that of the session, or those of the
source that learns the schema. -/
def World.sent {γ σ κ : Type} (c : Connection γ) (source : ShapeSource σ) :
    Request → World γ σ κ → List String
  | .query sql, _ => [sql]
  | .execute sql, _ => [sql]
  | .refreshSchema, w => (source.refresh w.source).sent c w.engine
  | _, _ => []

section Engines

variable {γ δ σ κ : Type} {c : Connection γ} {c' : Connection δ} {R : γ → δ → Prop}

/-- Learning the schema goes in the same way, and the same statements are sent for it. -/
theorem SchemaReading.run_eq {α : Type} (hc : c.SameUpToOrder c' R) {reading : SchemaReading α}
    (h : reading.OverlooksOrder) {g : γ} {g' : δ} (hg : R g g') :
    (reading.run c g).1 = (reading.run c' g').1 ∧ R (reading.run c g).2 (reading.run c' g').2 ∧
      reading.sent c g = reading.sent c' g' := by
  induction reading generalizing g g' with
  | done a => exact ⟨rfl, hg, rfl⟩
  | ask q next ih =>
    obtain ⟨hsame, hnext⟩ := h
    rw [run, run, sent, sent]
    obtain ⟨hanswer, hstate⟩ := hc.answer q hg
    rcases hs : c.answer q g with ⟨x, g₁⟩
    rcases ht : c'.answer q g' with ⟨y, g₁'⟩
    rw [hs, ht] at hanswer hstate
    cases hanswer with
    | none => exact ⟨rfl, hstate, rfl⟩
    | some hxy =>
      -- the order is overlooked here, so that both go on with one and the same reading
      obtain ⟨hresult, hstate', hsent⟩ := ih _ (hnext _) hstate
      dsimp only
      rw [hsame _ _ hxy] at hresult hstate' hsent ⊢
      exact ⟨hresult, hstate', congrArg _ hsent⟩

variable {source : ShapeSource σ}

theorem World.sent_eq (hc : c.SameUpToOrder c' R) (hsource : source.OverlooksOrder) (r : Request)
    (w : World γ σ κ) (w' : World δ σ κ) (hw : w.SameUpToEngine R w') :
    sent c source r w = sent c' source r w' := by
  obtain ⟨g, s, k⟩ := w
  obtain ⟨g', _, _⟩ := w'
  obtain ⟨hg, rfl, rfl⟩ := hw
  cases r with
  | refreshSchema => exact (SchemaReading.run_eq hc (hsource s) hg).2.2
  | _ => rfl

end Engines

section

open scoped Pattern

end

end Trisect
