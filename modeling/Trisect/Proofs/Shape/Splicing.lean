import Trisect.Oracle.Round
import Trisect.Proofs.Shape.Calls
import Trisect.Proofs.Sql.Grammar

/-!
# Conditions are spliced without ambiguity

The queries of a round are put together as texts: the parts of a condition are its text within other
texts, and a part is joined to the condition of the base query by setting parentheses around both.
Whether the engine is thereby asked what it was meant to be asked depends on how it reads the
result.

For a class of conditions `Trisect.Condition.Spliced` says what is wanted: the text of a condition
is read as that condition; the three queries of a round have the condition of the base query AND one
of `p`, `NOT p` and `p IS NULL`; and conditions that are added one by one end up joined in their
order. The main statement is `Trisect.RandomShapes.splicing_unambiguous`: **this holds of all
conditions that are built from the tests of the generator** (`Trisect.Condition.Built`) over columns
with plain names, and the conditions that the generator itself gives, in base queries and for
partitions, are such.
-/

namespace Trisect

namespace Condition

/-- A condition joined to another one, if there is another one: both have to hold. -/
def joined : Option Condition → Condition → Condition
  | none, p => p
  | some w, p => .and w p

/-- A condition built from some tests by the connectives and the test for NULL. -/
def Built (test : Leaf → Prop) : Condition → Prop
  | leaf l => test l
  | not p => p.Built test
  | and p q => p.Built test ∧ q.Built test
  | or p q => p.Built test ∧ q.Built test
  | isNull p => p.Built test

/-- **Conditions of a class are spliced without ambiguity.** -/
structure Spliced (P : Condition → Prop) : Prop where
  /-- The text of a condition is read as that condition. -/
  read : ∀ p, P p → read p.sql = some p
  /-- Two conditions differ in their texts. -/
  injective : ∀ p q, P p → P q → p.sql = q.sql → p = q
  /-- The conditions of the three queries of a round. -/
  parts : ∀ (k : OracleKind) (base : Select) (w : Option Condition) (p : Condition),
    k ≠ .having → base.condition = w.map sql → (∀ c ∈ w, P c) → P p →
      (Partition.of p.sql).parts.map (fun c => (k.restrict base c).condition.bind Condition.read) =
        [some (joined w p), some (joined w (not p)), some (joined w (isNull p))]
  /-- The condition after any number of conditions was added. -/
  chain : ∀ (base : Select) (w : Option Condition) (ps : List Condition),
    base.condition = w.map sql → (∀ c ∈ w, P c) → (∀ p ∈ ps, P p) →
      (ps.foldl (fun s p => s.withWhere p.sql) base).condition.bind Condition.read =
        ps.foldl (fun w p => some (joined w p)) w

theorem Spliced.mono {P Q : Condition → Prop} (h : Spliced Q) (hPQ : ∀ p, P p → Q p) :
    Spliced P where
  read p hp := h.read p (hPQ p hp)
  injective p q hp hq := h.injective p q (hPQ p hp) (hPQ q hq)
  parts k base w p hk hbase hw hp :=
    h.parts k base w p hk hbase (fun c hc => hPQ c (hw c hc)) (hPQ p hp)
  chain base w ps hbase hw hps :=
    h.chain base w ps hbase (fun c hc => hPQ c (hw c hc)) fun p hp => hPQ p (hps p hp)

/-! ### Legible conditions -/

section Legible

variable {base : Select} {w : Option Condition} {p : Condition}

theorem legible_joined (hw : ∀ c ∈ w, c.Legible) (hp : p.Legible) : (joined w p).Legible := by
  cases w with
  | none => exact hp
  | some w => exact ⟨hw w rfl, hp⟩

/-- What is added to the condition of a query is joined to it. -/
theorem withWhere_condition (hbase : base.condition = w.map sql) (p : Condition) :
    (base.withWhere p.sql).condition = some (joined w p).sql := by
  cases w with
  | none => simp [Select.withWhere, hbase, Select.conjoin, joined]
  | some w => simp [Select.withWhere, hbase, Select.conjoin, joined, sql]

theorem read_withWhere (hbase : base.condition = w.map sql) (hw : ∀ c ∈ w, c.Legible)
    (hp : p.Legible) :
    (base.withWhere p.sql).condition.bind Condition.read = some (joined w p) := by
  rw [withWhere_condition hbase, Option.bind_some, read_sql (legible_joined hw hp)]

/-- Every kind of oracle but one restricts the rows. -/
theorem restrict_eq_withWhere {k : OracleKind} (hk : k ≠ .having) (c : String) :
    k.restrict base c = base.withWhere c := by
  cases k with
  | having => exact absurd rfl hk
  | _ => rfl

/-- The parts of a condition are conditions themselves. -/
theorem parts_sql (p : Condition) :
    (Partition.of p.sql).parts = [p.sql, (not p).sql, (isNull p).sql] := rfl

/-- Conditions that are added to a query one by one are read as their conjunction. -/
theorem read_foldl_withWhere {ps : List Condition} (hps : ∀ p ∈ ps, p.Legible) :
    ∀ (base : Select) (w : Option Condition), base.condition = w.map sql → (∀ c ∈ w, c.Legible) →
      (ps.foldl (fun s p => s.withWhere p.sql) base).condition.bind Condition.read =
        ps.foldl (fun w p => some (joined w p)) w := by
  induction ps with
  | nil =>
    intro base w hbase hw
    rcases w with _ | w
    · simp [hbase]
    · simp [hbase, read_sql (hw w rfl)]
  | cons p ps ih =>
    intro base w hbase hw
    have hp : p.Legible := hps p (by simp)
    refine ih (fun q hq => hps q (List.mem_cons_of_mem _ hq)) _ (some (joined w p)) ?_ ?_
    · exact withWhere_condition hbase p
    · rintro c hc
      obtain rfl : joined w p = c := Option.some.inj hc
      exact legible_joined hw hp

end Legible

/-- **Legible conditions are spliced without ambiguity.** -/
theorem spliced_legible : Spliced Legible where
  read _ hp := read_sql hp
  injective _ _ hp hq := sql_injective hp hq
  parts k base w p hk hbase hw hp := by
    have hnot : (not p).Legible := hp
    have hnull : (isNull p).Legible := hp
    simp only [parts_sql, restrict_eq_withWhere hk, List.map_cons, List.map_nil,
      read_withWhere hbase hw hp, read_withWhere hbase hw hnot, read_withWhere hbase hw hnull]
  chain base w ps hbase hw hps := read_foldl_withWhere hps base w hbase hw

end Condition

/-! ### The tests of the generator -/

/-- A text of the generator has no quotation mark. -/
theorem Literal.IsDrawn.legible {l : Literal} (h : l.IsDrawn) : l.Legible := by
  cases l with
  | text cs =>
    intro hquote
    have hletter := h.2 _ hquote
    revert hletter
    decide
  | _ => trivial

section Built

variable {columns : List ColumnRef}

theorem Leaf.Over.legible (hcolumns : ∀ c ∈ columns, c.IsPlain) {l : Leaf} (h : l.Over columns) :
    l.Legible := by
  cases l with
  | isNull c => exact hcolumns c h
  | isNotNull c => exact hcolumns c h
  | between c low high => exact ⟨hcolumns c h.1, h.2.1.legible, h.2.2.legible⟩
  | isIn c items =>
    obtain ⟨hc, ⟨hlen, -⟩, hitems⟩ := h
    exact ⟨hcolumns c hc, List.length_pos_iff.1 hlen, fun l hl => (hitems l hl).legible⟩
  | compare c op right =>
    refine ⟨hcolumns c h.1, ?_⟩
    cases right with
    | column d => exact hcolumns d h.2
    | literal l => exact h.2.legible

theorem Condition.Built.legible (hcolumns : ∀ c ∈ columns, c.IsPlain) {p : Condition}
    (h : p.Built (Leaf.Over columns)) : p.Legible := by
  induction p with
  | leaf l => exact Leaf.Over.legible hcolumns h
  | not p ih => exact ih h
  | and p q ihp ihq => exact ⟨ihp h.1, ihq h.2⟩
  | or p q ihp ihq => exact ⟨ihp h.1, ihq h.2⟩
  | isNull p ih => exact ih h

/-- Tests over some columns are tests over more columns. -/
theorem Leaf.Over.mono {more : List ColumnRef} (hsub : columns ⊆ more) {l : Leaf}
    (h : l.Over columns) : l.Over more := by
  cases l with
  | isNull c => exact hsub h
  | isNotNull c => exact hsub h
  | between c low high => exact ⟨hsub h.1, h.2⟩
  | isIn c items => exact ⟨hsub h.1, h.2⟩
  | compare c op right =>
    refine ⟨hsub h.1, ?_⟩
    cases right with
    | column d => exact hsub h.2
    | literal l => exact h.2

/-- A condition that is drawn is built from tests over its columns. -/
theorem Condition.Over.built {more : List ColumnRef} (hsub : columns ⊆ more) {p : Condition}
    (h : p.Over columns) : p.Built (Leaf.Over more) := by
  induction p with
  | leaf l => exact Leaf.Over.mono hsub h
  | not p ih => exact ih h
  | and p q ihp ihq => exact ⟨ihp h.1, ihq h.2⟩
  | or p q ihp ihq => exact ⟨ihp h.1, ihq h.2⟩
  | isNull p ih => exact h.elim

end Built

namespace RandomShapes

/-- The columns of the tables of a schema. -/
def schemaColumns (s : RandomShapes) : List ColumnRef := s.tables.flatMap columnsOf

/-- **Splicing is unambiguous.** Conditions that are built from the tests of the generator, over
columns with plain names, are spliced without ambiguity. If the columns of the schema are such,
these include the condition of any base query that the generator gives, and any condition that it
gives after that. -/
theorem splicing_unambiguous (s : RandomShapes) (hplain : ∀ c ∈ s.schemaColumns, c.IsPlain) :
    Condition.Spliced (Condition.Built (Leaf.Over s.schemaColumns)) ∧
      ∀ (base : Select) (s' : RandomShapes), s.baseSelect = (.ok base, s') → ∀ stream : Stream,
        ∃ (w : Option Condition) (p : Condition), base.condition = w.map Condition.sql ∧
          (∀ c ∈ w, c.Built (Leaf.Over s.schemaColumns)) ∧
          { s' with stream }.predicate.1 = .ok p.sql ∧ p.Built (Leaf.Over s.schemaColumns) := by
  refine ⟨Condition.spliced_legible.mono fun p hp => hp.legible hplain, ?_⟩
  intro base s' hbase stream
  rcases s.baseSelect_cases with ⟨-, hrefused⟩ | ⟨-, base', chosen, hchosen, hover, hmade⟩
  · rw [hrefused] at hbase
    cases hbase
  · rw [hmade] at hbase
    cases hbase
    have hsub : chosen.flatMap columnsOf ⊆ s.schemaColumns := by
      intro c hc
      obtain ⟨t, ht, hct⟩ := List.mem_flatMap.1 hc
      exact List.mem_flatMap.2 ⟨t, hchosen.mem ht, hct⟩
    obtain ⟨p, hanswer, hp, -⟩ := (serves_of_columns (s := { s with
      stream, columns := chosen.flatMap columnsOf }) hchosen.flatMap_ne_nil).predicate
    rcases hover.condition with hnone | ⟨w, hw, hwover, -⟩
    · exact ⟨none, p, hnone, by simp, hanswer, hp.built hsub⟩
    · refine ⟨some w, p, hw, fun c hc => ?_, hanswer, hp.built hsub⟩
      obtain rfl : w = c := Option.some.inj hc
      exact hwover.built hsub

/-- The condition of a base query, joined with the last part of another one. -/
theorem splicing_unambiguous_pair :
    (∀ c ∈ ((new 7 3).withTables [⟨"t0", [⟨"c0", "INTEGER"⟩, ⟨"c1", ""⟩]⟩]).schemaColumns,
      c.IsPlain) ∧
      Condition.read "(t0.c0 IN (1, 'b')) AND ((t0.c1 BETWEEN -0.50 AND NULL) IS NULL)" =
        some (.and (.leaf (.isIn ⟨"t0", "c0"⟩ [.integer 1, .text ['b']]))
          (.isNull (.leaf (.between ⟨"t0", "c1"⟩ (.decimal ⟨true, 50⟩) .null)))) := by
  have hplain : ∀ c ∈ ((new 7 3).withTables
      [⟨"t0", [⟨"c0", "INTEGER"⟩, ⟨"c1", ""⟩]⟩]).schemaColumns, c.IsPlain := by decide
  have hitems : ∀ l ∈ [Literal.integer 1, .text ['b']], l.IsDrawn := by simp [Literal.IsDrawn]
  have hlow : (Literal.decimal ⟨true, 50⟩).IsDrawn := by simp [Literal.IsDrawn]
  refine ⟨hplain, (splicing_unambiguous _ hplain).1.read
    (.and (.leaf (.isIn ⟨"t0", "c0"⟩ [.integer 1, .text ['b']]))
      (.isNull (.leaf (.between ⟨"t0", "c1"⟩ (.decimal ⟨true, 50⟩) .null)))) ⟨?_, ?_⟩⟩
  · exact ⟨by decide, ⟨by decide, by decide⟩, hitems⟩
  · exact ⟨by decide, hlow, trivial⟩

end RandomShapes

end Trisect
