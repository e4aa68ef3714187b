import Trisect.Proofs.Round.Verdict
import Trisect.Proofs.Sql.Aggregate
import Trisect.Proofs.Sql.Query

/-!
# No false alarm

The oracles rest on a law of three-valued logic. Against an engine that keeps to that logic, a
round of every variant but the aggregates ends in passed, whatever the tables hold, whatever the
condition means, and whichever way the parts are put together: this is
`Trisect.Oracle.runRound_passed_of_answered`. The engine may deliver its rows in any order, and it
may render values as it likes, as long as equal values look the same.

What a round sends is the texts of `Trisect.Oracle.statements`, whose meaning is known
(`Trisect.Oracle.map_sql_statements`); by that meaning the cells of the parts are those of the
whole in another order (`Trisect.Oracle.cells_perm`), and a comparison does not see an order.

A round of aggregates compares two numbers, of which the second has been made out of three.
`Trisect.Oracle.runRound_passed_of_aggregates` says that they are the same number, and that the
round passes if the engine writes equal numbers in the same way.
-/

namespace Trisect

open Sql

/-- A query and a condition as a source offers them, with an aggregate for the kind that asks for
one. -/
def Sql.Query.offer {ρ ν : Type} (q : Query ρ ν) (p : Predicate ρ (Tuple ν))
    (aggregate : AggregateFn × String := default) : Offer :=
  ⟨q.select, p.text, aggregate⟩

namespace Oracle

variable {ρ ν : Type}

/-- The query over the whole. -/
def wholeStatement (o : Oracle) (base : Query ρ ν) : Statement ρ ν :=
  .query (.prepare o.kind base)

/-- The statements that put the parts together. -/
def partStatements (o : Oracle) (base : Query ρ ν) (p : Predicate ρ (Tuple ν)) :
    List (Statement ρ ν) :=
  let parts := Query.parts o.kind (.prepare o.kind base) p
  match o.kind.combination, o.singleStatement (Query.prepare o.kind base).select with
  | .preserveDuplicates, true => [.unionAll parts]
  | .preserveDuplicates, false => parts.map .query
  | .eliminateDuplicates, _ => [if o.dialect.bareUnion then .union parts else .distinctOf parts]

/-- The statements of a round, with what they mean. -/
def statements (o : Oracle) (base : Query ρ ν) (p : Predicate ρ (Tuple ν)) :
    List (Statement ρ ν) :=
  o.wholeStatement base :: o.partStatements base p

variable {o : Oracle} {base : Query ρ ν} {p : Predicate ρ (Tuple ν)}

theorem sql_wholeStatement (hkind : o.kind ≠ .aggregate) :
    (o.wholeStatement base).sql = o.wholeQuery (base.offer p) := by
  rw [wholeStatement, Statement.sql_query, Query.select_prepare, wholeQuery, if_neg hkind,
    Query.offer]

theorem map_sql_partStatements (hkind : o.kind ≠ .aggregate) :
    (o.partStatements base p).map Statement.sql = o.partQueries (base.offer p) := by
  have hparts := Query.map_sql_parts o.kind (.prepare o.kind base) p
  rw [Query.select_prepare] at hparts
  rw [partStatements, partQueries, if_neg hkind, combined, Query.offer, ← hparts,
    CombinedQuery.statements, Query.select_prepare]
  cases o.kind.combination with
  | preserveDuplicates =>
    cases o.singleStatement (o.kind.prepare base.select) with
    | true => simp [CombinedQuery.unionAllText]
    | false => simp
  | eliminateDuplicates =>
    cases o.dialect.bareUnion <;>
      simp [CombinedQuery.distinctText, CombinedQuery.unionAllText]

/-- **These are the statements that are sent.** -/
theorem map_sql_statements (hkind : o.kind ≠ .aggregate) :
    (o.statements base p).map Statement.sql =
      o.wholeQuery (base.offer p) :: o.partQueries (base.offer p) := by
  rw [statements, List.map_cons, sql_wholeStatement hkind, map_sql_partStatements hkind]

/-! ### Their results -/

variable [DecidableEq ν] {D : Content ρ ν}

/-- The statements of the parts rebuild the result of the whole, in some order. -/
theorem tuples_perm (hkind : o.kind ≠ .aggregate) (hbase : base.Plain) :
    ((o.partStatements base p).flatMap (Statement.tuples D)).Perm
      ((o.wholeStatement base).tuples D) := by
  have hparts := hbase.parts_perm (D := D) (p := p) hkind
  rw [partStatements, wholeStatement]
  cases hc : o.kind.combination with
  | preserveDuplicates =>
    rw [hc] at hparts
    cases o.singleStatement (Query.prepare o.kind base).select with
    | true => simpa [Statement.tuples] using hparts
    | false => simpa [Statement.tuples, List.flatMap_map] using hparts
  | eliminateDuplicates =>
    rw [hc] at hparts
    cases o.dialect.bareUnion <;> simpa [Statement.tuples] using hparts

theorem cells_perm (hkind : o.kind ≠ .aggregate) (hbase : base.Plain) :
    ((o.partStatements base p).flatMap (Statement.cells D)).Perm
      ((o.wholeStatement base).cells D) := by
  have h := (tuples_perm (D := D) (p := p) hkind hbase).map fun t => D.render t.1
  rwa [List.map_flatMap] at h

/-- Answers that are right one by one are right together. -/
theorem flatten_perm_of_forall₂ {sts : List (Statement ρ ν)} {results : List (List Cell)}
    {Right : String → List Cell → Prop}
    (hright : ∀ st ∈ sts, ∀ cells, Right st.sql cells → cells.Perm (st.cells D))
    (h : List.Forall₂ Right (sts.map Statement.sql) results) :
    results.flatten.Perm (sts.flatMap (Statement.cells D)) := by
  induction sts generalizing results with
  | nil =>
    cases h
    exact .nil
  | cons st sts ih =>
    rw [List.map_cons] at h
    cases h with
    | cons hfirst hrest =>
      rw [List.flatten_cons, List.flatMap_cons]
      refine (hright st List.mem_cons_self _ hfirst).append (ih ?_ hrest)
      exact fun st' hst' => hright st' (List.mem_cons_of_mem _ hst')

/-- Rows that are right for a text of the round. -/
def Right (o : Oracle) (D : Content ρ ν) (base : Query ρ ν) (p : Predicate ρ (Tuple ν))
    (text : String) (cells : List Cell) : Prop :=
  ∀ st ∈ o.statements base p, st.sql = text → cells.Perm (st.cells D)

/-- What is sent is one of the statements, so that a right answer to it is a list of rows. -/
theorem exists_right {q : String × EngineAnswer}
    (hmem : q.1 ∈ (o.statements base p).map Statement.sql)
    (hq : ∀ st ∈ o.statements base p, st.sql = q.1 → st.AnsweredBy D q.2) :
    ∃ cells, q.2 = .ok (.rows cells) ∧ o.Right D base p q.1 cells := by
  obtain ⟨st, hst, htext⟩ := List.mem_map.1 hmem
  have hanswer := hq st hst htext
  obtain ⟨text, failure | (_ | cells)⟩ := q
  · exact hanswer.elim
  · exact hanswer.elim
  · exact ⟨cells, rfl, hq⟩

/-- **No false alarm**: if the source offers a plain query and a condition, the log takes what it is
given, and the engine answers each text that the round sends with the rows that it means, in any
order, then the round sends the query and the statements of its parts, and ends in passed. -/
theorem runRound_passed_of_answered {σ : Type} (h : Handler σ) (o : Oracle) (s : Session) (w : σ)
    (D : Content ρ ν) (base : Query ρ ν) (p : Predicate ρ (Tuple ν)) (hkind : o.kind ≠ .aggregate)
    (hbase : base.Plain) (hall : ∀ e ∈ (o.runRound.run s).transcript h w, e.isSmooth)
    (hoffer : o.kind.offering (base.offer p) <+: (o.runRound.run s).transcript h w)
    (hengine : ∀ q ∈ sent ((o.runRound.run s).transcript h w), ∀ st ∈ o.statements base p,
      st.sql = q.1 → st.AnsweredBy D q.2) :
    (sent ((o.runRound.run s).transcript h w)).map Prod.fst =
        (o.statements base p).map Statement.sql ∧
      ∃ s' w', (o.runRound.run s).run h w = (some (.passed, s'), w') := by
  obtain ⟨outcome, s', w', hrun, hverdict⟩ := exists_verdict_of_offering hall hoffer
  have hright : ∀ q ∈ sent ((o.runRound.run s).transcript h w),
      ∃ cells, q.2 = .ok (.rows cells) ∧ o.Right D base p q.1 cells := by
    intro q hq
    refine exists_right ?_ (hengine q hq)
    rw [map_sql_statements hkind]
    exact hverdict.mem_statements hq
  obtain ⟨first, rest, hrows, hfirst, hrest⟩ := hverdict.exists_results _ hright
  rw [← map_sql_partStatements hkind] at hrest
  -- both sides are the cells of the whole, each in an order of its own
  have hwhole : first.Perm ((o.wholeStatement base).cells D) :=
    hfirst _ List.mem_cons_self (sql_wholeStatement hkind)
  have hparts : rest.flatten.Perm ((o.partStatements base p).flatMap (Statement.cells D)) :=
    flatten_perm_of_forall₂ (fun st hst cells hright =>
      hright st (List.mem_cons_of_mem _ hst) rfl) hrest
  have hsame : first.Perm rest.flatten :=
    hwhole.trans ((hparts.trans (cells_perm hkind hbase)).symm)
  obtain rfl : outcome = .passed :=
    (hverdict.passes first rest hrows).2 (Or.inl (SameResult.of_perm (hsame.map o.view)))
  refine ⟨?_, s', w', hrun⟩
  rw [map_sql_statements hkind]
  refine hverdict.goes_on fun q hq => ?_
  obtain ⟨cells, hcells, -⟩ := hright q hq
  exact ⟨cells, hcells⟩

/-- Distinct values, one of them NULL, of rows in which the condition takes every truth value. -/
theorem runRound_passed_of_distinct_values :
    let o : Oracle := ⟨.distinct, ∅, .sqlite⟩
    let base : Query Nat Cell := { fetch := ["t.a"], tables := ["t"] }
    let p : Predicate Nat (Tuple Cell) := ⟨"t.b > 0", fun r => if r = 0 then .yes else
      if r = 1 then .no else .unknown, fun _ => .yes⟩
    let D : Content Nat Cell := ⟨[0, 1, 2, 3], fun r => (if r < 3 then some "1" else none, []), id⟩
    let s : Session := .new true "db0" 0
    let w : World (List EngineAnswer) Unit MemoryLog :=
      ⟨[.ok (.rows [some "1", none]), .ok (.rows [none, some "1"])], (), {}⟩
    let h := (base.offer p).handler
    base.Plain ∧ (∀ q ∈ sent ((o.runRound.run s).transcript h w), ∀ st ∈ o.statements base p,
        st.sql = q.1 → st.AnsweredBy D q.2) ∧
      (sent ((o.runRound.run s).transcript h w)).map Prod.fst =
        (o.statements base p).map Statement.sql ∧
      ∃ s' w', (o.runRound.run s).run h w = (some (.passed, s'), w') := by
  intro o base p D s w h
  have hbase : base.Plain := ⟨rfl, rfl, rfl⟩
  have hengine : ∀ q ∈ sent ((o.runRound.run s).transcript h w), ∀ st ∈ o.statements base p,
      st.AnsweredBy D q.2 := by decide
  refine ⟨hbase, fun q hq st hst _ => hengine q hq st hst, ?_⟩
  exact runRound_passed_of_answered h o s w D base p (by decide) hbase (by decide)
    ⟨_, rfl⟩ fun q hq st hst _ => hengine q hq st hst

/-! ### Aggregates -/

omit [DecidableEq ν]

/-- **Aggregates are rebuilt**: the outer function makes the aggregate over the rows that the base
query keeps out of the aggregates over the three parts. So if the engine answers the two texts of an
aggregate round with these two values, written in the same way, the round sends both, and ends in
passed. -/
theorem runRound_passed_of_aggregates {σ : Type} (h : Handler σ) (o : Oracle) (s : Session) (w : σ)
    (rows : List ρ) (base : Query ρ ν) (p : Predicate ρ (Tuple ν)) (f : AggregateFn)
    (argument : String) (value : ρ → Option Int) (render : Option Int → Cell) :
    let valueOver := fun c => f.value ((Predicate.keepRows c rows).map value)
    let parts := p.parts.map fun c => valueOver (some (.conjoin base.condition c))
    let x := base.offer p (f, argument)
    let t := (o.runRound.run s).transcript h w
    f.outer.value parts = valueOver base.condition ∧
      (o.kind = .aggregate → (∀ e ∈ t, e.isSmooth) → o.kind.offering x <+: t →
        (∀ q ∈ sent t,
          (q.1 = o.wholeQuery x → q.2 = .ok (.rows [render (valueOver base.condition)])) ∧
            (q.1 ∈ o.partQueries x → q.2 = .ok (.rows [render (f.outer.value parts)]))) →
        (sent t).map Prod.fst = o.wholeQuery x :: o.partQueries x ∧
          ∃ s' w', (o.runRound.run s).run h w = (some (.passed, s'), w')) := by
  intro valueOver parts x t
  have hvalue : f.outer.value parts = valueOver base.condition :=
    f.outer_value_parts rows base.condition p value
  refine ⟨hvalue, fun hkind hall hoffer hengine => ?_⟩
  obtain ⟨outcome, s', w', hrun, hverdict⟩ := exists_verdict_of_offering hall hoffer
  -- the two values are one, so that all answers are the same
  rw [hvalue] at hengine
  have hright : ∀ q ∈ sent t, ∃ cells, q.2 = .ok (.rows cells) ∧
      cells = [render (valueOver base.condition)] := by
    intro q hq
    refine ⟨_, ?_, rfl⟩
    rcases List.mem_cons.1 (hverdict.mem_statements hq) with hw | hp
    · exact (hengine q hq).1 hw
    · exact (hengine q hq).2 hp
  obtain ⟨first, rest, hrows, rfl, hrest⟩ :=
    hverdict.exists_results (fun _ cells => cells = _) hright
  obtain rfl : rest = [[render (valueOver base.condition)]] := by
    rw [partQueries, if_pos hkind] at hrest
    cases hrest with
    | cons hparts hnil =>
      cases hnil
      rw [hparts]
  obtain rfl : outcome = .passed :=
    (hverdict.passes _ _ hrows).2 (Or.inl ⟨rfl, fun _ => Iff.rfl⟩)
  refine ⟨hverdict.goes_on fun q hq => ?_, s', w', hrun⟩
  obtain ⟨cells, hcells, -⟩ := hright q hq
  exact ⟨cells, hcells⟩

/-- A count whose third part is empty, so that a zero is added. -/
theorem runRound_passed_of_counts :
    let o : Oracle := ⟨.aggregate, ∅, .sqlite⟩
    let base : Query Nat Cell := { fetch := ["t.a"], tables := ["t"] }
    let p : Predicate Nat (Tuple Cell) :=
      ⟨"t.b > 0", fun r => if r = 0 then .yes else .no, fun _ => .unknown⟩
    let value : Nat → Option Int := fun r => if r < 3 then some r else none
    let render : Option Int → Cell := Option.map toString
    let s : Session := .new true "db0" 0
    let w : World (List EngineAnswer) Unit MemoryLog :=
      ⟨[.ok (.rows [render (some 3)]), .ok (.rows [render (some 3)])], (), {}⟩
    let x := base.offer p (.count, "t.a")
    let parts := p.parts.map fun c => AggregateFn.count.value
      ((Predicate.keepRows (some (.conjoin base.condition c)) [0, 1, 2, 3]).map value)
    parts = [some 1, some 2, some 0] ∧
      AggregateFn.count.outer.value parts = AggregateFn.count.value ([0, 1, 2, 3].map value) ∧
        ∃ s' w', (o.runRound.run s).run x.handler w = (some (.passed, s'), w') := by
  intro o base p value render s w x parts
  have main := runRound_passed_of_aggregates x.handler o s w [0, 1, 2, 3] base p .count "t.a" value
    render
  have hengine : ∀ q ∈ sent ((o.runRound.run s).transcript x.handler w),
      q.2 = .ok (.rows [render (some 3)]) := by decide
  obtain ⟨-, hpassed⟩ := main.2 rfl (by decide) ⟨_, rfl⟩ fun q hq =>
    ⟨fun _ => hengine q hq, fun _ => hengine q hq⟩
  exact ⟨by decide, main.1, hpassed⟩

end Oracle

end Trisect
