import Trisect.Proofs.Round.Clauses
import Trisect.Proofs.Shape.Base

/-!
# The source of random shapes from call to call

Between two base queries the source of random shapes may be asked for conditions as often as one
likes, and its schema may change. What it keeps for these conditions is the columns of the tables
that it chose for its last base query (`Trisect.RandomShapes.Fits`). That every call leaves it so is
the invariant `Trisect.RandomShapes.Progress.Sound`: a call that makes no base query leaves the
columns alone, and one that does chooses tables that have columns. The base queries themselves are
plain, so that they suit every kind of oracle (`Trisect.RandomShapes.suits_of_baseSelect`).

The main statement is `Trisect.RandomShapes.conditions_after`: after any calls, on any stream,
**conditions are refused before the first base query and made after it**, over the columns of the
tables of the last one, which need not be in the schema any more.
-/

namespace Trisect

/-- The result of learning a schema, if the same question has the same answer each time. -/
def SchemaReading.answeredBy {α : Type} (answers : (q : Inquiry) → q.Answer) : SchemaReading α → α
  | .done a => a
  | .ask q next => (next (answers q)).answeredBy answers

namespace RandomShapes

/-! ### Base queries -/

/-- **A plain query suits every kind of oracle.** -/
theorem IsPlain.suits {tables : List Table} {base : Select} (h : IsPlain tables base)
    (k : OracleKind) : k.Suits base := by
  cases k with
  | whereClause => exact ⟨h.distinct, h.groupBy, h.having⟩
  | having => trivial
  | groupBy => exact h.having
  | distinct => exact ⟨h.groupBy, h.having⟩
  | aggregate => trivial

/-- The tables that were chosen for a base query from the schema that it was made from: it is plain,
and there is a column in one of them. -/
structure Fits (schema : List Table) (base : Select) (chosen : List Table) : Prop where
  known : ∀ t ∈ chosen, t ∈ schema
  plain : IsPlain chosen base
  columns_ne_nil : chosen.flatMap columnsOf ≠ []

theorem IsChoice.fits {schema chosen : List Table} {depth : Nat} {base : Select}
    (h : IsChoice schema chosen) (hbase : IsOver depth chosen base) : Fits schema base chosen :=
  ⟨fun _ => h.mem, hbase.toIsPlain, h.flatMap_ne_nil⟩

/-- **No base query is unsuitable**, whatever the kind of oracle it is for. -/
theorem suits_of_baseSelect {s s' : RandomShapes} {base : Select}
    (h : s.baseSelect = (.ok base, s')) (k : OracleKind) : k.Suits base := by
  rcases s.baseSelect_cases with ⟨-, hrefused⟩ | ⟨-, base', chosen, -, hover, hbase⟩
  · rw [hrefused] at h
    cases h
  · rw [hbase] at h
    cases h
    exact hover.toIsPlain.suits k

/-! ### Conditions -/

section Answers

variable {α β : Type} {m : Attempt α} {P : α → Prop} {reason : SkipReason}

theorem exists_map_answer (h : Attempt.Succeeds m P) (f : α → β) (stream : Stream) :
    ∃ a, (answer (m.run.run stream).1).map f = .ok (f a) ∧ P a := by
  obtain ⟨a, hrun, ha⟩ := Draw.Yields.run h stream
  refine ⟨a, ?_, ha⟩
  rw [hrun]
  rfl

theorem map_answer_of_fails (h : Attempt.Fails m reason) (f : α → β) (stream : Stream) :
    (answer (m.run.run stream).1).map f = .error (.skip reason) := by
  have hrun : (m.run.run stream).1 = .error reason := Draw.Yields.run h stream
  rw [hrun]
  rfl

end Answers

variable {s : RandomShapes}

/-! ### Calls -/

/-- What the source of random shapes can be asked for. -/
inductive Call
  /-- To take some tables for the schema. -/
  | withTables (tables : List Table)
  /-- To read the schema again; what the engine answers. -/
  | refresh (answers : (q : Inquiry) → q.Answer)
  | database (count : Nat)
  | baseSelect
  | predicate
  | groupPredicate (groupBy : List String)
  | aggregate

/-- A source, and the last base query that it gave, with the schema that it was made from. -/
structure Progress where
  source : RandomShapes
  last : Option (List Table × Select) := none

/-- A call, whatever its result. -/
def Call.apply (p : Progress) : Call → Progress
  | withTables tables => { p with source := p.source.withTables tables }
  | refresh answers => { p with source := (p.source.refresh.answeredBy answers).2 }
  | database count => { p with source := (p.source.database count).2 }
  | baseSelect =>
    match p.source.baseSelect with
    | (.ok base, source) => ⟨source, some (p.source.tables, base)⟩
    | (.error _, source) => ⟨source, p.last⟩
  | predicate => { p with source := p.source.predicate.2 }
  | groupPredicate groupBy => { p with source := (p.source.groupPredicate groupBy).2 }
  | aggregate => { p with source := p.source.aggregate.2 }

/-- A new source after some calls. -/
def after (seed : UInt64) (maxDepth : Nat) (calls : List Call) : Progress :=
  calls.foldl Call.apply ⟨new seed maxDepth, none⟩

/-- **What holds after every call**: the depth is as it was set, and the columns are those of the
tables of the last base query, or none if there was none. -/
structure Progress.Sound (maxDepth : Nat) (p : Progress) : Prop where
  depth : p.source.maxDepth = max maxDepth 1
  before : p.last = none → p.source.columns = []
  since : ∀ schema base, p.last = some (schema, base) →
    ∃ chosen, Fits schema base chosen ∧ p.source.columns = chosen.flatMap columnsOf

variable {p : Progress} {maxDepth : Nat}

/-- A call that makes no base query keeps what is needed of the source. -/
theorem Progress.Sound.of_same (h : p.Sound maxDepth) {source : RandomShapes}
    (hdepth : source.maxDepth = p.source.maxDepth) (hcolumns : source.columns = p.source.columns) :
    Progress.Sound maxDepth { p with source } where
  depth := hdepth.trans h.depth
  before hnone := hcolumns.trans (h.before hnone)
  since schema base hlast := by
    obtain ⟨chosen, hfits, hchosen⟩ := h.since schema base hlast
    exact ⟨chosen, hfits, hcolumns.trans hchosen⟩

theorem Progress.Sound.apply (h : p.Sound maxDepth) (call : Call) :
    (call.apply p).Sound maxDepth := by
  cases call with
  | withTables tables => exact h.of_same rfl rfl
  | refresh answers =>
    -- the schema changes or stays, but the columns do not depend on it any more
    rw [Call.apply, RandomShapes.refresh, SchemaReading.answeredBy]
    rcases answers .tables with e | tables
    · exact h.of_same rfl rfl
    · exact h.of_same rfl rfl
  | database count => exact h.of_same rfl rfl
  | predicate => exact h.of_same rfl rfl
  | groupPredicate groupBy => exact h.of_same rfl rfl
  | aggregate => exact h.of_same rfl rfl
  | baseSelect =>
    rcases p.source.baseSelect_cases with
      ⟨-, hrefused⟩ | ⟨-, base, chosen, hchosen, hover, hbase⟩
    · rw [Call.apply, hrefused]
      exact h
    · rw [Call.apply, hbase]
      refine ⟨h.depth, fun hnone => ?_, fun schema base' hlast => ?_⟩
      · cases hnone
      · cases hlast
        exact ⟨chosen, hchosen.fits hover, rfl⟩

theorem sound_after (seed : UInt64) (maxDepth : Nat) (calls : List Call) :
    (after seed maxDepth calls).Sound maxDepth := by
  -- said of any beginning, so that the induction can begin anew after each call
  have hrun : ∀ p : Progress, p.Sound maxDepth → (calls.foldl Call.apply p).Sound maxDepth := by
    induction calls with
    | nil => exact fun p hp => hp
    | cons call calls ih => exact fun p hp => ih _ (hp.apply call)
  refine hrun _ ⟨rfl, fun _ => rfl, fun schema base hlast => ?_⟩
  cases hlast

/-! ### What is answered -/

/-- Every condition is refused, as one that cannot be made, and so is every aggregate. -/
structure Refuses (s : RandomShapes) : Prop where
  predicate : s.predicate.1 = .error (.skip .inapplicableShape)
  groupPredicate : ∀ groupBy, (s.groupPredicate groupBy).1 = .error (.skip .inapplicableShape)
  aggregate : s.aggregate.1 = .error (.skip .inapplicableShape)

/-- Conditions and aggregates are made over some columns, and connectives are nested no more deeply
than they may be. -/
structure Serves (columns : List ColumnRef) (depth : Nat) (s : RandomShapes) : Prop where
  predicate : ∃ c : Condition, s.predicate.1 = .ok c.sql ∧ c.Over columns ∧ c.depth ≤ depth
  groupPredicate : ∀ groupBy, ∃ g : GroupCondition,
    (s.groupPredicate groupBy).1 = .ok g.sql ∧ g.Over columns groupBy
  aggregate : ∃ f, ∃ c ∈ columns, s.aggregate.1 = .ok (f, c.sql)

theorem succeeds_drawAggregate {columns : List ColumnRef} (h : columns ≠ []) :
    Attempt.Succeeds (drawAggregate columns) fun x => ∃ c ∈ columns, x.2 = c.sql := by
  refine Attempt.succeeds_bind (Condition.succeeds_drawColumn h) fun c hc => ?_
  refine Attempt.succeeds_bind (Attempt.succeeds_lift AggregateFn.yields_draw) fun f _ => ?_
  exact Attempt.succeeds_pure ⟨c, hc, rfl⟩

theorem refuses_of_no_columns (h : s.columns = []) : s.Refuses := by
  have hpredicate : Attempt.Fails (Condition.draw s.columns s.maxDepth) .inapplicableShape := by
    rw [h]
    exact Condition.fails_draw s.maxDepth
  have hgroup : ∀ groupBy, Attempt.Fails (GroupCondition.draw s.columns groupBy)
      .inapplicableShape := by
    intro groupBy
    rw [h]
    exact GroupCondition.fails_draw groupBy
  have haggregate : ((drawAggregate s.columns).run.run s.stream).1 = .error .inapplicableShape := by
    rw [h]
    exact Draw.Yields.run (Attempt.fails_bind Condition.fails_drawColumn) s.stream
  refine ⟨?_, ?_, ?_⟩
  · exact map_answer_of_fails hpredicate Condition.sql s.stream
  · intro groupBy
    exact map_answer_of_fails (hgroup groupBy) GroupCondition.sql s.stream
  · change answer ((drawAggregate s.columns).run.run s.stream).1 = _
    rw [haggregate]
    rfl

theorem serves_of_columns (h : s.columns ≠ []) : Serves s.columns s.maxDepth s := by
  refine ⟨?_, ?_, ?_⟩
  · exact exists_map_answer (Condition.succeeds_draw h s.maxDepth) Condition.sql s.stream
  · intro groupBy
    exact exists_map_answer (GroupCondition.succeeds_draw h groupBy) GroupCondition.sql s.stream
  · obtain ⟨⟨f, argument⟩, hrun, c, hc, rfl⟩ := Draw.Yields.run (succeeds_drawAggregate h) s.stream
    refine ⟨f, c, hc, ?_⟩
    change answer ((drawAggregate s.columns).run.run s.stream).1 = _
    rw [hrun]
    rfl

/-- **Conditions from call to call**: after any calls, on any stream, conditions are refused if no
base query was given; and if one was, they are made over the columns of the tables that were chosen
for the last one. -/
theorem conditions_after (seed : UInt64) (maxDepth : Nat) (calls : List Call) (stream : Stream) :
    match (after seed maxDepth calls).last with
    | none => Refuses { (after seed maxDepth calls).source with stream }
    | some (schema, base) => ∃ chosen : List Table, Fits schema base chosen ∧
        Serves (chosen.flatMap columnsOf) (max maxDepth 1)
          { (after seed maxDepth calls).source with stream } := by
  have hsound := sound_after seed maxDepth calls
  cases hlast : (after seed maxDepth calls).last with
  | none => exact refuses_of_no_columns (hsound.before hlast)
  | some last =>
    obtain ⟨chosen, hfits, hcolumns⟩ := hsound.since last.1 last.2 hlast
    have hserves := serves_of_columns (s := { (after seed maxDepth calls).source with stream })
      (by rw [hcolumns]; exact hfits.columns_ne_nil)
    rw [hcolumns, hsound.depth] at hserves
    exact ⟨chosen, hfits, hserves⟩

end RandomShapes

end Trisect
