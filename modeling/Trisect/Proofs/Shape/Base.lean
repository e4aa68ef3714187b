import Trisect.Proofs.Shape.Conditions

/-!
# Base queries as they are drawn

A base query is drawn in two rounds of choosing without putting back: first one or two of the tables
that have a column (`Trisect.RandomShapes.IsChoice`), then one to three of the columns of these
tables (`Trisect.RandomShapes.IsOver`). How many are chosen is bounded by how many there are, so
that a range might turn out empty; that none does is part of what a draw yields. The condition and
the order come last, and are made over the columns of all the tables that were chosen, whether these
were selected or not.

The main statement is `Trisect.RandomShapes.base_query`: **if no table has a column, a base query is
refused and nothing is drawn or changed; else there is one that is valid for the schema**, no range
is empty on the way to it, and the columns that are kept are those of its tables.
-/

namespace Trisect.RandomShapes

/-- A query over some tables, in which rows are neither grouped nor distinct. -/
structure IsPlain (tables : List Table) (base : Select) : Prop where
  named : base.tables = tables.map (·.name)
  distinct : base.distinct = false
  groupBy : base.groupBy = []
  having : base.having = none

/-- One or two tables from different positions of a schema, each with a column. -/
structure IsChoice (schema chosen : List Table) : Prop where
  subperm : chosen.Subperm schema
  pos : 1 ≤ chosen.length
  le : chosen.length ≤ 2
  columns_ne_nil : ∀ t ∈ chosen, t.columns ≠ []

/-- A plain query over some tables that refers to their columns only: it selects one to three from
different positions among them, may order by one, and may have a condition over them in which no
more connectives than allowed are nested in one another. -/
structure IsOver (depth : Nat) (chosen : List Table) (base : Select) : Prop
    extends IsPlain chosen base where
  fetch : ∃ fetched : List ColumnRef, base.fetch = fetched.map ColumnRef.sql ∧
    fetched.Subperm (chosen.flatMap columnsOf) ∧ 1 ≤ fetched.length ∧ fetched.length ≤ 3
  condition : base.condition = none ∨ ∃ p : Condition, base.condition = some p.sql ∧
    p.Over (chosen.flatMap columnsOf) ∧ p.depth ≤ depth
  orderBy : base.orderBy = [] ∨ ∃ c ∈ chosen.flatMap columnsOf, base.orderBy = [c.sql]

section Choosing

variable {schema chosen : List Table}

theorem IsChoice.mem (h : IsChoice schema chosen) {t : Table} (ht : t ∈ chosen) : t ∈ schema :=
  h.subperm.subset ht

/-- A choice of tables leaves columns to choose from. -/
theorem IsChoice.flatMap_ne_nil (h : IsChoice schema chosen) : chosen.flatMap columnsOf ≠ [] := by
  intro hnil
  obtain ⟨t, ht⟩ : ∃ t, t ∈ chosen := List.exists_mem_of_length_pos h.pos
  have hnone : columnsOf t = [] := List.flatMap_eq_nil_iff.1 hnil t ht
  rw [columnsOf, List.map_eq_nil_iff] at hnone
  exact h.columns_ne_nil t ht hnone

theorem candidates_eq_nil_iff {s : RandomShapes} :
    s.candidates = [] ↔ ∀ t ∈ s.tables, t.columns = [] := by
  simp [candidates]

theorem mem_candidates {s : RandomShapes} {t : Table} (h : t ∈ s.candidates) : t.columns ≠ [] := by
  simpa using List.of_mem_filter h

end Choosing

/-! ### The draws -/

theorem yields_drawTables {s : RandomShapes} (h : s.candidates ≠ []) :
    Draw.Yields (drawTables s.candidates) (IsChoice s.tables) := by
  have hlen : 0 < s.candidates.length := List.length_pos_iff.2 h
  have hrange : 0 < min s.candidates.length 2 := by omega
  refine Draw.yields_bind (Draw.yields_belowLong hrange) fun k hk => ?_
  refine (Draw.yields_chooseMany s.candidates (k + 1)).mono fun chosen hchosen => ?_
  have hcount : chosen.length = k + 1 := by
    rw [hchosen.1]
    omega
  refine ⟨hchosen.2.trans List.filter_sublist.subperm, by omega, by omega, fun t ht => ?_⟩
  exact mem_candidates (hchosen.2.subset ht)

theorem yields_drawFetch {columns : List ColumnRef} (h : columns ≠ []) :
    Draw.Yields (drawFetch columns) fun fetched =>
      fetched.Subperm columns ∧ 1 ≤ fetched.length ∧ fetched.length ≤ 3 := by
  have hlen : 0 < columns.length := List.length_pos_iff.2 h
  have hrange : 0 < min columns.length 3 := by omega
  refine Draw.yields_bind (Draw.yields_belowLong hrange) fun k hk => ?_
  refine (Draw.yields_chooseMany columns (k + 1)).mono fun fetched hfetched => ?_
  have hcount : fetched.length = k + 1 := by
    rw [hfetched.1]
    omega
  exact ⟨hfetched.2, by omega, by omega⟩

theorem succeeds_drawClauses {chosen : List Table} {fetched : List ColumnRef}
    (h : chosen.flatMap columnsOf ≠ []) (hsub : fetched.Subperm (chosen.flatMap columnsOf))
    (hpos : 1 ≤ fetched.length) (hle : fetched.length ≤ 3) (maxDepth : Nat) :
    Attempt.Succeeds (drawClauses maxDepth (chosen.flatMap columnsOf) fetched chosen)
      (IsOver maxDepth chosen) := by
  have hfetch : ∃ cs : List ColumnRef, fetched.map ColumnRef.sql = cs.map ColumnRef.sql ∧
      cs.Subperm (chosen.flatMap columnsOf) ∧ 1 ≤ cs.length ∧ cs.length ≤ 3 :=
    ⟨fetched, rfl, hsub, hpos, hle⟩
  -- whatever the condition is, the order is drawn in the same way after it
  have horder : ∀ condition : Option String,
      (condition = none ∨ ∃ p : Condition, condition = some p.sql ∧
        p.Over (chosen.flatMap columnsOf) ∧ p.depth ≤ maxDepth) →
      Attempt.Succeeds (do
        let orderBy ← if ← ExceptT.lift (Draw.chance orderChance) then
            pure [(← Condition.drawColumn (chosen.flatMap columnsOf)).sql]
          else pure []
        return { fetch := fetched.map ColumnRef.sql, tables := chosen.map (·.name), condition,
                 orderBy }) (IsOver maxDepth chosen) := by
    intro condition hcondition
    refine Attempt.succeeds_bind (Attempt.succeeds_chance _) fun isOrdered _ => ?_
    split
    · refine Attempt.succeeds_bind (Condition.succeeds_drawColumn h) fun c hc => ?_
      exact Attempt.succeeds_pure ⟨⟨rfl, rfl, rfl, rfl⟩, hfetch, hcondition, Or.inr ⟨c, hc, rfl⟩⟩
    · exact Attempt.succeeds_pure ⟨⟨rfl, rfl, rfl, rfl⟩, hfetch, hcondition, Or.inl rfl⟩
  refine Attempt.succeeds_bind (Attempt.succeeds_chance _) fun hasCondition _ => ?_
  split
  · exact Attempt.succeeds_bind (Condition.succeeds_draw h maxDepth) fun p hp =>
      horder _ (Or.inr ⟨p, rfl, hp⟩)
  · exact horder _ (Or.inl rfl)

/-- What is drawn for a base query over the candidates of a source. -/
theorem yields_drawBase {s : RandomShapes} (h : s.candidates ≠ []) :
    Draw.Yields (drawBase s.maxDepth s.candidates) fun x =>
      ∃ base chosen, x = (.ok base, chosen.flatMap columnsOf) ∧ IsChoice s.tables chosen ∧
        IsOver s.maxDepth chosen base := by
  refine Draw.yields_bind (yields_drawTables h) fun chosen hchosen => ?_
  have hcolumns := hchosen.flatMap_ne_nil
  refine Draw.yields_bind (yields_drawFetch hcolumns) fun fetched hfetched => ?_
  obtain ⟨hsub, hpos, hle⟩ := hfetched
  refine Draw.yields_bind (succeeds_drawClauses hcolumns hsub hpos hle s.maxDepth) ?_
  rintro result ⟨base, rfl, hbase⟩
  exact Draw.yields_pure ⟨base, chosen, rfl, hchosen, hbase⟩

/-! ### The query -/

/-- **A base query** is refused if no table has a column, and then nothing changes. Else there is
one, and the columns that are kept are those of the tables that were chosen for it. -/
theorem baseSelect_cases (s : RandomShapes) :
    (s.candidates = [] ∧ s.baseSelect = (.error (.skip .emptySchema), s)) ∨
      (s.candidates ≠ [] ∧ ∃ base chosen, IsChoice s.tables chosen ∧
        IsOver s.maxDepth chosen base ∧ s.baseSelect = (.ok base,
          { s with
            stream := ((drawBase s.maxDepth s.candidates).run s.stream).2
            columns := chosen.flatMap columnsOf })) := by
  rw [baseSelect]
  by_cases hnil : s.candidates = []
  · exact Or.inl ⟨hnil, if_pos (by simp [hnil])⟩
  · refine Or.inr ⟨hnil, ?_⟩
    obtain ⟨base, chosen, hdrawn, hchosen, hbase⟩ := (yields_drawBase hnil).run s.stream
    refine ⟨base, chosen, hchosen, hbase, ?_⟩
    rw [if_neg (by simp [hnil])]
    rcases hrun : (drawBase s.maxDepth s.candidates).run s.stream with ⟨x, stream⟩
    rw [hrun] at hdrawn
    subst hdrawn
    rfl

/-- **Base queries are valid for the schema.** Whatever calls a source has answered before, it
refuses a base query if and only if no table has a column, and is left as it was. Else no range that
it draws from is empty, and it comes to a query over one or two tables of the schema that refers to
nothing but their columns; these are the columns that it keeps. -/
theorem base_query (s : RandomShapes) :
    if ∀ t ∈ s.tables, t.columns = [] then s.baseSelect = (.error (.skip .emptySchema), s)
    else
      (∀ r ∈ (drawBase s.maxDepth s.candidates).ranges s.stream, 0 < r.size) ∧
        ∃ base chosen, IsChoice s.tables chosen ∧ IsOver s.maxDepth chosen base ∧
          s.baseSelect = (.ok base,
            { s with
              stream := ((drawBase s.maxDepth s.candidates).run s.stream).2
              columns := chosen.flatMap columnsOf }) := by
  rcases s.baseSelect_cases with ⟨hnil, hrefused⟩ | ⟨hne, hbase⟩
  · rw [if_pos (candidates_eq_nil_iff.1 hnil)]
    exact hrefused
  · rw [if_neg fun hall => hne (candidates_eq_nil_iff.2 hall)]
    exact ⟨(yields_drawBase hne).ranges s.stream, hbase⟩

end Trisect.RandomShapes
