import Trisect.Proofs.Round.Clauses
import Trisect.Proofs.Session.Directory
import Trisect.Proofs.Session.Skipping
import Trisect.Proofs.Sql.Token

/-!
# Texts without the zero character

What the source of random shapes writes is put together from the names of its schema, from literals
as they are drawn, and from keywords and marks. The last three never have the character U+0000 in
them, so that a text has it only if a name has. This goes from literals by way of conditions
(`Trisect.Condition.Over.nulFree_sql`) and clauses (`Trisect.Select.NulFree.sql`) up to all that is
offered to a round (`Trisect.Offer.nulFree_of_answers`), and from there, whatever the oracle makes
of it, to the statements of the round.

A round may begin in any state of the source. The columns of an earlier base query may have names
that are not in the schema any more, but a round first asks for a base query of its own, and if that
is refused then it is over; so the names that count are those of the schema.

The main statements are `Trisect.Oracle.nulFree_of_sent` about the statements that a round sends,
`Trisect.Oracle.nulFree_of_bug` about the report that it may end in, and
`Trisect.Session.nulFree_of_run` about the report of a whole session.
-/

namespace Trisect

/-- **A text without the character U+0000.** -/
def NulFree (text : String) : Prop := '\x00' ∉ text.toList

instance (text : String) : Decidable (NulFree text) := inferInstanceAs (Decidable (¬_))

@[simp] theorem nulFree_append {s t : String} : NulFree (s ++ t) ↔ NulFree s ∧ NulFree t := by
  simp [NulFree, String.toList_append]

theorem nulFree_intercalate {separator : String} {items : List String} (hs : NulFree separator)
    (h : ∀ item ∈ items, NulFree item) : NulFree (separator.intercalate items) := by
  induction items with
  | nil =>
    rw [String.intercalate_nil]
    decide
  | cons item items ih =>
    obtain ⟨hitem, hitems⟩ := List.forall_mem_cons.1 h
    by_cases hnil : items = []
    · rwa [hnil, String.intercalate_singleton]
    · rw [String.intercalate_cons_of_ne_nil hnil]
      exact nulFree_append.2 ⟨nulFree_append.2 ⟨hitem, hs⟩, ih hitems⟩

/-! ### Literals -/

theorem nulFree_toString_nat (n : Nat) : NulFree (toString n) := by
  intro h
  rw [Sql.toList_toString_nat] at h
  exact absurd (Json.isDigit_of_mem_digits h) (by decide)

theorem nulFree_toString_int (n : Int) : NulFree (toString n) := by
  cases n with
  | ofNat n => exact nulFree_toString_nat n
  | negSucc n => exact nulFree_append.2 ⟨by decide, nulFree_toString_nat (n + 1)⟩

theorem Literal.IsDrawn.nulFree_sql {l : Literal} (h : l.IsDrawn) : NulFree l.sql := by
  cases l with
  | null => decide
  | integer n => exact nulFree_toString_int n
  | decimal n =>
    have hsign : NulFree (if n.negative then "-" else "") := by split <;> decide
    simp only [sql, Hundredths.render, nulFree_append]
    exact ⟨⟨⟨⟨hsign, nulFree_toString_nat _⟩, by decide⟩, nulFree_toString_nat _⟩,
      nulFree_toString_nat _⟩
  | text cs =>
    have hcs : NulFree (String.ofList cs) := by
      rw [NulFree, String.toList_ofList]
      exact fun hmem => absurd (h.2 _ hmem) (by decide)
    rw [sql]
    simp +decide [hcs]
  | minusZero => decide

/-! ### Conditions -/

/-- The names of a column and its table are without the character. -/
structure ColumnRef.NulFree (c : ColumnRef) : Prop where
  table : Trisect.NulFree c.table
  column : Trisect.NulFree c.column

theorem ColumnRef.NulFree.sql {c : ColumnRef} (h : c.NulFree) : Trisect.NulFree c.sql := by
  rw [ColumnRef.sql]
  simp +decide [h.table, h.column]

theorem Comparator.nulFree_sql (op : Comparator) : NulFree op.sql := by
  cases op <;> decide

theorem AggregateFn.nulFree_name (f : AggregateFn) : NulFree f.name := by
  cases f <;> decide

section Conditions

variable {columns : List ColumnRef} (hcolumns : ∀ c ∈ columns, c.NulFree)

include hcolumns

theorem Operand.Over.nulFree_sql {r : Operand} (h : r.Over columns) : NulFree r.sql := by
  cases r with
  | column c => exact (hcolumns c h).sql
  | literal l => exact Literal.IsDrawn.nulFree_sql h

theorem Leaf.Over.nulFree_sql {l : Leaf} (h : l.Over columns) : NulFree l.sql := by
  cases l with
  | isNull c =>
    rw [Leaf.sql]
    simp +decide [(hcolumns c h).sql]
  | isNotNull c =>
    rw [Leaf.sql]
    simp +decide [(hcolumns c h).sql]
  | between c low high =>
    obtain ⟨hc, hlow, hhigh⟩ := h
    rw [Leaf.sql]
    simp +decide [(hcolumns c hc).sql, hlow.nulFree_sql, hhigh.nulFree_sql]
  | isIn c items =>
    obtain ⟨hc, -, hitems⟩ := h
    have hlist : NulFree (", ".intercalate (items.map Literal.sql)) := by
      refine nulFree_intercalate (by decide) ?_
      simpa using fun l hl => (hitems l hl).nulFree_sql
    rw [Leaf.sql]
    simp +decide [(hcolumns c hc).sql, hlist]
  | compare c op right =>
    obtain ⟨hc, hright⟩ := h
    rw [Leaf.sql]
    simp +decide [(hcolumns c hc).sql, op.nulFree_sql, hright.nulFree_sql hcolumns]

/-- **A condition over columns** has the character only if the name of a column has. -/
theorem Condition.Over.nulFree_sql {p : Condition} (h : p.Over columns) : NulFree p.sql := by
  induction p with
  | leaf l => exact Leaf.Over.nulFree_sql hcolumns h
  | not p ih =>
    rw [Condition.sql]
    simp +decide [ih h]
  | and p q ihp ihq =>
    rw [Condition.sql]
    simp +decide [ihp h.1, ihq h.2]
  | or p q ihp ihq =>
    rw [Condition.sql]
    simp +decide [ihp h.1, ihq h.2]
  | isNull p _ => exact h.elim

theorem GroupCondition.Over.nulFree_sql {groupBy : List String} {g : GroupCondition}
    (h : g.Over columns groupBy) (hgroups : ∀ key ∈ groupBy, NulFree key) : NulFree g.sql := by
  have hterm : NulFree (g.function.name ++ "(" ++ g.argument.sql ++ ") " ++ g.op.sql ++ " " ++
      g.bound.sql) := by
    simp +decide [g.function.nulFree_name, (hcolumns _ h.argument).sql, g.op.nulFree_sql,
      h.bound.nulFree_sql]
  rw [GroupCondition.sql]
  split
  · exact hterm
  · next key hkey =>
    have hnull : NulFree key := hgroups key (h.orNull key hkey)
    simp only [nulFree_append] at hterm ⊢
    exact ⟨⟨⟨⟨by decide, hterm⟩, by decide⟩, hnull⟩, by decide⟩

end Conditions

/-! ### Statements -/

/-- Every clause of a statement is without the character. -/
structure Select.NulFree (s : Select) : Prop where
  fetch : ∀ item ∈ s.fetch, Trisect.NulFree item
  tables : ∀ table ∈ s.tables, Trisect.NulFree table
  condition : ∀ c, s.condition = some c → Trisect.NulFree c
  groupBy : ∀ item ∈ s.groupBy, Trisect.NulFree item
  having : ∀ c, s.having = some c → Trisect.NulFree c
  orderBy : ∀ item ∈ s.orderBy, Trisect.NulFree item

namespace Select

theorem nulFree_clause {keyword : String} (hkeyword : Trisect.NulFree keyword) {o : Option String}
    (h : ∀ c, o = some c → Trisect.NulFree c) : Trisect.NulFree (clause keyword o) := by
  cases o with
  | none => exact (by decide : Trisect.NulFree "")
  | some c => exact nulFree_append.2 ⟨hkeyword, h c rfl⟩

theorem nulFree_listClause {keyword : String} (hkeyword : Trisect.NulFree keyword)
    {items : List String} (h : ∀ item ∈ items, Trisect.NulFree item) :
    Trisect.NulFree (listClause keyword items) := by
  rw [listClause]
  split
  · decide
  · exact nulFree_append.2 ⟨hkeyword, nulFree_intercalate (by decide) h⟩

theorem NulFree.sql {s : Select} (h : s.NulFree) : Trisect.NulFree s.sql := by
  have hdistinct : Trisect.NulFree (if s.distinct then "DISTINCT " else "") := by
    split <;> decide
  have hfetch : Trisect.NulFree (commaList s.fetch) := nulFree_intercalate (by decide) h.fetch
  have htables : Trisect.NulFree (commaList s.tables) := nulFree_intercalate (by decide) h.tables
  show Trisect.NulFree ("SELECT " ++ (if s.distinct then "DISTINCT " else "") ++
    commaList s.fetch ++ " FROM " ++ commaList s.tables ++ clause " WHERE " s.condition ++
    listClause " GROUP BY " s.groupBy ++ clause " HAVING " s.having ++
    listClause " ORDER BY " s.orderBy)
  simp +decide [hdistinct, hfetch, htables, nulFree_clause _ h.condition,
    nulFree_listClause _ h.groupBy, nulFree_clause _ h.having, nulFree_listClause _ h.orderBy]

variable {s : Select} {c : String}

theorem NulFree.withWhere (h : s.NulFree) (hc : Trisect.NulFree c) : (s.withWhere c).NulFree := by
  refine { h with condition := fun joined hjoined => ?_ }
  obtain rfl := Option.some.inj hjoined
  cases hcondition : s.condition with
  | none => exact hc
  | some w =>
    have hw := h.condition w hcondition
    rw [conjoin]
    simp +decide [hw, hc]

theorem NulFree.withHaving (h : s.NulFree) (hc : Trisect.NulFree c) :
    (s.withHaving c).NulFree := by
  refine { h with having := fun c' hc' => ?_ }
  obtain rfl := Option.some.inj hc'
  exact hc

theorem NulFree.withFetch (h : s.NulFree) (hc : Trisect.NulFree c) :
    Select.NulFree { s with fetch := [c] } :=
  { h with fetch := by simpa using hc }

end Select

namespace OracleKind

variable {k : OracleKind} {base : Select} {condition : String}

theorem nulFree_prepare (k : OracleKind) (h : base.NulFree) : (k.prepare base).NulFree := by
  have hnone : ∀ item ∈ ([] : List String), NulFree item := by simp
  have hno : ∀ c, (none : Option String) = some c → NulFree c := by simp
  cases k with
  | whereClause => exact h
  | having => exact { h with groupBy := h.fetch, having := hno }
  | groupBy => exact { h with groupBy := h.fetch, orderBy := hnone }
  | distinct => exact { h with orderBy := hnone }
  | aggregate => exact { h with orderBy := hnone, groupBy := hnone, having := hno }

theorem nulFree_components (k : OracleKind) (h : base.NulFree) (hc : NulFree condition) :
    ∀ q ∈ k.components base condition, NulFree q := by
  have hparts : ∀ c ∈ (Partition.of condition).parts, NulFree c := by
    simp +decide [Partition.of, Partition.parts, hc]
  intro q hq
  obtain ⟨c, hmem, rfl⟩ := List.mem_map.1 hq
  cases k with
  | having => exact (h.withHaving (hparts c hmem)).sql
  | whereClause | groupBy | distinct | aggregate => exact (h.withWhere (hparts c hmem)).sql

end OracleKind

theorem CombinedQuery.nulFree_statements {q : CombinedQuery} (dialect : Dialect)
    (h : ∀ component ∈ q.components, NulFree component) :
    ∀ text ∈ q.statements dialect, NulFree text := by
  have hsum : NulFree q.unionAllText := nulFree_intercalate (by decide) h
  have hdistinct : NulFree (q.distinctText dialect.bareUnion) := by
    rw [distinctText]
    split
    · exact nulFree_intercalate (by decide) h
    · simp +decide [hsum]
  rw [CombinedQuery.statements]
  split
  · simpa using hsum
  · exact h
  · simpa using hdistinct

/-! ### Rounds over an offer -/

/-- What is offered to an oracle of a kind is without the character. -/
structure Offer.NulFree (k : OracleKind) (x : Offer) : Prop where
  base : x.base.NulFree
  condition : Trisect.NulFree x.condition
  aggregate : k = .aggregate → Trisect.NulFree x.aggregate.2

theorem AggregateFn.nulFree_term (f : AggregateFn) {argument : String} (h : NulFree argument) :
    NulFree (f.term argument) := by
  rw [term]
  simp +decide [f.nulFree_name, h]

namespace Oracle

variable {o : Oracle} {x : Offer}

theorem nulFree_wholeQuery (h : x.NulFree o.kind) : NulFree (o.wholeQuery x) := by
  have hbase := o.kind.nulFree_prepare h.base
  rw [wholeQuery]
  split
  · next hk => exact (hbase.withFetch (x.aggregate.1.nulFree_term (h.aggregate hk))).sql
  · exact hbase.sql

theorem nulFree_partQueries (h : x.NulFree o.kind) : ∀ q ∈ o.partQueries x, NulFree q := by
  have hbase := o.kind.nulFree_prepare h.base
  rw [partQueries]
  split
  · next hk =>
    have hterm := x.aggregate.1.nulFree_term (h.aggregate hk)
    have hinner := hbase.withFetch (c := x.aggregate.1.term x.aggregate.2 ++ " AS agg")
      (nulFree_append.2 ⟨hterm, by decide⟩)
    have hparts := OracleKind.aggregate.nulFree_components hinner h.condition
    have hword : NulFree " UNION ALL " := by decide
    have hsum := nulFree_intercalate hword hparts
    rw [List.forall_mem_singleton, aggregateOfParts]
    simp +decide [AggregateFn.nulFree_name, hsum]
  · exact CombinedQuery.nulFree_statements _ (o.kind.nulFree_components hbase h.condition)

end Oracle

/-! ### What the source gives -/

/-- The names of a table and its columns are without the character. -/
structure Table.NulFree (t : Table) : Prop where
  name : Trisect.NulFree t.name
  columns : ∀ c ∈ t.columns, Trisect.NulFree c.name

namespace RandomShapes

variable {chosen : List Table} {s s' : RandomShapes}

theorem nulFree_columnsOf (h : ∀ t ∈ chosen, t.NulFree) :
    ∀ c ∈ chosen.flatMap columnsOf, c.NulFree := by
  intro c hc
  obtain ⟨t, ht, hc⟩ := List.mem_flatMap.1 hc
  obtain ⟨column, hcolumn, rfl⟩ := List.mem_map.1 hc
  exact ⟨(h t ht).name, (h t ht).columns column hcolumn⟩

theorem IsOver.nulFree {depth : Nat} {base : Select} (hbase : IsOver depth chosen base)
    (h : ∀ t ∈ chosen, t.NulFree) : base.NulFree := by
  have hcolumns := nulFree_columnsOf h
  obtain ⟨fetched, hfetch, hsub, -⟩ := hbase.fetch
  refine ⟨?_, ?_, fun c hc => ?_, by simp [hbase.groupBy], by simp [hbase.having], ?_⟩
  · rw [hfetch, List.forall_mem_map]
    exact fun c hc => (hcolumns c (hsub.subset hc)).sql
  · rw [hbase.named, List.forall_mem_map]
    exact fun t ht => (h t ht).name
  · obtain hnone | ⟨p, hp, hover, -⟩ := hbase.condition
    · simp [hnone] at hc
    · obtain rfl : p.sql = c := Option.some.inj (hp.symm.trans hc)
      exact hover.nulFree_sql hcolumns
  · obtain hnone | ⟨c, hc, horder⟩ := hbase.orderBy
    · simp [hnone]
    · rw [horder, List.forall_mem_singleton]
      exact (hcolumns c hc).sql

/-- **A base query** has the character only if a name of the schema has; likewise the names that are
kept for conditions. -/
theorem nulFree_of_baseSelect {base : Select} (h : ∀ t ∈ s.tables, t.NulFree)
    (hbase : s.baseSelect = (.ok base, s')) : base.NulFree ∧ ∀ c ∈ s'.columns, c.NulFree := by
  rcases s.baseSelect_cases with ⟨-, hrefused⟩ | ⟨-, base', chosen, hchosen, hover, hgiven⟩
  · rw [hrefused] at hbase
    cases hbase
  · rw [hgiven] at hbase
    cases hbase
    have hnames : ∀ t ∈ chosen, t.NulFree := fun t ht => h t (hchosen.mem ht)
    exact ⟨hover.nulFree hnames, nulFree_columnsOf hnames⟩

/-- Whether conditions are refused or made is a matter of the columns. -/
theorem refuses_or_serves (s : RandomShapes) : s.Refuses ∨ Serves s.columns s.maxDepth s := by
  by_cases hnil : s.columns = []
  · exact .inl (refuses_of_no_columns hnil)
  · exact .inr (serves_of_columns hnil)

variable (h : ∀ c ∈ s.columns, c.NulFree)

include h

theorem nulFree_of_predicate {condition : String} (hp : s.predicate.1 = .ok condition) :
    NulFree condition := by
  obtain hrefuses | hserves := s.refuses_or_serves
  · rw [hrefuses.predicate] at hp
    cases hp
  · obtain ⟨p, hgiven, hover, -⟩ := hserves.predicate
    rw [hgiven] at hp
    cases hp
    exact hover.nulFree_sql h

theorem nulFree_of_groupPredicate {groupBy : List String} {condition : String}
    (hgroups : ∀ key ∈ groupBy, NulFree key) (hp : (s.groupPredicate groupBy).1 = .ok condition) :
    NulFree condition := by
  obtain hrefuses | hserves := s.refuses_or_serves
  · rw [hrefuses.groupPredicate] at hp
    cases hp
  · obtain ⟨g, hgiven, hover⟩ := hserves.groupPredicate groupBy
    rw [hgiven] at hp
    cases hp
    exact hover.nulFree_sql h hgroups

theorem nulFree_of_aggregate {x : AggregateFn × String} (hx : s.aggregate.1 = .ok x) :
    NulFree x.2 := by
  obtain hrefuses | hserves := s.refuses_or_serves
  · rw [hrefuses.aggregate] at hx
    cases hx
  · obtain ⟨f, c, hc, hgiven⟩ := hserves.aggregate
    rw [hgiven] at hx
    cases hx
    exact (h c hc).sql

end RandomShapes

section Rounds

variable {γ κ : Type} {c : Connection γ} {journal : Journal κ} {w w' : World γ RandomShapes κ}
  {t : List Exchange}

namespace World

/-- After the answer to a base query, the names that are kept are those of the schema. -/
theorem nulFree_of_answers_baseSelect {base : Select}
    (ha : (shapesHandler c journal).Answers w (⟨.baseSelect, some (.ok base)⟩ :: t) w')
    (hw : ∀ table ∈ w.source.tables, table.NulFree) :
    base.NulFree ∧ ∃ w₁, (shapesHandler c journal).Answers w₁ t w' ∧
      ∀ column ∈ w₁.source.columns, column.NulFree := by
  cases ha with
  | @cons _ w₁ _ _ _ _ heq hrest =>
    have hanswer : some w.source.baseSelect.1 = some (.ok base) := congrArg Prod.fst heq
    have hsource : w.source.baseSelect.2 = w₁.source := congrArg (·.2.source) heq
    have hbase : w.source.baseSelect = (.ok base, w₁.source) :=
      Prod.ext (Option.some.inj hanswer) hsource
    obtain ⟨hfree, hcolumns⟩ := RandomShapes.nulFree_of_baseSelect hw hbase
    exact ⟨hfree, w₁, hrest, hcolumns⟩

variable (hw : ∀ column ∈ w.source.columns, column.NulFree)

include hw

theorem nulFree_of_answers_aggregate {x : AggregateFn × String}
    (ha : (shapesHandler c journal).Answers w (⟨.aggregate, some (.ok x)⟩ :: t) w') :
    NulFree x.2 ∧ ∃ w₁, (shapesHandler c journal).Answers w₁ t w' ∧
      ∀ column ∈ w₁.source.columns, column.NulFree := by
  cases ha with
  | @cons _ w₁ _ _ _ _ heq hrest =>
    have hanswer : some w.source.aggregate.1 = some (.ok x) := congrArg Prod.fst heq
    have hsource : w.source.aggregate.2 = w₁.source := congrArg (·.2.source) heq
    refine ⟨RandomShapes.nulFree_of_aggregate hw (Option.some.inj hanswer), w₁, hrest, ?_⟩
    rw [← hsource]
    exact hw

theorem nulFree_of_answers_predicate {condition : String}
    (ha : (shapesHandler c journal).Answers w (⟨.predicate, some (.ok condition)⟩ :: t) w') :
    NulFree condition := by
  cases ha with
  | cons heq _ =>
    have hanswer : some w.source.predicate.1 = some (.ok condition) := congrArg Prod.fst heq
    exact RandomShapes.nulFree_of_predicate hw (Option.some.inj hanswer)

theorem nulFree_of_answers_groupPredicate {groupBy : List String} {condition : String}
    (ha : (shapesHandler c journal).Answers w
      (⟨.groupPredicate groupBy, some (.ok condition)⟩ :: t) w')
    (hgroups : ∀ key ∈ groupBy, NulFree key) : NulFree condition := by
  cases ha with
  | cons heq _ =>
    have hanswer : some (w.source.groupPredicate groupBy).1 = some (.ok condition) :=
      congrArg Prod.fst heq
    exact RandomShapes.nulFree_of_groupPredicate hw hgroups (Option.some.inj hanswer)

end World

/-- **What random shapes offer to a round** has the character only if a name of the schema has. -/
theorem Offer.nulFree_of_answers {k : OracleKind} {x : Offer}
    (ha : (World.shapesHandler c journal).Answers w t w') (hoffer : k.offering x <+: t)
    (hw : ∀ table ∈ w.source.tables, table.NulFree) : x.NulFree k := by
  obtain ⟨rest, rfl⟩ := hoffer
  obtain ⟨tail, htail⟩ : ∃ tail,
      k.offering x ++ rest = ⟨.baseSelect, some (.ok x.base)⟩ :: tail := by
    cases k <;> exact ⟨_, rfl⟩
  rw [htail] at ha
  obtain ⟨hbase, w₁, ha, hw₁⟩ := World.nulFree_of_answers_baseSelect ha hw
  cases k with
  | aggregate =>
    obtain rfl := (List.cons.inj htail).2
    obtain ⟨haggregate, w₂, ha, hw₂⟩ := World.nulFree_of_answers_aggregate hw₁ ha
    exact ⟨hbase, World.nulFree_of_answers_predicate hw₂ ha, fun _ => haggregate⟩
  | having =>
    obtain rfl := (List.cons.inj htail).2
    exact ⟨hbase, World.nulFree_of_answers_groupPredicate hw₁ ha hbase.fetch, by simp⟩
  | whereClause | groupBy | distinct =>
    obtain rfl := (List.cons.inj htail).2
    exact ⟨hbase, World.nulFree_of_answers_predicate hw₁ ha, by simp⟩

/-- The source of random shapes may refuse what it is asked for, but it gives no report for it. -/
theorem World.refusal?_ne_logicBug (r : Request) (w : World γ RandomShapes κ)
    (report : BugReport) :
    Exchange.refusal? ⟨r, (shapesHandler c journal r w).1⟩ ≠ some (.logicBug report) := by
  intro h
  cases r with
  | baseSelect =>
    change Exchange.refusal? ⟨.baseSelect, some w.source.baseSelect.1⟩ = _ at h
    rcases w.source.baseSelect_cases with ⟨-, hrefused⟩ | ⟨-, base, chosen, -, -, hgiven⟩
    · rw [hrefused] at h
      cases h
    · rw [hgiven] at h
      cases h
  | predicate =>
    change Exchange.refusal? ⟨.predicate, some w.source.predicate.1⟩ = _ at h
    obtain hrefuses | hserves := w.source.refuses_or_serves
    · rw [hrefuses.predicate] at h
      cases h
    · obtain ⟨p, hgiven, -⟩ := hserves.predicate
      rw [hgiven] at h
      cases h
  | groupPredicate groupBy =>
    change Exchange.refusal? ⟨.groupPredicate groupBy,
      some (w.source.groupPredicate groupBy).1⟩ = _ at h
    obtain hrefuses | hserves := w.source.refuses_or_serves
    · rw [hrefuses.groupPredicate] at h
      cases h
    · obtain ⟨g, hgiven, -⟩ := hserves.groupPredicate groupBy
      rw [hgiven] at h
      cases h
  | aggregate =>
    change Exchange.refusal? ⟨.aggregate, some w.source.aggregate.1⟩ = _ at h
    obtain hrefuses | hserves := w.source.refuses_or_serves
    · rw [hrefuses.aggregate] at h
      cases h
    · obtain ⟨f, column, -, hgiven⟩ := hserves.aggregate
      rw [hgiven] at h
      cases h
  | _ => cases h

/-- The queries of a report are without the character. -/
structure BugReport.NulFree (r : BugReport) : Prop where
  whole : Trisect.NulFree r.wholeQuery
  reconstructed : ∀ q ∈ r.reconstructedQueries, Trisect.NulFree q

namespace Oracle

variable {o : Oracle}

/-- **A report that random shapes led to** has the character only if a name of the schema has. -/
theorem nulFree_of_bug {s s' : Session} {report : BugReport}
    (h : Session.Path o.runRound s t (.bug report) s')
    (ha : (World.shapesHandler c journal).Answers w t w')
    (hw : ∀ table ∈ w.source.tables, table.NulFree) : report.NulFree := by
  have hsource : ∀ x ∈ t, x.refusal? ≠ some (.logicBug report) :=
    (ha.invariant (I := fun _ => True) (P := fun _ => True)
      (fun r w _ _ => ⟨trivial, World.refusal?_ne_logicBug r w report⟩) (fun _ _ => trivial)
      trivial).2
  obtain ⟨x, hoffer, hwhole, hparts⟩ := queries_of_bug h hsource
  have hx := Offer.nulFree_of_answers ha hoffer hw
  refine ⟨?_, ?_⟩
  · rw [hwhole]
    exact nulFree_wholeQuery hx
  · rw [hparts]
    exact nulFree_partQueries hx

/-- **A statement that is sent in a round over random shapes** has the character only if a name of
the schema has. -/
theorem nulFree_of_sent (o : Oracle) (s : Session) (hw : ∀ table ∈ w.source.tables, table.NulFree) :
    ∀ sql ∈ statementsOf ((o.runRound.run s).transcript (World.shapesHandler c journal) w),
      NulFree sql := by
  have ht : (o.runRound.run s).transcript (World.shapesHandler c journal) w =
      (o.check.run s).transcript (World.shapesHandler c journal) w :=
    transcript_bind_done _ w (o.check.run s) _
  rcases hrun : (o.check.run s).run (World.shapesHandler c journal) w with ⟨result, w'⟩
  have ha := Handler.answers_of_run hrun
  rw [ht]
  intro sql hsql
  obtain hnone | ⟨x, hoffer, hsent⟩ :=
    isRound_transcript_check o (World.shapesHandler c journal) s w
  · rw [hnone] at hsql
    cases hsql
  · have hx := Offer.nulFree_of_answers ha hoffer hw
    rcases List.mem_cons.1 (hsent.subset hsql) with rfl | hpart
    · exact nulFree_wholeQuery hx
    · exact nulFree_partQueries hx sql hpart

end Oracle

/-- **The report of a session with random shapes** has the character only if a name has among the
tables that were read last. -/
theorem Session.nulFree_of_run [PatternReader] {options : SessionOptions} {dialect : Dialect}
    {setup : List SetupStatement} {summary : SessionSummary}
    (hrun : (play options dialect setup).run (World.shapesHandler c journal) w =
      (some (.ok summary), w'))
    (hread : ∀ tables, World.LastRead c journal w
      ((play options dialect setup).transcript (World.shapesHandler c journal) w) tables →
        ∀ table ∈ tables, table.NulFree)
    {report : BugReport} {path : Option String} (hbug : summary.outcome = .logicBug report path) :
    report.NulFree := by
  obtain ⟨course⟩ := exists_course (Dialogue.path_of_run hrun)
  obtain ⟨w₁, w₂, hlast, hplayed⟩ := course.exists_lastRead (Handler.answers_of_run hrun)
    (isSetUp_of_run hrun course.errors_eq)
  obtain ⟨earlier, report', houtcomes, -, houtcome⟩ | ⟨-, hnone⟩ := course.ends
  · obtain ⟨rfl, -⟩ := SessionOutcome.logicBug.inj (houtcome.symm.trans hbug)
    obtain ⟨round, hround, heq⟩ : ∃ round ∈ course.rounds, round.outcome = .bug report' :=
      List.mem_map.1 (houtcomes ▸ List.mem_append_right _ List.mem_cons_self)
    obtain ⟨o, s₁, s₂, w₃, w₄, hpath, hanswers, htables⟩ :=
      course.played.exists_answers hplayed hround
    rw [heq] at hpath
    exact Oracle.nulFree_of_bug hpath hanswers (by rw [htables]; exact hread _ hlast)
  · exact absurd hbug (hnone report path)

end Rounds

end Trisect
