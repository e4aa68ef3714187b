import Trisect.Proofs.Random.Range

/-!
# Conditions as they are drawn

Whatever the stream, the literals that are drawn are of a few kinds (`Trisect.Literal.IsDrawn`),
and a condition that is drawn over some columns tests nothing but these, with such literals, and is
put together by the three connectives alone (`Trisect.Condition.Over`). The depth that is given
bounds how deeply connectives are nested in one another (`Trisect.Condition.succeeds_draw`). A
condition on groups aggregates one of the columns, and the key it may let through is one of the
groups (`Trisect.GroupCondition.succeeds_draw`).

Drawing does not fail so long as there is a column; without columns it does nothing else
(`Trisect.Condition.fails_draw`).
-/

namespace Trisect

/-! ### Literals -/

/-- The constants that are drawn: NULL, whole numbers between -5 and 5, numbers with two places
between -10.00 and 10.00, texts of at most three of the letters `a`, `b` and `c`, and minus zero. -/
def Literal.IsDrawn : Literal → Prop
  | null => True
  | integer n => -5 ≤ n ∧ n ≤ 5
  | decimal n => n.amount ≤ 1000
  | text cs => cs.length ≤ 3 ∧ ∀ c ∈ cs, c ∈ ['a', 'b', 'c']
  | minusZero => True

namespace Literal

theorem yields_drawText : Draw.Yields drawText IsDrawn := by
  refine Draw.yields_bind (Draw.yields_belowShort (by decide)) fun length hlength => ?_
  have hletter : Draw.Yields (letter <$> Draw.belowExact 3) (· ∈ ['a', 'b', 'c']) := by
    refine Draw.yields_map (Draw.yields_belowExact (by decide)) fun n hn => ?_
    obtain rfl | rfl | rfl : n = 0 ∨ n = 1 ∨ n = 2 := by omega
    · decide
    · decide
    · decide
  refine Draw.yields_bind (Draw.yields_many hletter length) fun cs hcs => Draw.yields_pure ?_
  exact ⟨by omega, hcs.2⟩

theorem yields_draw : Draw.Yields draw IsDrawn := by
  refine Draw.yields_bind (Draw.yields_belowShort (by decide)) fun kind _ => ?_
  split
  · exact Draw.yields_pure trivial
  · refine Draw.yields_bind (Draw.yields_belowLong (by decide)) fun n hn => Draw.yields_pure ?_
    exact ⟨by omega, by omega⟩
  · refine Draw.yields_bind (Draw.yields_belowLong (by decide)) fun n hn => Draw.yields_pure ?_
    exact ⟨by omega, by omega⟩
  · exact Draw.yields_bind Draw.yields_hundredths fun n hn => Draw.yields_pure hn
  · exact yields_drawText
  · refine (Draw.yields_chooseFrom _ _).mono fun l hl => ?_
    simp only [List.mem_cons, List.not_mem_nil, or_false] at hl
    rcases hl with rfl | rfl | rfl | rfl
    · exact ⟨by decide, by decide⟩
    · exact ⟨by decide, by decide⟩
    · trivial
    · exact ⟨by decide, by simp⟩

end Literal

/-- Any comparison may be drawn. -/
theorem Comparator.yields_draw : Draw.Yields Comparator.draw fun _ => True :=
  (Draw.yields_chooseFrom _ _).mono fun _ _ => trivial

/-- Any aggregate function may be drawn. -/
theorem AggregateFn.yields_draw : Draw.Yields AggregateFn.draw fun _ => True :=
  (Draw.yields_chooseFrom _ _).mono fun _ _ => trivial

/-! ### Conditions over columns -/

section Over

variable (columns : List ColumnRef)

/-- An operand is one of the columns, or a literal as it is drawn. -/
def Operand.Over : Operand → Prop
  | column c => c ∈ columns
  | literal l => l.IsDrawn

/-- A test is one of a column, with literals as they are drawn, of which a list has one to three. -/
def Leaf.Over : Leaf → Prop
  | isNull c => c ∈ columns
  | isNotNull c => c ∈ columns
  | between c low high => c ∈ columns ∧ low.IsDrawn ∧ high.IsDrawn
  | isIn c items => c ∈ columns ∧ (1 ≤ items.length ∧ items.length ≤ 3) ∧ ∀ l ∈ items, l.IsDrawn
  | compare c _ right => c ∈ columns ∧ right.Over columns

/-- A condition is made of tests by NOT, AND and OR. -/
def Condition.Over : Condition → Prop
  | leaf l => l.Over columns
  | not p => p.Over
  | and p q => p.Over ∧ q.Over
  | or p q => p.Over ∧ q.Over
  | isNull _ => False

/-- A condition on groups aggregates one of the columns, and the key that it lets through, if any,
is one of the groups. -/
structure GroupCondition.Over (groupBy : List String) (g : GroupCondition) : Prop where
  argument : g.argument ∈ columns
  bound : g.bound.IsDrawn
  orNull : ∀ key, g.orNull = some key → key ∈ groupBy

end Over

/-- How many nodes of a condition are nested in one another. -/
def Condition.depth : Condition → Nat
  | leaf _ => 0
  | not p => p.depth + 1
  | and p q => max p.depth q.depth + 1
  | or p q => max p.depth q.depth + 1
  | isNull p => p.depth + 1

namespace Condition

variable {columns : List ColumnRef}

theorem succeeds_drawColumn (hcolumns : columns ≠ []) :
    Attempt.Succeeds (drawColumn columns) (· ∈ columns) := by
  refine Attempt.succeeds_bind (Attempt.succeeds_lift (Draw.yields_choose columns)) ?_
  rintro o (⟨hnil, -⟩ | ⟨c, hc, rfl⟩)
  · exact absurd hnil hcolumns
  · exact Attempt.succeeds_pure hc

theorem fails_drawColumn : Attempt.Fails (drawColumn []) .inapplicableShape := by
  refine Attempt.fails_bind_of_succeeds (Attempt.succeeds_lift (Draw.yields_choose [])) ?_
  rintro o (⟨-, rfl⟩ | ⟨c, hc, -⟩)
  · exact Attempt.fails_throw
  · cases hc

theorem succeeds_drawLiteral : Attempt.Succeeds drawLiteral Literal.IsDrawn :=
  Attempt.succeeds_lift Literal.yields_draw

theorem succeeds_drawOperand (hcolumns : columns ≠ []) :
    Attempt.Succeeds (drawOperand columns) (Operand.Over columns) := by
  refine Attempt.succeeds_bind (Attempt.succeeds_chance _) fun isColumn _ => ?_
  split
  · exact Attempt.succeeds_bind (succeeds_drawColumn hcolumns) fun c hc => Attempt.succeeds_pure hc
  · exact Attempt.succeeds_bind succeeds_drawLiteral fun l hl => Attempt.succeeds_pure hl

theorem succeeds_drawLeaf (hcolumns : columns ≠ []) :
    Attempt.Succeeds (drawLeaf columns) (Leaf.Over columns) := by
  refine Attempt.succeeds_bind (succeeds_drawColumn hcolumns) fun left hleft => ?_
  refine Attempt.succeeds_bind (Attempt.succeeds_belowShort (by decide)) fun kind _ => ?_
  split
  · exact Attempt.succeeds_pure hleft
  · exact Attempt.succeeds_pure hleft
  · refine Attempt.succeeds_bind succeeds_drawLiteral fun low hlow => ?_
    refine Attempt.succeeds_bind succeeds_drawLiteral fun high hhigh => ?_
    exact Attempt.succeeds_pure ⟨hleft, hlow, hhigh⟩
  · have hcount := Attempt.succeeds_belowShort (n := 3) (by decide)
    refine Attempt.succeeds_bind hcount fun count hcount => ?_
    have hitems := Draw.yields_many Literal.yields_draw (count + 1)
    refine Attempt.succeeds_bind (Attempt.succeeds_lift hitems) fun items hitems => ?_
    exact Attempt.succeeds_pure ⟨hleft, ⟨by omega, by omega⟩, hitems.2⟩
  · refine Attempt.succeeds_bind (Attempt.succeeds_lift Comparator.yields_draw) fun op _ => ?_
    refine Attempt.succeeds_bind (succeeds_drawOperand hcolumns) fun right hright => ?_
    exact Attempt.succeeds_pure ⟨hleft, hright⟩

/-- **A condition that is drawn** is one over the columns, and its connectives are not nested more
deeply than they may be. -/
theorem succeeds_draw (hcolumns : columns ≠ []) (depth : Nat) :
    Attempt.Succeeds (draw columns depth) fun p => p.Over columns ∧ p.depth ≤ depth := by
  induction depth with
  | zero =>
    exact Attempt.succeeds_bind (succeeds_drawLeaf hcolumns) fun l hl =>
      Attempt.succeeds_pure ⟨hl, Nat.le_refl 0⟩
  | succ depth ih =>
    refine Attempt.succeeds_bind (Attempt.succeeds_chance _) fun isLeaf _ => ?_
    split
    · exact Attempt.succeeds_bind (succeeds_drawLeaf hcolumns) fun l hl =>
        Attempt.succeeds_pure ⟨hl, Nat.zero_le _⟩
    · refine Attempt.succeeds_bind (Attempt.succeeds_belowShort (by decide)) fun kind _ => ?_
      split
      · refine Attempt.succeeds_bind ih fun p hp => Attempt.succeeds_pure ⟨hp.1, ?_⟩
        exact Nat.succ_le_succ hp.2
      · refine Attempt.succeeds_bind ih fun p hp => ?_
        refine Attempt.succeeds_bind ih fun q hq => Attempt.succeeds_pure ⟨⟨hp.1, hq.1⟩, ?_⟩
        exact Nat.succ_le_succ (Nat.max_le.2 ⟨hp.2, hq.2⟩)
      · refine Attempt.succeeds_bind ih fun p hp => ?_
        refine Attempt.succeeds_bind ih fun q hq => Attempt.succeeds_pure ⟨⟨hp.1, hq.1⟩, ?_⟩
        exact Nat.succ_le_succ (Nat.max_le.2 ⟨hp.2, hq.2⟩)

/-- **Without columns** there is no condition. -/
theorem fails_draw (depth : Nat) : Attempt.Fails (draw [] depth) .inapplicableShape := by
  have hleaf : Attempt.Fails (drawLeaf []) .inapplicableShape :=
    Attempt.fails_bind fails_drawColumn
  induction depth with
  | zero => exact Attempt.fails_bind hleaf
  | succ depth ih =>
    refine Attempt.fails_bind_of_succeeds (Attempt.succeeds_chance _) fun isLeaf _ => ?_
    split
    · exact Attempt.fails_bind hleaf
    · refine Attempt.fails_bind_of_succeeds (Attempt.succeeds_belowShort (by decide)) ?_
      intro kind _
      -- whichever connective it is, its first operand fails
      split
      · exact Attempt.fails_bind ih
      · exact Attempt.fails_bind ih
      · exact Attempt.fails_bind ih

end Condition

namespace GroupCondition

variable {columns : List ColumnRef} {groupBy : List String}

/-- **A condition on groups that is drawn** is one over the columns and the groups. -/
theorem succeeds_draw (hcolumns : columns ≠ []) (groupBy : List String) :
    Attempt.Succeeds (draw columns groupBy) (Over columns groupBy) := by
  refine Attempt.succeeds_bind (Condition.succeeds_drawColumn hcolumns) fun argument harg => ?_
  refine Attempt.succeeds_bind (Attempt.succeeds_lift AggregateFn.yields_draw) fun function _ => ?_
  refine Attempt.succeeds_bind (Attempt.succeeds_lift Comparator.yields_draw) fun op _ => ?_
  refine Attempt.succeeds_bind Condition.succeeds_drawLiteral fun bound hbound => ?_
  refine Attempt.succeeds_bind (Attempt.succeeds_lift (Draw.yields_choose groupBy)) ?_
  rintro o (⟨-, rfl⟩ | ⟨key, hkey, rfl⟩)
  · exact Attempt.succeeds_pure ⟨harg, hbound, by simp⟩
  · refine Attempt.succeeds_bind (Attempt.succeeds_chance _) fun orNull _ => ?_
    refine Attempt.succeeds_pure ⟨harg, hbound, fun key' hkey' => ?_⟩
    cases orNull with
    | false => cases hkey'
    | true =>
      obtain rfl : key = key' := Option.some.inj hkey'
      exact hkey

theorem fails_draw (groupBy : List String) :
    Attempt.Fails (draw [] groupBy) .inapplicableShape :=
  Attempt.fails_bind Condition.fails_drawColumn

end GroupCondition

end Trisect
