import Mathlib.Data.List.ReduceOption
import Trisect.Oracle.Kind
import Trisect.Proofs.Sql.Predicate

/-!
# Aggregates over the parts of a partition

An aggregate function skips NULL. What it makes of no value at all depends on the function: a count
is zero, everything else is NULL. `Trisect.AggregateFn.value` says so over the integers.

A least value, a greatest value and a sum are totals of one sort, `Trisect.Sql.total`, in which
NULL stands for nothing to be added. **A total can be taken piecewise**
(`Trisect.Sql.total_map_total`) and in any order (`Trisect.Sql.total_perm`), and an empty piece
does no harm. A count is no such total, as nothing counts as zero and not as NULL; but the numbers
of the pieces are added, and a sum of at least one number is a number. So the outer function
rebuilds the aggregate over the whole from the aggregates over the parts
(`Trisect.AggregateFn.outer_value_parts`).
-/

namespace Trisect

namespace AggregateFn

/-- The value of an aggregate function over integers and NULLs. -/
def value : AggregateFn → List (Option Int) → Option Int
  | min, values => values.reduceOption.min?
  | max, values => values.reduceOption.max?
  | sum, values =>
    if values.reduceOption.isEmpty then none else some (values.reduceOption.foldr (· + ·) 0)
  | count, values => some values.reduceOption.length

end AggregateFn

namespace Sql

/-! ### Totals -/

section Total

variable (op : Int → Int → Int)

/-- What is there, added up; NULL if nothing is. -/
def total (values : List (Option Int)) : Option Int := values.foldr (Option.merge op) none

theorem total_cons (v : Option Int) (values : List (Option Int)) :
    total op (v :: values) = Option.merge op v (total op values) := rfl

theorem total_append [Std.Associative op] (l m : List (Option Int)) :
    total op (l ++ m) = Option.merge op (total op l) (total op m) := by
  induction l with
  | nil => exact Option.merge_none_left.symm
  | cons v l ih =>
    rw [List.cons_append, total_cons, ih, total_cons, (Option.associative_merge op).assoc]

/-- **A total can be taken piecewise.** -/
theorem total_map_total [Std.Associative op] (pieces : List (List (Option Int))) :
    total op (pieces.map (total op)) = total op pieces.flatten := by
  induction pieces with
  | nil => rfl
  | cons piece pieces ih => rw [List.map_cons, total_cons, ih, List.flatten_cons, total_append]

/-- **A total can be taken in any order.** -/
theorem total_perm [Std.Associative op] [Std.Commutative op] {l m : List (Option Int)}
    (h : l.Perm m) : total op l = total op m :=
  h.foldr_op_eq

end Total

end Sql

namespace AggregateFn

open Sql

theorem value_min (values : List (Option Int)) : min.value values = total Min.min values := by
  induction values with
  | nil => rfl
  | cons v values ih =>
    rw [total_cons, ← ih]
    cases v with
    | none => simp [value, List.reduceOption_cons_of_none]
    | some n =>
      rw [value, value, List.reduceOption_cons_of_some, List.min?_cons]
      cases values.reduceOption.min? <;> rfl

theorem value_max (values : List (Option Int)) : max.value values = total Max.max values := by
  induction values with
  | nil => rfl
  | cons v values ih =>
    rw [total_cons, ← ih]
    cases v with
    | none => simp [value, List.reduceOption_cons_of_none]
    | some n =>
      rw [value, value, List.reduceOption_cons_of_some, List.max?_cons]
      cases values.reduceOption.max? <;> rfl

theorem value_sum (values : List (Option Int)) : sum.value values = total (· + ·) values := by
  induction values with
  | nil => rfl
  | cons v values ih =>
    rw [total_cons, ← ih]
    cases v with
    | none => simp [value, List.reduceOption_cons_of_none]
    | some n =>
      rw [value, value, List.reduceOption_cons_of_some]
      cases values.reduceOption with
      | nil => simp
      | cons m ms => simp

theorem value_count_append (l m : List (Option Int)) :
    count.value (l ++ m) = Option.merge (· + ·) (count.value l) (count.value m) := by
  simp [value, List.reduceOption_append]

/-- The numbers of the pieces are added, if there is a piece. -/
theorem total_map_count {pieces : List (List (Option Int))} (hne : pieces ≠ []) :
    total (· + ·) (pieces.map count.value) = count.value pieces.flatten := by
  induction pieces with
  | nil => exact absurd rfl hne
  | cons piece pieces ih =>
    rw [List.map_cons, total_cons, List.flatten_cons]
    by_cases hlast : pieces = []
    · rw [hlast, List.flatten_nil, List.append_nil]
      exact Option.merge_none_right
    · rw [ih hlast, value_count_append]

/-- **The aggregate over the whole from the aggregates over the pieces.** A count needs one piece at
least, as no number at all does not add up to zero. -/
theorem outer_value_pieces (f : AggregateFn) {pieces : List (List (Option Int))}
    (hne : pieces ≠ []) :
    f.outer.value (pieces.map f.value) = f.value pieces.flatten := by
  cases f with
  | min => simpa only [outer, ← funext value_min] using total_map_total Min.min pieces
  | max => simpa only [outer, ← funext value_max] using total_map_total Max.max pieces
  | sum => simpa only [outer, ← funext value_sum] using total_map_total (· + ·) pieces
  | count =>
    rw [outer, value_sum]
    exact total_map_count hne

example : count.outer.value ([].map count.value) ≠ count.value [].flatten := by decide

/-- The order of the values makes no difference. -/
theorem value_perm (f : AggregateFn) {l m : List (Option Int)} (h : l.Perm m) :
    f.value l = f.value m := by
  cases f with
  | min => rw [value_min, value_min, total_perm _ h]
  | max => rw [value_max, value_max, total_perm _ h]
  | sum => rw [value_sum, value_sum, total_perm _ h]
  | count =>
    have hlen : l.reduceOption.length = m.reduceOption.length := (h.filterMap id).length_eq
    rw [value, value, hlen]

/-- **The outer function rebuilds the aggregate** over the rows that a condition has left from the
aggregates over the parts of a partition of them. -/
theorem outer_value_parts {ρ γ : Type} (f : AggregateFn) (rows : List ρ)
    (w : Option (Predicate ρ γ)) (p : Predicate ρ γ) (argument : ρ → Option Int) :
    f.outer.value (p.parts.map fun c =>
        f.value ((Predicate.keepRows (some (.conjoin w c)) rows).map argument)) =
      f.value ((Predicate.keepRows w rows).map argument) := by
  have hrows := (Predicate.keepRows_parts_perm w p rows).map argument
  rw [← f.value_perm hrows, List.map_flatMap, List.flatMap_def, ← f.outer_value_pieces,
    List.map_map]
  · rfl
  · simp [Predicate.parts]

end AggregateFn

end Trisect
