import Mathlib.Data.List.Dedup
import Trisect.Oracle.Round
import Trisect.Proofs.Sending
import Trisect.Proofs.Sql.Predicate

/-!
# What the statements of a round mean

A `Trisect.Sql.Query` is a select statement whose conditions are not just texts. It is written as a
`Trisect.Select` (`Trisect.Sql.Query.select`), and over rows with their contents
(`Trisect.Sql.Content`) it has a result, the list of the tuples that are fetched
(`Trisect.Sql.Query.tuples`); the order of that list means nothing. A `Trisect.Sql.Statement` is one
query or a union of several.

What an oracle does to a query can be done here, with its meaning (`Trisect.Sql.Query.prepare`,
`Trisect.Sql.Query.restrict`), and `Trisect.Sql.Query.Plain.parts_perm` is what the oracles live on:
**the results of the parts add up to the result of the whole**, duplicates aside where they are
eliminated. Every variant has its own reason for that. A condition on rows partitions the rows, so
that their tuples add up; one on groups partitions the groups, which are the same in every part; and
where duplicates are eliminated it is enough that a tuple is in the whole if and only if it is in
some part.
-/

namespace Trisect.Sql

/-- The values that are fetched of a row, of which there is one at least. -/
abbrev Tuple (ν : Type) := ν × List ν

/-- Rows, what is fetched of each, and how a value is written. -/
structure Content (ρ ν : Type) where
  rows : List ρ
  tuple : ρ → Tuple ν
  render : ν → Cell

/-- A select statement over some rows of which tuples are fetched. -/
structure Query (ρ ν : Type) where
  distinct : Bool := false
  fetch : List String
  tables : List String
  /-- The condition on rows. -/
  condition : Option (Predicate ρ (Tuple ν)) := none
  /-- Whether the rows are grouped by all that is fetched. -/
  grouped : Bool := false
  /-- The condition on groups. -/
  having : Option (Predicate ρ (Tuple ν)) := none
  orderBy : List String := []

namespace Query

variable {ρ ν : Type}

/-- A query as it is written. -/
def select (q : Query ρ ν) : Select where
  distinct := q.distinct
  fetch := q.fetch
  tables := q.tables
  condition := q.condition.map (·.text)
  groupBy := if q.grouped then q.fetch else []
  having := q.having.map (·.text)
  orderBy := q.orderBy

/-- The query with the clauses that a kind of oracle sets. -/
def prepare : OracleKind → Query ρ ν → Query ρ ν
  | .whereClause, q => q
  | .having, q => { q with distinct := false, grouped := true, having := none }
  | .groupBy, q => { q with distinct := false, grouped := true, orderBy := [] }
  | .distinct, q => { q with distinct := true, orderBy := [] }
  | .aggregate, q => { q with distinct := false, orderBy := [], grouped := false, having := none }

/-- The query restricted by a part of a partition. -/
def restrict : OracleKind → Query ρ ν → Predicate ρ (Tuple ν) → Query ρ ν
  | .having, q, c => { q with having := some c }
  | _, q, c => { q with condition := some (.conjoin q.condition c) }

/-- The queries of the three parts of a condition. -/
def parts (k : OracleKind) (q : Query ρ ν) (p : Predicate ρ (Tuple ν)) : List (Query ρ ν) :=
  p.parts.map (restrict k q)

theorem select_prepare (k : OracleKind) (q : Query ρ ν) :
    (prepare k q).select = k.prepare q.select := by
  cases k <;> rfl

theorem select_restrict (k : OracleKind) (q : Query ρ ν) (c : Predicate ρ (Tuple ν)) :
    (restrict k q c).select = k.restrict q.select c.text := by
  cases k with
  | having => rfl
  | _ =>
    exact congrArg (fun w => { q.select with condition := some w })
      (Predicate.text_conjoin q.condition c)

/-- The parts are written as the oracle writes them. -/
theorem map_sql_parts (k : OracleKind) (q : Query ρ ν) (p : Predicate ρ (Tuple ν)) :
    (parts k q p).map (fun q => q.select.sql) = k.components q.select p.text := by
  rw [parts, List.map_map, OracleKind.components, ← Predicate.map_text_parts, List.map_map]
  refine List.map_congr_left fun c _ => ?_
  rw [Function.comp_apply, Function.comp_apply, select_restrict]

/-! ### Results -/

variable [DecidableEq ν] (D : Content ρ ν)

/-- What is fetched of the rows that fulfil the condition; of every group once, if there are
groups. -/
def fetched (q : Query ρ ν) : List (Tuple ν) :=
  let tuples := (Predicate.keepRows q.condition D.rows).map D.tuple
  if q.grouped then tuples.dedup else tuples

/-- The result of a query. -/
def tuples (q : Query ρ ν) : List (Tuple ν) :=
  let kept := Predicate.keepGroups q.having (q.fetched D)
  if q.distinct then kept.dedup else kept

end Query

/-! ### The parts and the whole -/

/-- A query as the oracles ask for it: it neither groups its rows nor eliminates duplicates. -/
structure Query.Plain {ρ ν : Type} (q : Query ρ ν) : Prop where
  distinct : q.distinct = false
  grouped : q.grouped = false
  having : q.having = none

/-- The tuples of the rows that are left in the parts add up to those of all rows that are left. -/
theorem Content.map_tuple_perm {ρ ν : Type} (D : Content ρ ν)
    (w : Option (Predicate ρ (Tuple ν))) (p : Predicate ρ (Tuple ν)) :
    (p.parts.flatMap fun c =>
        (Predicate.keepRows (some (.conjoin w c)) D.rows).map D.tuple).Perm
      ((Predicate.keepRows w D.rows).map D.tuple) := by
  rw [← List.map_flatMap]
  exact (Predicate.keepRows_parts_perm w p D.rows).map D.tuple

/-- Eliminating duplicates in the summands first makes no difference. -/
theorem dedup_flatMap_dedup_perm {ι α : Type} [DecidableEq α] (l : List ι) (f : ι → List α) :
    (l.flatMap fun i => (f i).dedup).dedup.Perm (l.flatMap f).dedup := by
  rw [List.perm_ext_iff_of_nodup (List.nodup_dedup _) (List.nodup_dedup _)]
  intro a
  simp

namespace Query.Plain

variable {ρ ν : Type} [DecidableEq ν] {D : Content ρ ν} {k : OracleKind} {q : Query ρ ν}
  {p : Predicate ρ (Tuple ν)}

/-- Without groups the tuples of the parts add up because the rows do. -/
theorem parts_perm_where (h : q.Plain) :
    ((parts .whereClause (prepare .whereClause q) p).flatMap (tuples D)).Perm
      ((prepare .whereClause q).tuples D) := by
  have whole : (prepare .whereClause q).tuples D =
      (Predicate.keepRows q.condition D.rows).map D.tuple := by
    simp [prepare, tuples, fetched, h.distinct, h.grouped, h.having, Predicate.keepGroups]
  have part : ∀ c, (restrict .whereClause (prepare .whereClause q) c).tuples D =
      (Predicate.keepRows (some (.conjoin q.condition c)) D.rows).map D.tuple := by
    intro c
    simp [restrict, prepare, tuples, fetched, h.distinct, h.grouped, h.having,
      Predicate.keepGroups]
  rw [parts, List.flatMap_map, whole]
  simpa only [part] using D.map_tuple_perm q.condition p

/-- The groups are the same in every part, so that a condition on them partitions them. -/
theorem parts_perm_having :
    ((parts .having (prepare .having q) p).flatMap (tuples D)).Perm
      ((prepare .having q).tuples D) := by
  have part : ∀ c, (restrict .having (prepare .having q) c).tuples D =
      Predicate.keepGroups (some c) ((prepare .having q).tuples D) := by
    intro c
    simp [restrict, prepare, tuples, fetched, Predicate.keepGroups]
  rw [parts, List.flatMap_map]
  simpa only [part] using Predicate.keepGroups_parts_perm p _

/-- Where duplicates are eliminated, a tuple is in the whole if and only if it is in a part. -/
theorem parts_perm_dedup (h : q.Plain) (hk : k.combination = .eliminateDuplicates) :
    ((parts k (prepare k q) p).flatMap (tuples D)).dedup.Perm ((prepare k q).tuples D) := by
  have whole : (prepare k q).tuples D =
      ((Predicate.keepRows q.condition D.rows).map D.tuple).dedup := by
    cases k <;> simp [OracleKind.combination] at hk <;>
      simp [prepare, tuples, fetched, h.grouped, h.having, Predicate.keepGroups]
  have part : ∀ c, (restrict k (prepare k q) c).tuples D =
      ((Predicate.keepRows (some (.conjoin q.condition c)) D.rows).map D.tuple).dedup := by
    intro c
    cases k <;> simp [OracleKind.combination] at hk <;>
      simp [restrict, prepare, tuples, fetched, h.grouped, h.having, Predicate.keepGroups]
  rw [parts, List.flatMap_map, whole]
  simp only [part]
  -- every part has dropped its own duplicates, which are dropped once more in the end
  exact (dedup_flatMap_dedup_perm _ _).trans (D.map_tuple_perm q.condition p).dedup

/-- **The results of the parts add up to the result of the whole**, duplicates aside where they are
eliminated. -/
theorem parts_perm (h : q.Plain) (hk : k ≠ .aggregate) :
    match k.combination with
    | .preserveDuplicates =>
      ((parts k (prepare k q) p).flatMap (tuples D)).Perm ((prepare k q).tuples D)
    | .eliminateDuplicates =>
      ((parts k (prepare k q) p).flatMap (tuples D)).dedup.Perm ((prepare k q).tuples D) := by
  cases k with
  | whereClause => exact h.parts_perm_where
  | having => exact parts_perm_having
  | groupBy => exact h.parts_perm_dedup rfl
  | distinct => exact h.parts_perm_dedup rfl
  | aggregate => exact absurd rfl hk

end Query.Plain

/-! ### Statements -/

/-- A query, or several that are put together. -/
inductive Statement (ρ ν : Type)
  | query (q : Query ρ ν)
  /-- The results are added up. -/
  | unionAll (qs : List (Query ρ ν))
  /-- The results are added up, and every tuple is kept once. -/
  | union (qs : List (Query ρ ν))
  /-- The distinct tuples of the sum, selected from it. -/
  | distinctOf (qs : List (Query ρ ν))

namespace Statement

variable {ρ ν : Type}

/-- The text of a statement. -/
def sql : Statement ρ ν → String
  | query q => q.select.sql
  | unionAll qs => " UNION ALL ".intercalate (qs.map fun q => q.select.sql)
  | union qs => " UNION ".intercalate (qs.map fun q => q.select.sql)
  | distinctOf qs =>
    "SELECT DISTINCT * FROM (" ++ " UNION ALL ".intercalate (qs.map fun q => q.select.sql) ++ ")"

@[simp] theorem sql_query (q : Query ρ ν) : (query q).sql = q.select.sql := rfl

@[simp] theorem sql_unionAll (qs : List (Query ρ ν)) :
    (unionAll qs).sql = " UNION ALL ".intercalate (qs.map fun q => q.select.sql) := rfl

@[simp] theorem sql_union (qs : List (Query ρ ν)) :
    (union qs).sql = " UNION ".intercalate (qs.map fun q => q.select.sql) := rfl

@[simp] theorem sql_distinctOf (qs : List (Query ρ ν)) :
    (distinctOf qs).sql =
      "SELECT DISTINCT * FROM (" ++ " UNION ALL ".intercalate (qs.map fun q => q.select.sql) ++
        ")" := rfl

variable [DecidableEq ν] (D : Content ρ ν)

/-- The result of a statement. -/
def tuples : Statement ρ ν → List (Tuple ν)
  | query q => q.tuples D
  | unionAll qs => qs.flatMap (Query.tuples D)
  | union qs | distinctOf qs => (qs.flatMap (Query.tuples D)).dedup

/-- The first column of the result. -/
def cells (st : Statement ρ ν) : List Cell := (st.tuples D).map fun t => D.render t.1

/-- Whether an answer is right: the first column of the result, in any order. -/
def AnsweredBy (st : Statement ρ ν) : EngineAnswer → Prop
  | .ok (.rows cells) => cells.Perm (st.cells D)
  | _ => False

instance (st : Statement ρ ν) : (answer : EngineAnswer) → Decidable (st.AnsweredBy D answer)
  | .ok (.rows cells) => inferInstanceAs (Decidable (cells.Perm (st.cells D)))
  | .ok .noResultSet => .isFalse id
  | .error _ => .isFalse id

end Statement

end Trisect.Sql
