/-!
# Select statements and their partitions

A `Trisect.Select` is a select statement kept apart in clauses, so that a condition can be put into
one of them; `Trisect.Select.sql` is its text. Conditions are texts at this level:
`Trisect.Select.withWhere` joins one to the condition that is there, `Trisect.Select.withHaving`
replaces the one on the groups.

Under three-valued logic exactly one of `p`, `NOT (p)` and `(p) IS NULL` holds in a row. These three
are the parts of the `Trisect.Partition` of `p`, in the order in which they are run.
-/

namespace Trisect

/-- A select statement over a list of tables. -/
structure Select where
  distinct : Bool := false
  /-- The selected expressions. -/
  fetch : List String
  /-- The tables. -/
  tables : List String
  /-- The condition on rows. -/
  condition : Option String := none
  groupBy : List String := []
  /-- The condition on groups. -/
  having : Option String := none
  orderBy : List String := []
  deriving DecidableEq, Inhabited

namespace Select

/-- Items with a comma between them. -/
def commaList (items : List String) : String := ", ".intercalate items

/-- A clause with one operand, if there is an operand. -/
def clause (keyword : String) : Option String → String
  | none => ""
  | some operand => keyword ++ operand

/-- A clause with a list of operands, if there are any. -/
def listClause (keyword : String) (operands : List String) : String :=
  if operands.isEmpty then "" else keyword ++ commaList operands

/-- The text of a statement. -/
def sql (s : Select) : String :=
  "SELECT " ++ (if s.distinct then "DISTINCT " else "") ++ commaList s.fetch ++
    " FROM " ++ commaList s.tables ++ clause " WHERE " s.condition ++
    listClause " GROUP BY " s.groupBy ++ clause " HAVING " s.having ++
    listClause " ORDER BY " s.orderBy

/-- Whether the statement orders its rows. -/
def isOrdered (s : Select) : Bool := !s.orderBy.isEmpty

/-- Two conditions joined: both have to hold. -/
def conjoin : Option String → String → String
  | none, c => c
  | some w, c => "(" ++ w ++ ") AND (" ++ c ++ ")"

/-- The statement restricted to the rows that fulfil a further condition. -/
def withWhere (s : Select) (c : String) : Select :=
  { s with condition := some (conjoin s.condition c) }

/-- The statement with a condition on its groups in place of the one it has. -/
def withHaving (s : Select) (c : String) : Select := { s with having := some c }

end Select

/-- The three conditions of which exactly one holds in a row. -/
structure Partition where
  holds : String
  fails : String
  isNull : String
  deriving DecidableEq

namespace Partition

/-- The partition of a condition. -/
def of (p : String) : Partition := ⟨p, "NOT (" ++ p ++ ")", "(" ++ p ++ ") IS NULL"⟩

/-- The parts in the order in which they are run. -/
def parts (p : Partition) : List String := [p.holds, p.fails, p.isNull]

end Partition

end Trisect
