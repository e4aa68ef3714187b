import Trisect.Oracle.Kind
import Trisect.Shape.Literal

/-!
# Conditions

A random condition is a tree (`Trisect.Condition`) whose leaves test a column, and whose nodes are
the connectives and the test for NULL. `Trisect.Condition.sql` writes it with parentheses around
every operand of a node, so that a condition can be put into another one without being torn apart.

A condition on groups (`Trisect.GroupCondition`) tests an aggregate, and may let a group through
whose key is NULL.
-/

namespace Trisect

/-- A column together with its table. -/
structure ColumnRef where
  table : String
  column : String
  deriving DecidableEq

/-- The qualified name of a column. -/
def ColumnRef.sql (c : ColumnRef) : String := c.table ++ "." ++ c.column

/-- A comparison of two values. -/
inductive Comparator
  | eq
  | ne
  | lt
  | le
  | gt
  | ge
  deriving DecidableEq

namespace Comparator

/-- The sign of a comparison. -/
def sql : Comparator → String
  | eq => "="
  | ne => "<>"
  | lt => "<"
  | le => "<="
  | gt => ">"
  | ge => ">="

/-- Draws a comparison. -/
def draw : Draw Comparator := Draw.chooseFrom eq [ne, lt, le, gt, ge]

end Comparator

/-- What a column is compared with. -/
inductive Operand
  | column (c : ColumnRef)
  | literal (l : Literal)
  deriving DecidableEq

/-- The text of an operand. -/
def Operand.sql : Operand → String
  | column c => c.sql
  | literal l => l.sql

/-- A test of a column. -/
inductive Leaf
  | isNull (c : ColumnRef)
  | isNotNull (c : ColumnRef)
  | between (c : ColumnRef) (low high : Literal)
  | isIn (c : ColumnRef) (items : List Literal)
  | compare (c : ColumnRef) (op : Comparator) (right : Operand)
  deriving DecidableEq

/-- The text of a test. -/
def Leaf.sql : Leaf → String
  | isNull c => c.sql ++ " IS NULL"
  | isNotNull c => c.sql ++ " IS NOT NULL"
  | between c low high => c.sql ++ " BETWEEN " ++ low.sql ++ " AND " ++ high.sql
  | isIn c items => c.sql ++ " IN (" ++ ", ".intercalate (items.map Literal.sql) ++ ")"
  | compare c op right => c.sql ++ " " ++ op.sql ++ " " ++ right.sql

/-- A condition on rows. -/
inductive Condition
  | leaf (l : Leaf)
  | not (p : Condition)
  | and (p q : Condition)
  | or (p q : Condition)
  | isNull (p : Condition)
  deriving DecidableEq

/-- The text of a condition. -/
def Condition.sql : Condition → String
  | leaf l => l.sql
  | not p => "NOT (" ++ p.sql ++ ")"
  | and p q => "(" ++ p.sql ++ ") AND (" ++ q.sql ++ ")"
  | or p q => "(" ++ p.sql ++ ") OR (" ++ q.sql ++ ")"
  | isNull p => "(" ++ p.sql ++ ") IS NULL"

/-- A condition on groups. -/
structure GroupCondition where
  function : AggregateFn
  argument : ColumnRef
  op : Comparator
  bound : Literal
  /-- A key of the groups; a group in which it is NULL is let through. -/
  orNull : Option String
  deriving DecidableEq

/-- The text of a condition on groups. -/
def GroupCondition.sql (g : GroupCondition) : String :=
  let term := g.function.name ++ "(" ++ g.argument.sql ++ ") " ++ g.op.sql ++ " " ++ g.bound.sql
  match g.orNull with
  | none => term
  | some key => "(" ++ term ++ ") OR (" ++ key ++ " IS NULL)"

end Trisect
