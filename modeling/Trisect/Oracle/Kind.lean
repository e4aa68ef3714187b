import Trisect.Document.Decoding
import Trisect.Document.Json.Reading

/-!
# Oracle kinds and aggregate functions

An oracle puts the partitioning condition into one place of a statement. `Trisect.OracleKind` lists
the places, and `Trisect.OracleKind.combination` says whether duplicates survive when the three
results are put together again. `Trisect.AggregateFn` lists the aggregate functions whose value over
a table can be had from the values over its parts, and `Trisect.AggregateFn.outer` the function that
does so.
-/

namespace Trisect

/-- How duplicates across the three parts are treated. -/
inductive Combination
  /-- The parts add up with multiplicities. -/
  | preserveDuplicates
  /-- Each row is kept once. -/
  | eliminateDuplicates
  deriving DecidableEq

/-- Where an oracle puts the partitioning condition. -/
inductive OracleKind
  /-- On the rows of a plain query. -/
  | whereClause
  /-- On the groups of a grouped query. -/
  | having
  /-- On the rows of a grouped query. -/
  | groupBy
  /-- On the rows of a query without duplicates. -/
  | distinct
  /-- On the rows that an aggregate function folds. -/
  | aggregate
  deriving DecidableEq, Inhabited

namespace OracleKind

/-- The name of a kind. -/
def tag : OracleKind → String
  | whereClause => "where"
  | having => "having"
  | groupBy => "group_by"
  | distinct => "distinct"
  | aggregate => "aggregate"

/-- All kinds. -/
def all : List OracleKind := [whereClause, having, groupBy, distinct, aggregate]

theorem mem_all (k : OracleKind) : k ∈ all := by cases k <;> decide

/-- How the three results are put together. -/
def combination : OracleKind → Combination
  | whereClause | having | aggregate => .preserveDuplicates
  | groupBy | distinct => .eliminateDuplicates

/-- A kind from its name. -/
def ofDocument? (format : Document.Format) (d : Document) : Option OracleKind :=
  (d.choice? format (all.map tag)).bind fun i => all[i]?

/-- A list of kinds from a JSON text. -/
def listOfJson? (s : String) : Option (List OracleKind) :=
  (Document.ofJson? s).bind (Document.toListOf? (ofDocument? .json))

end OracleKind

/-- The aggregate functions that can be rebuilt from partitions. -/
inductive AggregateFn
  | min
  | max
  | sum
  | count
  deriving DecidableEq, Inhabited

namespace AggregateFn

/-- The name of a function in statements. -/
def name : AggregateFn → String
  | min => "MIN"
  | max => "MAX"
  | sum => "SUM"
  | count => "COUNT"

/-- All functions. -/
def all : List AggregateFn := [min, max, sum, count]

/-- The function that folds the values over the parts into the value over the whole. -/
def outer : AggregateFn → AggregateFn
  | min => min
  | max => max
  | sum | count => sum

end AggregateFn

end Trisect
