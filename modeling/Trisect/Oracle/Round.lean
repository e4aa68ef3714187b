import Trisect.Combining
import Trisect.Comparison
import Trisect.Decimal.Closeness

/-!
# Rounds of an oracle

A `Trisect.Oracle` is a kind together with what it expects of an engine. In a round it asks the
source for a base query and a condition, runs the query, runs the three queries into which the
condition partitions it, puts their results together and compares. `Trisect.Oracle.check` ends
without an error only if the two sides agree; `Trisect.Oracle.runRound` sorts how it ended into a
`Trisect.RoundOutcome`.

The kinds differ in which clauses of the base query they set (`Trisect.OracleKind.prepare`) and in
whether the parts go into the condition on rows or into the one on groups
(`Trisect.OracleKind.components`). The aggregate oracle has a second query of its own, which folds
the aggregates of the parts (`Trisect.aggregateOfParts`).
-/

namespace Trisect

/-- An oracle of a kind, with the messages it expects and the dialect it writes. -/
structure Oracle where
  kind : OracleKind
  errors : ExpectedErrors
  dialect : Dialect

namespace OracleKind

/-- The base query with the clauses that a kind sets. -/
def prepare : OracleKind → Select → Select
  | whereClause, s => s
  | having, s => { s with distinct := false, groupBy := s.fetch, having := none }
  | groupBy, s => { s with distinct := false, groupBy := s.fetch, orderBy := [] }
  | distinct, s => { s with distinct := true, orderBy := [] }
  | aggregate, s => { s with distinct := false, orderBy := [], groupBy := [], having := none }

/-- The query restricted to one part of the partition. -/
def restrict : OracleKind → Select → String → Select
  | having, s, c => s.withHaving c
  | _, s, c => s.withWhere c

/-- The queries of the three parts of a condition. -/
def components (k : OracleKind) (base : Select) (condition : String) : List String :=
  (Partition.of condition).parts.map fun c => (k.restrict base c).sql

end OracleKind

/-! ### Aggregates -/

/-- An aggregate function applied to its argument. -/
def AggregateFn.term (f : AggregateFn) (argument : String) : String :=
  f.name ++ "(" ++ argument ++ ")"

/-- The query for an aggregate over the rows of a base query. -/
def aggregateOfWhole (base : Select) (f : AggregateFn) (argument : String) : String :=
  { base with fetch := [f.term argument] }.sql

/-- The query that folds the aggregates over the three parts of a condition. -/
def aggregateOfParts (base : Select) (f : AggregateFn) (argument condition : String) : String :=
  let inner := { base with fetch := [f.term argument ++ " AS agg"] }
  "SELECT " ++ f.outer.name ++ "(agg) FROM (" ++
    " UNION ALL ".intercalate (OracleKind.aggregate.components inner condition) ++ ") AS partitions"

/-- Whether two results of one row each hold the same value, or numbers that are close. -/
def singleValuesAgree : List Cell → List Cell → Bool
  | [some a], [some b] => a == b || Decimal.nearlyEqual a b
  | [none], [none] => true
  | _, _ => false

namespace Oracle

/-- Compares two results, dropping the signs of zeros if the dialect says so. -/
def compare (o : Oracle) (whole : String) (reconstructed : List String)
    (first second : List Cell) : SessionM Unit :=
  if o.dialect.canonicalizeNegativeZero then
    assertEqualUnder Cell.foldMinusZero whole reconstructed first second
  else assertEqual whole reconstructed first second

/-- Whether the queries of the parts may stand in one statement. -/
def singleStatement (o : Oracle) (base : Select) : Bool :=
  !base.isOrdered || o.dialect.unionAllInOrderByContext

/-- Runs a base query and the queries of its parts, and compares. -/
def checkParts (o : Oracle) (base : Select) (condition : String) : SessionM Unit := do
  let first ← collect o.errors base.sql
  let parts : CombinedQuery :=
    ⟨o.kind.components base condition, o.kind.combination, o.singleStatement base⟩
  let second ← (combine o.dialect o.errors parts : StateT Session Dialogue CombinedResult)
  o.compare base.sql second.reconstructed first (← SessionM.ofExcept second.cells)

/-- Runs an aggregate over a base query and over the aggregates of its parts, and compares. -/
def checkAggregate (o : Oracle) (base : Select) (f : AggregateFn) (argument condition : String) :
    SessionM Unit := do
  let whole := aggregateOfWhole base f argument
  let parts := aggregateOfParts base f argument condition
  let first ← collect o.errors whole
  let second ← collect o.errors parts
  if singleValuesAgree first second then return
  o.compare whole [parts] first second

/-- Asks the source for a base query, with the clauses that a kind sets. -/
def askBase (k : OracleKind) : SessionM Select := do
  return k.prepare (← SessionM.ofExcept (← SessionM.ask .baseSelect))

/-- A round: it ends in an error unless the query and its reconstruction agree. -/
def check (o : Oracle) : SessionM Unit := do
  let base ← askBase o.kind
  match o.kind with
  | .aggregate =>
    let (f, argument) ← SessionM.ofExcept (← SessionM.ask .aggregate)
    let condition ← SessionM.ofExcept (← SessionM.ask .predicate)
    o.checkAggregate base f argument condition
  | .having =>
    let condition ← SessionM.ofExcept (← SessionM.ask (.groupPredicate base.groupBy))
    o.checkParts base condition
  | _ =>
    let condition ← SessionM.ofExcept (← SessionM.ask .predicate)
    o.checkParts base condition

end Oracle

/-! ### Outcomes -/

/-- How a round ended. -/
inductive RoundOutcome
  | passed
  /-- The round was inconclusive. -/
  | skipped (reason : SkipReason)
  /-- Two equivalent executions disagreed. -/
  | bug (report : BugReport)
  /-- The round failed in a way that was not to be expected. -/
  | failed (error : OracleError)
  deriving DecidableEq

namespace RoundOutcome

/-- Whether the session ends with the round. -/
def isTerminal : RoundOutcome → Bool
  | passed | skipped _ => false
  | bug _ | failed _ => true

/-- Sorts how a round ended. -/
def ofResult : Except OracleError Unit → RoundOutcome
  | .ok () => passed
  | .error (.skip reason) => skipped reason
  | .error (.logicBug report) => bug report
  | .error e => failed e

end RoundOutcome

/-- Runs a round and sorts how it ended. -/
def Oracle.runRound (o : Oracle) : StateT Session Dialogue RoundOutcome := do
  return .ofResult (← o.check.run)

end Trisect
