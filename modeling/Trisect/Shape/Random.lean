import Trisect.Shape.Condition
import Trisect.Shape.Source

/-!
# Random shapes

`Trisect.RandomShapes` is the source that is built in. It draws everything from one random stream,
so that a seed and a schema determine what it makes: the tables of a database and their rows
(`Trisect.RandomShapes.database`), base queries over one or two tables
(`Trisect.RandomShapes.baseSelect`), and conditions over the columns of the last base query.

Draws are made in a fixed order, and what was drawn stays drawn where a shape cannot be completed.
-/

namespace Trisect

/-- A choice that may turn out to be impossible. -/
abbrev Attempt := ExceptT SkipReason Draw

/-- The state of the source. -/
structure RandomShapes where
  stream : Stream
  /-- How deeply connectives are nested at most. -/
  maxDepth : Nat
  /-- The schema. -/
  tables : List Table
  /-- The columns of the tables of the last base query. -/
  columns : List ColumnRef

/-! ### Conditions -/

namespace Condition

/-- Draws a column; there has to be one. -/
def drawColumn (columns : List ColumnRef) : Attempt ColumnRef := do
  match ← (Draw.choose columns : Draw (Option ColumnRef)) with
  | some c => return c
  | none => throw .inapplicableShape

/-- Draws a literal. -/
def drawLiteral : Attempt Literal := ExceptT.lift Literal.draw

/-- The chance that a column is compared with a column: seven in ten. -/
def columnChance : Nat := 0xb333333333333000

/-- The chance that a condition ends in a leaf before it has to: four in ten. -/
def leafChance : Nat := 0x6666666666666800

/-- Draws what a column is compared with. -/
def drawOperand (columns : List ColumnRef) : Attempt Operand := do
  if ← ExceptT.lift (Draw.chance columnChance) then
    return .column (← drawColumn columns)
  else return .literal (← drawLiteral)

/-- Draws a test of a column. -/
def drawLeaf (columns : List ColumnRef) : Attempt Leaf := do
  let left ← drawColumn columns
  match ← ExceptT.lift (Draw.belowShort 6) with
  | 0 => return .isNull left
  | 1 => return .isNotNull left
  | 2 =>
    let low ← drawLiteral
    let high ← drawLiteral
    return .between left low high
  | 3 =>
    let count ← ExceptT.lift (Draw.belowShort 3)
    return .isIn left (← ExceptT.lift (Draw.many Literal.draw (count + 1)))
  | _ =>
    let op ← ExceptT.lift Comparator.draw
    return .compare left op (← drawOperand columns)

/-- Draws a condition with at most the given number of connectives nested in one another. -/
def draw (columns : List ColumnRef) : Nat → Attempt Condition
  | 0 => return .leaf (← drawLeaf columns)
  | depth + 1 => do
    if ← ExceptT.lift (Draw.chance leafChance) then
      return .leaf (← drawLeaf columns)
    else
      match ← ExceptT.lift (Draw.belowShort 3) with
      | 0 => return .not (← draw columns depth)
      | 1 =>
        let left ← draw columns depth
        return .and left (← draw columns depth)
      | _ =>
        let left ← draw columns depth
        return .or left (← draw columns depth)

end Condition

/-- Draws an aggregate function. -/
def AggregateFn.draw : Draw AggregateFn := Draw.chooseFrom .min [.max, .sum, .count]

/-- The chance that a group whose key is NULL is let through: four in ten. -/
def GroupCondition.orNullChance : Nat := Condition.leafChance

/-- Draws a condition on groups. -/
def GroupCondition.draw (columns : List ColumnRef) (groupBy : List String) :
    Attempt GroupCondition := do
  let argument ← Condition.drawColumn columns
  let function ← ExceptT.lift AggregateFn.draw
  let op ← ExceptT.lift Comparator.draw
  let bound ← Condition.drawLiteral
  match ← ExceptT.lift (Draw.choose groupBy) with
  | some key =>
    let orNull ← ExceptT.lift (Draw.chance orNullChance)
    return ⟨function, argument, op, bound, if orNull then some key else none⟩
  | none => return ⟨function, argument, op, bound, none⟩

/-! ### Databases -/

/-- The declared type of a random column, if it has one. -/
inductive ColumnType
  | integer
  | real
  | text
  | untyped
  deriving DecidableEq

/-- A random table: its columns and the rows that are put into it. -/
structure RandomTable where
  columns : List ColumnType
  rows : List (List Literal)
  deriving DecidableEq

namespace RandomTable

/-- The definition of the column at a position. -/
def columnSql (i : Nat) : ColumnType → String
  | .integer => "c" ++ toString i ++ " INTEGER"
  | .real => "c" ++ toString i ++ " REAL"
  | .text => "c" ++ toString i ++ " TEXT"
  | .untyped => "c" ++ toString i

/-- The statements that create the table with a number and fill it. -/
def statements (n : Nat) (t : RandomTable) : List SetupStatement :=
  let name := "t" ++ toString n
  ⟨"CREATE TABLE " ++ name ++ "(" ++ ", ".intercalate (t.columns.mapIdx columnSql) ++ ")", true⟩ ::
    t.rows.map fun row =>
      ⟨"INSERT INTO " ++ name ++ " VALUES (" ++ ", ".intercalate (row.map Literal.sql) ++ ")",
        false⟩

/-- Draws a table of one to three columns and at most six rows. -/
def draw : Draw RandomTable := do
  let columnCount := (← Draw.belowShort 3) + 1
  let columns ← Draw.many (Draw.chooseFrom .integer [.real, .text, .untyped]) columnCount
  let rowCount ← Draw.belowShort 7
  return ⟨columns, ← Draw.many (Draw.many Literal.draw columnCount) rowCount⟩

end RandomTable

namespace RandomShapes

/-- A source at its beginning, which knows no tables. -/
def new (seed : UInt64) (maxDepth : Nat) : RandomShapes :=
  ⟨.ofSeed seed, max maxDepth 1, [], []⟩

/-- The source with a schema of its own. -/
def withTables (s : RandomShapes) (tables : List Table) : RandomShapes := { s with tables }

/-- The statements that create and fill a number of random tables. -/
def database (count : Nat) (s : RandomShapes) : List SetupStatement × RandomShapes :=
  let (tables, stream) := (Draw.many RandomTable.draw count).run s.stream
  ((tables.mapIdx RandomTable.statements).flatten, { s with stream })

/-! ### Base queries -/

/-- The chance that a base query has a condition: one in five. -/
def conditionChance : Nat := 0x3333333333333400

/-- The chance that a base query orders its rows: three in twenty. -/
def orderChance : Nat := 0x2666666666666600

/-- The qualified columns of a table. -/
def columnsOf (t : Table) : List ColumnRef := t.columns.map fun c => ⟨t.name, c.name⟩

/-- The tables that have a column. -/
def candidates (s : RandomShapes) : List Table := s.tables.filter fun t => !t.columns.isEmpty

/-- Draws one or two of the tables that have a column. -/
def drawTables (candidates : List Table) : Draw (List Table) := do
  Draw.chooseMany candidates ((← Draw.belowLong (min candidates.length 2)) + 1)

/-- Draws one to three columns. -/
def drawFetch (columns : List ColumnRef) : Draw (List ColumnRef) := do
  Draw.chooseMany columns ((← Draw.belowLong (min columns.length 3)) + 1)

/-- Draws the clauses of a base query whose tables and columns are known. -/
def drawClauses (maxDepth : Nat) (columns : List ColumnRef) (fetch : List ColumnRef)
    (tables : List Table) : Attempt Select := do
  let condition ← if ← ExceptT.lift (Draw.chance conditionChance) then
      pure (some (← Condition.draw columns maxDepth).sql)
    else pure none
  let orderBy ← if ← ExceptT.lift (Draw.chance orderChance) then
      pure [(← Condition.drawColumn columns).sql]
    else pure []
  return { fetch := fetch.map ColumnRef.sql, tables := tables.map (·.name), condition, orderBy }

/-- Draws a base query over the tables that have a column, if it can be completed, and the columns
of the tables that were chosen for it. -/
def drawBase (maxDepth : Nat) (candidates : List Table) :
    Draw (Except SkipReason Select × List ColumnRef) := do
  let tables ← drawTables candidates
  let columns := tables.flatMap columnsOf
  let fetch ← drawFetch columns
  let result ← (drawClauses maxDepth columns fetch tables).run
  return (result, columns)

/-- The result of an attempt as an answer to an oracle. -/
def answer {α : Type} (result : Except SkipReason α) : Except OracleError α :=
  result.mapError .skip

/-- A base query over one or two tables, and the source that knows their columns. -/
def baseSelect (s : RandomShapes) : Except OracleError Select × RandomShapes :=
  if s.candidates.isEmpty then (.error (.skip .emptySchema), s)
  else
    let ((result, columns), stream) := (drawBase s.maxDepth s.candidates).run s.stream
    (answer result, { s with stream, columns })

/-- A condition on the rows of the last base query. -/
def predicate (s : RandomShapes) : Except OracleError String × RandomShapes :=
  let (result, stream) := (Condition.draw s.columns s.maxDepth).run.run s.stream
  ((answer result).map Condition.sql, { s with stream })

/-- A condition on the groups of a query over the tables of the last base query. -/
def groupPredicate (groupBy : List String) (s : RandomShapes) :
    Except OracleError String × RandomShapes :=
  let (result, stream) := (GroupCondition.draw s.columns groupBy).run.run s.stream
  ((answer result).map GroupCondition.sql, { s with stream })

/-- Draws an aggregate function and its argument. -/
def drawAggregate (columns : List ColumnRef) : Attempt (AggregateFn × String) := do
  let c ← Condition.drawColumn columns
  return (← ExceptT.lift AggregateFn.draw, c.sql)

/-- An aggregate function and a column of the last base query. -/
def aggregate (s : RandomShapes) : Except OracleError (AggregateFn × String) × RandomShapes :=
  let (result, stream) := (drawAggregate s.columns).run.run s.stream
  (answer result, { s with stream })

/-- Takes the tables of the engine for the schema. -/
def refresh (s : RandomShapes) : SchemaReading (Except OracleError Unit × RandomShapes) :=
  .ask .tables fun answer =>
    match answer with
    | .ok tables => .done (.ok (), { s with tables })
    | .error e => .done (.error (.engine ("schema introspection failed: " ++ e.message)), s)

/-- The source of random shapes. -/
def source : ShapeSource RandomShapes where
  refresh := refresh
  baseSelect := baseSelect
  predicate := predicate
  groupPredicate := groupPredicate
  aggregate := aggregate

end RandomShapes

end Trisect
