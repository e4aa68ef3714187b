import Trisect.Dialogue

/-!
# Sources of shapes

A `Trisect.ShapeSource` answers the questions of the oracles for base queries and conditions, from a
state of its own. To learn the schema it is given the engine, and may ask it whatever it likes and
as often as it likes, each further question depending on the answers (`Trisect.SchemaReading`).
-/

namespace Trisect

/-- What a source does to learn the schema. -/
inductive SchemaReading (α : Type)
  | done (result : α)
  /-- Asks the engine. -/
  | ask (q : Inquiry) (next : q.Answer → SchemaReading α)

/-- Something that makes base queries and conditions. -/
structure ShapeSource (σ : Type) where
  /-- Learns the schema. -/
  refresh : σ → SchemaReading (Except OracleError Unit × σ)
  /-- A base query. -/
  baseSelect : σ → Except OracleError Select × σ
  /-- A condition on the rows of the last base query. -/
  predicate : σ → Except OracleError String × σ
  /-- A condition on the groups of a query grouped by the given expressions. -/
  groupPredicate : List String → σ → Except OracleError String × σ
  /-- An aggregate function and its argument. -/
  aggregate : σ → Except OracleError (AggregateFn × String) × σ

/-- A statement that sets a database up. -/
structure SetupStatement where
  text : String
  /-- Whether the statement may change the schema. -/
  affectsSchema : Bool
  deriving DecidableEq

end Trisect
