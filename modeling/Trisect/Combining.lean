import Trisect.Collection
import Trisect.Config.Dialect

/-!
# Putting the parts together

The three queries of a partition are put together in one of three ways: as one statement that adds
their results up, by running them one after the other, or as one statement that keeps every row
once. Which one it is depends on whether duplicates are to survive and on whether the queries can
stand in one statement; `Trisect.CombinedQuery` holds both, and `Trisect.combine` runs them. Where
several combinations are made in a row, `Trisect.combineOnto` keeps the statements of all of them in
one list.
-/

namespace Trisect

/-- The queries of a partition, and how they are put together. -/
structure CombinedQuery where
  components : List String
  combination : Combination
  /-- Whether the components may stand in one statement. -/
  singleStatement : Bool
  deriving DecidableEq

namespace CombinedQuery

/-- The statement that adds the components up. -/
def unionAllText (q : CombinedQuery) : String := " UNION ALL ".intercalate q.components

/-- The statement that keeps every row once: with `UNION`, if the engine takes it, or by selecting
the distinct rows of the sum. -/
def distinctText (bareUnion : Bool) (q : CombinedQuery) : String :=
  if bareUnion then " UNION ".intercalate q.components
  else "SELECT DISTINCT * FROM (" ++ q.unionAllText ++ ")"

/-- Why duplicates are not eliminated from several statements. -/
def refusal : OracleError :=
  .internal "duplicate elimination requires a single combined statement"

end CombinedQuery

/-- What came of putting parts together: the statements that were run or about to be, and the cells,
or the error of the last statement. -/
structure CombinedResult where
  reconstructed : List String
  cells : Except OracleError (List Cell)

/-- Runs queries one after the other, up to the first that ends in an error. -/
def concatenate (errors : ExpectedErrors) : List String → StateT Session Dialogue CombinedResult
  | [] => return ⟨[], .ok []⟩
  | q :: qs => do
    match ← (collect errors q).run with
    | .error e => return ⟨[q], .error e⟩
    | .ok cells =>
      let rest ← concatenate errors qs
      return ⟨q :: rest.reconstructed, rest.cells.map (cells ++ ·)⟩

/-- Runs a single statement. -/
def combineAs (errors : ExpectedErrors) (text : String) :
    StateT Session Dialogue CombinedResult := do
  return ⟨[text], ← (collect errors text).run⟩

/-- Runs the parts and puts their cells together. -/
def combine (dialect : Dialect) (errors : ExpectedErrors) (q : CombinedQuery) :
    StateT Session Dialogue CombinedResult :=
  match q.combination, q.singleStatement with
  | .preserveDuplicates, true => combineAs errors q.unionAllText
  | .preserveDuplicates, false => concatenate errors q.components
  | .eliminateDuplicates, true => combineAs errors (q.distinctText dialect.bareUnion)
  | .eliminateDuplicates, false => return ⟨[], .error CombinedQuery.refusal⟩

/-! ### Several combinations -/

/-- Runs queries one after the other, up to the first that ends in an error, where there are
statements and cells already. Every query is kept before it is run. -/
def concatenateOnto (errors : ExpectedErrors) (kept : List String) (cells : List Cell) :
    List String → StateT Session Dialogue CombinedResult
  | [] => return ⟨kept, .ok cells⟩
  | q :: qs => do
    match ← (collect errors q).run with
    | .error e => return ⟨kept ++ [q], .error e⟩
    | .ok more => concatenateOnto errors (kept ++ [q]) (cells ++ more) qs

/-- Runs the parts and puts their cells together, where the statements of other combinations are
kept already. -/
def combineOnto (dialect : Dialect) (errors : ExpectedErrors) (kept : List String)
    (q : CombinedQuery) : StateT Session Dialogue CombinedResult :=
  match q.combination, q.singleStatement with
  | .preserveDuplicates, true => concatenateOnto errors kept [] [q.unionAllText]
  | .preserveDuplicates, false => concatenateOnto errors kept [] q.components
  | .eliminateDuplicates, true =>
    concatenateOnto errors kept [] [q.distinctText dialect.bareUnion]
  | .eliminateDuplicates, false => return ⟨kept, .error CombinedQuery.refusal⟩

end Trisect
