import Trisect.Cell
import Trisect.Text.Occurrence

/-!
# What an engine answers

The oracles see the engine under test as something that answers statements. A query is answered by
a `Trisect.QueryOutput` or fails with an `Trisect.EngineError`; the schema is a list of
`Trisect.Table`s with their columns. All that an engine can be asked is a `Trisect.Inquiry`.
-/

namespace Trisect

/-- A failure of the engine. -/
inductive EngineError
  /-- The engine refused a statement with a message. -/
  | rejected (text : String)
  /-- The engine failed without any message. -/
  | silent
  /-- A value of a result could not be converted. -/
  | conversion (detail : String)
  deriving DecidableEq

namespace EngineError

/-- The text that came with a failure. -/
def text? : EngineError → Option String
  | rejected text => some text
  | silent => none
  | conversion detail => some detail

/-- The wording of a failure. -/
def message : EngineError → String
  | rejected text => text
  | silent => "<no message>"
  | conversion detail => "value conversion failed: " ++ detail

end EngineError

/-- What a query produced. -/
inductive QueryOutput
  /-- The statement has no result columns. -/
  | noResultSet
  /-- The first column of every row, in the order of delivery. -/
  | rows (cells : List Cell)
  deriving DecidableEq

/-- A column of a table. -/
structure Column where
  name : String
  /-- The declared type, which may be empty. -/
  typeName : String
  deriving DecidableEq

/-- Whether the declared type of a column suggests numbers. -/
def Column.isNumeric (c : Column) : Bool :=
  let name := c.typeName.toList.map Char.toUpper
  ["INT", "REAL", "FLOA", "DOUB", "NUM", "DEC"].any fun word => Text.occursIn word.toList name

/-- A table and its columns. -/
structure Table where
  name : String
  columns : List Column
  deriving DecidableEq

/-! ### What can be asked -/

/-- A question to an engine. -/
inductive Inquiry
  /-- To run a query and give the first column of its result. -/
  | query (sql : String)
  /-- To run a statement whose result is of no interest. -/
  | execute (sql : String)
  /-- Which tables there are, and with which columns. -/
  | tables
  /-- Which version it is. -/
  | version

namespace Inquiry

/-- The type of the answers to a question. -/
@[reducible] def Answer : Inquiry → Type
  | query _ => Except EngineError QueryOutput
  | execute _ => Except EngineError Unit
  | tables => Except EngineError (List Table)
  | version => Option String

/-- The statement that is sent with a question, if there is one. -/
def statement? : Inquiry → Option String
  | query sql | execute sql => some sql
  | tables | version => none

end Inquiry

end Trisect
