import Trisect.Cell
import Trisect.Decimal.Shortest
import Trisect.Text.Hex

/-!
# Values of SQLite

A value of SQLite is NULL, a whole number of 64 bits, a double, a text or a string of bytes.
`Trisect.Sqlite.Value.toCell` is the cell on which the comparison works: bytes are written as a
literal in hexadecimal digits, so that different strings of bytes stay different even where they are
no text.
-/

namespace Trisect.Sqlite

/-- A value. -/
inductive Value
  | null
  | integer (n : Int64)
  | real (x : Float)
  | text (s : String)
  | blob (bytes : List UInt8)

namespace Value

/-- The literal of a string of bytes. -/
def blobLiteral (bytes : List UInt8) : String := "X'" ++ String.ofList (Hex.upper bytes) ++ "'"

/-- The cell of a value. -/
def toCell : Value → Cell
  | null => none
  | integer n => some (toString n.toInt)
  | real x => some (Decimal.Double.ofBits x.toBits).plain
  | text s => some s
  | blob bytes => some (blobLiteral bytes)

end Value

end Trisect.Sqlite
