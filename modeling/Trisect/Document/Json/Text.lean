import Trisect.Text.Hex

/-!
# Text in JSON

A text is written between quotation marks. The writer `Trisect.Json.quote` escapes the quotation
mark, the backslash and the control characters below the space, and nothing else. The reader
`Trisect.Json.readText` accepts every escape of JSON: it first cuts the text into units, an escape
with four hexadecimal digits being one unit of sixteen bits, and then joins surrogate pairs. Text
with half of a pair is read, but it has no meaning.
-/

namespace Trisect.Json

/-! ### Writing -/

/-- The written form of one character. -/
def escape (c : Char) : List Char :=
  if c = '"' then ['\\', '"']
  else if c = '\\' then ['\\', '\\']
  else if c = '\x08' then ['\\', 'b']
  else if c = '\x0c' then ['\\', 'f']
  else if c = '\n' then ['\\', 'n']
  else if c = '\r' then ['\\', 'r']
  else if c = '\t' then ['\\', 't']
  else if c.toNat < 32 then
    ['\\', 'u', '0', '0', Hex.lowerDigit (c.toNat / 16), Hex.lowerDigit (c.toNat % 16)]
  else [c]

/-- A text between quotation marks. -/
def quote (s : List Char) : List Char := '"' :: s.flatMap escape ++ ['"']

/-! ### Reading -/

/-- A piece of a text as it is written. -/
inductive CodeUnit
  /-- A character that stands for itself, or a short escape. -/
  | scalar (c : Char)
  /-- An escape with four hexadecimal digits. -/
  | escaped (n : Nat)

/-- The character of a short escape. -/
def shortEscape? : Char → Option Char
  | '"' => some '"'
  | '\\' => some '\\'
  | '/' => some '/'
  | 'b' => some '\x08'
  | 'f' => some '\x0c'
  | 'n' => some '\n'
  | 'r' => some '\r'
  | 't' => some '\t'
  | _ => none

/-- The units up to the closing quotation mark, and what follows it. -/
def readUnits : List Char → Option (List CodeUnit × List Char)
  | [] => none
  | '"' :: rest => some ([], rest)
  | '\\' :: 'u' :: a :: b :: c :: d :: rest => do
    let n ← Hex.value? [a, b, c, d]
    let (units, rest) ← readUnits rest
    return (.escaped n :: units, rest)
  | '\\' :: c :: rest => do
    let e ← shortEscape? c
    let (units, rest) ← readUnits rest
    return (.scalar e :: units, rest)
  | c :: rest =>
    if c.toNat < 32 ∨ c = '\\' then none
    else (readUnits rest).map fun (units, rest) => (.scalar c :: units, rest)

/-- Whether a unit is the first half of a surrogate pair. -/
def isHighSurrogate (n : Nat) : Bool := 0xd800 ≤ n && n < 0xdc00

/-- Whether a unit is the second half of a surrogate pair. -/
def isLowSurrogate (n : Nat) : Bool := 0xdc00 ≤ n && n < 0xe000

/-- The characters of a list of units, if no half of a surrogate pair stands alone. -/
def joinUnits : List CodeUnit → Option (List Char)
  | [] => some []
  | .scalar c :: units => (joinUnits units).map (c :: ·)
  | .escaped n :: .escaped m :: units =>
    if isHighSurrogate n && isLowSurrogate m then
      (joinUnits units).map (Char.ofNat (0x10000 + (n - 0xd800) * 0x400 + (m - 0xdc00)) :: ·)
    else if isHighSurrogate n || isLowSurrogate n then none
    else (joinUnits (.escaped m :: units)).map (Char.ofNat n :: ·)
  | .escaped n :: units =>
    if isHighSurrogate n || isLowSurrogate n then none
    else (joinUnits units).map (Char.ofNat n :: ·)

/-- Reads a text after its opening quotation mark: the text, `none` if it has no meaning, and what
follows it. -/
def readText (cs : List Char) : Option (Option String × List Char) :=
  (readUnits cs).map fun (units, rest) => ((joinUnits units).map String.ofList, rest)

end Trisect.Json
