import Trisect.Text.Hex

/-!
# Text in TOML

A text is written in one of four ways: between quotation marks, in which case escapes are resolved,
or between apostrophes, in which case they are not; and either way on one line, or over several
lines between tripled marks. A reader first cuts the text out (`Trisect.Toml.cut`,
`Trisect.Toml.cutLong`), watching for escapes only so as not to stop at an escaped mark. What was
cut out is then resolved (`Trisect.Toml.resolve`), and this is where ill-formed text is refused.
-/

namespace Trisect.Toml

/-! ### Characters -/

/-- Whether a character is a blank within a line. -/
def isBlank (c : Char) : Bool := c = ' ' || c = '\t'

/-- Whether a character may stand in a line, in comments and in texts: all but the control
characters, of which only the tab may. -/
def isVisible (c : Char) : Bool := c = '\t' || (32 ≤ c.toNat && c.toNat ≠ 127)

/-- What follows the leading blanks. -/
def skipBlanks (cs : List Char) : List Char := cs.dropWhile isBlank

/-! ### Cutting texts out -/

/-- What stands before the closing mark of a text on one line, and what follows the mark. -/
def cut (mark : Char) (escapes : Bool) : List Char → Option (List Char × List Char)
  | [] => none
  | c :: cs =>
    if c = mark then some ([], cs)
    else if escapes && c = '\\' then
      match cs with
      | [] => none
      | d :: cs => (cut mark escapes cs).map fun (raw, rest) => (c :: d :: raw, rest)
    else (cut mark escapes cs).map fun (raw, rest) => (c :: raw, rest)

/-- Marks that follow three closing ones: up to two of them belong to the text. -/
def spareMarks (mark : Char) : List Char → List Char × List Char
  | c :: cs =>
    if c = mark then
      match cs with
      | d :: ds => if d = mark then ([c, d], ds) else ([c], cs)
      | [] => ([c], cs)
    else ([], c :: cs)
  | [] => ([], [])

/-- What stands before the closing marks of a text over several lines, and what follows the
marks. -/
def cutLong (mark : Char) (escapes : Bool) : List Char → Option (List Char × List Char)
  | [] => none
  | c :: cs =>
    if c = mark && cs.head? = some mark && cs.tail.head? = some mark then
      some (spareMarks mark cs.tail.tail)
    else if escapes && c = '\\' then
      match cs with
      | [] => none
      | d :: cs => (cutLong mark escapes cs).map fun (raw, rest) => (c :: d :: raw, rest)
    else (cutLong mark escapes cs).map fun (raw, rest) => (c :: raw, rest)

/-- Every line end as a line feed alone. -/
def unifyLineEnds : List Char → List Char
  | [] => []
  | '\r' :: '\n' :: cs => '\n' :: unifyLineEnds cs
  | c :: cs => c :: unifyLineEnds cs

/-- A text without the line end that it begins with, if it begins with one. -/
def dropFirstLineEnd : List Char → List Char
  | '\n' :: cs => cs
  | cs => cs

/-! ### Resolving texts -/

/-- The character of a short escape. -/
def shortEscape? : Char → Option Char
  | 'b' => some '\x08'
  | 't' => some '\t'
  | 'n' => some '\n'
  | 'f' => some '\x0c'
  | 'r' => some '\r'
  | '"' => some '"'
  | '\\' => some '\\'
  | _ => none

/-- The character with the code point that a list of hexadecimal digits denotes, if there is one. -/
def ofCodePoint? (digits : List Char) : Option Char := do
  let n ← Hex.value? digits
  if n.isValidChar then some (Char.ofNat n) else none

/-- Resolves an escape after its backslash: the character that it stands for, if any, and what
follows it. A backslash at the end of a line of a long text stands for nothing and removes the line
end, and all blanks and line ends after it. -/
def readEscape (long : Bool) : List Char → Option (Option Char × List Char)
  | 'u' :: a :: b :: c :: d :: rest => (ofCodePoint? [a, b, c, d]).map fun e => (some e, rest)
  | 'U' :: a :: b :: c :: d :: e :: f :: g :: h :: rest =>
    (ofCodePoint? [a, b, c, d, e, f, g, h]).map fun e => (some e, rest)
  | c :: cs =>
    match shortEscape? c with
    | some e => some (some e, cs)
    | none =>
      match skipBlanks (c :: cs) with
      | '\n' :: rest =>
        if long then some (none, rest.dropWhile fun c => isBlank c || c = '\n') else none
      | _ => none
  | [] => none

/-- What follows an escape is shorter than the escape and what follows it. -/
theorem length_readEscape {long : Bool} {cs : List Char} {p : Option Char × List Char}
    (h : readEscape long cs = some p) : p.2.length < cs.length := by
  unfold readEscape at h
  split at h
  · obtain ⟨_, _, rfl⟩ := Option.map_eq_some_iff.1 h
    simp only [List.length_cons]; omega
  · obtain ⟨_, _, rfl⟩ := Option.map_eq_some_iff.1 h
    simp only [List.length_cons]; omega
  · next c cs _ _ =>
    split at h
    · cases h; simp
    · split at h
      · next rest hr =>
        split at h
        · cases h
          have h₁ := (List.dropWhile_sublist isBlank (l := c :: cs)).length_le
          have h₂ := (List.dropWhile_sublist (fun c => isBlank c || c = '\n') (l := rest)).length_le
          rw [show (c :: cs).dropWhile isBlank = '\n' :: rest from hr] at h₁
          simp only [List.length_cons] at h₁ ⊢
          omega
        · cases h
      · cases h
  · cases h

/-- A text between quotation marks, with its escapes resolved. -/
def resolve (long : Bool) (cs : List Char) : Option (List Char) :=
  match cs with
  | [] => some []
  | c :: cs =>
    if c = '\\' then
      match _h : readEscape long cs with
      | none => none
      | some (e, rest) => (resolve long rest).map (e.toList ++ ·)
    else if isVisible c || (long && c = '\n') then (resolve long cs).map (c :: ·)
    else none
termination_by cs.length
decreasing_by
  · have := length_readEscape _h
    simp only [List.length_cons] at this ⊢
    omega
  · simp

/-- A text between apostrophes. -/
def literal (long : Bool) (cs : List Char) : Option (List Char) :=
  if cs.all fun c => isVisible c || (long && c = '\n') then some cs else none

/-- Reads a text on one line. -/
def readShort : List Char → Option (String × List Char)
  | '"' :: cs => do
    let (raw, rest) ← cut '"' true cs
    return (String.ofList (← resolve false raw), rest)
  | '\x27' :: cs => do
    let (raw, rest) ← cut '\x27' false cs
    return (String.ofList (← literal false raw), rest)
  | _ => none

/-- Reads a text in any of the four ways. -/
def readText : List Char → Option (String × List Char)
  | '"' :: '"' :: '"' :: cs => do
    let (raw, rest) ← cutLong '"' true cs
    return (String.ofList (← resolve true (dropFirstLineEnd (unifyLineEnds raw))), rest)
  | '\x27' :: '\x27' :: '\x27' :: cs => do
    let (raw, rest) ← cutLong '\x27' false cs
    return (String.ofList (← literal true (dropFirstLineEnd (unifyLineEnds raw))), rest)
  | cs => readShort cs

/-! ### Keys -/

/-- Whether a character may stand in a key without marks around it. -/
def isKeyChar (c : Char) : Bool :=
  ('a' ≤ c && c ≤ 'z') || ('A' ≤ c && c ≤ 'Z') || ('0' ≤ c && c ≤ '9') || c = '_' || c = '-'

/-- Reads a key: characters without marks around them, or a text on one line. -/
def readKey : List Char → Option (String × List Char)
  | [] => none
  | c :: cs =>
    if isKeyChar c then
      some (String.ofList ((c :: cs).takeWhile isKeyChar), (c :: cs).dropWhile isKeyChar)
    else readShort (c :: cs)

/-- The greatest number of keys that are joined by points, and of brackets that are nested, less
one. -/
def nestingLimit : Nat := 80

/-- Reads keys that are joined by points, with the blanks around them. There is at least one. -/
def readKeys : Nat → List Char → Option (List String × List Char)
  | 0, _ => none
  | room + 1, cs => do
    let (key, cs) ← readKey (skipBlanks cs)
    match skipBlanks cs with
    | '.' :: cs => do
      let (keys, rest) ← readKeys room cs
      return (key :: keys, rest)
    | rest => return ([key], rest)

/-- Reads the path of a table or of a value. -/
def readPath (cs : List Char) : Option (List String × List Char) := readKeys (nestingLimit - 1) cs

end Trisect.Toml
