import Trisect.Pattern.Property
import Trisect.Pattern.Syntax
import Trisect.Text.Blank
import Trisect.Text.Hex
import Trisect.Text.Letters

/-!
# Reading patterns

`Trisect.Pattern.parse?` reads the written form of a pattern. It answers `none` where the form is
not right: brackets that do not match, a repetition of nothing, bounds that are missing or out of
order, unknown escapes, properties and flags, names that are taken or malformed, ranges that run
backwards, look-around, references to groups, and nesting beyond two hundred and fifty levels.

The reader keeps what is left of the text, whether blanks and comments are to be passed over, and
the names of the groups so far (`Trisect.Pattern.Scanner`). Every step of the recursion consumes a
character, so the length of the text bounds its depth.
-/

namespace Trisect.Pattern

/-- The state of the reader. -/
structure Scanner where
  rest : List Char
  /-- Whether blanks and comments are passed over. -/
  verbose : Bool := false
  /-- The names of groups that are taken. -/
  names : List (List Char) := []

/-- A step of the reader. -/
abbrev Scan := StateT Scanner Option

namespace Scan

/-- What follows leading blanks and comments; a comment runs to the end of its line. -/
def dropBlanks (inComment : Bool) : List Char → List Char
  | [] => []
  | c :: cs =>
    if inComment then dropBlanks (c != '\n') cs
    else if Text.isBlank c then dropBlanks false cs
    else if c = '#' then dropBlanks true cs
    else c :: cs

/-- The next character. -/
def peek : Scan (Option Char) := return (← get).rest.head?

/-- The next character, which has to be there. -/
def next : Scan Char := do
  match (← get).rest with
  | c :: _ => return c
  | [] => failure

/-- Passes over a character. -/
def bump : Scan Unit := modify fun s => { s with rest := s.rest.tail }

/-- Passes over blanks and comments, if they are passed over at all. -/
def skipBlanks : Scan Unit := modify fun s =>
  if s.verbose then { s with rest := dropBlanks false s.rest } else s

/-- Passes over a character and the blanks behind it. -/
def bumpBlanks : Scan Unit := do bump; skipBlanks

/-- Passes over a given text, if it comes next. -/
def bumpIf (word : String) : Scan Bool := do
  let s ← get
  if word.toList.isPrefixOf s.rest then
    set { s with rest := s.rest.drop word.toList.length }
    return true
  else return false

/-- Requires a character. -/
def expect (c : Char) : Scan Unit := do
  if (← next) = c then bump else failure

/-- The character behind the next one, blanks passed over. -/
def peekBlanks : Scan (Option Char) := do
  let s ← get
  if s.verbose then
    let behind := s.rest.tail.dropWhile Text.isBlank
    match behind with
    | '#' :: cs => return (cs.dropWhile Text.isBlank).head?
    | cs => return cs.head?
  else return s.rest.tail.head?

end Scan

open Scan

/-! ### Escapes -/

/-- The characters that have a meaning of their own. -/
def isMeta (c : Char) : Bool := "\\.+*?()|[]\x7b\x7d^$#&-~".toList.contains c

/-- Whether a backslash makes a character stand for itself: every character of ASCII but letters,
digits and angle brackets. -/
def isEscapable (c : Char) : Bool :=
  isMeta c || (c.toNat < 128 && !c.isAlphanum && c != '<' && c != '>')

/-- The character with a code point, if there is one. -/
def scalar? (n : Nat) : Option Char :=
  if h : n.isValidChar then some (Char.ofNatAux n h) else none

/-- Collects hexadecimal digits up to a closing brace. -/
def scanBraced : Nat → List Char → Scan (List Char)
  | 0, _ => failure
  | fuel + 1, digits => do
    bumpBlanks
    let c ← next
    if c = '\x7d' then return digits.reverse
    else if (Hex.digitValue? c).isSome then scanBraced fuel (c :: digits)
    else failure

/-- Collects a fixed number of hexadecimal digits. -/
def scanDigits : Nat → Scan (List Char)
  | 0 => return []
  | n + 1 => do
    let c ← next
    if (Hex.digitValue? c).isSome then
      bumpBlanks
      return c :: (← scanDigits n)
    else failure

/-- A character by its code point, after the letter that says how many digits there are. Two digits
without braces may stand for a byte. -/
def scanCodePoint (digits : Nat) : Scan Ast := do
  bumpBlanks
  let braced := (← next) = '\x7b'
  let ds ← if braced then do
      let ds ← scanBraced ((← get).rest.length + 1) []
      bumpBlanks
      pure ds
    else scanDigits digits
  if ds.isEmpty then failure
  match (Hex.value? ds).bind scalar? with
  | some c => return .literal c (digits = 2 && !braced)
  | none => failure

/-- Collects the letters and hyphens of the name of a word boundary. -/
def scanBoundaryName : Nat → List Char → Scan (List Char)
  | 0, _ => failure
  | fuel + 1, name => do
    match ← peek with
    | some c =>
      if c.isAlpha || c = '-' then do
        bumpBlanks
        scanBoundaryName fuel (c :: name)
      else return name.reverse
    | none => failure

/-- The kind of word boundary after `\b`: a name in braces, unless what stands in the braces is the
bound of a repetition. -/
def scanBoundary : Scan WordPlace := do
  if (← peek) != some '\x7b' then return .boundary
  let start ← get
  bumpBlanks
  let c ← next
  if c.isAlpha || c = '-' then
    let name ← scanBoundaryName ((← get).rest.length + 1) []
    expect '\x7d'
    match String.ofList name with
    | "start" => return .start
    | "end" => return .finish
    | "start-half" => return .startHalf
    | "end-half" => return .finishHalf
    | _ => failure
  else
    set start
    return .boundary

/-- Collects what stands in braces, up to the closing one. -/
def scanBracedName : Nat → List Char → Scan (List Char)
  | 0, _ => failure
  | fuel + 1, name => do
    bumpBlanks
    let c ← next
    if c = '\x7d' then return name.reverse else scanBracedName fuel (c :: name)

/-- What stands before the first occurrence of a sign, and what stands behind it. -/
def cutAt? (sign : List Char) : List Char → Option (List Char × List Char)
  | [] => none
  | c :: cs =>
    if sign.isPrefixOf (c :: cs) then some ([], (c :: cs).drop sign.length)
    else (cutAt? sign cs).map fun (before, behind) => (c :: before, behind)

/-- The characters with a property, which is written without the braces around it, if it is known. A
property and its value may also be said not to go together. -/
def writtenProperty? (name : List Char) (negated : Bool) : Option Ast :=
  match cutAt? ['!', '='] name with
  | some (name, value) => (propertyValue? name value).map (.property · !negated)
  | none =>
    match cutAt? [':'] name <|> cutAt? ['='] name with
    | some (name, value) => (propertyValue? name value).map (.property · negated)
    | none => (property? name).map (.property · negated)

/-- The characters with a property, behind the letter that says whether those are meant which have
it. The name of the property is a single character or stands in braces. -/
def scanProperty (negated : Bool) : Scan Ast := do
  skipBlanks
  let c ← next
  let name ← if c = '\x7b' then do
      let name ← scanBracedName ((← get).rest.length + 1) []
      bump
      pure name
    else do
      bumpBlanks
      pure [c]
  match writtenProperty? name negated with
  | some item => return item
  | none => failure

/-- What a backslash and the characters behind it stand for. -/
def scanEscape : Scan Ast := do
  bump
  let c ← next
  match c with
  | 'x' => scanCodePoint 2
  | 'u' => scanCodePoint 4
  | 'U' => scanCodePoint 8
  | _ =>
    bump
    match c with
    | 'd' => return .letter .digit false
    | 'D' => return .letter .digit true
    | 's' => return .letter .space false
    | 'S' => return .letter .space true
    | 'w' => return .letter .word false
    | 'W' => return .letter .word true
    | 'p' => scanProperty false
    | 'P' => scanProperty true
    | 'a' => return .literal '\x07' false
    | 'f' => return .literal '\x0c' false
    | 't' => return .literal '\t' false
    | 'n' => return .literal '\n' false
    | 'r' => return .literal '\r' false
    | 'v' => return .literal '\x0b' false
    | 'A' => return .anchor .textStart
    | 'z' => return .anchor .textEnd
    | 'b' => return .anchor (.word (← scanBoundary))
    | 'B' => return .anchor (.word .inside)
    | '<' => return .anchor (.word .start)
    | '>' => return .anchor (.word .finish)
    | _ => if isEscapable c then return .literal c false else failure

/-! ### Classes in brackets -/

/-- The classes that have a name between colons. -/
def namedRanges? : String → Option Text.RangeTable
  | "alnum" => some [(0x30, 0x39), (0x41, 0x5a), (0x61, 0x7a)]
  | "alpha" => some [(0x41, 0x5a), (0x61, 0x7a)]
  | "ascii" => some [(0, 0x7f)]
  | "blank" => some [(9, 9), (0x20, 0x20)]
  | "cntrl" => some [(0, 0x1f), (0x7f, 0x7f)]
  | "digit" => some [(0x30, 0x39)]
  | "graph" => some [(0x21, 0x7e)]
  | "lower" => some [(0x61, 0x7a)]
  | "print" => some [(0x20, 0x7e)]
  | "punct" => some [(0x21, 0x2f), (0x3a, 0x40), (0x5b, 0x60), (0x7b, 0x7e)]
  | "space" => some [(9, 0xd), (0x20, 0x20)]
  | "upper" => some [(0x41, 0x5a)]
  | "word" => some [(0x30, 0x39), (0x41, 0x5a), (0x5f, 0x5f), (0x61, 0x7a)]
  | "xdigit" => some [(0x30, 0x39), (0x41, 0x46), (0x61, 0x66)]
  | _ => none

/-- A class with a name between colons, and what follows it, if that is what comes next. -/
def namedClass? : List Char → Option (ClassSet × List Char)
  | '[' :: ':' :: cs =>
    let (negated, cs) := match cs with
      | '^' :: cs => (true, cs)
      | cs => (false, cs)
    match cs.dropWhile (· ≠ ':') with
    | ':' :: ']' :: rest =>
      (namedRanges? (String.ofList (cs.takeWhile (· ≠ ':')))).map fun ranges =>
        (.named ranges negated, rest)
    | _ => none
  | _ => none

/-- A single item of a class: a character or an escape. -/
def scanClassItem : Scan Ast := do
  let c ← next
  if c = '\\' then scanEscape
  else
    bump
    return .literal c false

/-- What an item of a class stands for, if it is one. -/
def classItem? : Ast → Option ClassSet
  | .literal c byte => some (.literal c byte)
  | .letter kind negated => some (.letter kind negated)
  | .property members negated => some (.property members negated)
  | _ => none

/-- An item of a class, or a range between two characters. -/
def scanClassRange : Scan ClassSet := do
  let first ← scanClassItem
  skipBlanks
  let c ← next
  let behind ← peekBlanks
  if c ≠ '-' ∨ behind = some ']' ∨ behind = some '-' then
    match classItem? first with
    | some item => return item
    | none => failure
  else
    bumpBlanks
    let last ← scanClassItem
    match first, last with
    | .literal a _, .literal b _ => if a ≤ b then return .range a b else failure
    | _, _ => failure

/-- Collects the hyphens with which a class may begin; each stands for itself. -/
def scanLeadingHyphens : Nat → List ClassSet → Scan (List ClassSet)
  | 0, _ => failure
  | fuel + 1, parts => do
    if (← next) = '-' then
      bumpBlanks
      scanLeadingHyphens fuel (.literal '-' false :: parts)
    else return parts

/-- The part before an operation, together with the operation. -/
abbrev PendingOperation := Option (SetOperation × ClassSet)

/-- Completes an operation with the part behind it. -/
def PendingOperation.complete (pending : PendingOperation) (part : ClassSet) : ClassSet :=
  match pending with
  | none => part
  | some (op, left) => .operation op left part

/-- The operation whose sign comes next, if one does. -/
def setOperation? : List Char → Option SetOperation
  | '&' :: '&' :: _ => some .intersection
  | '-' :: '-' :: _ => some .difference
  | '~' :: '~' :: _ => some .symmetricDifference
  | _ => none

/-- Reads what is left of a class up to its closing bracket. The parts since the last operation come
the last one first. -/
def scanClassBody : Nat → PendingOperation → List ClassSet → Scan ClassSet
  | 0, _, _ => failure
  | fuel + 1, pending, parts => do
    skipBlanks
    let s ← get
    match s.rest with
    | [] => failure
    | ']' :: _ =>
      bump
      return pending.complete (.ofParts parts.reverse)
    | '[' :: _ =>
      match namedClass? s.rest with
      | some (named, rest) =>
        set { s with rest }
        scanClassBody fuel pending (named :: parts)
      | none =>
        bumpBlanks
        let negated := (← next) = '^'
        if negated then bumpBlanks
        let opening ← scanLeadingHyphens fuel []
        let opening ← if opening.isEmpty && (← next) = ']' then do
            bumpBlanks
            pure [ClassSet.literal ']' false]
          else pure opening
        let body ← scanClassBody fuel none opening
        scanClassBody fuel pending (.bracketed negated body :: parts)
    | rest =>
      match setOperation? rest with
      | some op =>
        bump
        bump
        scanClassBody fuel (some (op, pending.complete (.ofParts parts.reverse))) []
      | none =>
        let part ← scanClassRange
        scanClassBody fuel pending (part :: parts)

/-- Reads a class in brackets. -/
def scanClass : Scan Ast := do
  bumpBlanks
  let negated := (← next) = '^'
  if negated then bumpBlanks
  let fuel := (← get).rest.length + 1
  let opening ← scanLeadingHyphens fuel []
  let opening ← if opening.isEmpty && (← next) = ']' then do
      bumpBlanks
      pure [ClassSet.literal ']' false]
    else pure opening
  return .bracketed negated (← scanClassBody fuel none opening)

/-! ### Groups -/

/-- Whether a character may stand in the name of a group. -/
def isNameChar (first : Bool) (c : Char) : Bool :=
  if first then c = '_' || Text.isAlphabetic c
  else c = '_' || c = '.' || c = '[' || c = ']' || Text.isAlphabetic c || Text.isNumeric c

/-- The name of a group, up to the closing angle bracket. -/
def scanGroupName : Scan Unit := do
  let s ← get
  let name := s.rest.takeWhile (· ≠ '>')
  let wellFormed := match name with
    | [] => false
    | c :: cs => isNameChar true c && cs.all (isNameChar false)
  if !wellFormed || s.names.contains name then failure
  match s.rest.drop name.length with
  | '>' :: rest => set { s with rest, names := name :: s.names }
  | _ => failure

/-- Collects flags up to the colon or the closing parenthesis, which it leaves in place. -/
def scanFlags : Nat → Bool → FlagSetting → Scan FlagSetting
  | 0, _, _ => failure
  | fuel + 1, unset, setting => do
    let c ← next
    if c = ':' ∨ c = ')' then
      return setting.reverse
    else if c = '-' then
      if unset then failure
      bump
      let behind ← next
      if behind = ':' ∨ behind = ')' then failure
      scanFlags fuel true setting
    else
      match Flag.ofChar? c with
      | some flag =>
        if setting.any (·.1 = flag) then failure
        bump
        scanFlags fuel unset ((flag, !unset) :: setting)
      | none => failure

/-- The value that a setting gives to a flag. -/
def FlagSetting.value? (setting : FlagSetting) (flag : Flag) : Option Bool :=
  (setting.find? (·.1 = flag)).map (·.2)

/-- How a parenthesis opens: flags for the rest of the enclosing group, or a group with flags of its
own. -/
inductive GroupOpening
  | setting (flags : FlagSetting)
  | group (flags : FlagSetting)

/-- Reads the opening of a group. -/
def scanGroupOpening : Scan GroupOpening := do
  bumpBlanks
  if ← bumpIf "?=" then failure
  if ← bumpIf "?!" then failure
  if ← bumpIf "?<=" then failure
  if ← bumpIf "?<!" then failure
  if (← bumpIf "?P<") || (← bumpIf "?<") then
    scanGroupName
    return .group []
  else if ← bumpIf "?" then
    let flags ← scanFlags ((← get).rest.length + 1) false []
    let c ← next
    bump
    if c = ')' then
      if flags.isEmpty then failure
      return .setting flags
    else return .group flags
  else return .group []

/-! ### Repetitions -/

/-- Collects the digits of a bound. -/
def scanBoundDigits : Nat → List Char → Scan (List Char)
  | 0, _ => failure
  | fuel + 1, digits => do
    match ← peek with
    | some c =>
      if c.isDigit then do
        bumpBlanks
        scanBoundDigits fuel (c :: digits)
      else return digits.reverse
    | none => return digits.reverse

/-- Passes over blanks, also where they count. -/
def skipAllBlanks : Scan Unit := modify fun s => { s with rest := s.rest.dropWhile Text.isBlank }

/-- A bound of a repetition: a number below `2 ^ 32`, with blanks around it; `none` if there are no
digits. -/
def scanBound : Scan (Option Nat) := do
  skipAllBlanks
  let digits ← scanBoundDigits ((← get).rest.length + 1) []
  skipAllBlanks
  skipBlanks
  if digits.isEmpty then return none
  let n := digits.foldl (fun n d => 10 * n + (d.toNat - 48)) 0
  if n < 4294967296 then return some n else failure

/-- The bounds in braces. -/
def scanBounds : Scan (Nat × Option Nat) := do
  bumpBlanks
  let least ← scanBound
  let c ← next
  let bounds ← if c = ',' then do
      bumpBlanks
      if (← next) = '\x7d' then
        match least with
        | some n => pure (n, none)
        | none => failure
      else
        match least, ← scanBound with
        | some n, some m => pure (n, some m)
        | _, _ => failure
    else
      match least with
      | some n => pure (n, some n)
      | none => failure
  if (← next) ≠ '\x7d' then failure
  bumpBlanks
  if (← peek) = some '?' then bump
  match bounds with
  | (n, some m) => if n ≤ m then return bounds else failure
  | _ => return bounds

/-- The item of which a repetition is made: the last one, the items coming the last one first. -/
def lastItem : List Ast → Scan (Ast × List Ast)
  | item :: items => if item.isRepeatable then return (item, items) else failure
  | [] => failure

/-- Passes over the sign of a repetition and the mark that makes it take as little as possible. -/
def bumpRepetition : Scan Unit := do
  bump
  if (← peek) = some '?' then bump

/-! ### Patterns -/

/-- Reads alternatives up to the end of the group. The items of the alternative at hand and the
alternatives before it come the last one first. -/
def scanAlternatives : Nat → List Ast → List Ast → Scan Ast
  | 0, _, _ => failure
  | fuel + 1, done, items => do
    skipBlanks
    match ← peek with
    | none => return .ofAlternatives (.ofItems items.reverse :: done).reverse
    | some c =>
      match c with
      | ')' => return .ofAlternatives (.ofItems items.reverse :: done).reverse
      | '|' =>
        bump
        scanAlternatives fuel (.ofItems items.reverse :: done) []
      | '(' =>
        let before := (← get).verbose
        match ← scanGroupOpening with
        | .setting flags =>
          modify fun s => { s with verbose := (flags.value? .verbose).getD before }
          scanAlternatives fuel done (.flags flags :: items)
        | .group flags =>
          modify fun s => { s with verbose := (flags.value? .verbose).getD before }
          let body ← scanAlternatives fuel [] []
          modify fun s => { s with verbose := before }
          expect ')'
          scanAlternatives fuel done (.group flags body :: items)
      | '[' =>
        let item ← scanClass
        scanAlternatives fuel done (item :: items)
      | '?' =>
        let (item, items) ← lastItem items
        bumpRepetition
        scanAlternatives fuel done (.repetition item 0 (some 1) :: items)
      | '*' =>
        let (item, items) ← lastItem items
        bumpRepetition
        scanAlternatives fuel done (.repetition item 0 none :: items)
      | '+' =>
        let (item, items) ← lastItem items
        bumpRepetition
        scanAlternatives fuel done (.repetition item 1 none :: items)
      | '\x7b' =>
        let (item, items) ← lastItem items
        let (least, most) ← scanBounds
        scanAlternatives fuel done (.repetition item least most :: items)
      | '\\' =>
        let item ← scanEscape
        scanAlternatives fuel done (item :: items)
      | '.' =>
        bump
        scanAlternatives fuel done (.dot :: items)
      | '^' =>
        bump
        scanAlternatives fuel done (.anchor .caret :: items)
      | '$' =>
        bump
        scanAlternatives fuel done (.anchor .dollar :: items)
      | _ =>
        bump
        scanAlternatives fuel done (.literal c false :: items)

/-- Reads a pattern. -/
def parse? (pattern : String) : Option Ast := do
  let cs := pattern.toList
  let (ast, s) ← (scanAlternatives (cs.length + 1) [] []).run { rest := cs }
  if s.rest.isEmpty && ast.depth ≤ 250 then some ast else none

end Trisect.Pattern
