import Trisect.Pattern.CharSet
import Trisect.Pattern.Expr
import Trisect.Pattern.Syntax

/-!
# What the written form of a pattern means

`Trisect.Pattern.Ast.meaning?` turns the written form of a pattern into an expression over character
sets and assertions. This is where flags take effect: they change what a literal, a dot, a class and
an anchor stand for, in the rest of the group in which they are set.

Without the flag for Unicode a pattern may ask for single bytes, which a text cannot be matched
against; such patterns have no meaning. Nor may it ask for a property of Unicode then.
-/

namespace Trisect.Pattern

/-- The flags that are in force. -/
structure Flags where
  insensitive : Bool := false
  multiLine : Bool := false
  dotAll : Bool := false
  unicode : Bool := true
  anyLineEnd : Bool := false

/-- The flags after a setting. -/
def Flags.apply (flags : Flags) : FlagSetting → Flags
  | [] => flags
  | (flag, value) :: rest =>
    Flags.apply
      (match flag with
        | .insensitive => { flags with insensitive := value }
        | .multiLine => { flags with multiLine := value }
        | .dotAll => { flags with dotAll := value }
        | .unicode => { flags with unicode := value }
        | .anyLineEnd => { flags with anyLineEnd := value }
        | .swapGreed | .verbose => flags)
      rest

/-- A set closed under case, if case does not matter. -/
def Flags.fold (flags : Flags) (a : CharSet) : CharSet :=
  if flags.insensitive then (if flags.unicode then .anyCase a else .anyAsciiCase a) else a

/-- The class of a letter. -/
def LetterClass.charSet (unicode : Bool) : LetterClass → CharSet
  | .digit => if unicode then .digit else .range '0' '9'
  | .space => if unicode then .space else .table [(9, 0xd), (0x20, 0x20)]
  | .word =>
    if unicode then .word else .table [(0x30, 0x39), (0x41, 0x5a), (0x5f, 0x5f), (0x61, 0x7a)]

/-- Whether a literal stands for a character, and not for a byte. -/
def isCharacter (flags : Flags) (c : Char) (byte : Bool) : Bool :=
  flags.unicode || !byte || c.toNat < 128

mutual

/-- The characters of a class in brackets; `none` if it has no meaning. -/
def ClassSet.charSet? (flags : Flags) : ClassSet → Option CharSet
  | .empty => some .empty
  | .literal c _ => if flags.unicode || c.toNat < 128 then some (.single c) else none
  | .range a b => if flags.unicode || b.toNat < 128 then some (.range a b) else none
  | .letter kind negated =>
    if negated && !flags.unicode then none
    else some (.signed negated (kind.charSet flags.unicode))
  | .property members negated =>
    if flags.unicode then some (.signed negated (flags.fold members)) else none
  | .named ranges negated =>
    if negated && !flags.unicode then none
    else some (.signed negated (flags.fold (.table ranges)))
  | .bracketed negated body =>
    if negated && !flags.unicode then none
    else (body.charSet? flags).map fun a => .signed negated (flags.fold a)
  | .union parts => unionOf? flags parts
  | .operation op left right => do
    let a := flags.fold (← left.charSet? flags)
    let b := flags.fold (← right.charSet? flags)
    match op with
    | .intersection => return .inter a b
    | .difference => return .diff a b
    | .symmetricDifference => return .symmDiff a b

/-- The characters of the parts of a class taken together. -/
def unionOf? (flags : Flags) : List ClassSet → Option CharSet
  | [] => some .empty
  | part :: parts => do return .union (← part.charSet? flags) (← unionOf? flags parts)

end

/-- The characters that a dot stands for. -/
def Flags.dot (flags : Flags) : CharSet :=
  if flags.dotAll then .complement .empty
  else if flags.anyLineEnd then .complement (.union (.single '\n') (.single '\r'))
  else .complement (.single '\n')

/-- The assertion of an anchor. -/
def AnchorSign.assertion (flags : Flags) : AnchorSign → Assertion
  | .caret =>
    if flags.multiLine then (if flags.anyLineEnd then .lineStartAnyEnd else .lineStart)
    else .textStart
  | .dollar =>
    if flags.multiLine then (if flags.anyLineEnd then .lineEndAnyEnd else .lineEnd) else .textEnd
  | .textStart => .textStart
  | .textEnd => .textEnd
  | .word place => .word place !flags.unicode

/-- A pattern over character sets and assertions. -/
abbrev Meaning := Expr CharSet Assertion

/-- A repetition between two bounds. What matches only the empty text is repeated at most once. -/
def repetition (p : Meaning) (least : Nat) (most : Option Nat) : Meaning :=
  if p.isWidthless then .times p (min least 1) (min (most.getD 1) 1 - min least 1)
  else
    match most with
    | some most => .times p least (most - least)
    | none => if least = 0 then .star p else .seq (.times p least 0) (.star p)

mutual

/-- The meaning of a pattern under the flags in force, and the flags in force after it. -/
def Ast.meaningUnder? (flags : Flags) : Ast → Option (Meaning × Flags)
  | .empty => some (.nothing, flags)
  | .flags setting => some (.nothing, flags.apply setting)
  | .literal c byte =>
    if isCharacter flags c byte then some (.consume (flags.fold (.single c)), flags) else none
  | .dot => if flags.unicode then some (.consume flags.dot, flags) else none
  | .anchor sign => some (.look (sign.assertion flags), flags)
  | .letter kind negated =>
    if negated && !flags.unicode then none
    else some (.consume (.signed negated (kind.charSet flags.unicode)), flags)
  | .property members negated =>
    if flags.unicode then some (.consume (.signed negated (flags.fold members)), flags) else none
  | .bracketed negated body =>
    if negated && !flags.unicode then none
    else (body.charSet? flags).map fun a => (.consume (.signed negated (flags.fold a)), flags)
  | .repetition body least most =>
    (body.meaningUnder? flags).map fun (p, flags) => (repetition p least most, flags)
  | .group setting body =>
    (body.meaningUnder? (flags.apply setting)).map fun (p, _) => (p, flags)
  | .alternation parts =>
    (meaningsUnder? flags parts).map fun (ps, flags) => (Expr.alternativesOf ps, flags)
  | .sequence parts =>
    (meaningsUnder? flags parts).map fun (ps, flags) => (Expr.sequence ps, flags)

/-- The meanings of a list of patterns, the flags of one being in force in the next. -/
def meaningsUnder? (flags : Flags) : List Ast → Option (List Meaning × Flags)
  | [] => some ([], flags)
  | part :: parts => do
    let (p, flags) ← part.meaningUnder? flags
    let (ps, flags) ← meaningsUnder? flags parts
    return (p :: ps, flags)

end

/-- The meaning of a pattern, if it has one. -/
def Ast.meaning? (ast : Ast) : Option Meaning := (ast.meaningUnder? {}).map (·.1)

/-! ### Size -/

/-- Roughly how many bytes a machine for a pattern takes. -/
def Meaning.size : Meaning → Nat
  | .nothing => 32
  | .consume a => 32 * a.weight
  | .look _ => 32
  | .seq p q => Meaning.size p + Meaning.size q
  | .alt p q => Meaning.size p + Meaning.size q + 32
  | .star p => Meaning.size p + 32
  | .times p least more => least * Meaning.size p + more * (Meaning.size p + 32)

/-- The largest machine that is built. -/
def sizeLimit : Nat := 10485760

end Trisect.Pattern
