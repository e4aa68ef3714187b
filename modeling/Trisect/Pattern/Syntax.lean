import Trisect.Pattern.Assertion
import Trisect.Pattern.CharSet

/-!
# The written form of patterns

`Trisect.Pattern.Ast` is a pattern as it is written, before flags have taken effect: groups and
flags are still there, and classes in brackets are trees of ranges, named classes and set
operations.
-/

namespace Trisect.Pattern

/-- The classes with a letter of their own. -/
inductive LetterClass
  | digit
  | space
  | word
  deriving DecidableEq

/-- The operations between the parts of a class in brackets. -/
inductive SetOperation
  | intersection
  | difference
  | symmetricDifference
  deriving DecidableEq

/-- What stands within the brackets of a class. -/
inductive ClassSet
  | empty
  /-- A character that was given by its code point in `byte` form may stand for a byte. -/
  | literal (c : Char) (byte : Bool)
  | range (first last : Char)
  | letter (kind : LetterClass) (negated : Bool)
  /-- The characters with a property. -/
  | property (members : CharSet) (negated : Bool)
  /-- A class with a name between colons. -/
  | named (ranges : Text.RangeTable) (negated : Bool)
  | bracketed (negated : Bool) (body : ClassSet)
  /-- Two or more parts. -/
  | union (parts : List ClassSet)
  | operation (op : SetOperation) (left right : ClassSet)

/-- A flag that can be set and unset within a pattern. -/
inductive Flag
  | insensitive
  | multiLine
  | dotAll
  | swapGreed
  | unicode
  | anyLineEnd
  | verbose
  deriving DecidableEq

/-- The letter of a flag. -/
def Flag.ofChar? : Char → Option Flag
  | 'i' => some .insensitive
  | 'm' => some .multiLine
  | 's' => some .dotAll
  | 'U' => some .swapGreed
  | 'u' => some .unicode
  | 'R' => some .anyLineEnd
  | 'x' => some .verbose
  | _ => none

/-- Flags with the value that they are given, in order. -/
abbrev FlagSetting := List (Flag × Bool)

/-- An assertion as it is written, before it is known whether lines and words of all scripts are
meant. -/
inductive AnchorSign
  | caret
  | dollar
  | textStart
  | textEnd
  | word (place : WordPlace)
  deriving DecidableEq

/-- A pattern as it is written. -/
inductive Ast
  | empty
  /-- Flags for the rest of the group. -/
  | flags (setting : FlagSetting)
  | literal (c : Char) (byte : Bool)
  | dot
  | anchor (sign : AnchorSign)
  | letter (kind : LetterClass) (negated : Bool)
  /-- The characters with a property. -/
  | property (members : CharSet) (negated : Bool)
  | bracketed (negated : Bool) (body : ClassSet)
  /-- The least number of times, and the greatest, if there is one. -/
  | repetition (body : Ast) (least : Nat) (most : Option Nat)
  /-- A group, with flags of its own. -/
  | group (setting : FlagSetting) (body : Ast)
  | alternation (parts : List Ast)
  | sequence (parts : List Ast)

namespace ClassSet

/-- Parts as one part. -/
def ofParts : List ClassSet → ClassSet
  | [] => empty
  | [part] => part
  | parts => union parts

mutual

/-- How deeply classes, unions and operations are nested. -/
def depth : ClassSet → Nat
  | bracketed _ body => depth body + 1
  | union parts => depthOfParts parts + 1
  | operation _ left right => max (depth left) (depth right) + 1
  | _ => 0

/-- The greatest depth in a list. -/
def depthOfParts : List ClassSet → Nat
  | [] => 0
  | part :: parts => max (depth part) (depthOfParts parts)

end

end ClassSet

namespace Ast

/-- Items as one item. -/
def ofItems : List Ast → Ast
  | [] => empty
  | [item] => item
  | items => sequence items

/-- Alternatives as one item. -/
def ofAlternatives : List Ast → Ast
  | [part] => part
  | parts => alternation parts

/-- Whether a repetition may follow. -/
def isRepeatable : Ast → Bool
  | empty => false
  | flags _ => false
  | _ => true

mutual

/-- How deeply a pattern is nested. -/
def depth : Ast → Nat
  | bracketed _ body => body.depth + 1
  | repetition body _ _ => depth body + 1
  | group _ body => depth body + 1
  | alternation parts => depthOfParts parts + 1
  | sequence parts => depthOfParts parts + 1
  | _ => 0

/-- The greatest depth in a list. -/
def depthOfParts : List Ast → Nat
  | [] => 0
  | part :: parts => max (depth part) (depthOfParts parts)

end

end Ast

end Trisect.Pattern
