/-!
# Pattern expressions and how they match

A pattern is run over a text as a **set of positions**: where it could have begun, and then, part by
part, where it could have come to. A position is a number of characters from the start, and a set of
positions is a natural number, one bit a position. In this way a match is found in one pass over the
parts, however many ways there are to match them.

`Trisect.Pattern.Expr` is a pattern over leaves of two kinds: leaves that consume one character, and
leaves that only look at a position. In the pattern that the parser makes, the leaves say what they
look for; `Trisect.Pattern.Expr.resolve` replaces them, for a given text, by the positions where
they hold, and `Trisect.Pattern.Expr.advance` runs the result.
-/

namespace Trisect.Pattern

/-- A pattern whose leaves consume a character (`α`) or look at a position (`β`). -/
inductive Expr (α β : Type)
  /-- The empty text. -/
  | nothing
  /-- One character. -/
  | consume (a : α)
  /-- No character, at a position of a certain kind. -/
  | look (b : β)
  /-- One after the other. -/
  | seq (p q : Expr α β)
  /-- One or the other. -/
  | alt (p q : Expr α β)
  /-- Any number of times. -/
  | star (p : Expr α β)
  /-- As often as the first number says, and at most as many more times as the second one. -/
  | times (p : Expr α β) (least more : Nat)

namespace Expr

variable {α β : Type}

/-- Replaces the leaves. -/
def resolve {γ δ : Type} (f : α → γ) (g : β → δ) : Expr α β → Expr γ δ
  | nothing => nothing
  | consume a => consume (f a)
  | look b => look (g b)
  | seq p q => seq (p.resolve f g) (q.resolve f g)
  | alt p q => alt (p.resolve f g) (q.resolve f g)
  | star p => star (p.resolve f g)
  | times p least more => times (p.resolve f g) least more

/-- Whether a pattern matches the empty text only, if it matches at all. -/
def isWidthless : Expr α β → Bool
  | nothing => true
  | consume _ => false
  | look _ => true
  | seq p q | alt p q => p.isWidthless && q.isWidthless
  | star p => p.isWidthless
  | times p least more => p.isWidthless || (least = 0 && more = 0)

/-- Adds to a set what is reached from it, until nothing new is reached, at most `n` times. -/
def closure (advance : Nat → Nat) : Nat → Nat → Nat
  | 0, s => s
  | n + 1, s =>
    let t := s ||| advance s
    if t = s then s else closure advance n t

/-- What is reached by exactly `n` passes. -/
def repeated (advance : Nat → Nat) : Nat → Nat → Nat
  | 0, s => s
  | n + 1, s => if s = 0 then 0 else repeated advance n (advance s)

/-- What is reached by at most `n` passes. -/
def upTo (advance : Nat → Nat) : Nat → Nat → Nat
  | 0, s => s
  | n + 1, s => if s = 0 then 0 else s ||| upTo advance n (advance s)

/-- The positions that a pattern reaches from a set of positions in a text of the given length. -/
def advance (length : Nat) : Expr Nat Nat → Nat → Nat
  | nothing, s => s
  | consume a, s => (s &&& a) <<< 1
  | look b, s => s &&& b
  | seq p q, s => q.advance length (p.advance length s)
  | alt p q, s => p.advance length s ||| q.advance length s
  | star p, s => closure (fun t => p.advance length t) (length + 1) s
  | times p least more, s =>
    upTo (fun t => p.advance length t) more (repeated (fun t => p.advance length t) least s)

/-- One of the members of a list. -/
def alternativesOf : List (Expr α β) → Expr α β
  | [] => nothing
  | [p] => p
  | p :: ps => alt p (alternativesOf ps)

/-- The members of a list one after the other. -/
def sequence : List (Expr α β) → Expr α β
  | [] => nothing
  | [p] => p
  | p :: ps => seq p (sequence ps)

end Expr

/-- The set of the positions below `n` for which a list of truth values says so, from the first on.
-/
def positions (flags : List Bool) : Nat :=
  flags.foldr (fun b n => 2 * n + if b then 1 else 0) 0

end Trisect.Pattern
