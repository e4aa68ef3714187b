/-!
# A stream of random words

Random choices are drawn from the stream of the ChaCha cipher with twelve rounds. The eight words of
the key are spread from a seed of sixty-four bits (`Trisect.Stream.ofSeed`); the blocks of the
cipher are counted from zero, and their sixteen words each are the stream, in order. The same seed
gives the same stream everywhere.
-/

namespace Trisect

/-- A position in a stream of random words. -/
structure Stream where
  /-- The eight words of the key. -/
  key : List UInt32
  /-- The number of the next block. -/
  block : UInt64
  /-- The words of the block before it that have not been drawn. -/
  pending : List UInt32

namespace ChaCha

/-- Turns a word to the left, the bits that leave it coming back on the right. -/
def rotateLeft (x : UInt32) (n : UInt32) : UInt32 := (x <<< n) ||| (x >>> (32 - n))

/-- The sixteen words of a block in the making. -/
abbrev Words := Array UInt32

/-- Stirs four of the words. -/
def quarterRound (a b c d : Nat) (w : Words) : Words :=
  let wa := w.getD a 0
  let wb := w.getD b 0
  let wc := w.getD c 0
  let wd := w.getD d 0
  let wa := wa + wb
  let wd := rotateLeft (wd ^^^ wa) 16
  let wc := wc + wd
  let wb := rotateLeft (wb ^^^ wc) 12
  let wa := wa + wb
  let wd := rotateLeft (wd ^^^ wa) 8
  let wc := wc + wd
  let wb := rotateLeft (wb ^^^ wc) 7
  (((w.setIfInBounds a wa).setIfInBounds b wb).setIfInBounds c wc).setIfInBounds d wd

/-- Two rounds: the four columns and then the four diagonals. -/
def doubleRound (w : Words) : Words :=
  let w := quarterRound 0 4 8 12 w
  let w := quarterRound 1 5 9 13 w
  let w := quarterRound 2 6 10 14 w
  let w := quarterRound 3 7 11 15 w
  let w := quarterRound 0 5 10 15 w
  let w := quarterRound 1 6 11 12 w
  let w := quarterRound 2 7 8 13 w
  quarterRound 3 4 9 14 w

/-- The words of a block of the stream for a key. -/
def block (key : List UInt32) (n : UInt64) : List UInt32 :=
  let start : Words :=
    (([0x61707865, 0x3320646e, 0x79622d32, 0x6b206574] : List UInt32) ++ key ++
      [n.toUInt32, (n >>> 32).toUInt32, 0, 0]).toArray
  let stirred := doubleRound (doubleRound (doubleRound (doubleRound (doubleRound
    (doubleRound start)))))
  List.zipWith (· + ·) start.toList stirred.toList

end ChaCha

namespace Stream

/-- Spreads a seed over a number of words, with a congruential generator and a permutation of its
output. -/
def spread : Nat → UInt64 → List UInt32
  | 0, _ => []
  | n + 1, s =>
    let s := s * 6364136223846793005 + 11634580027462260723
    let x := (((s >>> 18) ^^^ s) >>> 27).toUInt32
    let r := (s >>> 59).toUInt32
    ((x >>> r) ||| (x <<< ((32 - r) % 32))) :: spread n s

/-- The stream for a seed, at its beginning. -/
def ofSeed (seed : UInt64) : Stream := ⟨spread 8 seed, 0, []⟩

/-- The next word. -/
def next (s : Stream) : UInt32 × Stream :=
  match s.pending with
  | w :: ws => (w, { s with pending := ws })
  | [] =>
    match ChaCha.block s.key s.block with
    | w :: ws => (w, ⟨s.key, s.block + 1, ws⟩)
    | [] => (0, s)

/-- The next two words as one, the low half first. -/
def nextLong (s : Stream) : UInt64 × Stream :=
  let (low, s) := s.next
  let (high, s) := s.next
  (low.toUInt64 ||| (high.toUInt64 <<< 32), s)

end Stream

end Trisect
