import Trisect.Oracle.Round

/-!
# Taking turns

A session runs several oracles in turn, one a round. A `Trisect.Rotation` is a list of oracles with
a mark at the one whose turn it is; the mark moves on with every round, however the round ends, and
goes back to the first oracle behind the last.
-/

namespace Trisect

/-- Oracles that take turns. -/
structure Rotation where
  oracles : List Oracle
  /-- The position of the oracle whose turn it is. -/
  next : Nat
  /-- There is such an oracle. -/
  next_lt : next < oracles.length

namespace Rotation

/-- A rotation that begins with the first oracle of a list. -/
def ofList : List Oracle → Except OracleError Rotation
  | [] => .error (.invalidArgument "composite oracle needs at least one oracle")
  | o :: os => .ok ⟨o :: os, 0, by simp⟩

/-- A rotation of one oracle for each kind. -/
def ofKinds (kinds : List OracleKind) (errors : ExpectedErrors) (dialect : Dialect) :
    Except OracleError Rotation :=
  ofList (kinds.map fun k => ⟨k, errors, dialect⟩)

/-- The oracle whose turn it is. -/
def current (r : Rotation) : Oracle := r.oracles.get ⟨r.next, r.next_lt⟩

/-- The rotation when its oracle has had its turn. -/
def advance (r : Rotation) : Rotation :=
  ⟨r.oracles, (r.next + 1) % r.oracles.length,
    Nat.mod_lt _ (Nat.lt_of_le_of_lt (Nat.zero_le _) r.next_lt)⟩

end Rotation

end Trisect
