import Trisect.Config.Dialect
import Trisect.Oracle.Kind

/-!
# Options of a session

`Trisect.SessionOptions` says how a session is run. Several sessions can be run side by side; each
of these workers has options of its own (`Trisect.SessionOptions.forWorker`), with a name and a seed
that no other worker has, so that neither their logs nor their replays collide.
-/

namespace Trisect

/-- How a session is run. -/
structure SessionOptions where
  databaseName : String := "db0"
  seed : UInt64 := 0
  /-- How many rounds are run; skipped ones count. -/
  rounds : UInt64 := 100
  /-- How many sessions are run side by side. -/
  sessions : UInt64 := 1
  /-- How many tables a random database has. -/
  tables : UInt64 := 2
  /-- Whether every statement is noted before it is sent. -/
  logEachSelect : Bool := false
  /-- The oracles that take turns. -/
  oracles : List OracleKind := OracleKind.all
  /-- How deeply connectives are nested in random conditions. -/
  maxExpressionDepth : UInt64 := 2
  /-- Where logs and reports go; without it they are thrown away. -/
  logDirectory : Option String := none
  deriving DecidableEq

/-- Scatters a word: a fixed sum, and then alternately a shift that is folded in and a factor, all
of which can be undone. -/
def scatter (x : UInt64) : UInt64 :=
  let x := x + 0x9e3779b97f4a7c15
  let x := (x ^^^ (x >>> 30)) * 0xbf58476d1ce4e5b9
  let x := (x ^^^ (x >>> 27)) * 0x94d049bb133111eb
  x ^^^ (x >>> 31)

/-- The seed of a worker. -/
def workerSeed (seed worker : UInt64) : UInt64 := scatter (seed ^^^ (worker <<< 1))

/-- The options of a worker. A session that is alone keeps its name and its seed. -/
def SessionOptions.forWorker (o : SessionOptions) (index : Nat) : SessionOptions :=
  if o.sessions ≤ 1 then { o with sessions := 1 }
  else
    { o with
      databaseName := o.databaseName ++ "-" ++ toString index
      seed := workerSeed o.seed (UInt64.ofNat index)
      sessions := 1 }

end Trisect
