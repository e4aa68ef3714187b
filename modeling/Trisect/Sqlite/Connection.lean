import Trisect.Session.World
import Trisect.Sqlite.Value

/-!
# Connections to SQLite

SQLite is used by way of a library, of which `Trisect.Sqlite.Library` has what is used. A statement
is prepared, which tells how many columns its result has; when it is run it gives its rows one after
the other (`Trisect.Sqlite.Rows`), and each row gives what stands in a column. On top of it stands
`Trisect.Sqlite.connection`, which a session talks to. A query that has no result columns is
prepared and not run, so that a deletion which is sent as a query deletes nothing. The tables are
listed with two queries, one for their names and one for the columns of each.

Whatever goes wrong is told to the session (`Trisect.Sqlite.Failure.engineError`); a connection does
not break down.
-/

namespace Trisect.Sqlite

/-! ### The library -/

/-- What the library says when it cannot do something. -/
inductive Failure
  /-- A value is not of the type that was asked for, or does not fit in it. -/
  | conversion (text : String)
  | other (text : String)

/-- What a session is told of a failure. -/
def Failure.engineError : Failure → EngineError
  | conversion text => .conversion text
  | other text => if text.isEmpty then .silent else .rejected text

/-- A row of a result: what is in its columns when a value is asked for, or a text. -/
structure Row where
  value : Nat → Except Failure Value
  text : Nat → Except Failure String

/-- The rows of a result as they are fetched, and the database after each step. -/
inductive Rows (δ : Type)
  /-- There are no more rows. -/
  | done (db : δ)
  /-- The next row cannot be fetched. -/
  | broken (e : Failure) (db : δ)
  | row (r : Row) (db : δ) (rest : Rows δ)

/-- **What is used of the library.** -/
structure Library (δ : Type) where
  version : String
  /-- Opens the database at a path. -/
  openAt : String → Except String δ
  /-- Makes a database in memory. -/
  openInMemory : Except String δ
  /-- Prepares a statement, and tells how many columns its result has. -/
  prepare : String → δ → Except Failure Nat
  /-- Runs a statement with texts for its parameters. -/
  rows : String → List String → δ → Rows δ
  /-- Runs statements one after the other for their effect. -/
  executeBatch : String → δ → Except Failure Unit × δ

/-- Reads all rows of a result. The first failure ends it, and no more rows are fetched. -/
def Rows.readAll {α δ : Type} (read : Row → Except Failure α) :
    Rows δ → Except Failure (List α) × δ
  | done db => (.ok [], db)
  | broken e db => (.error e, db)
  | row r db rest =>
    match read r with
    | .error e => (.error e, db)
    | .ok a =>
      let (answer, db) := readAll read rest
      (answer.map (a :: ·), db)

/-! ### The connection -/

variable {δ : Type}

/-- The statement that lists the names of all tables but those of the engine itself. -/
def namesQuery : String :=
  "SELECT name FROM sqlite_master WHERE type='table' AND name NOT LIKE 'sqlite_%' ORDER BY name"

/-- The statement that lists the columns of the table that is its parameter. -/
def columnsQuery : String := "SELECT name, type FROM pragma_table_info(?1) ORDER BY cid"

/-- The column that a row of the second statement is about. -/
def Row.column (r : Row) : Except Failure Column := do return ⟨← r.text 0, ← r.text 1⟩

namespace Library

variable (lib : Library δ)

/-- The first column of the result of a query. -/
def firstColumn (sql : String) (db : δ) : Except Failure QueryOutput × δ :=
  match lib.prepare sql db with
  | .error e => (.error e, db)
  | .ok 0 => (.ok .noResultSet, db)
  | .ok _ =>
    let (cells, db) := (lib.rows sql [] db).readAll fun r => (r.value 0).map Value.toCell
    (cells.map .rows, db)

/-- The tables with some names. -/
def tablesNamed : List String → δ → Except Failure (List Table) × δ
  | [], db => (.ok [], db)
  | name :: names, db =>
    match (lib.rows columnsQuery [name] db).readAll Row.column with
    | (.error e, db) => (.error e, db)
    | (.ok columns, db) =>
      let (tables, db) := tablesNamed names db
      (tables.map (⟨name, columns⟩ :: ·), db)

/-- The tables of a database and their columns. -/
def tables (db : δ) : Except Failure (List Table) × δ :=
  match lib.prepare namesQuery db with
  | .error e => (.error e, db)
  | .ok _ =>
    match (lib.rows namesQuery [] db).readAll fun r => r.text 0 with
    | (.error e, db) => (.error e, db)
    | (.ok names, db) =>
      match lib.prepare columnsQuery db with
      | .error e => (.error e, db)
      | .ok _ => lib.tablesNamed names db

end Library

/-- What a session is answered, and the database after it. -/
def told {α : Type} (p : Except Failure α × δ) : Option (Except EngineError α) × δ :=
  (some (p.1.mapError Failure.engineError), p.2)

/-- **A connection to SQLite.** -/
def connection (lib : Library δ) : Connection δ where
  query sql db := told (lib.firstColumn sql db)
  execute sql db := told (lib.executeBatch sql db)
  tables db := told (lib.tables db)
  version db := (some (some lib.version), db)

/-! ### Opening -/

/-- The error of a database that cannot be opened. -/
def openFailure (place detail : String) : OracleError :=
  .engine ("failed to open " ++ place ++ ": " ++ detail)

/-- Opens the database at a path. -/
def openAt (lib : Library δ) (path : String) : Except OracleError δ :=
  (lib.openAt path).mapError (openFailure path)

/-- Makes a database in memory. -/
def openInMemory (lib : Library δ) : Except OracleError δ :=
  lib.openInMemory.mapError (openFailure ":memory")

end Trisect.Sqlite
