import Trisect.Config.Configuration
import Trisect.Document.Decoding

/-!
# Configurations as documents

A configuration is a record of the options of a session and a dialect. Every field of the three has
a default, so that a document says only what is different; as lists they may end early.
-/

namespace Trisect

namespace Dialect

/-- A dialect as a record. -/
def toDocument (d : Dialect) : Document := .record [
  ("name", .text d.name),
  ("bare_union", .boolean d.bareUnion),
  ("union_all_in_order_by_context", .boolean d.unionAllInOrderByContext),
  ("canonicalize_negative_zero", .boolean d.canonicalizeNegativeZero),
  ("expected_errors", .texts d.expectedErrors),
  ("expected_error_patterns", .texts d.expectedErrorPatterns)]

/-- The names of the fields of a dialect. -/
def fieldNames : List String :=
  ["name", "bare_union", "union_all_in_order_by_context", "canonicalize_negative_zero",
    "expected_errors", "expected_error_patterns"]

/-- The dialect of SQLite with what a document says differently. -/
def ofDocument? (format : Document.Format) (d : Document) : Option Dialect := do
  match ← d.overlay? format fieldNames with
  | [name, bareUnion, unionAll, negativeZero, errors, patterns] =>
    return {
      name := ← Document.orDefault sqlite.name Document.toText? name
      bareUnion := ← Document.orDefault sqlite.bareUnion Document.toBoolean? bareUnion
      unionAllInOrderByContext :=
        ← Document.orDefault sqlite.unionAllInOrderByContext Document.toBoolean? unionAll
      canonicalizeNegativeZero :=
        ← Document.orDefault sqlite.canonicalizeNegativeZero Document.toBoolean? negativeZero
      expectedErrors :=
        ← Document.orDefault sqlite.expectedErrors (Document.toListOf? Document.toText?) errors
      expectedErrorPatterns :=
        ← Document.orDefault sqlite.expectedErrorPatterns (Document.toListOf? Document.toText?)
          patterns }
  | _ => none

end Dialect

namespace SessionOptions

/-- Options as a record. -/
def toDocument (o : SessionOptions) : Document := .record [
  ("database_name", .text o.databaseName),
  ("seed", .natural o.seed.toNat),
  ("rounds", .natural o.rounds.toNat),
  ("sessions", .natural o.sessions.toNat),
  ("tables", .natural o.tables.toNat),
  ("log_each_select", .boolean o.logEachSelect),
  ("oracles", .texts (o.oracles.map OracleKind.tag)),
  ("max_expression_depth", .natural o.maxExpressionDepth.toNat),
  ("log_dir", .textOrNull o.logDirectory)]

/-- The names of the fields of options. -/
def fieldNames : List String :=
  ["database_name", "seed", "rounds", "sessions", "tables", "log_each_select", "oracles",
    "max_expression_depth", "log_dir"]

/-- A field that holds a word. -/
def word? (default : UInt64) (part : Option Document) : Option UInt64 :=
  Document.orDefault default (fun d => d.toWord?.map UInt64.ofNat) part

/-- The default options with what a document says differently. -/
def ofDocument? (format : Document.Format) (d : Document) : Option SessionOptions := do
  let default : SessionOptions := {}
  match ← d.overlay? format fieldNames with
  | [databaseName, seed, rounds, sessions, tables, logEachSelect, oracles, depth, directory] =>
    return {
      databaseName := ← Document.orDefault default.databaseName Document.toText? databaseName
      seed := ← word? default.seed seed
      rounds := ← word? default.rounds rounds
      sessions := ← word? default.sessions sessions
      tables := ← word? default.tables tables
      logEachSelect := ← Document.orDefault default.logEachSelect Document.toBoolean? logEachSelect
      oracles :=
        ← Document.orDefault default.oracles (Document.toListOf? (OracleKind.ofDocument? format))
          oracles
      maxExpressionDepth := ← word? default.maxExpressionDepth depth
      logDirectory :=
        ← Document.orDefault default.logDirectory (Document.toOptional? Document.toText?) directory }
  | _ => none

end SessionOptions

namespace Configuration

/-- A configuration as a record. -/
def toDocument (c : Configuration) : Document := .record [
  ("session", c.session.toDocument),
  ("dialect", c.dialect.toDocument)]

/-- The default configuration with what a document says differently. -/
def ofDocument? (format : Document.Format) (d : Document) : Option Configuration := do
  match ← d.overlay? format ["session", "dialect"] with
  | [session, dialect] =>
    return {
      session := ← Document.orDefault {} (SessionOptions.ofDocument? format) session
      dialect := ← Document.orDefault Dialect.sqlite (Dialect.ofDocument? format) dialect }
  | _ => none

end Configuration

end Trisect
