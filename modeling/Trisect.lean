import Trisect.Cell
import Trisect.Collection
import Trisect.Combining
import Trisect.Comparison
import Trisect.Config.Configuration
import Trisect.Config.Dialect
import Trisect.Config.Loading
import Trisect.Config.Options
import Trisect.Decimal.Closeness
import Trisect.Decimal.Plain
import Trisect.Decimal.Range
import Trisect.Decimal.Shortest
import Trisect.Dialogue
import Trisect.Document
import Trisect.Document.Configuration
import Trisect.Document.Decoding
import Trisect.Document.Json.Numeral
import Trisect.Document.Json.Reading
import Trisect.Document.Json.Text
import Trisect.Document.Json.Writing
import Trisect.Document.Report
import Trisect.Document.Summary
import Trisect.Document.Toml.Numeral
import Trisect.Document.Toml.Reading
import Trisect.Document.Toml.Table
import Trisect.Document.Toml.Text
import Trisect.Engine
import Trisect.Error
import Trisect.ExpectedErrors
import Trisect.Hash.Sha256
import Trisect.Oracle.Kind
import Trisect.Oracle.Rotation
import Trisect.Oracle.Round
import Trisect.Pattern
import Trisect.Pattern.Assertion
import Trisect.Pattern.CharSet
import Trisect.Pattern.Expr
import Trisect.Pattern.Meaning
import Trisect.Pattern.Parsing
import Trisect.Pattern.Property
import Trisect.Pattern.Regular
import Trisect.Pattern.Syntax
import Trisect.Proofs.Path
import Trisect.Random.ChaCha
import Trisect.Random.Draw
import Trisect.Random.Uniform
import Trisect.Report
import Trisect.Select
import Trisect.Session.Fleet
import Trisect.Session.Run
import Trisect.Session.State
import Trisect.Session.Summary
import Trisect.Session.World
import Trisect.Shape.Condition
import Trisect.Shape.Literal
import Trisect.Shape.Random
import Trisect.Shape.Source
import Trisect.Sqlite.Connection
import Trisect.Sqlite.Value
import Trisect.Storage.FileSystem
import Trisect.Storage.SessionLog
import Trisect.Text.Blank
import Trisect.Text.CaseFolding
import Trisect.Text.Categories
import Trisect.Text.Hex
import Trisect.Text.Letters
import Trisect.Text.Occurrence
import Trisect.Text.Printable
import Trisect.Text.Quoted
import Trisect.Text.RangeTable
import Trisect.Text.Scripts
import Trisect.Proofs.Sending
import Trisect.Proofs.Disagreement
import Trisect.Proofs.Round.Shape
import Trisect.Proofs.Round.Verdict
import Trisect.Proofs.Sql.Predicate
import Trisect.Proofs.Sql.Query
import Trisect.Proofs.Round.Soundness
import Trisect.Proofs.Sql.Aggregate
import Trisect.Proofs.Session.RowOrder
import Trisect.Proofs.Asking
import Trisect.Proofs.Round.Ending
import Trisect.Proofs.Session.Course
import Trisect.Proofs.Session.Accounting
import Trisect.Proofs.Session.Replay
import Trisect.Proofs.Session.Validated
import Trisect.Proofs.Storage.Place
import Trisect.Proofs.Fleet.Naming
import Trisect.Proofs.Fleet.Interleaving
import Trisect.Proofs.Fleet.Sharing
import Trisect.Proofs.Fleet.Site
import Trisect.Proofs.Fleet.Confined
import Trisect.Proofs.Fleet.Isolation
import Trisect.Proofs.Json.Token
import Trisect.Proofs.Json.Spelling
import Trisect.Proofs.Json.Parts
import Trisect.Proofs.Json.Report
import Trisect.Proofs.Json.Summary
import Trisect.Proofs.Watch
import Trisect.Proofs.Session.Noting
import Trisect.Proofs.Session.LogFirst
import Trisect.Proofs.Alike
import Trisect.Proofs.Session.Observation
import Trisect.Proofs.Round.Rules
import Trisect.Proofs.Leading
import Trisect.Proofs.Session.Accord
import Trisect.Proofs.Session.Budget
import Trisect.Proofs.Round.Deciding
import Trisect.Proofs.Round.Widening
import Trisect.Proofs.Session.Widening
import Trisect.Proofs.Session.SettingUp
import Trisect.Proofs.Storage.Contents
import Trisect.Proofs.Session.Hearing
import Trisect.Proofs.Session.Directory
import Trisect.Proofs.Matchers.Union
import Trisect.Proofs.Round.Clauses
import Trisect.Proofs.Comparing
import Trisect.Proofs.Random.Drawing
import Trisect.Proofs.Random.Range
import Trisect.Proofs.Shape.Conditions
import Trisect.Proofs.Shape.Base
import Trisect.Proofs.Shape.Calls
import Trisect.Proofs.Sql.Token
import Trisect.Proofs.Sql.Grammar
import Trisect.Proofs.Shape.Splicing
import Trisect.Proofs.Decimal.Normal
import Trisect.Proofs.Decimal.Projection
import Trisect.Proofs.Round.Forms
import Trisect.Proofs.Fleet.Seeds
import Trisect.Proofs.Reconstructing
import Trisect.Proofs.Reporting
import Trisect.Proofs.Sql.Catalog
import Trisect.Proofs.Shape.Database
import Trisect.Proofs.Round.Signs
import Trisect.Proofs.Sqlite.Exact
import Trisect.Proofs.Sqlite.Answers
import Trisect.Proofs.Session.Turns
import Trisect.Proofs.Session.Skipping
import Trisect.Proofs.Matchers.Loading
import Trisect.Proofs.Json.Overlay
import Trisect.Proofs.Shape.NulFree
import Trisect.Proofs.Fingerprint
