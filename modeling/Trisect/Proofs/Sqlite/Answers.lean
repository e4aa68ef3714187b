import Trisect.Proofs.Session.Validated
import Trisect.Proofs.Sqlite.Exact
import Trisect.Sqlite.Connection

/-!
# What SQLite answers

The rows of a result are fetched one by one, and every step may fail. Either none does, and then the
rows give a list of values (`Trisect.Sqlite.Rows.Gives`), or there is a first failure
(`Trisect.Sqlite.Rows.Breaks`); there is no third way (`Trisect.Sqlite.Rows.gives_or_breaks`). In
the first case the answer has a cell for each value, in the order of the rows. In the second it is
that failure, whatever was read before it. So is what a session collects of it
(`Trisect.Sqlite.collected_of_gives`): the cells are those of which a comparison knows the values,
as far as these are exact. A value that cannot be converted only skips the round
(`Trisect.Sqlite.collected_of_unconvertible`).
-/

namespace Trisect.Sqlite

variable {δ : Type}

/-! ### Rows -/

namespace Rows

/-- All rows can be fetched, and these are their first values. -/
inductive Gives : Rows δ → List Value → δ → Prop
  | done (db : δ) : Gives (.done db) [] db
  | row {r : Row} {db db' : δ} {rest : Rows δ} {v : Value} {vs : List Value}
      (hv : r.value 0 = .ok v) (hrest : Gives rest vs db') : Gives (.row r db rest) (v :: vs) db'

/-- This is the first failure, in a row or in its first value. -/
inductive Breaks : Rows δ → Failure → δ → Prop
  | broken (e : Failure) (db : δ) : Breaks (.broken e db) e db
  | value {r : Row} {db : δ} {rest : Rows δ} {e : Failure} (he : r.value 0 = .error e) :
      Breaks (.row r db rest) e db
  | row {r : Row} {db db' : δ} {rest : Rows δ} {v : Value} {e : Failure} (hv : r.value 0 = .ok v)
      (hrest : Breaks rest e db') : Breaks (.row r db rest) e db'

theorem gives_or_breaks (rows : Rows δ) :
    (∃ vs db, rows.Gives vs db) ∨ ∃ e db, rows.Breaks e db := by
  induction rows with
  | done db => exact .inl ⟨[], db, .done db⟩
  | broken e db => exact .inr ⟨e, db, .broken e db⟩
  | row r db rest ih =>
    cases hv : r.value 0 with
    | error e => exact .inr ⟨e, db, .value hv⟩
    | ok v =>
      obtain ⟨vs, db', hrest⟩ | ⟨e, db', hrest⟩ := ih
      · exact .inl ⟨v :: vs, db', .row hv hrest⟩
      · exact .inr ⟨e, db', .row hv hrest⟩

variable {rows : Rows δ} {vs : List Value} {e : Failure} {db : δ}

theorem readAll_of_gives (h : rows.Gives vs db) :
    rows.readAll (fun r => (r.value 0).map Value.toCell) = (.ok (vs.map Value.toCell), db) := by
  induction h with
  | done db => rfl
  | row hv _ ih =>
    rw [readAll, hv, ih]
    rfl

theorem readAll_of_breaks (h : rows.Breaks e db) :
    rows.readAll (fun r => (r.value 0).map Value.toCell) = (.error e, db) := by
  induction h with
  | broken e db => rfl
  | value he =>
    rw [readAll, he]
    rfl
  | row hv _ ih =>
    rw [readAll, hv, ih]
    rfl

end Rows

/-! ### Answers -/

/-- **Everything is answered.** -/
theorem steady_connection (lib : Library δ) : (connection lib).Steady :=
  ⟨fun _ _ => rfl, fun _ _ => rfl, fun _ => rfl, fun _ => rfl⟩

section Queries

variable {lib : Library δ} {sql : String} {db db' : δ} {n : Nat} {vs ws : List Value} {e : Failure}

/-- A statement without result columns is not run. -/
theorem query_of_no_columns (h : lib.prepare sql db = .ok 0) :
    (connection lib).query sql db = (some (.ok .noResultSet), db) := by
  change told (lib.firstColumn sql db) = _
  rw [Library.firstColumn, h]
  rfl

/-- **The answer has a cell for each row.** -/
theorem query_of_gives (hprepare : lib.prepare sql db = .ok (n + 1))
    (hrows : (lib.rows sql [] db).Gives vs db') :
    (connection lib).query sql db = (some (.ok (.rows (vs.map Value.toCell))), db') := by
  change told (lib.firstColumn sql db) = _
  rw [Library.firstColumn, hprepare, Rows.readAll_of_gives hrows]
  rfl

/-- **The first failure is the answer**, whatever was read before it. -/
theorem query_of_breaks (hprepare : lib.prepare sql db = .ok (n + 1))
    (hrows : (lib.rows sql [] db).Breaks e db') :
    (connection lib).query sql db = (some (.error e.engineError), db') := by
  change told (lib.firstColumn sql db) = _
  rw [Library.firstColumn, hprepare, Rows.readAll_of_breaks hrows]
  rfl

/-- What a session collects of rows that can be fetched are their values in normal form. -/
theorem collected_of_gives (errors : ExpectedErrors) (hprepare : lib.prepare sql db = .ok (n + 1))
    (hrows : (lib.rows sql [] db).Gives vs db') :
    ((connection lib).query sql db).1.map (collected sql errors) =
      some (.ok (collectedCells vs)) := by
  rw [query_of_gives hprepare hrows]
  rfl

/-- **A value that cannot be converted** leaves nothing to collect, and the round is skipped. -/
theorem collected_of_unconvertible (errors : ExpectedErrors) {text : String}
    (hprepare : lib.prepare sql db = .ok (n + 1))
    (hrows : (lib.rows sql [] db).Breaks (.conversion text) db') :
    ((connection lib).query sql db).1.map (collected sql errors) =
      some (.error (.skip .valueConversion)) := by
  rw [query_of_breaks hprepare hrows]
  rfl

end Queries

end Trisect.Sqlite
