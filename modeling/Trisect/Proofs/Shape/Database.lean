import Trisect.Proofs.Shape.Splicing
import Trisect.Proofs.Sql.Catalog

/-!
# Random databases

A random database is given as the statements that set it up. How many columns and rows its tables
have, of which types and with which values, is drawn from one stream, and so it is not to be seen
from the statements of one database whether they fit together in all of them.

What is drawn are tables of one to three columns, and up to six rows of as many values
(`Trisect.Sql.FilledTable.IsDrawn`). The texts are those of commands that create these tables and
fill them, one after the other; and as their names and literals are plain, an engine reads them as
these commands (`Trisect.Sql.Catalog.IsSetUpBy`). It accepts all of them, and comes to the tables
that were drawn. The main statement is `Trisect.RandomShapes.database_consistent`: **this holds of
every database**, whatever the stream and however many tables there are.
-/

namespace Trisect

open Sql (Catalog Command FilledTable isName isNamePart)

/-! ### Lists with positions -/

section Positions

variable {α β γ : Type}

theorem map_mapIdx (f : Nat → α → β) (g : β → γ) (l : List α) :
    (l.mapIdx f).map g = l.mapIdx fun i a => g (f i a) :=
  List.ext_getElem (by simp) (by simp)

/-- What depends on positions only. -/
theorem mapIdx_eq_map_range (f : Nat → β) (l : List α) :
    (l.mapIdx fun i _ => f i) = (List.range l.length).map f :=
  List.ext_getElem (by simp) (by simp)

end Positions

/-! ### Numbered names -/

/-- A name is plain, too, with a number behind it. -/
theorem isName_append_toString {s : String} (hs : isName s = true) (n : Nat) :
    isName (s ++ toString n) = true := by
  obtain ⟨c, cs, hchars, hc, hparts⟩ := Sql.exists_cons_of_isName hs
  have htext : (s ++ toString n).toList = c :: (cs ++ Json.digits n) := by
    rw [String.toList_append, hchars, Sql.toList_toString_nat, List.cons_append]
  have hall : ∀ d ∈ cs ++ Json.digits n, isNamePart d = true := by
    intro d hd
    rcases List.mem_append.1 hd with hd | hd
    · exact hparts d (List.mem_cons_of_mem _ hd)
    · simp [isNamePart, Json.isDigit_of_mem_digits hd]
  rw [isName, htext]
  simp [hc, List.all_eq_true.2 hall]

theorem nodup_numbered (s : String) (n : Nat) :
    ((List.range n).map fun i => s ++ toString i).Nodup := by
  refine List.Nodup.map (fun i j h => ?_) List.nodup_range
  exact Json.eq_of_toString_eq ((String.append_right_inj _).1 h)

/-! ### Setting up by statements -/

/-- A command as a statement of a setup. -/
def Sql.Command.statement (c : Command) : SetupStatement := ⟨c.sql, c.changesSchema⟩

/-- **Statements set the tables of a catalog up**, one after the other. -/
structure Sql.Catalog.IsSetUpBy (db : Catalog) (setup : List SetupStatement) : Prop where
  /-- The statements are the commands for one table after the other. -/
  statements : setup = db.commands.map Command.statement
  /-- An engine reads their texts as these commands. -/
  read : setup.map (fun s => Command.read s.text) = db.commands.map some
  /-- It accepts all of them, and comes to the tables of the catalog. -/
  accepted : Catalog.run [] db.commands = some db
  /-- What may change the schema is what creates a table. -/
  affectsSchema : ∀ s ∈ setup, s.affectsSchema = true ↔
    ∃ table, Command.read s.text = some (.create table)
  /-- A row is put into a table that was created before, and is as wide as that. -/
  fits : ∀ before s after, setup = before ++ s :: after → ∀ name values,
    Command.read s.text = some (.insert name values) → ∃ s' ∈ before, ∃ table,
      Command.read s'.text = some (.create table) ∧ table.name = name ∧
        values.length = table.columns.length
  /-- No table is created twice. -/
  once : ((setup.filterMap fun s => (Command.read s.text).bind Command.created?).map
    Table.name).Nodup

namespace Sql.Catalog

variable {db : Catalog}

/-- **Sound tables are set up by statements**, if these can be read, and no two tables have one
name. -/
theorem isSetUpBy_statements (hsound : ∀ t ∈ db, t.IsSound) (hnodup : db.names.Nodup)
    (hlegible : ∀ c ∈ db.commands, c.Legible) :
    db.IsSetUpBy (db.commands.map Command.statement) := by
  have hread : ∀ c ∈ db.commands, Command.read c.statement.text = some c := fun c hc =>
    Command.read_sql (hlegible c hc)
  have haccepted : run [] db.commands = some db := by
    have hrun : run [] db.commands = some ([] ++ db) :=
      run_commands hsound (by simpa [names, schemas] using hnodup)
    rwa [List.nil_append] at hrun
  refine ⟨rfl, ?_, haccepted, ?_, ?_, ?_⟩
  · rw [List.map_map]
    exact List.map_congr_left hread
  · intro s hs
    obtain ⟨c, hc, rfl⟩ := List.mem_map.1 hs
    rw [hread c hc]
    cases c with
    | create table => simp [Command.statement, Command.changesSchema]
    | insert name values => simp [Command.statement, Command.changesSchema]
  · intro before s after hsplit name values hs
    obtain ⟨cs, ds, hcommands, rfl, htail⟩ := List.map_eq_append_iff.1 hsplit
    obtain ⟨c, ds, rfl, rfl, -⟩ := List.map_eq_cons_iff.1 htail
    have hc : c ∈ db.commands := by simp [hcommands]
    rw [hread c hc] at hs
    obtain rfl : c = .insert name values := Option.some.inj hs
    rw [hcommands] at haccepted
    obtain ⟨table, hcreate, hname, hlen⟩ := exists_created_of_run haccepted
    have hmem : Command.create table ∈ db.commands := by simp [hcommands, hcreate]
    exact ⟨_, List.mem_map_of_mem hcreate, table, hread _ hmem, hname, hlen⟩
  · have hcreated : ((db.commands.map Command.statement).filterMap fun s =>
        (Command.read s.text).bind Command.created?) =
        db.commands.filterMap Command.created? := by
      rw [List.filterMap_map]
      refine List.filterMap_congr fun c hc => ?_
      rw [Function.comp_apply, hread c hc, Option.bind_some]
    rw [hcreated]
    exact nodup_of_run haccepted

end Sql.Catalog

/-! ### Tables as they are drawn -/

/-- **A table as it is drawn**: one to three columns with numbers for names, each of one of three
types or of none, and at most six rows of as many literals. -/
structure Sql.FilledTable.IsDrawn (t : FilledTable) : Prop where
  columns : 1 ≤ t.schema.columns.length ∧ t.schema.columns.length ≤ 3
  names : t.schema.columns.map Column.name =
    (List.range t.schema.columns.length).map fun i => "c" ++ toString i
  types : ∀ c ∈ t.schema.columns, c.typeName ∈ ["INTEGER", "REAL", "TEXT", ""]
  rows : t.rows.length ≤ 6
  width : ∀ row ∈ t.rows, row.length = t.schema.columns.length
  literals : ∀ row ∈ t.rows, ∀ l ∈ row, l.IsDrawn

namespace Sql.FilledTable.IsDrawn

variable {t : FilledTable}

theorem columns_ne_nil (h : t.IsDrawn) : t.schema.columns ≠ [] :=
  List.length_pos_iff.1 h.columns.1

theorem isSound (h : t.IsDrawn) : t.IsSound where
  columns_ne_nil := h.columns_ne_nil
  nodup := by
    rw [h.names]
    exact nodup_numbered "c" _
  width := h.width

/-- Names and types are plain. -/
theorem isPlain (h : t.IsDrawn) : ∀ c ∈ t.schema.columns, c.IsPlain := by
  intro c hc
  have hname : c.name ∈ t.schema.columns.map Column.name := List.mem_map_of_mem hc
  rw [h.names] at hname
  obtain ⟨i, -, hi⟩ := List.mem_map.1 hname
  refine ⟨hi ▸ isName_append_toString (by decide) i, fun htype => ?_⟩
  have htypes := h.types c hc
  simp only [List.mem_cons, List.not_mem_nil, or_false] at htypes
  rcases htypes with h | h | h | h
  · rw [h]
    decide
  · rw [h]
    decide
  · rw [h]
    decide
  · exact absurd h htype

theorem legible (h : t.IsDrawn) (hname : isName t.schema.name = true) :
    ∀ c ∈ t.commands, c.Legible := by
  intro c hc
  rcases List.mem_cons.1 hc with rfl | hc
  · exact ⟨hname, h.columns_ne_nil, h.isPlain⟩
  · obtain ⟨row, hrow, rfl⟩ := List.mem_map.1 hc
    have hne : row ≠ [] := by
      have hpos : 0 < row.length := by
        rw [h.width row hrow]
        exact h.columns.1
      exact List.length_pos_iff.1 hpos
    exact ⟨hname, hne, fun l hl => (h.literals row hrow l hl).legible⟩

end Sql.FilledTable.IsDrawn

/-! ### Drawing tables -/

/-- The name of a declared type; columns without one have the empty text for it. -/
def ColumnType.name : ColumnType → String
  | integer => "INTEGER"
  | real => "REAL"
  | text => "TEXT"
  | untyped => ""

theorem ColumnType.name_mem (type : ColumnType) : type.name ∈ ["INTEGER", "REAL", "TEXT", ""] := by
  cases type <;> decide

namespace RandomTable

/-- The numbers of columns, rows and values are within their bounds, and the literals are drawn. -/
structure IsSmall (t : RandomTable) : Prop where
  columns : 1 ≤ t.columns.length ∧ t.columns.length ≤ 3
  rows : t.rows.length ≤ 6
  width : ∀ row ∈ t.rows, row.length = t.columns.length
  literals : ∀ row ∈ t.rows, ∀ l ∈ row, l.IsDrawn

theorem yields_draw : Draw.Yields draw IsSmall := by
  refine Draw.yields_bind (Draw.yields_belowShort (by decide)) fun count hcount => ?_
  refine Draw.yields_bind (Draw.yields_many (Draw.yields_chooseFrom _ _) (count + 1))
    fun columns hcolumns => ?_
  refine Draw.yields_bind (Draw.yields_belowShort (by decide)) fun rowCount hrowCount => ?_
  refine Draw.yields_bind (Draw.yields_many (Draw.yields_many Literal.yields_draw (count + 1))
    rowCount) fun rows hrows => Draw.yields_pure ⟨?_, ?_, ?_, ?_⟩
  · have hlen : columns.length = count + 1 := hcolumns.1
    change 1 ≤ columns.length ∧ columns.length ≤ 3
    omega
  · have hlen : rows.length = rowCount := hrows.1
    change rows.length ≤ 6
    omega
  · exact fun row hrow => (hrows.2 row hrow).1.trans hcolumns.1.symm
  · exact fun row hrow => (hrows.2 row hrow).2

/-- A column with its position for a name. -/
def column (i : Nat) (type : ColumnType) : Column := ⟨"c" ++ toString i, type.name⟩

/-- The table with a number. -/
def filled (n : Nat) (t : RandomTable) : FilledTable :=
  ⟨⟨"t" ++ toString n, t.columns.mapIdx column⟩, t.rows⟩

theorem sql_column (i : Nat) (type : ColumnType) : (column i type).sql = columnSql i type := by
  cases type with
  | integer => simp [Column.sql, column, ColumnType.name, columnSql, String.append_assoc]
  | real => simp [Column.sql, column, ColumnType.name, columnSql, String.append_assoc]
  | text => simp [Column.sql, column, ColumnType.name, columnSql, String.append_assoc]
  | untyped => simp [Column.sql, column, ColumnType.name, columnSql]

/-- The statements for a table are its commands. -/
theorem statements_eq (n : Nat) (t : RandomTable) :
    t.statements n = (t.filled n).commands.map Command.statement := by
  have hcolumns : (t.columns.mapIdx column).map Column.sql = t.columns.mapIdx columnSql := by
    rw [map_mapIdx]
    simp only [sql_column]
  rw [FilledTable.commands, List.map_cons, List.map_map, statements]
  simp only [Command.statement, Command.sql_create, filled, hcolumns]
  rfl

theorem IsSmall.isDrawn {t : RandomTable} (h : t.IsSmall) (n : Nat) : (t.filled n).IsDrawn := by
  have hlen : (t.columns.mapIdx column).length = t.columns.length := List.length_mapIdx
  refine ⟨?_, ?_, ?_, h.rows, ?_, h.literals⟩
  · rw [filled, hlen]
    exact h.columns
  · rw [filled, hlen, map_mapIdx]
    exact mapIdx_eq_map_range _ _
  · intro c hc
    obtain ⟨i, hi, rfl⟩ := List.mem_mapIdx.1 hc
    exact t.columns[i].name_mem
  · rw [filled, hlen]
    exact h.width

variable {tables : List RandomTable}

theorem names_filled (tables : List RandomTable) :
    Catalog.names (tables.mapIdx filled) =
      (List.range tables.length).map fun t => "t" ++ toString t := by
  rw [Catalog.names, Catalog.schemas, map_mapIdx, map_mapIdx]
  exact mapIdx_eq_map_range _ _

theorem isDrawn_of_mem (h : ∀ t ∈ tables, t.IsSmall) : ∀ t ∈ tables.mapIdx filled, t.IsDrawn := by
  intro t ht
  obtain ⟨n, hn, rfl⟩ := List.mem_mapIdx.1 ht
  exact (h _ (List.getElem_mem hn)).isDrawn n

theorem isSetUpBy (h : ∀ t ∈ tables, t.IsSmall) :
    Catalog.IsSetUpBy (tables.mapIdx filled) (tables.mapIdx statements).flatten := by
  have htexts : (tables.mapIdx statements).flatten =
      (Catalog.commands (tables.mapIdx filled)).map Command.statement := by
    have hstatements : statements = fun n t => (filled n t).commands.map Command.statement := by
      funext n t
      exact statements_eq n t
    rw [Catalog.commands, List.map_flatMap, List.flatMap_def, map_mapIdx, hstatements]
  have hdrawn := isDrawn_of_mem h
  have hnodup : (Catalog.names (tables.mapIdx filled)).Nodup := by
    rw [names_filled]
    exact nodup_numbered "t" _
  rw [htexts]
  refine Catalog.isSetUpBy_statements (fun t ht => (hdrawn t ht).isSound) hnodup fun c hc => ?_
  obtain ⟨t, ht, hct⟩ := List.mem_flatMap.1 hc
  refine (hdrawn t ht).legible ?_ c hct
  obtain ⟨n, hn, rfl⟩ := List.mem_mapIdx.1 ht
  exact isName_append_toString (by decide) n

end RandomTable

namespace RandomShapes

/-- **Random databases are consistent.** Whatever the stream, no range is empty that the tables are
drawn from; there are as many tables as were asked for, with their numbers for names, and the
statements set them up. -/
theorem database_consistent (s : RandomShapes) (count : Nat) :
    (∀ r ∈ (Draw.many RandomTable.draw count).ranges s.stream, 0 < r.size) ∧
      ∃ db : Catalog, db.names = ((List.range count).map fun t => "t" ++ toString t) ∧
        (∀ t ∈ db, t.IsDrawn) ∧ db.IsSetUpBy (s.database count).1 := by
  have hyields := Draw.yields_many RandomTable.yields_draw count
  obtain ⟨hlen, hsmall⟩ := hyields.run s.stream
  refine ⟨hyields.ranges s.stream, _, ?_, RandomTable.isDrawn_of_mem hsmall,
    RandomTable.isSetUpBy hsmall⟩
  rw [RandomTable.names_filled, hlen]

end RandomShapes

end Trisect
