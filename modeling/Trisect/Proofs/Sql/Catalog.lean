import Trisect.Proofs.Sql.Command

/-!
# What an engine makes of the statements that set a database up

An engine keeps a catalog of its tables and puts rows into them (`Trisect.Sql.Catalog.step`). It
refuses to create a table whose name is taken, that has no columns, or two of one name; and it
refuses to put a row into a table that is not there, or that has another number of columns. That all
of some commands are accepted therefore says that they fit together: **no table is created twice**
(`Trisect.Sql.Catalog.nodup_of_run`), and **a row is put into a table that was created before, and
has as many values as that has columns** (`Trisect.Sql.Catalog.exists_created_of_run`).

The other way round, the tables of a catalog can be set up again by commands of their own
(`Trisect.Sql.FilledTable.commands`), and an engine that is given these in order accepts all of them
and comes to the same catalog (`Trisect.Sql.Catalog.run_commands`).
-/

namespace Trisect.Sql

/-- A table and the rows that were put into it, in order. -/
structure FilledTable where
  schema : Table
  rows : List (List Literal) := []
  deriving DecidableEq

/-- The table has columns, no two of one name, and rows of as many values. -/
structure FilledTable.IsSound (t : FilledTable) : Prop where
  columns_ne_nil : t.schema.columns ≠ []
  nodup : (t.schema.columns.map Column.name).Nodup
  width : ∀ row ∈ t.rows, row.length = t.schema.columns.length

/-- The table that a command creates, if it creates one. -/
def Command.created? : Command → Option Table
  | create table => some table
  | insert _ _ => none

/-- The tables of an engine, in the order in which they were created. -/
abbrev Catalog := List FilledTable

namespace Catalog

/-- What is known of the tables of a catalog without their rows. -/
def schemas (db : Catalog) : List Table := db.map FilledTable.schema

/-- The names of the tables of a catalog. -/
def names (db : Catalog) : List String := db.schemas.map Table.name

/-- Puts a row into the table with a name. -/
def put (db : Catalog) (name : String) (row : List Literal) : Catalog :=
  db.map fun t => if t.schema.name = name then { t with rows := t.rows ++ [row] } else t

/-- Carries a command out, unless the engine refuses it. -/
def step (db : Catalog) : Command → Option Catalog
  | .create table =>
    if table.name ∈ db.names ∨ table.columns = [] ∨ ¬(table.columns.map Column.name).Nodup then none
    else some (db ++ [{ schema := table }])
  | .insert name values =>
    match db.schemas.find? fun t => t.name = name with
    | some table => if values.length = table.columns.length then some (db.put name values) else none
    | none => none

/-- Carries commands out in order, unless the engine refuses one. -/
def run (db : Catalog) (cs : List Command) : Option Catalog := cs.foldlM step db

variable {db db' : Catalog} {cs : List Command}

@[simp] theorem run_nil : db.run [] = some db := rfl

@[simp] theorem run_cons (c : Command) : db.run (c :: cs) = (db.step c).bind (run · cs) := rfl

theorem run_append (ds : List Command) : db.run (cs ++ ds) = (db.run cs).bind (run · ds) :=
  List.foldlM_append

/-! ### What is accepted -/

@[simp] theorem schemas_append (ds : Catalog) : (db ++ ds).schemas = db.schemas ++ ds.schemas :=
  List.map_append

@[simp] theorem names_append (ds : Catalog) : names (db ++ ds) = db.names ++ ds.names := by
  simp [names]

@[simp] theorem schemas_put (name : String) (row : List Literal) :
    (db.put name row).schemas = db.schemas := by
  rw [schemas, schemas, put, List.map_map]
  refine List.map_congr_left fun t _ => ?_
  simp only [Function.comp_apply]
  split
  · rfl
  · rfl

/-- **What an engine accepts**: a table with a new name, or a row that fits its table. -/
theorem step_cases {c : Command} (h : db.step c = some db') :
    (∃ table, c = .create table ∧ table.name ∉ db.names ∧ db' = db ++ [{ schema := table }]) ∨
      ∃ table values, c = .insert table.name values ∧ table ∈ db.schemas ∧
        values.length = table.columns.length ∧ db' = db.put table.name values := by
  cases c with
  | create table =>
    rw [step] at h
    split at h
    · cases h
    · next hnew =>
      exact .inl ⟨table, rfl, fun hmem => hnew (.inl hmem), (Option.some.inj h).symm⟩
  | insert name values =>
    rw [step] at h
    split at h
    · next table hfind =>
      split at h
      · next hlen =>
        have hname : table.name = name := by simpa using List.find?_some hfind
        subst hname
        exact .inr ⟨table, values, rfl, List.mem_of_find?_eq_some hfind, hlen,
          (Option.some.inj h).symm⟩
      · cases h
    · cases h

/-- A command adds the table that it creates to the catalog, under a new name. -/
theorem schemas_of_step {c : Command} (h : db.step c = some db') :
    db'.schemas = db.schemas ++ c.created?.toList ∧
      ∀ table ∈ c.created?, table.name ∉ db.names := by
  obtain ⟨table, rfl, hnew, rfl⟩ | ⟨table, values, rfl, -, -, rfl⟩ := step_cases h
  · refine ⟨schemas_append _, fun t ht => ?_⟩
    obtain rfl : table = t := Option.some.inj ht
    exact hnew
  · simp [Command.created?]

/-- Commands add the tables that they create to the catalog, in order, all under new names. -/
theorem schemas_of_run (h : db.run cs = some db') :
    db'.schemas = db.schemas ++ cs.filterMap Command.created? ∧
      (db.names.Nodup → db'.names.Nodup) := by
  induction cs generalizing db with
  | nil =>
    obtain rfl : db = db' := Option.some.inj h
    simp
  | cons c cs ih =>
    obtain ⟨between, hstep, hrun⟩ := Option.bind_eq_some_iff.1 h
    obtain ⟨hschemas, hnew⟩ := schemas_of_step hstep
    obtain ⟨hrest, hnodup⟩ := ih hrun
    refine ⟨?_, fun hdb => hnodup ?_⟩
    · rw [hrest, hschemas, List.append_assoc, List.filterMap_cons]
      cases c.created? with
      | none => rfl
      | some table => rfl
    · rw [names, hschemas, List.map_append]
      cases hc : c.created? with
      | none => simpa [names] using hdb
      | some table =>
        have htable : table.name ∉ db.names := hnew table hc
        refine List.nodup_append.2 ⟨hdb, by simp, fun name hname name' hname' => ?_⟩
        obtain rfl : name' = table.name := List.mem_singleton.1 hname'
        exact fun heq => htable (heq ▸ hname)

/-- **No table is created twice.** -/
theorem nodup_of_run (h : run [] cs = some db) :
    ((cs.filterMap Command.created?).map Table.name).Nodup := by
  obtain ⟨hschemas, hnodup⟩ := schemas_of_run h
  have hnames := hnodup List.nodup_nil
  rw [names, hschemas] at hnames
  exact hnames

/-- **Every row is put into a table that was created before**, and is as wide as that is. -/
theorem exists_created_of_run {before after : List Command} {name : String}
    {values : List Literal} (h : run [] (before ++ .insert name values :: after) = some db) :
    ∃ table, .create table ∈ before ∧ table.name = name ∧
      values.length = table.columns.length := by
  rw [run_append] at h
  obtain ⟨between, hbefore, hrest⟩ := Option.bind_eq_some_iff.1 h
  obtain ⟨_, hstep, -⟩ := Option.bind_eq_some_iff.1 hrest
  obtain ⟨_, heq, -⟩ | ⟨table, values', heq, hmem, hlen, -⟩ := step_cases hstep
  · cases heq
  · cases heq
    rw [(schemas_of_run hbefore).1] at hmem
    obtain ⟨c, hc, hcreated⟩ := List.mem_filterMap.1 hmem
    cases c with
    | create t =>
      obtain rfl : t = table := Option.some.inj hcreated
      exact ⟨t, hc, rfl, hlen⟩
    | insert _ _ => cases hcreated

end Catalog

/-! ### Setting a catalog up -/

/-- The commands that create a table and fill it. -/
def FilledTable.commands (t : FilledTable) : List Command :=
  .create t.schema :: t.rows.map (.insert t.schema.name ·)

namespace Catalog

variable {db : Catalog}

/-- The commands that set the tables of a catalog up, one after the other. -/
def commands (db : Catalog) : List Command := db.flatMap FilledTable.commands

section Fresh

/- A table that was created last, of which there is none of the same name before it. -/

variable {schema : Table} (hnew : schema.name ∉ db.names) (rows : List (List Literal))

include hnew

theorem put_last (row : List Literal) :
    put (db ++ [⟨schema, rows⟩]) schema.name row = db ++ [⟨schema, rows ++ [row]⟩] := by
  have hdb : db.put schema.name row = db := by
    have hkeep : ∀ t ∈ db, (if t.schema.name = schema.name then { t with rows := t.rows ++ [row] }
        else t) = t := by
      intro t ht
      refine if_neg fun hname => hnew ?_
      rw [← hname]
      exact List.mem_map_of_mem (List.mem_map_of_mem ht)
    rw [put, List.map_congr_left hkeep, List.map_id']
  rw [put, List.map_append, ← put, hdb]
  simp

theorem step_insert_last {row : List Literal} (hrow : row.length = schema.columns.length) :
    step (db ++ [⟨schema, rows⟩]) (.insert schema.name row) =
      some (db ++ [⟨schema, rows ++ [row]⟩]) := by
  have hbefore : (db.schemas.find? fun t => t.name = schema.name) = none := by
    refine List.find?_eq_none.2 fun t ht hname => hnew ?_
    rw [← of_decide_eq_true hname]
    exact List.mem_map_of_mem ht
  have hfind : (schemas (db ++ [⟨schema, rows⟩])).find? (fun t => t.name = schema.name) =
      some schema := by
    rw [schemas_append, List.find?_append, hbefore]
    simp [schemas]
  rw [step, hfind]
  simp only [if_pos hrow, put_last hnew]

theorem run_insert_last {more : List (List Literal)}
    (hmore : ∀ row ∈ more, row.length = schema.columns.length) :
    run (db ++ [⟨schema, rows⟩]) (more.map (.insert schema.name ·)) =
      some (db ++ [⟨schema, rows ++ more⟩]) := by
  induction more generalizing rows with
  | nil => simp
  | cons row more ih =>
    have hrest := ih (rows ++ [row]) fun r hr => hmore r (List.mem_cons_of_mem _ hr)
    rw [List.map_cons, run_cons, step_insert_last hnew rows (hmore row (by simp)),
      Option.bind_some, hrest, List.append_assoc, List.singleton_append]

end Fresh

/-- A sound table with a new name is set up behind the others. -/
theorem run_filled {t : FilledTable} (ht : t.IsSound) (hnew : t.schema.name ∉ db.names) :
    db.run t.commands = some (db ++ [t]) := by
  have hcreate : db.step (.create t.schema) = some (db ++ [{ schema := t.schema }]) := by
    rw [step, if_neg]
    rintro (hmem | hnil | hdup)
    · exact hnew hmem
    · exact ht.columns_ne_nil hnil
    · exact hdup ht.nodup
  rw [FilledTable.commands, run_cons, hcreate, Option.bind_some,
    run_insert_last hnew [] ht.width, List.nil_append]

/-- **Sound tables are set up by their own commands**, if no two of them have one name. -/
theorem run_commands {ts : Catalog} (hsound : ∀ t ∈ ts, t.IsSound)
    (hnodup : (db.names ++ ts.names).Nodup) : db.run ts.commands = some (db ++ ts) := by
  induction ts generalizing db with
  | nil => simp [commands]
  | cons t ts ih =>
    have hsplit : db.names ++ names (t :: ts) = names (db ++ [t]) ++ names ts := by
      simp [names, schemas]
    have hnew : t.schema.name ∉ db.names := fun hmem =>
      (List.nodup_append.1 hnodup).2.2 _ hmem _ (by simp [names, schemas]) rfl
    have hrest : run (db ++ [t]) (commands ts) = some (db ++ [t] ++ ts) :=
      ih (fun u hu => hsound u (List.mem_cons_of_mem _ hu)) (hsplit ▸ hnodup)
    rw [commands, List.flatMap_cons, run_append, run_filled (hsound t (by simp)) hnew,
      Option.bind_some, ← commands, hrest, List.append_assoc, List.singleton_append]

end Catalog

end Trisect.Sql
