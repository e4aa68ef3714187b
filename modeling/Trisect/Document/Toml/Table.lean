import Trisect.Document

/-!
# Tables of TOML

A table comes about in one of three ways, and how it did decides what may be added to it later
(`Trisect.Toml.Origin`): it has a header of its own, it is on the way to a table that has one, or it
is on the way to a value whose key is joined from several by points. The table at a path is reached
by `Trisect.Toml.within`, which creates what is missing on the way. `Trisect.Toml.declare` and
`Trisect.Toml.declareNext` are what headers do, and `Trisect.Toml.assign` is what a line with a
value does. Nothing is ever defined twice, and a value, once there, is never added to.
-/

namespace Trisect.Toml

/-- How a table came about. -/
inductive Origin
  /-- It has a header of its own. -/
  | declared
  /-- It is on the way to a table with a header. -/
  | implied
  /-- It is on the way to a value whose key is joined from several. -/
  | dotted
  deriving DecidableEq

/-- What stands at a key. -/
inductive Item
  | value (d : Document)
  | table (origin : Origin) (entries : List (String × Item))
  /-- A list of tables, each of which has a header of its own. -/
  | tables (elements : List (List (String × Item)))

/-- What stands at the keys of a table, in the order in which the keys came. -/
abbrev Entries := List (String × Item)

/-- The entries with another item at a key that is there. -/
def Entries.put (es : Entries) (key : String) (item : Item) : Entries :=
  es.map fun e => if e.1 = key then (key, item) else e

/-- Changes the table at a path. What is missing on the way is created: as tables on the way to a
value (`dotted`) or to a table. A list of tables stands for its last one. On the way to a value
there must be no table that has a header of its own. -/
def within (dotted : Bool) (f : Origin → Entries → Option Entries) :
    List String → Origin → Entries → Option Entries
  | [], origin, es => f origin es
  | key :: path, _, es =>
    match es.lookup key with
    | none =>
      let origin := if dotted then Origin.dotted else .implied
      (within dotted f path origin []).map fun sub => es ++ [(key, .table origin sub)]
    | some (.value _) => none
    | some (.table origin sub) =>
      if dotted && origin = .declared then none
      else (within dotted f path origin sub).map fun sub => es.put key (.table origin sub)
    | some (.tables elements) =>
      (within dotted f path .declared (elements.getLast?.getD [])).map fun sub =>
        es.put key (.tables (elements.dropLast ++ [sub]))

/-- Changes the table that a header names: the keys on the way to it, and what is to be done with
its own key. -/
def atHeader (f : String → Entries → Option Entries) (path : List String) (root : Entries) :
    Option Entries :=
  match path.getLast? with
  | none => none
  | some key => within false (fun _ es => f key es) path.dropLast .declared root

/-- Gives a table a header. Up to then it may only have been on the way to others. -/
def declare (path : List String) (root : Entries) : Option Entries :=
  atHeader (fun key es =>
    match es.lookup key with
    | none => some (es ++ [(key, .table .declared [])])
    | some (.table .implied sub) => some (es.put key (.table .declared sub))
    | _ => none) path root

/-- Adds a table to a list of tables, which is created if it is missing. -/
def declareNext (path : List String) (root : Entries) : Option Entries :=
  atHeader (fun key es =>
    match es.lookup key with
    | none => some (es ++ [(key, .tables [[]])])
    | some (.tables elements) => some (es.put key (.tables (elements ++ [[]])))
    | _ => none) path root

/-- Puts a value into the table below a path that was opened by a header. Its key may be joined from
several; a table on the way takes a value of its own only if it came about on the way to one. -/
def assign (header path : List String) (value : Document) (root : Entries) : Option Entries :=
  match path.getLast? with
  | none => none
  | some key =>
    let direct := path.dropLast.isEmpty
    let insert (origin : Origin) (es : Entries) : Option Entries :=
      if (origin = .dotted) = direct then none
      else
        match es.lookup key with
        | none => some (es ++ [(key, .value value)])
        | some _ => none
    within false (fun origin es => within true insert path.dropLast origin es) header .declared root

mutual

/-- What stands at a key, as a document. -/
def Item.toDocument : Item → Document
  | .value d => d
  | .table _ entries => .record (fieldsOf entries)
  | .tables elements => .list (recordsOf elements)

/-- The entries of a table as fields. -/
def fieldsOf : List (String × Item) → List (String × Document)
  | [] => []
  | (key, item) :: es => (key, item.toDocument) :: fieldsOf es

/-- The tables of a list as records. -/
def recordsOf : List (List (String × Item)) → List Document
  | [] => []
  | es :: ess => .record (fieldsOf es) :: recordsOf ess

end

end Trisect.Toml
