import Trisect.Error

/-!
# A file system

Logs and reports are kept in files. `Trisect.FileSystem` is a tree of directories and files, given
by what stands at each place; a **place** is the list of names that leads to it from the top. There
are no links, and nothing is ever removed.

Paths are texts. They are followed name by name through directories that exist
(`Trisect.FileSystem.locate`), `.` staying where it is and `..` going up. The operations fail for
the reasons for which those of a Unix system do.
-/

namespace Trisect

/-- The names that lead to a file or directory from the top. -/
abbrev Place := List String

/-- What stands at a place. -/
inductive Node
  | directory
  | file (content : ByteArray)

/-- A tree of directories and files. The top is a directory that is always there. -/
structure FileSystem where
  /-- What stands at each place below the top; later entries are hidden by earlier ones. -/
  nodes : List (Place × Node) := []

namespace FileSystem

/-- What stands at a place, if anything does. -/
def node? (fs : FileSystem) (p : Place) : Option Node :=
  if p.isEmpty then some .directory else fs.nodes.lookup p

/-- The file system with something else at a place. -/
def put (fs : FileSystem) (p : Place) (n : Node) : FileSystem :=
  ⟨(p, n) :: fs.nodes.filter fun entry => entry.1 ≠ p⟩

/-- The content of the file at a place, if there is one. -/
def content? (fs : FileSystem) (p : Place) : Option ByteArray :=
  match fs.node? p with
  | some (.file content) => some content
  | _ => none

/-- Whether there is a directory at a place. -/
def isDirectory (fs : FileSystem) (p : Place) : Bool :=
  match fs.node? p with
  | some .directory => true
  | _ => false

/-! ### Paths -/

/-- The names of a path, without the empty ones and those for the same directory. -/
def namesOf (path : String) : List String :=
  ((path.toList.splitOn '/').map String.ofList).filter fun name => name ≠ "" && name ≠ "."

/-- A path below a directory. An absolute path stays what it is. -/
def join (directory name : String) : String :=
  if name.toList.head? = some '/' || directory = "" then name
  else if directory.toList.getLast? = some '/' then directory ++ name
  else directory ++ "/" ++ name

/-- What is wrong with a path before it is looked at, if anything is. -/
def pathFault? (path : String) : Option IoError :=
  if path.toList.contains '\x00' then some .zeroByteInName
  else none

/-- Goes from one place to another through a directory that exists. -/
def follow (fs : FileSystem) (p : Place) (name : String) : Except IoError Place :=
  if 255 < name.utf8ByteSize then .error .nameTooLong
  else
    match fs.node? p with
    | none => .error .notFound
    | some (.file _) => .error .notADirectory
    | some .directory => .ok (if name = ".." then p.dropLast else p ++ [name])

/-- The place that a list of names leads to. Every name but the last has to lead to a directory that
exists. -/
def locate (fs : FileSystem) : Place → List String → Except IoError Place
  | p, [] => .ok p
  | p, name :: names =>
    match fs.follow p name with
    | .ok p => locate fs p names
    | .error e => .error e

/-! ### Directories -/

/-- Makes a directory in a directory that exists. -/
def makeDirectory (fs : FileSystem) (names : List String) : Except IoError FileSystem :=
  match fs.locate [] names with
  | .error e => .error e
  | .ok p =>
    match fs.node? p with
    | some _ => .error .alreadyExists
    | none => .ok (fs.put p .directory)

/-- Whether a list of names leads to a directory. -/
def leadsToDirectory (fs : FileSystem) (names : List String) : Bool :=
  match fs.locate [] names with
  | .ok p => fs.isDirectory p
  | .error _ => false

/-- Makes a directory and the directories that lead to it, as far as they are missing. The names
come the last one first. -/
def makeDirectories (fs : FileSystem) : List String → Except IoError FileSystem
  | [] => .ok fs
  | name :: names =>
    match fs.makeDirectory (name :: names).reverse with
    | .ok fs => .ok fs
    | .error .notFound =>
      match makeDirectories fs names with
      | .error e => .error e
      | .ok fs =>
        match fs.makeDirectory (name :: names).reverse with
        | .ok fs => .ok fs
        | .error e => if fs.leadsToDirectory (name :: names).reverse then .ok fs else .error e
    | .error e => if fs.leadsToDirectory (name :: names).reverse then .ok fs else .error e

/-- Makes the directory at a path and those that lead to it. -/
def createDirectories (fs : FileSystem) (path : String) : Except IoError FileSystem :=
  match pathFault? path with
  | some e => .error e
  | none => fs.makeDirectories (namesOf path).reverse

/-! ### Files -/

/-- Makes the file at a path empty, creating it if it is missing. -/
def createFile (fs : FileSystem) (path : String) : Except IoError (Place × FileSystem) :=
  match pathFault? path with
  | some e => .error e
  | none =>
    match fs.locate [] (namesOf path) with
    | .error e => .error e
    | .ok p =>
      match fs.node? p with
      | some .directory => .error .isADirectory
      | _ => .ok (p, fs.put p (.file ByteArray.empty))

/-- Writes the file at a path anew. -/
def writeFile (fs : FileSystem) (path : String) (content : ByteArray) :
    Except IoError FileSystem :=
  match fs.createFile path with
  | .error e => .error e
  | .ok (p, fs) => .ok (fs.put p (.file content))

/-- What the file at a path holds. -/
def readFile (fs : FileSystem) (path : String) : Except IoError ByteArray :=
  match pathFault? path with
  | some e => .error e
  | none =>
    match fs.locate [] (namesOf path) with
    | .error e => .error e
    | .ok p =>
      match fs.node? p with
      | none => .error .notFound
      | some .directory => .error .isADirectory
      | some (.file content) => .ok content

/-- Bytes with others written over them from an offset on; a gap is filled with zeros. -/
def overwrite (content : ByteArray) (offset : Nat) (bytes : ByteArray) : ByteArray :=
  if offset = content.size then content ++ bytes
  else
    let filled := content ++ ⟨Array.replicate (offset - content.size) 0⟩
    filled.extract 0 offset ++ bytes ++ filled.extract (offset + bytes.size) filled.size

/-- Writes over the file at a place from an offset on. -/
def writeAt (fs : FileSystem) (p : Place) (offset : Nat) (bytes : ByteArray) : FileSystem :=
  fs.put p (.file (overwrite ((fs.content? p).getD ByteArray.empty) offset bytes))

end FileSystem

end Trisect
