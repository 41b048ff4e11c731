import Dispatchers.Disk.Path

namespace Dispatchers

inductive IoFault where
  | notFound
  | notADirectory
  | isADirectory
  | alreadyExists
  | invalidData
  | invalidInput
deriving DecidableEq

def IoFault.name : IoFault → String
  | notFound => "NotFound"
  | notADirectory => "NotADirectory"
  | isADirectory => "IsADirectory"
  | alreadyExists => "AlreadyExists"
  | invalidData => "InvalidData"
  | invalidInput => "InvalidInput"

inductive Node where
  | file (content : ByteArray)
  | directory

instance : DecidableEq Node
  | .directory, .directory => .isTrue rfl
  | .directory, .file _ => .isFalse nofun
  | .file _, .directory => .isFalse nofun
  | .file a, .file b =>
    decidable_of_decidable_of_iff (show a.data = b.data ↔ Node.file a = Node.file b by
      cases a; cases b; simp)

/-- The nodes of a tree by the names that lead to them from the root, and the names that lead to
the working directory. The root is a directory and is not listed. -/
structure Disk where
  nodes : List (List String × Node)
  cwd : List String

namespace Disk

def node? (disk : Disk) (names : List String) : Option Node :=
  if names.isEmpty then some .directory else disk.nodes.lookup names

/-- One step of a path; every step but the first starts from a directory. -/
def enter (disk : Disk) (names : List String) (step : Component) : Except IoFault (List String) :=
  match disk.node? names with
  | some .directory => .ok (move names step)
  | some (.file _) => .error .notADirectory
  | none => .error .notFound

/-- The names that `path` leads to; its last name need not exist. -/
def resolve (disk : Disk) (path : String) : Except IoFault (List String) :=
  if path.isEmpty then .error .notFound
  else (components path).foldlM disk.enter (if isAbsolute path then [] else disk.cwd)

/-- A slash or `.` at the end of a path asks for a directory. -/
def endsInSlash (path : String) : Bool :=
  match path.toList.reverse with
  | '/' :: _ => true
  | '.' :: '/' :: _ => true
  | _ => false

def find (disk : Disk) (path : String) : Except IoFault (List String × Node) := do
  let names ← disk.resolve path
  match disk.node? names with
  | none => .error .notFound
  | some .directory => return (names, .directory)
  | some (.file content) =>
    if endsInSlash path then .error .notADirectory else return (names, .file content)

def isDirectory (disk : Disk) (path : String) : Bool :=
  match disk.find path with
  | .ok (_, .directory) => true
  | _ => false

def isFile (disk : Disk) (path : String) : Bool :=
  match disk.find path with
  | .ok (_, .file _) => true
  | _ => false

def decode (content : ByteArray) : Except IoFault String :=
  match String.fromUTF8? content with
  | some text => .ok text
  | none => .error .invalidData

def readText (disk : Disk) (path : String) : Except IoFault String := do
  match ← disk.find path with
  | (_, .directory) => .error .isADirectory
  | (_, .file content) => decode content

def children (disk : Disk) (names : List String) : List (String × Node) :=
  disk.nodes.filterMap fun (place, node) =>
    match place.getLast? with
    | some name => if place.dropLast = names then some (name, node) else none
    | none => none

def readDirectory (disk : Disk) (path : String) : Except IoFault (List (String × Node)) := do
  match ← disk.find path with
  | (names, .directory) => return disk.children names
  | (_, .file _) => .error .notADirectory

def filesBelow (disk : Disk) (names : List String) : List (List String) :=
  disk.nodes.filterMap fun (place, node) =>
    match node with
    | .file _ => names.isPrefixOf? place
    | .directory => none

def absolute (disk : Disk) (path : String) : Except IoFault (List String) :=
  if path.isEmpty then .error .invalidInput else .ok (absoluteNames disk.cwd path)

end Disk

end Dispatchers
