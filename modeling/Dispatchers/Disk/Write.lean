import Dispatchers.Disk.Basic

namespace Dispatchers.Disk

def put (disk : Disk) (names : List String) (node : Node) : Disk :=
  { disk with nodes := (names, node) :: disk.nodes.filter (·.1 ≠ names) }

def enterMaking (place : Disk × List String) (step : Component) :
    Except IoFault (Disk × List String) := do
  let (disk, names) := place
  let next ← disk.enter names step
  match disk.node? next with
  | some _ => return (disk, next)
  | none => return (disk.put next .directory, next)

/-- Follows steps up to one that leads nowhere. The directories before it stay. -/
def makeEach : Disk × List String → List Component → Disk × Except IoFault (List String)
  | (disk, names), [] => (disk, .ok names)
  | (disk, names), step :: rest =>
    match enterMaking (disk, names) step with
    | .ok next => makeEach next rest
    | .error cause => (disk, .error cause)

def makePath (disk : Disk) (path : String) : Disk × Except IoFault Unit :=
  let start := if isAbsolute path then [] else disk.cwd
  match makeEach (disk, start) (components path) with
  | (made, .error cause) => (made, .error cause)
  | (made, .ok names) =>
    match made.node? names with
    | some .directory => (made, .ok ())
    | some (.file _) => (made, .error .alreadyExists)
    | none => (made, .error .notFound)

def makeDirectories (disk : Disk) (path : String) : Except IoFault Disk :=
  match disk.makePath path with
  | (made, .ok _) => .ok made
  | (_, .error cause) => .error cause

def writeFile (disk : Disk) (path : String) (content : ByteArray) : Except IoFault Disk := do
  let names ← disk.resolve path
  match disk.node? names with
  | some .directory => .error .isADirectory
  | some (.file _) =>
    if endsInSlash path then .error .notADirectory else return disk.put names (.file content)
  | none =>
    if endsInSlash path then .error .isADirectory
    else
      match disk.node? names.dropLast with
      | some .directory => return disk.put names (.file content)
      | some (.file _) => .error .notADirectory
      | none => .error .notFound

/-- The files of `after` that `before` does not have as they are. -/
def changes (before after : Disk) : List (List String × ByteArray) :=
  after.nodes.filterMap fun (names, node) =>
    match node with
    | .directory => none
    | .file content => if before.node? names = some node then none else some (names, content)

end Dispatchers.Disk
