import Dispatchers.Text.Split

namespace Dispatchers.Disk

/-- One step of a path: the root, a name, `.` or `..`. -/
abbrev Component := String

def root : Component :=
  "/"

def isAbsolute (path : String) : Bool :=
  path.toList.head? == some '/'

/-- The path from `base` to `path`; an absolute path needs no base, and one slash separates the
two. -/
def join (base path : String) : String :=
  if isAbsolute path then path
  else if base.isEmpty || base.toList.getLast? == some '/' then base ++ path
  else base ++ "/" ++ path

def isPlain (name : List Char) : Bool :=
  name != [] && name != ['.']

/-- The steps of a path. Repeated slashes do not count, and `.` counts only at the start of a
relative path. -/
def components (path : String) : List Component :=
  let pieces := Text.splitOn '/' path.toList
  let names := (pieces.filter isPlain).map String.ofList
  if isAbsolute path then root :: names
  else if pieces.head? == some ['.'] then "." :: names
  else names

def absolutePath (names : List String) : String :=
  "/" ++ "/".intercalate names

/-- One step from the directory that `names` lead to. From the root `..` leads nowhere. -/
def move (names : List String) (step : Component) : List String :=
  if step = root then []
  else if step = "." then names
  else if step = ".." then names.dropLast
  else names ++ [step]

def absoluteNames (cwd : List String) (path : String) : List String :=
  (components path).foldl move cwd

/-- What is left of reversed pieces without empty and `.` pieces at the end; the first piece of a
path always stays. -/
def trimPieces : List (List Char) → List (List Char)
  | piece :: next :: rest =>
    if isPlain piece then piece :: next :: rest else trimPieces (next :: rest)
  | pieces => pieces

def parent? (path : String) : Option String :=
  if path.isEmpty then none
  else
    match trimPieces (Text.splitOn '/' path.toList).reverse with
    | _ :: next :: rest =>
      let left := trimPieces (next :: rest)
      if left = [[]] then some "/"
      else some (String.ofList (Text.joinWith '/' left.reverse))
    | _ => if isAbsolute path then none else some ""

end Dispatchers.Disk
