import Dispatchers.Settings.Basic

namespace Dispatchers.Settings

def fileName : String :=
  "handlergen.toml"

def rebase (s : Settings) (base : String) : Settings :=
  let move := Disk.join base
  { s with
    handlers := { s.handlers with
      input := s.handlers.input.map move, output := s.handlers.output.map move }
    listing := { s.listing with
      input := s.listing.input.map move, output := s.listing.output.map move }
    templates := s.templates.map move
    roots := s.roots.map fun root => { root with dir := move root.dir } }

def load (disk : Disk) (path : String) : Except Fault Settings := do
  match disk.readText path with
  | .error cause => .error (.during .readSettings path (.io cause))
  | .ok text =>
    match parse text with
    | .error cause => .error (.during .parseSettings path cause)
    | .ok s => return ((Disk.parent? path).map s.rebase).getD s

/-- The settings file of a run. A named file must be there; otherwise the file in the input
directory comes before the one in the working directory. -/
def findFile (disk : Disk) (named : Option String) (input : String) :
    Except Fault (Option String) :=
  match named with
  | some path => if disk.isFile path then .ok (some path) else .error (.missingSettings path)
  | none => .ok ([Disk.join input fileName, fileName].find? disk.isFile)

def discover (disk : Disk) (named : Option String) (input : String) : Except Fault Settings := do
  match ← findFile disk named input with
  | some path => load disk path
  | none => return standard

end Dispatchers.Settings
