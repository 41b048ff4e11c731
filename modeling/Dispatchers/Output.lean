import Dispatchers.Disk.Write
import Dispatchers.Fault

namespace Dispatchers

def generatedHeader : String :=
  "// Code generated by handlergen. DO NOT EDIT."

structure OutputFile where
  path : String
  contents : String
deriving DecidableEq

namespace OutputFile

def makeParent (disk : Disk) (path : String) : Disk × Except Fault Unit :=
  match Disk.parent? path with
  | none => (disk, .ok ())
  | some dir =>
    let (made, outcome) := disk.makePath dir
    (made, outcome.mapError fun cause => .during .makeOutput dir (.io cause))

/-- Makes the directory of a file and writes it. What was made stays where the file cannot be
written. -/
def attempt (disk : Disk) (f : OutputFile) : Disk × Except Fault Unit :=
  match makeParent disk f.path with
  | (ready, .error cause) => (ready, .error cause)
  | (ready, .ok _) =>
    match ready.writeFile f.path f.contents.toUTF8 with
    | .ok written => (written, .ok ())
    | .error cause => (ready, .error (.during .writeFile f.path (.io cause)))

def write (disk : Disk) (f : OutputFile) : Except Fault Disk :=
  let (after, outcome) := f.attempt disk
  outcome.map fun _ => after

/-- Writes files up to the first that fails; those before it stay. -/
def writeAll (disk : Disk) : List OutputFile → Disk × Except Fault Unit
  | [] => (disk, .ok ())
  | f :: rest =>
    match f.attempt disk with
    | (written, .ok _) => writeAll written rest
    | (left, .error cause) => (left, .error cause)

/-- Writes files and gives their paths; a dry run writes nothing. -/
def deliver (disk : Disk) (dryRun : Bool) (files : List OutputFile) :
    Disk × Except Fault (List String) :=
  if dryRun then (disk, .ok (files.map (·.path)))
  else
    let (written, outcome) := writeAll disk files
    (written, outcome.map fun _ => files.map (·.path))

end OutputFile

end Dispatchers
