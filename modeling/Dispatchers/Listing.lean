import Dispatchers.Output
import Dispatchers.Path.Clean
import Dispatchers.Template.Library

namespace Dispatchers.Listing

structure Entry where
  key : String
  path : String
deriving DecidableEq

/-- Separates the names of a path by slashes where it uses backslashes. -/
def slashed (path : String) : String :=
  String.ofList (path.toList.map fun c => if c = '\\' then '/' else c)

/-- Earlier names decide before later ones. -/
def namesLe : List String → List String → Bool
  | [], _ => true
  | _ :: _, [] => false
  | a :: as, b :: bs => if a = b then namesLe as bs else a < b

def entryOf (root : String) (names : List String) : Entry :=
  let key := slashed ("/".intercalate names)
  ⟨key, Path.join [root, key]⟩

def entries (disk : Disk) (input : String) : Except Fault (List Entry) :=
  match disk.find input with
  | .ok (names, .directory) =>
    let walk := (disk.filesBelow names).mergeSort namesLe
    .ok ((walk.map (entryOf (slashed input))).mergeSort fun a b => !(b.key < a.key))
  | _ => .error (.noListingInput input)

structure Options where
  input : String
  output : String
  package : String
  templates : Option String
  dryRun : Bool

open Template

def Entry.value (e : Entry) : Value :=
  .record [("key", .text e.key), ("path", .text e.path)]

def context (o : Options) (found : List Entry) : Value :=
  .record [("header", .text generatedHeader), ("package", .text o.package),
    ("root", .text (slashed o.input)), ("entries", .list (found.map Entry.value))]

def prepare (disk : Disk) (o : Options) : Except Fault OutputFile := do
  let library ← Library.load disk o.templates
  let found ← entries disk o.input
  let text ← library.render Library.listingName (context o found)
  return ⟨Disk.join o.output "listing.go", text⟩

/-- Generates the index of the input directory and gives its path. A run that fails before it
writes leaves the disk as it was. -/
def generate (disk : Disk) (o : Options) : Disk × Except Fault String :=
  match prepare disk o with
  | .error cause => (disk, .error cause)
  | .ok file =>
    let (after, written) := OutputFile.deliver disk o.dryRun [file]
    (after, written.map fun _ => file.path)

end Dispatchers.Listing
