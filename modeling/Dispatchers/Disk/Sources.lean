import Dispatchers.Fault
import Dispatchers.Go.Package

namespace Dispatchers.Disk

open Go

/-- Files named `*.go` count, tests do not. -/
def isSourceName (name : String) : Bool :=
  let s := name.toList
  s != ".go".toList && ".go".toList.isSuffixOf s && !"_test.go".toList.isSuffixOf s

def sourcesIn (dir : String) (children : List (String × Node)) : List (String × ByteArray) :=
  let found := children.filterMap fun (name, node) =>
    match node with
    | .file content => if isSourceName name then some (name, content) else none
    | .directory => none
  (found.mergeSort fun a b => !(b.1 < a.1)).map fun (name, content) => (join dir name, content)

def addSource (p : Package) (source : String × ByteArray) : Except Fault Package :=
  match decode source.2 with
  | .error cause => .error (.during .readSource source.1 (.io cause))
  | .ok text => p.parse source.1 text

def package (disk : Disk) (dir : String) : Except Fault Package :=
  match disk.readDirectory dir with
  | .error cause => .error (.during .readDirectory dir (.io cause))
  | .ok children =>
    match sourcesIn dir children with
    | [] => .error (.noSources dir)
    | sources => sources.foldlM addSource .empty

def importsOf : Declaration → List String
  | .imports entries => entries.map Prod.snd
  | _ => []

def importPaths (disk : Disk) : List String :=
  disk.nodes.flatMap fun (names, node) =>
    match node with
    | .directory => []
    | .file content =>
      if names.getLast?.any isSourceName then
        match decode content with
        | .error _ => []
        | .ok text => ((Source.declarations? "" text).getD []).flatMap importsOf
      else []

end Dispatchers.Disk
