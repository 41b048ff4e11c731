import Dispatchers.Go.Package

namespace Dispatchers.Controller

open Go

/-- A type named by the end of its package's import path. -/
structure Marker where
  importPath : String
  name : String
  pointer : Bool
deriving DecidableEq

namespace Marker

def matchesImport (m : Marker) (path : String) : Bool :=
  path == m.importPath || ('/' :: m.importPath.toList).isSuffixOf path.toList

def matchesType (m : Marker) (type : TypeExpr) (qualifier : String) : Bool :=
  type.isPointer == m.pointer && type.deref.isQualified qualifier m.name

/-- The first name, in order of the names, by which `file` imports the marker's package. -/
def qualifier? (m : Marker) (p : Package) (file : String) : Option String :=
  (p.imports.get? file).bind fun table =>
    (table.entries.find? fun (_, path) => m.matchesImport path).map Prod.fst

end Marker

structure Markers where
  /-- The first result of every action. -/
  action : Marker
  /-- The first parameter of a hook. -/
  responseWriter : Marker
  /-- The second parameter of a hook. -/
  request : Marker
deriving DecidableEq

def Markers.standard : Markers :=
  ⟨⟨"net/http", "Handler", false⟩, ⟨"net/http", "ResponseWriter", false⟩,
    ⟨"net/http", "Request", true⟩⟩

def primitives : List String :=
  ["bool", "string", "int", "int8", "int16", "int32", "int64", "uint", "uint8", "uint16", "uint32",
    "uint64", "float32", "float64"]

def bindableName? : TypeExpr → Option String
  | .named none name => if primitives.contains name then some name else none
  | .slice (.named none name) => if primitives.contains name then some ("[]" ++ name) else none
  | _ => none

/-- The conversion function of each bindable type, such as `Ints` for `[]int`. -/
def conversions : Dictionary String :=
  .ofList (primitives.flatMap fun name =>
    let function := Text.upperFirst name
    [(name, function), ("[]" ++ name, function ++ "s")])

end Dispatchers.Controller
