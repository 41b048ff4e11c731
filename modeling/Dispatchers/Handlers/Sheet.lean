import Dispatchers.Handlers.Options
import Dispatchers.Handlers.View
import Dispatchers.Path.Clean

namespace Dispatchers.Handlers

open Controller Resolve

structure ConversionHelper where
  type : String
  function : String
  /-- The call that reads the text `s`; texts need none. -/
  parse : Option String
deriving DecidableEq

/-- The call that reads a value of a primitive type, whose name ends in its bits. -/
def parseCall? (type : String) : Option String :=
  let kind := String.ofList (type.toList.takeWhile Char.isAlpha)
  let digits := String.ofList (type.toList.dropWhile Char.isAlpha)
  let bits := if digits.isEmpty then "0" else digits
  match kind with
  | "string" => none
  | "bool" => some "strconv.ParseBool(s)"
  | "float" => some ("strconv.ParseFloat(s, " ++ bits ++ ")")
  | "uint" => some ("strconv.ParseUint(s, 10, " ++ bits ++ ")")
  | _ => some ("strconv.ParseInt(s, 10, " ++ bits ++ ")")

def conversionHelpers : List ConversionHelper :=
  primitives.map fun type => ⟨type, (conversions.get? type).getD "", parseCall? type⟩

inductive Content where
  | controller (view : ControllerView)
  /-- What the package shares. `parents` are the numbers of the packages it embeds from, and
  `callsInit` says that the controller package has a function to start it. -/
  | package (controllers : List String) (parents : List Nat) (callsInit : Bool)
    (helpers : List ConversionHelper)

structure Sheet where
  path : String
  package : String
  imports : Dictionary String
  content : Content

structure Destination where
  dir : String
  package : String
  controllers : String

structure Plan where
  resolution : Resolution
  rootImport : String
  outputImport : Option String
  options : Options

namespace Plan

def reservedControllers : List String :=
  ["Init", "Route", "Routes"]

def reservedActions : List String :=
  ["New", "Routes"]

def checkNames (package : String) (decl : ControllerDecl) : Except Fault Unit :=
  if reservedControllers.contains decl.name then .error (.reservedController decl.name package)
  else
    match decl.actions.find? (reservedActions.contains ·.name) with
    | some action => .error (.reservedAction decl.name action.name package)
    | none => .ok ()

def packageFile : String :=
  "init.go"

def controllerFile (controller : String) : String :=
  Text.snakeCase controller ++ ".go"

def parentImport (p : Plan) (importPath : String) : Except Fault String :=
  match p.outputImport with
  | some base => .ok (Path.join [base, importPath])
  | none => .error .outputImportNeeded

def parentEntry (p : Plan) (parent : Parent) : Except Fault (Option (String × String)) :=
  match parent.qualifier? with
  | some qualifier => do return some (qualifier, ← p.parentImport parent.importPath)
  | none => .ok none

def controllersEntry (d : Destination) : String × String :=
  ("contr", d.controllers)

def conversionEntry (p : Plan) (view : ControllerView) : List (String × String) :=
  if view.usesConversions then p.options.conversionImport.toList.map ("conv", ·) else []

/-- The file of one controller; `earlier` are the files of its package before it. -/
def controllerSheet (p : Plan) (place : Nat) (s : Scanned) (d : Destination)
    (earlier : List String) (decl : ControllerDecl) : Except Fault Sheet := do
  checkNames s.importPath decl
  let file := controllerFile decl.name
  if earlier.contains file then .error (.sameFile decl.name s.importPath file)
  let view ← controllerView p.resolution place p.options.conversionImport.isSome decl
  let parents ← decl.parents.mapM p.parentEntry
  let imports := controllersEntry d :: parents.reduceOption ++ p.conversionEntry view
  return ⟨Disk.join d.dir file, d.package, .ofList imports, .controller view⟩

def controllerSheets (p : Plan) (place : Nat) (s : Scanned) (d : Destination) :
    List String → List ControllerDecl → List (Except Fault Sheet)
  | _, [] => []
  | earlier, decl :: rest =>
    p.controllerSheet place s d earlier decl ::
      p.controllerSheets place s d (controllerFile decl.name :: earlier) rest

def callsInit (s : Scanned) : Bool :=
  (s.package.findFunc? "Init").any fun f => f.params.isEmpty && f.results.isEmpty

def packageSheet (p : Plan) (s : Scanned) (d : Destination) : Except Fault Sheet := do
  let numbered := s.parentImports.zipIdx
  let parents ← numbered.mapM fun (path, id) => do
    return (qualifier id, ← p.parentImport path)
  let own := if callsInit s then [controllersEntry d] else []
  let helpers := if p.options.conversionImport.isNone then conversionHelpers else []
  let reading := if p.options.conversionImport.isNone then
    [("strconv", "strconv"), ("url", "net/url")] else []
  return ⟨Disk.join d.dir packageFile, d.package, .ofList (parents ++ own ++ reading),
    .package s.controllers.keys (numbered.map Prod.snd) (callsInit s) helpers⟩

/-- The places of the packages that are generated: the root, and the others with controllers. -/
def places (r : Resolution) : List Nat :=
  r.root :: (r.packages.zipIdx.filter fun (s, i) =>
    i ≠ r.root ∧ s.controllers.keys ≠ []).map Prod.snd

/-- The root goes to the output directory itself, the others below it. -/
def destination (p : Plan) (place : Nat) (s : Scanned) : Destination :=
  if place = p.resolution.root then ⟨p.options.output, p.options.package, p.rootImport⟩
  else ⟨Disk.join p.options.output s.importPath, s.package.name, s.importPath⟩

def sheetsOf (p : Plan) (place : Nat) (s : Scanned) : List (Except Fault Sheet) :=
  let d := p.destination place s
  p.controllerSheets place s d [packageFile] s.controllers.values ++ [p.packageSheet s d]

def sheets (p : Plan) : List (Except Fault Sheet) :=
  (places p.resolution).flatMap fun place =>
    match p.resolution.packages[place]? with
    | some s => p.sheetsOf place s
    | none => []

def outputImportOf (disk : Disk) (l : Locator) (r : Resolution) (o : Options) :
    Except Fault (Option String) :=
  match o.outputImport with
  | some path => .ok (some path)
  | none =>
    if (places r).length > 1 then
      match l.importFor? disk o.output with
      | some path => .ok (some path)
      | none => .error (.noOutputImport o.output)
    else .ok none

def of (disk : Disk) (l : Locator) (r : Resolution) (o : Options) : Except Fault Plan :=
  match l.importFor? disk o.input with
  | none => .error (.noInputImport o.input)
  | some rootImport => do return ⟨r, rootImport, ← outputImportOf disk l r o, o⟩

end Plan

end Dispatchers.Handlers
