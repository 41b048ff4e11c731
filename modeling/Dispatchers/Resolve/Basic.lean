import Dispatchers.Controller.Binding
import Dispatchers.Controller.Classifier
import Dispatchers.Route.Basic

namespace Dispatchers.Resolve

open Controller Go

structure Parent where
  /-- The number of the parent's package among those that the child's package embeds from; a
  parent of the same package has none. -/
  id : Option Nat
  importPath : String
  name : String
  package : Nat
deriving DecidableEq

/-- The name of a numbered package in generated code. -/
def qualifier (id : Nat) : String :=
  "c" ++ toString id

def Parent.qualifier? (p : Parent) : Option String :=
  p.id.map qualifier

/-- An exported struct with at least one action. -/
structure ControllerDecl where
  name : String
  file : String
  comments : List String
  actions : List Func
  before : Option HookMethod
  after : Option HookMethod
  parents : List Parent
  fields : List BindField
  routes : List (List Route)
deriving DecidableEq

/-- A scanned package with the prefixes that were active when it was reached first. -/
structure Scanned where
  /-- The import path, or the directory if none is known. -/
  importPath : String
  dir : String
  package : Package
  controllers : Dictionary ControllerDecl
  prefixes : List Route.Prefix
  /-- The import paths of the packages it embeds controllers from, in the order of their
  numbers. -/
  parentImports : List String

/-- What a scan found: each package stands after those that it embeds controllers from. -/
structure Resolution where
  packages : List Scanned
  root : Nat
  report : Report

namespace Resolution

def rootPackage? (r : Resolution) : Option Scanned :=
  r.packages[r.root]?

def controller? (r : Resolution) (package : Nat) (name : String) : Option ControllerDecl :=
  r.packages[package]?.bind (·.controllers.get? name)

end Resolution

def routesOf (s : Struct) (active : List Route.Prefix) (actions : List Func) :
    List (List Route) × Report :=
  let found := actions.map fun f => Route.ofComments s.name f.name f.file active f.comments
  (found.map Prod.fst, found.flatMap Prod.snd)

structure Collecting where
  classifier : Classifier
  controllers : Dictionary ControllerDecl
  report : Report

/-- One declared struct; a later struct of the same name replaces an earlier one. -/
def collectStep (active : List Route.Prefix) (c : Collecting) (s : Struct) : Collecting :=
  let ((found, report), classifier) := classify s.name c.classifier
  if found.actions.isEmpty then ⟨classifier, c.controllers, c.report ++ report⟩
  else if !Text.isExported s.name then
    ⟨classifier, c.controllers, c.report ++ report ++ [⟨s.file ++ ":" ++ s.name,
      .unexportedController, "struct has actions but is not exported, controller skipped"⟩]⟩
  else
    let (routes, ofRoutes) := routesOf s active found.actions
    let (fields, ofFields) := bindFields classifier.package classifier.markers s
    let decl : ControllerDecl :=
      ⟨s.name, s.file, s.comments, found.actions, found.before, found.after, [], fields, routes⟩
    ⟨classifier, c.controllers.insert s.name decl, c.report ++ report ++ ofRoutes ++ ofFields⟩

def collect (p : Package) (markers : Markers) (active : List Route.Prefix) :
    Dictionary ControllerDecl × Report :=
  let c := p.structs.foldl (collectStep active) ⟨.of p markers, .empty, []⟩
  (c.controllers, c.report)

end Dispatchers.Resolve
