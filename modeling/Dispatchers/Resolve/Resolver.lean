import Dispatchers.Disk.Sources
import Dispatchers.Locator
import Dispatchers.Resolve.Basic

namespace Dispatchers.Resolve

open Controller Go

structure Setting where
  disk : Disk
  locator : Locator
  markers : Markers

/-- The packages scanned so far, the keys of those whose scan has begun and not ended, and the
problems found. -/
structure Resolver where
  packages : List Scanned
  pending : List String
  report : Report

def Resolver.start : Resolver :=
  ⟨[], [], []⟩

/-- What was found up to a fault stays. -/
abbrev Resolving := ExceptT Fault (StateM Resolver)

def warn (report : Report) : Resolving Unit :=
  modify fun r => { r with report := r.report ++ report }

def Resolver.index? (r : Resolver) (key : String) : Option Nat :=
  r.packages.findIdx? (·.importPath = key)

/-- An embedded controller before the place of its child's package is known. -/
inductive Embedding where
  | own (name : String)
  | foreign (id : Nat) (importPath name : String) (package : Nat)
deriving DecidableEq

def Embedding.parent (ownKey : String) (ownIndex : Nat) : Embedding → Parent
  | own name => ⟨none, ownKey, name, ownIndex⟩
  | foreign id importPath name package => ⟨some id, importPath, name, package⟩

/-- How a package that controllers embed from is scanned: `none` if it cannot be located. -/
abbrev Follow := String → List Route.Prefix → Resolving (Option Nat)

structure Linking where
  key : String
  package : Package
  active : List Route.Prefix
  controllers : Dictionary ControllerDecl

/-- The import path that the qualifier of an embedded type stands for, unless it is the package
itself. -/
def Linking.foreignImport? (l : Linking) (s : Struct) (type : TypeExpr) : Option String :=
  (type.package?.bind (l.package.importOf? s.file ·)).filter (· ≠ l.key)

/-- A package of the standard library has no dot in the first segment of its path. -/
def isRemote (importPath : String) : Bool :=
  (importPath.toList.takeWhile (· != '/')).contains '.'

/-- The number of an import path among those numbered so far, which it joins if it is new. -/
def number (numbered : List String) (importPath : String) : Nat × List String :=
  match numbered.findIdx? (· = importPath) with
  | some id => (id, numbered)
  | none => (numbered.length, numbered ++ [importPath])

/-- An embedding of a type of the same package. Its tag declares no prefixes. -/
def linkOwn (l : Linking) (location name tag : String) : Resolving (List Embedding) := do
  if l.controllers.contains name then
    let (prefixes, report) := Route.Prefix.ofTag tag location
    warn report
    if !prefixes.isEmpty then
      warn [⟨location, .ignoredPrefix, "route prefixes on the same-package embedding of " ++ name ++
        " are ignored, its routes come from the package prefixes"⟩]
    return [.own name]
  else return []

def linkForeign (follow : Follow) (l : Linking) (location importPath name : String) (field : Arg)
    (numbered : List String) : Resolving (List Embedding × List String) := do
  let (declared, report) := Route.Prefix.ofTag field.tag location
  warn report
  match ← follow importPath (Route.Prefix.nest l.active declared) with
  | none =>
    if isRemote importPath then
      warn [⟨location, .unresolvedEmbedding, "cannot locate package " ++ importPath ++
        " of embedded " ++ field.type.render ++ ", embedding skipped"⟩]
    return ([], numbered)
  | some index =>
    match (← get).packages[index]? with
    | some scanned =>
      if scanned.controllers.contains name then
        let (id, numbered) := number numbered importPath
        return ([.foreign id importPath name index], numbered)
      else return ([], numbered)
    | none => return ([], numbered)

/-- The parent that an embedded field gives, if any; only pointers to named types give one. -/
def linkField (follow : Follow) (l : Linking) (s : Struct)
    (found : List Embedding × List String) (field : Arg) :
    Resolving (List Embedding × List String) := do
  let location := s.file ++ ":" ++ s.name
  match field.type.isPointer, field.type.name? with
  | true, some name =>
    match l.foreignImport? s field.type with
    | none => return (found.1 ++ (← linkOwn l location name field.tag), found.2)
    | some importPath =>
      let (more, numbered) ← linkForeign follow l location importPath name field found.2
      return (found.1 ++ more, numbered)
  | _, _ => return found

/-- The parents of the controller `name` in the order of its fields. Of several structs with the
name, the first declares them. -/
def link (follow : Follow) (l : Linking) (numbered : List String) (name : String) :
    Resolving (List Embedding × List String) :=
  match l.package.findStruct? name with
  | none => return ([], numbered)
  | some s => (s.fields.filter (·.isEmbedded)).foldlM (linkField follow l s) ([], numbered)

def linkAll (follow : Follow) (l : Linking) :
    Resolving (List (ControllerDecl × List Embedding) × List String) :=
  l.controllers.entries.foldlM (fun (found, numbered) (name, decl) => do
    let (embeddings, numbered) ← link follow l numbered name
    return (found ++ [(decl, embeddings)], numbered)) ([], [])

/-- Controllers by name, with the parents that their embeddings give in the package `key`, which
comes to stand at `index`. -/
def completed (key : String) (index : Nat) (linked : List (ControllerDecl × List Embedding)) :
    List (String × ControllerDecl) :=
  linked.map fun (decl, embeddings) =>
    (decl.name, { decl with parents := embeddings.map (·.parent key index) })

def scanNew (setting : Setting) (follow : Follow) (key dir : String)
    (active : List Route.Prefix) : Resolving Nat := do
  modify fun r => { r with pending := key :: r.pending }
  let package ← match setting.disk.package dir with
    | .ok package => pure package
    | .error cause => throw (.scan key cause)
  let (controllers, report) := collect package setting.markers active
  warn report
  let (linked, numbered) ← linkAll follow ⟨key, package, active, controllers⟩
  let index := (← get).packages.length
  let controllers := Dictionary.ofList (completed key index linked)
  let scanned : Scanned := ⟨key, dir, package, controllers, active, numbered⟩
  modify fun r =>
    { r with pending := r.pending.filter (· ≠ key), packages := r.packages ++ [scanned] }
  return index

/-- The place of the package with a key, which is scanned unless it was before. Reaching a package
whose scan has not ended closes a cycle of imports. -/
def scan (setting : Setting) (follow : Follow) (key dir : String) (active : List Route.Prefix) :
    Resolving Nat := do
  let r ← get
  match r.index? key with
  | some index => return index
  | none =>
    if r.pending.contains key then throw (.importCycle key)
    else scanNew setting follow key dir active

/-- Follows chains of at most so many imports. A chain longer than the number of import paths on
the disk repeats one of them, so it is a cycle. -/
def followWithin (setting : Setting) : Nat → Follow
  | 0, importPath, _ => throw (.importCycle importPath)
  | length + 1, importPath, active => do
    match (← get).index? importPath with
    | some index => return some index
    | none =>
      match setting.locator.dirFor? setting.disk importPath with
      | none => return none
      | some dir => some <$> scan setting (followWithin setting length) importPath dir active

def follow (setting : Setting) : Follow :=
  followWithin setting (setting.disk.importPaths.length + 2)

/-- The key of the package in `dir`: its import path, or the directory itself. -/
def keyOf (setting : Setting) (dir : String) : String :=
  (setting.locator.importFor? setting.disk dir).getD dir

def scanDirectory (setting : Setting) (dir : String) (active : List Route.Prefix) :
    Resolving Nat :=
  scan setting (follow setting) (keyOf setting dir) dir active

def resolve (setting : Setting) (dir : String) (active : List Route.Prefix) :
    Except Fault Resolution :=
  match scanDirectory setting dir active .start with
  | (.ok root, r) => .ok ⟨r.packages, root, r.report⟩
  | (.error cause, _) => .error cause

end Dispatchers.Resolve
