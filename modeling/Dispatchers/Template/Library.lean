import Dispatchers.Template.Basic
import Dispatchers.Template.Standard

namespace Dispatchers.Template

structure Library where
  handler : Template
  package : Template
  listing : Template

namespace Library

def handlerName : String :=
  "handler.go.tpl"

def packageName : String :=
  "init.go.tpl"

def listingName : String :=
  "listing.go.tpl"

/-- The source of a template: the file in `dir` if there is one, or else `standard`. -/
def sourceOf (disk : Disk) (dir : Option String) (name standard : String) :
    Except Fault String :=
  match (dir.map (Disk.join · name)).filter disk.isFile with
  | none => .ok standard
  | some path =>
    match disk.readText path with
    | .ok source => .ok source
    | .error cause => .error (.during .readTemplate path (.io cause))

def loadOne (disk : Disk) (dir : Option String) (name standard : String) :
    Except Fault Template := do
  match Template.parse (← sourceOf disk dir name standard) with
  | .ok t => return t
  | .error cause => .error (.during .parseTemplate name (.template cause))

/-- All templates; each must be well formed, also those that the run does not use. -/
def load (disk : Disk) (dir : Option String) : Except Fault Library := do
  let handler ← loadOne disk dir handlerName Standard.handler
  let package ← loadOne disk dir packageName Standard.package
  let listing ← loadOne disk dir listingName Standard.listing
  return ⟨handler, package, listing⟩

def find? (l : Library) (name : String) : Option Template :=
  [(handlerName, l.handler), (packageName, l.package), (listingName, l.listing)].lookup name

def render (l : Library) (name : String) (context : Value) : Except Fault String :=
  let rendered := match l.find? name with
    | some t => t.render context
    | none => .error .templateNotFound
  match rendered with
  | .ok text => .ok text
  | .error cause => .error (.during .renderTemplate name (.template cause))

end Library

end Dispatchers.Template
