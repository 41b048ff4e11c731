import Dispatchers.Resolve.Basic
import Dispatchers.Text.JsonText

namespace Dispatchers

structure RouteEntry where
  package : String
  controller : String
  route : Route
deriving DecidableEq

namespace RouteTable

open Resolve

def ofController (importPath : String) (decl : ControllerDecl) : List RouteEntry :=
  decl.routes.flatten.map fun route => ⟨importPath, decl.name, route⟩

/-- The routes of every controller of every package, the scanned package last. -/
def ofResolution (r : Resolution) : List RouteEntry :=
  r.packages.flatMap fun scanned =>
    scanned.controllers.values.flatMap (ofController scanned.importPath)

def pad (width : Nat) (s : String) : String :=
  s ++ String.ofList (List.replicate (width - s.length) ' ')

/-- The bytes of the longest text. -/
def width (texts : List String) : Nat :=
  (texts.map String.utf8ByteSize).foldl max 0

def line (methodWidth patternWidth : Nat) (r : Route) : String :=
  pad methodWidth r.verb.name ++ "  " ++ pad patternWidth r.pattern ++ "  " ++ r.handler ++
    (match r.label with
      | some label => "  " ++ label
      | none => "") ++ "\n"

/-- One route per line, in columns. A column is as many characters wide as its longest text has
bytes. -/
def render (routes : List Route) : String :=
  let methodWidth := width (routes.map (·.verb.name))
  let patternWidth := width (routes.map (·.pattern))
  String.join (routes.map (line methodWidth patternWidth))

def jsonField (key : String) (value : Option String) : String :=
  "    " ++ Text.jsonText key ++ ": " ++ (value.map Text.jsonText).getD "null"

def jsonEntry (e : RouteEntry) : String :=
  "  \x7b\n" ++ ",\n".intercalate [jsonField "package" (some e.package),
    jsonField "controller" (some e.controller), jsonField "method" (some e.route.verb.name),
    jsonField "pattern" (some e.route.pattern), jsonField "label" e.route.label,
    jsonField "handler_name" (some e.route.handler)] ++ "\n  \x7d"

def renderJson (table : List RouteEntry) : String :=
  if table.isEmpty then "[]\n"
  else "[\n" ++ ",\n".intercalate (table.map jsonEntry) ++ "\n]\n"

end RouteTable

end Dispatchers
