import Dispatchers.Route.Directive
import Dispatchers.Route.Prefix

namespace Dispatchers

open Http

structure Route where
  verb : Verb
  pattern : String
  label : Option String
  handler : String
deriving DecidableEq

namespace Route

/-- The routes of a directive: its verbs in order, each under the active prefixes. Without a
pattern the route is named after controller and action. -/
def ofDirective (controller action : String) (active : List Prefix) (a : Directive) :
    List Route :=
  let pattern := if a.pattern = "" then controller ++ "/" ++ action else a.pattern
  a.scope.verbs.flatMap fun verb =>
    (Prefix.apply active verb pattern).map fun full =>
      ⟨verb, full, a.label, controller ++ "." ++ action⟩

def ofLine (controller action file : String) (active : List Prefix) (line : String) :
    List Route × Report :=
  match Directive.parse? line with
  | none => ([], [])
  | some (.ok a) => (ofDirective controller action active a, [])
  | some (.error token) =>
    ([], [⟨file ++ ":" ++ controller ++ "." ++ action, .unknownRouteMethod,
      "unknown route method `" ++ token ++ "` in `" ++ line ++ "`, line skipped"⟩])

def ofComments (controller action file : String) (active : List Prefix) (comments : List String) :
    List Route × Report :=
  let found := comments.map (ofLine controller action file active)
  (found.flatMap Prod.fst, found.flatMap Prod.snd)

end Route

end Dispatchers
