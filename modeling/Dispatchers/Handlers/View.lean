import Dispatchers.Resolve.Ancestors

namespace Dispatchers.Handlers

open Controller Resolve

structure ParentView where
  name : String
  call : String
deriving DecidableEq

/-- A call of a hook on the value that a selector leads to, such as `c.Base`. -/
structure HookCall where
  receiver : String
  shape : HookShape
deriving DecidableEq

structure ParamView where
  name : String
  type : String
  conversion : String
deriving DecidableEq

structure FieldView where
  name : String
  kind : BindKind
  assigned : String
deriving DecidableEq

structure RouteView where
  method : String
  pattern : String
  /-- Empty for a route without one. -/
  label : String
  handler : String
deriving DecidableEq

structure ActionView where
  name : String
  comments : List String
  params : List ParamView
  /-- How many results follow the handler. -/
  extraResults : Nat
  routes : List RouteView
deriving DecidableEq

structure ControllerView where
  name : String
  comments : List String
  parents : List ParentView
  fields : List FieldView
  /-- Calls before an action, those of ancestors first. -/
  before : List HookCall
  after : List HookCall
  actions : List ActionView
deriving DecidableEq

namespace ControllerView

def needsArgs (v : ControllerView) : Bool :=
  (v.before ++ v.after).any (·.shape.forwardsArgs)

def usesConversions (v : ControllerView) : Bool :=
  v.actions.any (!·.params.isEmpty)

end ControllerView

def ParentView.of (p : Parent) : ParentView :=
  ⟨p.name, match p.qualifier? with
    | some qualifier => qualifier ++ "." ++ p.name
    | none => p.name⟩

def boundValue : BindKind → String
  | .request => "r"
  | .response => "w"
  | .controller => "ctr"
  | .action => "act"

def FieldView.of (f : BindField) : FieldView :=
  ⟨f.name, f.kind, boundValue f.kind⟩

def RouteView.of (route : Route) : RouteView :=
  ⟨route.verb.name, route.pattern, route.label.getD "", route.handler⟩

def HookCall.of (receiver : String) (hook : Option HookMethod) : List HookCall :=
  hook.toList.map fun h => ⟨receiver, h.shape⟩

/-- Conversion functions belong to the package `conv` where there is one, and else to the generated
package. -/
def conversionCall (external : Bool) (function : String) : String :=
  (if external then "conv." else "param") ++ function

def paramView (external : Bool) (action : String) (param : Go.Arg) : Except Fault ParamView :=
  match bindableName? param.type with
  | none => .error (.unbindableParameter param.name action)
  | some type =>
    match conversions.get? type with
    | none => .error (.noConversion type)
    | some function => .ok ⟨param.name, type, conversionCall external function⟩

def actionView (external : Bool) (action : Go.Func) (routes : List Route) :
    Except Fault ActionView := do
  let params ← action.params.mapM (paramView external action.name)
  return ⟨action.name, action.comments, params, action.results.length - 1,
    routes.map RouteView.of⟩

def ancestorDecl (r : Resolution) (a : Ancestor) : Except Fault (String × ControllerDecl) :=
  match r.controller? a.parent.package a.parent.name with
  | some decl => .ok ("c." ++ a.access, decl)
  | none => .error (.unknownParent a.parent.name)

def controllerView (r : Resolution) (place : Nat) (external : Bool) (decl : ControllerDecl) :
    Except Fault ControllerView := do
  let ancestors ← r.ancestors place decl.name
  let chain := (← ancestors.mapM (ancestorDecl r)) ++ [("c", decl)]
  let actions ← (decl.actions.zip decl.routes).mapM fun (action, routes) =>
    actionView external action routes
  return ⟨decl.name, decl.comments, decl.parents.map ParentView.of,
    decl.fields.map FieldView.of, chain.flatMap fun (receiver, d) => HookCall.of receiver d.before,
    chain.flatMap fun (receiver, d) => HookCall.of receiver d.after, actions⟩

end Dispatchers.Handlers
