import Dispatchers.Controller.Marker
import Dispatchers.Report

namespace Dispatchers.Controller

open Go

inductive Hook where
  | before
  | after
deriving DecidableEq

namespace Hook

def name : Hook → String
  | before => "Before"
  | after => "After"

def all : List Hook :=
  [before, after]

def ofName? (name : String) : Option Hook :=
  all.find? (·.name = name)

/-- Methods with the name of a hook are never actions. -/
def isReserved (f : Func) : Bool :=
  (ofName? f.name).isSome

end Hook

structure HookShape where
  /-- The hook returns what an action returns, and otherwise a truth value. -/
  returnsHandler : Bool
  /-- The hook takes the values of the route as its last argument. -/
  forwardsArgs : Bool
deriving DecidableEq

structure HookMethod where
  hook : Hook
  func : Func
  shape : HookShape
deriving DecidableEq

structure Classified where
  actions : List Func
  before : Option HookMethod
  after : Option HookMethod
deriving DecidableEq

inductive Verdict where
  | action
  /-- An action but for this parameter, whose type no request value converts to. -/
  | unbindable (param : Arg)
  | other
deriving DecidableEq

def Verdict.report (f : Func) : Verdict → Report
  | .unbindable param =>
    [⟨f.location, .unsupportedParameter, "parameter `" ++ param.name ++ "` of type `" ++
      param.type.render ++ "` cannot be bound from a request; method is not an action"⟩]
  | _ => []

/-- The qualifier of the action marker in each file asked about so far is remembered. -/
structure Classifier where
  package : Package
  markers : Markers
  known : Dictionary (Option String)

def Classifier.of (package : Package) (markers : Markers) : Classifier :=
  ⟨package, markers, .empty⟩

abbrev Classifying := StateM Classifier

def actionQualifier (file : String) : Classifying (Option String) := do
  let c ← get
  match c.known.get? file with
  | some qualifier => return qualifier
  | none =>
    let qualifier := c.markers.action.qualifier? c.package file
    set { c with known := c.known.insert file qualifier }
    return qualifier

/-- An action is exported, has no hook's name and returns the action marker first, and each of its
parameters is bindable. -/
def judge (f : Func) : Classifying Verdict := do
  if Hook.isReserved f || !f.isExported then return .other
  let c ← get
  match ← actionQualifier f.file, f.results with
  | some qualifier, first :: _ =>
    if c.markers.action.matchesType first.type qualifier then
      return match f.params.find? fun p => (bindableName? p.type).isNone with
        | some param => .unbindable param
        | none => .action
    else return .other
  | _, _ => return .other

def hookParams? (markers : Markers) (writer request : String) (params : List Arg) : Option Bool :=
  let starts (first second : Arg) : Bool :=
    markers.responseWriter.matchesType first.type writer &&
      markers.request.matchesType second.type request
  match params with
  | [first, second] => if starts first second then some false else none
  | [first, second, args] =>
    if starts first second && args.type == .slice (.named none "string") then some true else none
  | _ => none

def hookShape? (f : Func) : Classifying (Option HookShape) := do
  let c ← get
  let forwards := do
    let writer ← c.markers.responseWriter.qualifier? c.package f.file
    let request ← c.markers.request.qualifier? c.package f.file
    hookParams? c.markers writer request f.params
  match forwards, f.results with
  | some forwardsArgs, [result] =>
    if result.type = .named none "bool" then return some ⟨false, forwardsArgs⟩
    match ← actionQualifier f.file with
    | some qualifier =>
      if c.markers.action.matchesType result.type qualifier then return some ⟨true, forwardsArgs⟩
      else return none
    | none => return none
  | _, _ => return none

def hookWarning (hook : Hook) (f : Func) : Diagnostic :=
  ⟨f.location, .hookSignature, hook.name ++
    " must take (http.ResponseWriter, *http.Request[, []string]) and return bool or the action " ++
    "result type; hook ignored"⟩

def Classified.withHook (c : Classified) (m : HookMethod) : Classified :=
  match m.hook with
  | .before => { c with before := some m }
  | .after => { c with after := some m }

def actionStep (found : List Func × Report) (f : Func) : Classifying (List Func × Report) := do
  let verdict ← judge f
  return (if verdict = .action then found.1 ++ [f] else found.1, found.2 ++ verdict.report f)

/-- One method in the pass that finds the hooks; a later hook replaces an earlier one. -/
def hookStep (found : Classified × Report) (f : Func) : Classifying (Classified × Report) := do
  match Hook.ofName? f.name with
  | none => return found
  | some hook =>
    match ← hookShape? f with
    | some shape => return (found.1.withHook ⟨hook, f, shape⟩, found.2)
    | none => return (found.1, found.2 ++ [hookWarning hook f])

def classify (typeName : String) : Classifying (Classified × Report) := do
  let methods := (← get).package.methodsOf typeName
  let (actions, report) ← methods.foldlM actionStep ([], [])
  methods.foldlM hookStep (⟨actions, none, none⟩, report)

end Dispatchers.Controller
