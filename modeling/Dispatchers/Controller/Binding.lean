import Dispatchers.Controller.Marker
import Dispatchers.Go.Tag
import Dispatchers.Report

namespace Dispatchers.Controller

open Go

inductive BindKind where
  | request
  | response
  | controller
  | action
deriving DecidableEq

namespace BindKind

def name : BindKind → String
  | request => "request"
  | response => "response"
  | controller => "controller"
  | action => "action"

def all : List BindKind :=
  [request, response, controller, action]

def ofName? (name : String) : Option BindKind :=
  all.find? (·.name = name)

/-- Names are bound to texts, and the request and the response to fields of their marker type. -/
def accepts (kind : BindKind) (type : TypeExpr) (p : Package) (file : String) (markers : Markers) :
    Bool :=
  let isMarker (m : Marker) : Bool := (m.qualifier? p file).any (m.matchesType type ·)
  match kind with
  | request => isMarker markers.request
  | response => isMarker markers.responseWriter
  | controller | action => type == .named none "string"

end BindKind

structure BindField where
  name : String
  kind : BindKind
deriving DecidableEq

def bindField (p : Package) (markers : Markers) (s : Struct) (field : Arg) :
    Option BindField × Report :=
  let warn (problem : Problem) (message : String) : Option BindField × Report :=
    (none, [⟨s.file ++ ":" ++ s.name ++ "." ++ field.name, problem, message⟩])
  match Tag.parse field.tag with
  | .error e => warn .malformedTag ("cannot parse tag `" ++ field.tag ++ "`: " ++ e.message)
  | .ok tag =>
    match tag.get? "bind" with
    | none => (none, [])
    | some value =>
      match BindKind.ofName? value with
      | none => warn .unknownBindKind ("unknown bind value `" ++ value ++ "`, field ignored")
      | some kind =>
        if kind.accepts field.type p s.file markers then (some ⟨field.name, kind⟩, [])
        else warn .bindTypeMismatch ("field of type `" ++ field.type.render ++
          "` cannot be bound as " ++ kind.name ++ ", field ignored")

def bindFields (p : Package) (markers : Markers) (s : Struct) : List BindField × Report :=
  let tagged := s.fields.filter fun field => !field.isEmbedded && !field.tag.isEmpty
  let found := tagged.map (bindField p markers s)
  (found.filterMap Prod.fst, found.flatMap Prod.snd)

end Dispatchers.Controller
