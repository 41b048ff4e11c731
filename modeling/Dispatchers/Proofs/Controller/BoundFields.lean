import Dispatchers.Controller.Binding
import Dispatchers.Proofs.Controller.Signatures

namespace Dispatchers.Controller

open Go

variable {p : Package} {markers : Markers} {s : Struct} {field : Arg}

def BindKind.marker? (markers : Markers) : BindKind → Option Marker
  | .request => some markers.request
  | .response => some markers.responseWriter
  | .controller | .action => none

def Marker.Recognizes (m : Marker) (imports : Dictionary ImportTable) (file : String)
    (type : TypeExpr) : Prop :=
  ∃ known, m.KnownAs imports file known ∧ type = m.typeIn known

theorem accepts_iff {kind : BindKind} {type : TypeExpr}
    {file : String} :
    kind.accepts type p file markers = true ↔
      (∀ m, kind.marker? markers = some m → m.Recognizes p.imports file type) ∧
        (kind.marker? markers = none → type = .named none "string") := by
  cases kind with
  | request => simp [BindKind.marker?, BindKind.accepts, any_qualifier?_iff, Marker.Recognizes]
  | response => simp [BindKind.marker?, BindKind.accepts, any_qualifier?_iff, Marker.Recognizes]
  | controller => simp [BindKind.marker?, BindKind.accepts]
  | action => simp [BindKind.marker?, BindKind.accepts]

def bindKind? (field : Arg) : Option BindKind :=
  match Tag.parse field.tag with
  | .error _ => none
  | .ok tag => (tag.get? "bind").bind BindKind.ofName?

theorem bindField_eq_some_iff {found : BindField} :
    (bindField p markers s field).1 = some found ↔
      found.name = field.name ∧ bindKind? field = some found.kind ∧
        found.kind.accepts field.type p s.file markers = true := by
  obtain ⟨name, kind⟩ := found
  simp only [bindField, bindKind?]
  cases Tag.parse field.tag with
  | error e => simp
  | ok tag =>
    simp only
    cases tag.get? "bind" with
    | none => simp
    | some value =>
      simp only [Option.bind_some]
      cases BindKind.ofName? value with
      | none => simp
      | some other =>
        simp only [Option.some.injEq]
        by_cases accepted : other.accepts field.type p s.file markers = true
        · simp only [accepted, if_true, Option.some.injEq, BindField.mk.injEq]
          constructor
          · rintro ⟨rfl, rfl⟩
            exact ⟨rfl, rfl, accepted⟩
          · rintro ⟨rfl, rfl, -⟩
            exact ⟨rfl, rfl⟩
        · simp only [accepted, Bool.false_eq_true, if_false, reduceCtorEq, false_iff]
          rintro ⟨-, rfl, absurdly⟩
          exact accepted absurdly

theorem bindField_congr {q : Package}
    (same : ∀ kind, bindKind? field = some kind →
      kind.accepts field.type q s.file markers = kind.accepts field.type p s.file markers) :
    bindField q markers s field = bindField p markers s field := by
  simp only [bindField, bindKind?] at same ⊢
  cases parsed : Tag.parse field.tag with
  | error e => rfl
  | ok tag =>
    rw [parsed] at same
    simp only at same ⊢
    cases bound : tag.get? "bind" with
    | none => rfl
    | some value =>
      rw [bound, Option.bind_some] at same
      simp only
      cases named : BindKind.ofName? value with
      | none => rfl
      | some kind => simp only [same kind named]

end Dispatchers.Controller
