import Dispatchers.Proofs.Controller.BoundFields
import Dispatchers.Proofs.Controller.Locality
import Mathlib.Data.List.Basic

namespace Dispatchers.Controller

open Go

def BindsFirst (tag : Tag) (value : String) : Prop :=
  ∃ front rest, tag.entries = front ++ ("bind", value) :: rest ∧ ∀ entry ∈ front, entry.1 ≠ "bind"

theorem get?_bind_eq_some_iff {tag : Tag} {value : String} :
    tag.get? "bind" = some value ↔ BindsFirst tag value := by
  simp only [Tag.get?, BindsFirst, List.lookup_eq_some_iff, bne_iff_ne, ne_comm]

theorem get?_bind_eq_none_iff {tag : Tag} :
    tag.get? "bind" = none ↔ ∀ entry ∈ tag.entries, entry.1 ≠ "bind" := by
  simp only [Tag.get?, List.lookup_eq_none_iff, bne_iff_ne, ne_comm]

theorem BindKind.ofName?_eq_some_iff {name : String} {kind : BindKind} :
    BindKind.ofName? name = some kind ↔ name = kind.name := by
  constructor
  · intro found
    have same := List.find?_some found
    exact (of_decide_eq_true same).symm
  · rintro rfl
    cases kind <;> decide

theorem BindKind.ofName?_eq_none_iff {name : String} :
    BindKind.ofName? name = none ↔ ∀ kind : BindKind, name ≠ kind.name := by
  rw [Option.eq_none_iff_forall_ne_some]
  exact forall_congr' fun kind => not_congr ofName?_eq_some_iff

def BindKind.Requires (imports : Dictionary ImportTable) (markers : Markers) (file : String)
    (type : TypeExpr) : BindKind → Prop
  | request => markers.request.Recognizes imports file type
  | response => markers.responseWriter.Recognizes imports file type
  | controller | action => type = .named none "string"

inductive Outcome where
  | malformed (e : TagError)
  | unbound
  | unknown (value : String)
  | mismatched (kind : BindKind)
  | bound (kind : BindKind)
deriving DecidableEq

namespace Outcome

def bindField? (field : Arg) : Outcome → Option BindField
  | bound kind => some ⟨field.name, kind⟩
  | _ => none

def report (s : Struct) (field : Arg) (outcome : Outcome) : Report :=
  let warn (problem : Problem) (message : String) : Report :=
    [⟨s.file ++ ":" ++ s.name ++ "." ++ field.name, problem, message⟩]
  match outcome with
  | malformed e => warn .malformedTag ("cannot parse tag `" ++ field.tag ++ "`: " ++ e.message)
  | unknown value => warn .unknownBindKind ("unknown bind value `" ++ value ++ "`, field ignored")
  | mismatched kind => warn .bindTypeMismatch ("field of type `" ++ field.type.render ++
      "` cannot be bound as " ++ kind.name ++ ", field ignored")
  | unbound | bound _ => []

end Outcome

/-- The outcome that the tag and the type of a field call for. -/
inductive Meets (imports : Dictionary ImportTable) (markers : Markers) (file : String) (field : Arg) :
    Outcome → Prop where
  | malformed {e : TagError} (failed : Tag.parse field.tag = .error e) :
      Meets imports markers file field (.malformed e)
  | unbound {tag : Tag} (parsed : Tag.parse field.tag = .ok tag)
      (absent : ∀ entry ∈ tag.entries, entry.1 ≠ "bind") : Meets imports markers file field .unbound
  | unknown {tag : Tag} {value : String} (parsed : Tag.parse field.tag = .ok tag)
      (first : BindsFirst tag value) (other : ∀ kind : BindKind, value ≠ kind.name) :
      Meets imports markers file field (.unknown value)
  | mismatched {tag : Tag} {kind : BindKind} (parsed : Tag.parse field.tag = .ok tag)
      (first : BindsFirst tag kind.name)
      (other : ¬kind.Requires imports markers file field.type) :
      Meets imports markers file field (.mismatched kind)
  | bound {tag : Tag} {kind : BindKind} (parsed : Tag.parse field.tag = .ok tag)
      (first : BindsFirst tag kind.name) (required : kind.Requires imports markers file field.type) :
      Meets imports markers file field (.bound kind)

def outcomeOf (p : Package) (markers : Markers) (file : String) (field : Arg) : Outcome :=
  match Tag.parse field.tag with
  | .error e => .malformed e
  | .ok tag =>
    match tag.get? "bind" with
    | none => .unbound
    | some value =>
      match BindKind.ofName? value with
      | none => .unknown value
      | some kind =>
        if kind.accepts field.type p file markers then .bound kind else .mismatched kind

def taggedFields (s : Struct) : List Arg :=
  s.fields.filter fun field => field.name ≠ "" ∧ field.tag ≠ ""

section Fields

variable {p : Package} {markers : Markers} {s : Struct} {file : String} {field : Arg}

theorem requires_iff {kind : BindKind} {type : TypeExpr} :
    kind.accepts type p file markers = true ↔ kind.Requires p.imports markers file type := by
  rw [accepts_iff]
  cases kind <;> simp [BindKind.marker?, BindKind.Requires]

theorem bindField_eq (p : Package) (markers : Markers) (s : Struct) (field : Arg) :
    bindField p markers s field =
      ((outcomeOf p markers s.file field).bindField? field,
        (outcomeOf p markers s.file field).report s field) := by
  unfold bindField outcomeOf
  cases Tag.parse field.tag with
  | error e => rfl
  | ok tag =>
    simp only
    cases tag.get? "bind" with
    | none => rfl
    | some value =>
      simp only
      cases BindKind.ofName? value with
      | none => rfl
      | some kind =>
        simp only
        split <;> rfl

theorem meets_outcomeOf (markers : Markers) (file : String)
    (field : Arg) : Meets p.imports markers file field (outcomeOf p markers file field) := by
  unfold outcomeOf
  cases parsed : Tag.parse field.tag with
  | error e => exact .malformed parsed
  | ok tag =>
    simp only
    cases first : tag.get? "bind" with
    | none => exact .unbound parsed (get?_bind_eq_none_iff.mp first)
    | some value =>
      have binds := get?_bind_eq_some_iff.mp first
      simp only
      cases known : BindKind.ofName? value with
      | none => exact .unknown parsed binds (BindKind.ofName?_eq_none_iff.mp known)
      | some kind =>
        obtain rfl := BindKind.ofName?_eq_some_iff.mp known
        simp only
        split
        · rename_i accepted
          exact .bound parsed binds (requires_iff.mp accepted)
        · rename_i refused
          exact .mismatched parsed binds (mt requires_iff.mpr refused)

theorem outcomeOf_eq_iff {outcome : Outcome} :
    outcomeOf p markers file field = outcome ↔ Meets p.imports markers file field outcome := by
  constructor
  · rintro rfl
    exact meets_outcomeOf markers file field
  · intro meets
    unfold outcomeOf
    cases meets with
    | malformed failed => rw [failed]
    | unbound parsed absent => simp only [parsed, get?_bind_eq_none_iff.mpr absent]
    | unknown parsed first other =>
      simp only [parsed, get?_bind_eq_some_iff.mpr first, BindKind.ofName?_eq_none_iff.mpr other]
    | mismatched parsed first other =>
      simp only [parsed, get?_bind_eq_some_iff.mpr first, BindKind.ofName?_eq_some_iff.mpr rfl,
        if_neg (mt requires_iff.mp other)]
    | bound parsed first required =>
      simp only [parsed, get?_bind_eq_some_iff.mpr first, BindKind.ofName?_eq_some_iff.mpr rfl,
        if_pos (requires_iff.mpr required)]

theorem bindFields_eq (p : Package) (markers : Markers) (s : Struct) :
    bindFields p markers s =
      ((taggedFields s).filterMap fun field => (outcomeOf p markers s.file field).bindField? field,
        (taggedFields s).flatMap fun field => (outcomeOf p markers s.file field).report s field) := by
  have looked : (s.fields.filter fun field => !field.isEmbedded && !field.tag.isEmpty) =
      taggedFields s := by
    refine List.filter_congr fun field _ => ?_
    rw [Bool.eq_iff_iff]
    simp [Arg.isEmbedded]
  simp only [bindFields, looked, List.filterMap_map, List.flatMap_map, Function.comp_def, bindField_eq]

theorem sublist_names (outcome : Arg → Outcome) (fields : List Arg) :
    ((fields.filterMap fun field => (outcome field).bindField? field).map (·.name)).Sublist
      (fields.map (·.name)) := by
  induction fields with
  | nil => exact .slnil
  | cons field fields ih =>
    rw [List.filterMap_cons, List.map_cons]
    cases outcome field with
    | bound kind => exact ih.cons_cons field.name
    | _ => exact ih.cons field.name

theorem bindFields_names (p : Package) (markers : Markers) (s : Struct) :
    ((bindFields p markers s).1.map (·.name)).Sublist
      ((s.fields.filter fun field => field.name ≠ "").map (·.name)) := by
  have tagged : (taggedFields s).Sublist (s.fields.filter fun field => field.name ≠ "") := by
    refine List.monotone_filter_right _ fun field both => ?_
    rw [decide_eq_true_iff] at both ⊢
    exact both.1
  rw [bindFields_eq]
  exact (sublist_names _ _).trans (tagged.map _)

/-- Whatever struct a file declares, every field of it has the one outcome that its tag and its type
call for, and what is bound and what is reported are the outcomes of its fields in their order. -/
theorem bindFields_outcomes (markers : Markers) (file : String) :
    ∃ outcome : Arg → Outcome,
      (∀ field other, outcome field = other ↔ Meets p.imports markers file field other) ∧
      ∀ s : Struct, s.file = file →
        (bindFields p markers s).1 =
          ((taggedFields s).filterMap fun field => (outcome field).bindField? field) ∧
        (bindFields p markers s).2 =
          ((taggedFields s).flatMap fun field => (outcome field).report s field) ∧
        ((bindFields p markers s).1.map (·.name)).Sublist
          ((s.fields.filter fun field => field.name ≠ "").map (·.name)) := by
  refine ⟨outcomeOf p markers file, fun field other => outcomeOf_eq_iff, ?_⟩
  rintro s rfl
  have scanned := bindFields_eq p markers s
  exact ⟨congrArg Prod.fst scanned, congrArg Prod.snd scanned, bindFields_names p markers s⟩

end Fields

def basket : Struct :=
  ⟨"Basket", "shop.go", [],
    [⟨"query", "bind:\"request\"", .pointer (.named (some "h") "Request")⟩,
      ⟨"shown", "bind:\"action\"", .named none "int"⟩]⟩

theorem bindFields_outcomes_basket :
    ∃ outcome : Arg → Outcome,
      (∀ field other, outcome field = other ↔ Meets shop.imports .standard "shop.go" field other) ∧
      (taggedFields basket).map outcome = [.bound .request, .mismatched .action] ∧
      (bindFields shop .standard basket).1 =
        (taggedFields basket).filterMap fun field => (outcome field).bindField? field := by
  obtain ⟨outcome, meets, all⟩ := bindFields_outcomes .standard "shop.go"
  have computed : outcome = outcomeOf shop .standard "shop.go" :=
    funext fun field => (meets field _).mpr (meets_outcomeOf .standard "shop.go" field)
  refine ⟨outcome, meets, ?_, (all basket rfl).1⟩
  rw [computed]
  decide +kernel

end Dispatchers.Controller
