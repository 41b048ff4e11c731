import Dispatchers.Proofs.Resolve.ImportGraph

namespace Dispatchers.Resolve

open Controller Go

structure Crossing where
  owner : Struct
  field : Arg
  importPath : String

abbrev Request := String × List Route.Prefix

namespace Crossing

def prefixes (c : Crossing) (active : List Route.Prefix) : List Route.Prefix :=
  Route.Prefix.nest active
    (Route.Prefix.ofTag c.field.tag (c.owner.file ++ ":" ++ c.owner.name)).1

def request (active : List Route.Prefix) (c : Crossing) : Request :=
  (c.importPath, c.prefixes active)

end Crossing

/-- A field crosses where it embeds a pointer to a type whose qualifier is bound to another
package. -/
def crossing? (key : String) (p : Package) (s : Struct) (field : Arg) : Option Crossing :=
  if field.isEmbedded && field.type.isPointer && field.type.name?.isSome then
    ((boundImport? p s field.type).filter (· ≠ key)).map fun importPath => ⟨s, field, importPath⟩
  else none

/-- Of several structs with the name of a controller, the first declares its fields. -/
def crossingsOf (key : String) (p : Package) (name : String) : List Crossing :=
  match p.findStruct? name with
  | none => []
  | some s => s.fields.filterMap (crossing? key p s)

namespace Scanned

def crossings (P : Scanned) : List Crossing :=
  P.controllers.keys.flatMap (crossingsOf P.importPath P.package)

def requests (P : Scanned) : List Request :=
  P.crossings.map (Crossing.request P.prefixes)

end Scanned

/-- Requests are served in turn. A package that was not scanned before is put behind all that it
asks for itself, under the prefixes of the request; other requests change nothing. -/
inductive Serves (setting : Setting) : List Scanned → List Request → List Scanned → Prop
  | done (packages : List Scanned) : Serves setting packages [] packages
  | known {packages after : List Scanned} {key : String} {active : List Route.Prefix}
      {rest : List Request} (listed : key ∈ packages.map (·.importPath))
      (further : Serves setting packages rest after) :
      Serves setting packages ((key, active) :: rest) after
  | unlocated {packages after : List Scanned} {key : String} {active : List Route.Prefix}
      {rest : List Request} (nowhere : setting.locator.dirFor? setting.disk key = none)
      (further : Serves setting packages rest after) :
      Serves setting packages ((key, active) :: rest) after
  | scanned {packages below after : List Scanned} {P : Scanned} {rest : List Request}
      (fresh : P.importPath ∉ packages.map (·.importPath))
      (located : (setting.locator.dirFor? setting.disk P.importPath).isSome = true)
      (inside : Serves setting packages P.requests below)
      (further : Serves setting (below ++ [P]) rest after) :
      Serves setting packages ((P.importPath, P.prefixes) :: rest) after

variable {setting : Setting} {packages middle after : List Scanned} {first rest : List Request}

theorem Serves.append (one : Serves setting packages first middle)
    (other : Serves setting middle rest after) :
    Serves setting packages (first ++ rest) after := by
  induction one with
  | done => exact other
  | known listed _ ih => exact .known listed (ih other)
  | unlocated nowhere _ ih => exact .unlocated nowhere (ih other)
  | scanned fresh located inside _ _ ih => exact .scanned fresh located inside (ih other)

theorem Serves.grown (serves : Serves setting packages first after) : packages <+: after := by
  induction serves with
  | done => exact List.prefix_rfl
  | known _ _ ih => exact ih
  | unlocated _ _ ih => exact ih
  | scanned _ _ _ _ below behind => exact below.trans ((List.prefix_append _ _).trans behind)

theorem crossing?_eq_some_iff {key : String} {p : Package} {s : Struct} {field : Arg}
    {c : Crossing} :
    crossing? key p s field = some c ↔
      field.isEmbedded = true ∧ field.type.isPointer = true ∧ field.type.name?.isSome = true ∧
        boundImport? p s field.type = some c.importPath ∧ c.importPath ≠ key ∧ c.owner = s ∧
        c.field = field := by
  unfold crossing?
  constructor
  · intro crosses
    split at crosses
    · rename_i shape
      obtain ⟨importPath, bound, rfl⟩ := Option.map_eq_some_iff.mp crosses
      rw [Option.filter_eq_some_iff, decide_eq_true_iff] at bound
      simp only [Bool.and_eq_true] at shape
      exact ⟨shape.1.1, shape.1.2, shape.2, bound.1, bound.2, rfl, rfl⟩
    · cases crosses
  · rintro ⟨embedded, pointer, named, bound, foreign, rfl, rfl⟩
    rw [embedded, pointer, named, bound, Option.filter_some_pos (by simpa using foreign)]
    rfl

theorem filterMap_crossing?_embedded (key : String) (p : Package) (s : Struct) (fields : List Arg) :
    (fields.filter (·.isEmbedded)).filterMap (crossing? key p s) =
      fields.filterMap (crossing? key p s) := by
  rw [List.filterMap_filter]
  refine List.filterMap_congr fun field _ => ?_
  cases embedded : field.isEmbedded <;> simp [crossing?, embedded]

end Dispatchers.Resolve
