import Dispatchers.Proofs.Resolve.Arena
import Dispatchers.Resolve.Ancestors

namespace Dispatchers.Resolve

open Relation

def Parent.place (parent : Parent) : Place :=
  (parent.package, parent.name)

namespace Resolution

variable (r : Resolution)

def declared (place : Place) : Prop :=
  (r.controller? place.1 place.2).isSome = true

def parentsAt (place : Place) : List Parent :=
  ((r.controller? place.1 place.2).map (·.parents)).getD []

def IsParent (place other : Place) : Prop :=
  ∃ parent ∈ r.parentsAt place, parent.place = other

/-- A controller that is an ancestor of itself can be reached. -/
def CycleAbove (place : Place) : Prop :=
  ∃ other, ReflTransGen r.IsParent place other ∧ TransGen r.IsParent other other

/-- The parents on the way up that takes the parent with each of these numbers in turn. -/
def path? : Place → List Nat → Option (List Parent)
  | _, [] => some []
  | place, k :: ks =>
    (r.parentsAt place)[k]?.bind fun parent => (path? parent.place ks).map (parent :: ·)

def places : List Place :=
  r.packages.zipIdx.flatMap fun (P, i) => P.controllers.keys.map (i, ·)

structure Closed : Prop where
  declared : ∀ place, ∀ parent ∈ r.parentsAt place, r.declared parent.place
  named : ∀ place, ∀ parent ∈ r.parentsAt place, parent.name ≠ ""

variable {r}

theorem parentsAt_of_controller? {place : Place} {decl : ControllerDecl}
    (found : r.controller? place.1 place.2 = some decl) : r.parentsAt place = decl.parents := by
  rw [parentsAt, found]
  rfl

theorem mem_parentsAt_iff {place : Place} {parent : Parent} :
    parent ∈ r.parentsAt place ↔
      ∃ decl, r.controller? place.1 place.2 = some decl ∧ parent ∈ decl.parents := by
  unfold parentsAt
  cases r.controller? place.1 place.2 with
  | none => simp
  | some decl => simp

theorem length_places : r.places.length = r.controllerCount := by
  have sizes : r.packages.zipIdx.map (fun entry => entry.1.controllers.keys.length) =
      r.packages.map (·.controllers.keys.length) := by
    conv_rhs => rw [← List.zipIdx_map_fst 0 r.packages, List.map_map]
    rfl
  rw [controllerCount, places]
  simp only [List.length_flatMap, List.length_map, sizes]

theorem mem_places {place : Place} (found : r.declared place) : place ∈ r.places := by
  obtain ⟨decl, described⟩ := Option.isSome_iff_exists.mp found
  obtain ⟨P, here, listed⟩ := Option.bind_eq_some_iff.mp described
  refine List.mem_flatMap.mpr ⟨(P, place.1), List.mk_mem_zipIdx_iff_getElem?.mpr here, ?_⟩
  exact List.mem_map_of_mem (Dictionary.mem_keys_iff.mpr ⟨decl, listed⟩)

theorem Closed.declared_of_reached (closed : r.Closed) {place other : Place}
    (found : r.declared place) (reached : ReflTransGen r.IsParent place other) :
    r.declared other := by
  induction reached with
  | refl => exact found
  | tail _ step _ =>
    obtain ⟨parent, listed, rfl⟩ := step
    exact closed.declared _ parent listed

theorem Closed.trail_length_le (closed : r.Closed) {place : Place} (found : r.declared place)
    {trail : List Place} (holds : Trail r.IsParent place trail) :
    trail.length ≤ r.controllerCount := by
  rw [← length_places]
  exact holds.length_le fun _ reached => mem_places (closed.declared_of_reached found reached)

theorem CycleAbove.of_parent {place other : Place} (step : r.IsParent place other)
    (cycle : r.CycleAbove other) : r.CycleAbove place := by
  obtain ⟨last, reached, back⟩ := cycle
  exact ⟨last, reached.head step, back⟩

theorem CycleAbove.parent {place : Place} (cycle : r.CycleAbove place) :
    ∃ other, r.IsParent place other ∧ r.CycleAbove other := by
  obtain ⟨last, reached, back⟩ := cycle
  rcases ReflTransGen.cases_head reached with rfl | ⟨other, step, rest⟩
  · obtain ⟨other, step, rest⟩ := TransGen.head'_iff.mp back
    exact ⟨other, step, place, rest, back⟩
  · exact ⟨other, step, last, rest, back⟩

theorem not_cycleAbove_of_descends (rank : Place → Nat)
    (descends : ∀ place other, r.IsParent place other → rank other < rank place) (place : Place) :
    ¬r.CycleAbove place := by
  have further {place other : Place} (up : TransGen r.IsParent place other) :
      rank other < rank place := by
    induction up with
    | single step => exact descends _ _ step
    | tail _ step ih => exact (descends _ _ step).trans ih
  rintro ⟨other, -, back⟩
  exact Nat.lt_irrefl _ (further back)

theorem not_cycleAbove_of_parents
    (earlier : ∀ (i : Nat) (P : Scanned) (name : String) (decl : ControllerDecl),
      r.packages[i]? = some P → P.controllers.get? name = some decl →
      ∀ parent ∈ decl.parents, parent.package < i) (place : Place) : ¬r.CycleAbove place := by
  refine not_cycleAbove_of_descends Prod.fst ?_ place
  rintro below _ ⟨parent, member, rfl⟩
  obtain ⟨decl, described, listed⟩ := mem_parentsAt_iff.mp member
  obtain ⟨P, here, found⟩ := Option.bind_eq_some_iff.mp described
  exact earlier _ P _ decl here found parent listed

theorem path?_cons {place : Place} {k : Nat} {ks : List Nat} {parent : Parent}
    (found : (r.parentsAt place)[k]? = some parent) :
    r.path? place (k :: ks) = (r.path? parent.place ks).map (parent :: ·) := by
  rw [path?, found, Option.bind_some]

theorem mem_parentsAt_of_path? {place : Place} {ks : List Nat} {parents : List Parent}
    (known : r.path? place ks = some parents) {parent : Parent} (member : parent ∈ parents) :
    ∃ below, parent ∈ r.parentsAt below := by
  induction ks generalizing place parents with
  | nil =>
    cases known
    cases member
  | cons k ks ih =>
    rw [path?, Option.bind_eq_some_iff] at known
    obtain ⟨first, here, rest⟩ := known
    obtain ⟨others, further, rfl⟩ := Option.map_eq_some_iff.mp rest
    rcases List.mem_cons.mp member with rfl | later
    · exact ⟨place, List.mem_of_getElem? here⟩
    · exact ih further later

theorem path?_cons_isSome {place : Place} {k : Nat} {ks : List Nat}
    (found : (r.path? place (k :: ks)).isSome = true) : k < (r.parentsAt place).length := by
  obtain ⟨parents, known⟩ := Option.isSome_iff_exists.mp found
  rw [path?, Option.bind_eq_some_iff] at known
  obtain ⟨parent, listed, _⟩ := known
  exact (List.getElem?_eq_some_iff.mp listed).1

end Resolution

theorem Arena.closed {setting : Setting} {dir : String} {r : Resolution}
    (arena : Arena setting dir r) : r.Closed := by
  have placed : ∀ place, ∀ parent ∈ r.parentsAt place,
      ∃ P decl, r.packages[parent.package]? = some P ∧ P ∈ r.packages ∧
        P.controllers.get? parent.name = some decl := by
    intro place parent member
    obtain ⟨decl, found, inside⟩ := Resolution.mem_parentsAt_iff.mp member
    obtain ⟨P, here, described⟩ := Option.bind_eq_some_iff.mp found
    obtain ⟨Q, there, _, listed, _⟩ :=
      arena.placed place.1 P place.2 decl here described parent inside
    obtain ⟨parentDecl, known⟩ := Dictionary.mem_keys_iff.mp listed
    exact ⟨Q, parentDecl, there, List.mem_of_getElem? there, known⟩
  constructor
  case declared =>
    intro place parent member
    obtain ⟨P, decl, here, _, known⟩ := placed place parent member
    exact Option.isSome_iff_exists.mpr ⟨decl, Option.bind_eq_some_iff.mpr ⟨P, here, known⟩⟩
  case named =>
    intro place parent member unnamed
    obtain ⟨P, decl, _, listed, known⟩ := placed place parent member
    have controller : isController P.package setting.markers parent.name = true := by
      rw [← (arena.scanned P listed).2, Dictionary.contains_iff, Dictionary.mem_keys_iff]
      exact ⟨decl, known⟩
    rw [unnamed] at controller
    simp [isController, Text.isExported] at controller

end Dispatchers.Resolve
