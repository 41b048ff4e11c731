import Dispatchers.Proofs.Resolve.DepthFirst
import Dispatchers.Proofs.Resolve.Guarantees

namespace Dispatchers.Resolve

open Controller Go

/-- A controller has the actions of the struct with its name, and for each of them the routes that
its comments declare below the prefixes of the package. -/
structure Routed (setting : Setting) (P : Scanned) (name : String) (decl : ControllerDecl) :
    Prop where
  named : decl.name = name
  actions : decl.actions = actionsOf P.package setting.markers name
  routes : decl.routes = decl.actions.map fun action =>
    (Route.ofComments name action.name action.file P.prefixes action.comments).1

structure Provenance (setting : Setting) (dir : String) (active : List Route.Prefix)
    (r : Resolution) : Prop where
  rooted : ∃ root, r.rootPackage? = some root ∧ root.importPath = keyOf setting dir ∧
    root.prefixes = active
  inherits : ∀ (i : Nat) (Q : Scanned), r.packages[i]? = some Q → i ≠ r.root →
    Inherits setting r.packages (keyOf setting dir) Q
  controllers : ∀ Q ∈ r.packages, packageOf? setting dir Q.importPath = some Q.package ∧
    Q.controllers.keys.Pairwise (· < ·) ∧
    ∀ name, name ∈ Q.controllers.keys ↔ isController Q.package setting.markers name = true
  routed : ∀ Q ∈ r.packages, ∀ name decl, Q.controllers.get? name = some decl →
    Routed setting Q name decl

variable {setting : Setting} {dir : String} {active : List Route.Prefix} {r : Resolution}

theorem Complete.routed {earlier : List Scanned} {scanned : Scanned}
    (complete : Complete setting dir earlier scanned) {name : String} {decl : ControllerDecl}
    (found : scanned.controllers.get? name = some decl) : Routed setting scanned name decl := by
  obtain ⟨s, -, rfl, described⟩ := complete.described found
  obtain ⟨-, -, same⟩ := declOf?_eq_some_iff.mp described
  obtain ⟨named, -, -, actions, -, -, -, -, routes⟩ := ControllerDecl.mk.inj same
  refine ⟨named, actions, ?_⟩
  rw [routes, actions, routesOf, List.map_map]
  rfl

theorem Explored.eq_root (explored : Explored setting dir active r) {i : Nat} {Q : Scanned}
    (here : r.packages[i]? = some Q) (key : Q.importPath = keyOf setting dir) : i = r.root := by
  obtain ⟨root, last, named, -⟩ := explored.rooted
  have first := placeOf?_of_getElem? explored.arranged.distinct here
  have second := placeOf?_of_getElem? explored.arranged.distinct last
  rw [key, ← named, second] at first
  exact (Option.some.inj first).symm

/-- The first package has the prefixes that a run starts with, and every other one those of the
crossing that a depth-first search meets first. -/
theorem resolve_provenance (ok : resolve setting dir active = .ok r) :
    Provenance setting dir active r := by
  have explored := explored_of_resolve ok
  have arranged := explored.arranged
  constructor
  case rooted =>
    exact explored.rooted
  case inherits =>
    intro i Q here apart
    have other : Q.importPath ≠ keyOf setting dir := fun key => apart (explored.eq_root here key)
    exact explored.inherits (List.mem_of_getElem? here) other
  case controllers =>
    intro Q member
    obtain ⟨i, here⟩ := List.getElem?_of_mem member
    have complete := arranged.complete here
    refine ⟨complete.packageOf?, Q.controllers.sorted, fun name => ?_⟩
    rw [← complete.controllers_contains, Dictionary.contains_iff]
  case routed =>
    intro Q member name decl found
    obtain ⟨i, here⟩ := List.getElem?_of_mem member
    exact (arranged.complete here).routed found

section EmbeddedRoot

theorem eq_of_mem_crossings {key clause file name qualifier parent other : String} {c : Crossing}
    (member : c ∈ crossingsOf key (singleController clause file name qualifier parent) other) :
    c.owner.file = file ∧ c.owner.name = name ∧ c.field.tag = "@route:\"v\"" ∧
      c.importPath = qualifier := by
  unfold crossingsOf at member
  split at member
  · cases member
  rename_i s declared
  have only : s ∈ (singleController clause file name qualifier parent).structs :=
    List.mem_of_find?_eq_some declared
  rw [singleController, List.mem_singleton] at only
  subst only
  obtain ⟨field, listed, crosses⟩ := List.mem_filterMap.mp member
  rw [List.mem_singleton] at listed
  subst listed
  unfold crossing? at crosses
  split at crosses
  · obtain ⟨importPath, bound, rfl⟩ := Option.map_eq_some_iff.mp crosses
    rw [boundImport?_singleController, Option.filter_eq_some_iff] at bound
    exact ⟨rfl, rfl, rfl, (Option.some.inj bound.1).symm⟩
  · cases crosses

theorem package_embeddedRoot {P : Scanned} (arena : Arena (crossed embeddedRoot) "/a" r)
    (member : P ∈ r.packages) :
    P.importPath = "/a" ∧ P.package = singleController "a" "/a/a.go" "A" "b" "B" ∨
      P.importPath = "b" ∧ P.package = singleController "b" "/b/b.go" "B" "a" "A" := by
  have chain : ∀ other, Imports (crossed embeddedRoot) "/a" (keyOf (crossed embeddedRoot) "/a") other →
      other = "b" := by
    rw [keyOf_embeddedRoot]
    exact fun _ => imports_embeddedRoot_a
  rcases package_of_chain chain not_imports_embeddedRoot_b arena member with
    ⟨key, known⟩ | ⟨key, known⟩
  · rw [keyOf_embeddedRoot, packageOf?_embeddedRoot_a] at known
    exact .inl ⟨key.trans (keyOf_embeddedRoot _ _), (Option.some.inj known).symm⟩
  · rw [packageOf?_embeddedRoot_b] at known
    exact .inr ⟨key, (Option.some.inj known).symm⟩

section Embedded

variable (explored : Explored (crossed embeddedRoot) "/a" active r)

include explored

theorem exists_embedded : ∃ (i : Nat) (Q : Scanned), r.packages[i]? = some Q ∧ Q.importPath = "b" := by
  have imports : Imports (crossed embeddedRoot) "/a" "/a" "b" :=
    imports_singleController packageOf?_embeddedRoot_a (by decide +kernel) (by decide) rfl
  rw [← keyOf_embeddedRoot] at imports
  obtain ⟨Q, member, key⟩ := List.mem_map.mp (explored.mem_keys_iff.mpr (.single imports))
  obtain ⟨i, here⟩ := List.getElem?_of_mem member
  exact ⟨i, Q, here, key⟩

theorem ne_root_of_embedded {i : Nat} {Q : Scanned} (here : r.packages[i]? = some Q)
    (key : Q.importPath = "b") : i ≠ r.root := by
  obtain ⟨first, there, named, -⟩ := explored.rooted
  rintro rfl
  cases here.symm.trans there
  rw [key, keyOf_embeddedRoot] at named
  exact absurd named (by decide)

/-- The only crossing to the embedded package is the tagged field of the first one. -/
theorem prefixes_embedded {start : String} {Q : Scanned} (key : Q.importPath = "b")
    (inherits : Inherits (crossed embeddedRoot) r.packages start Q) :
    Q.prefixes = Route.Prefix.nest active [⟨.any, "v"⟩] := by
  obtain ⟨first, there, -, initial⟩ := explored.rooted
  obtain ⟨P, inside, c, ⟨_, k, -, taken, leads, -⟩, same⟩ := inherits
  obtain ⟨name, -, crosses⟩ := List.mem_flatMap.mp (List.mem_of_getElem? taken)
  rw [key] at leads
  rcases package_embeddedRoot explored.arena inside with ⟨own, package⟩ | ⟨-, package⟩
  · rw [package] at crosses
    obtain ⟨file, owner, tag, -⟩ := eq_of_mem_crossings crosses
    obtain ⟨j, place⟩ := List.getElem?_of_mem inside
    rw [explored.eq_root place (own.trans (keyOf_embeddedRoot _ _).symm), there] at place
    cases place
    have declared : (Route.Prefix.ofTag "@route:\"v\"" ("/a/a.go" ++ ":" ++ "A")).1 =
        [⟨.any, "v"⟩] := by decide +kernel
    rw [same, Crossing.prefixes, initial, file, owner, tag, declared]
  · rw [package] at crosses
    rw [(eq_of_mem_crossings crosses).2.2.2] at leads
    exact absurd leads (by decide)

end Embedded

theorem resolve_provenance_embeddedRoot :
    ∃ r Q decl, resolve (crossed embeddedRoot) "/a" [⟨.only .get, "p"⟩] = .ok r ∧
      Provenance (crossed embeddedRoot) "/a" [⟨.only .get, "p"⟩] r ∧ Q ∈ r.packages ∧
      Q.prefixes = Route.Prefix.nest [⟨.only .get, "p"⟩] [⟨.any, "v"⟩] ∧
      Q.controllers.get? "B" = some decl ∧
      decl.routes = [[⟨.get, "p/v/x", some "show", "B.X"⟩]] := by
  obtain ⟨r, ok⟩ := exists_resolve_embeddedRoot [⟨.only .get, "p"⟩]
  have provenance := resolve_provenance ok
  have explored := explored_of_resolve ok
  obtain ⟨i, Q, here, key⟩ := exists_embedded explored
  have member := List.mem_of_getElem? here
  have package : Q.package = singleController "b" "/b/b.go" "B" "a" "A" := by
    rcases package_embeddedRoot explored.arena member with ⟨own, -⟩ | ⟨-, package⟩
    · rw [key] at own
      exact absurd own (by decide)
    · exact package
  have prefixes := prefixes_embedded explored key
    (provenance.inherits i Q here (ne_root_of_embedded explored here key))
  obtain ⟨-, -, controllers⟩ := provenance.controllers Q member
  have controller : isController Q.package (crossed embeddedRoot).markers "B" = true := by
    rw [package]
    decide +kernel
  obtain ⟨decl, found⟩ := Dictionary.mem_keys_iff.mp ((controllers "B").mpr controller)
  have routed := provenance.routed Q member "B" decl found
  refine ⟨r, Q, decl, ok, provenance, member, prefixes, found, ?_⟩
  rw [routed.routes, routed.actions, prefixes, package]
  decide +kernel

end EmbeddedRoot

end Dispatchers.Resolve
