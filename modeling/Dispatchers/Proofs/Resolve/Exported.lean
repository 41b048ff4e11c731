import Dispatchers.Proofs.Controller.BoundFields
import Dispatchers.Proofs.Resolve.Guarantees

namespace Dispatchers.Resolve

open Controller Go Relation

/-- What the dispatcher of a controller selects in other packages is exported, the fields that it
assigns apart. -/
structure Selectable (r : Resolution) (place : Nat) (decl : ControllerDecl) : Prop where
  struct : Text.isExported decl.name = true
  actions : ∀ action ∈ decl.actions, Text.isExported action.name = true
  parents : ∀ parent ∈ decl.parents, Text.isExported parent.name = true
  ancestors : ∀ ancestors, r.ancestors place decl.name = .ok ancestors → ∀ ancestor ∈ ancestors,
    ∃ ks parents, r.path? (place, decl.name) ks = some parents ∧
      ancestor.access = ".".intercalate (parents.map (·.name)) ∧
      ∀ parent ∈ parents, Text.isExported parent.name = true

structure Visible (r : Resolution) (place : Nat) (decl : ControllerDecl) : Prop
    extends Selectable r place decl where
  fields : ∀ field ∈ decl.fields, Text.isExported field.name = true

structure Assigned (p : Package) (markers : Markers) (s : Struct) (field : Arg) : Prop where
  member : field ∈ s.fields
  named : field.isEmbedded = false
  tagged : field.tag ≠ ""
  bound : (bindField p markers s field).1.isSome = true

variable {setting : Setting} {dir : String} {active : List Route.Prefix} {r : Resolution}

theorem forall_bindFields_iff {p : Package} {markers : Markers} {s : Struct}
    (good : String → Prop) :
    (∀ found ∈ (bindFields p markers s).1, good found.name) ↔
      ∀ field, Assigned p markers s field → good field.name := by
  constructor
  · intro all field assigned
    obtain ⟨found, bound⟩ := Option.isSome_iff_exists.mp assigned.bound
    have tagged : field ∈ s.fields.filter fun field => !field.isEmbedded && !field.tag.isEmpty := by
      refine List.mem_filter.mpr ⟨assigned.member, ?_⟩
      simp [assigned.named, assigned.tagged]
    rw [← (bindField_eq_some_iff.mp bound).1]
    exact all found (List.mem_filterMap.mpr ⟨_, List.mem_map_of_mem tagged, bound⟩)
  · intro all found member
    obtain ⟨_, listed, bound⟩ := List.mem_filterMap.mp member
    obtain ⟨field, tagged, rfl⟩ := List.mem_map.mp listed
    obtain ⟨inside, kept⟩ := List.mem_filter.mp tagged
    simp only [Bool.and_eq_true, Bool.not_eq_true', String.isEmpty_eq_false_iff] at kept
    rw [(bindField_eq_some_iff.mp bound).1]
    exact all field ⟨inside, kept.1, kept.2, by rw [bound]; rfl⟩

theorem Arena.exported_of_declared (arena : Arena setting dir r) {place : Place}
    (declared : r.declared place) : Text.isExported place.2 = true := by
  obtain ⟨decl, described⟩ := Option.isSome_iff_exists.mp declared
  obtain ⟨P, here, known⟩ := Option.bind_eq_some_iff.mp described
  have controller : isController P.package setting.markers place.2 = true := by
    rw [← (arena.scanned P (List.mem_of_getElem? here)).2, Dictionary.contains_iff,
      Dictionary.mem_keys_iff]
    exact ⟨decl, known⟩
  simp only [isController, Bool.and_eq_true] at controller
  exact controller.1.1

theorem PostOrder.exported (arena : Arena setting dir r) {place : Place} {ways : List (List Nat)}
    {found : List Ancestor} (order : PostOrder r place ways found) {ancestor : Ancestor}
    (member : ancestor ∈ found) :
    ∃ ks parents, r.path? place ks = some parents ∧
      ancestor.access = ".".intercalate (parents.map (·.name)) ∧
      ∀ parent ∈ parents, Text.isExported parent.name = true := by
  obtain ⟨ks, -, above, last, known, rfl⟩ := exists_related order.ends.flip member
  refine ⟨ks, _, known, rfl, fun parent along => ?_⟩
  -- every step of the way is a parent, and parents are controllers
  obtain ⟨below, listed⟩ := Resolution.mem_parentsAt_of_path? known along
  exact arena.exported_of_declared (arena.closed.declared below parent listed)

theorem Explored.selectable (explored : Explored setting dir active r) {place : Nat} {P : Scanned}
    {name : String} {decl : ControllerDecl} (here : r.packages[place]? = some P)
    (found : P.controllers.get? name = some decl) : Selectable r place decl := by
  have arena := explored.arena
  obtain ⟨s, -, rfl, described⟩ := (explored.arranged.complete here).described found
  obtain ⟨exported, -, same⟩ := declOf?_eq_some_iff.mp described
  obtain ⟨named, -, -, actions, -⟩ := ControllerDecl.mk.inj same
  have known : r.controller? place s.name = some decl := Option.bind_eq_some_iff.mpr ⟨P, here, found⟩
  have parents : r.parentsAt (place, s.name) = decl.parents :=
    Resolution.parentsAt_of_controller? known
  constructor
  case struct => exact named ▸ exported
  case actions =>
    intro action member
    rw [actions, actionsOf, List.mem_filter, decide_eq_true_iff] at member
    exact (verdict_eq_action member.2).1
  case parents =>
    intro parent member
    have listed : parent ∈ r.parentsAt (place, s.name) := parents ▸ member
    exact arena.exported_of_declared (arena.closed.declared _ parent listed)
  case ancestors =>
    intro ancestors listed ancestor member
    have declared : r.declared (place, s.name) := Option.isSome_iff_exists.mpr ⟨decl, known⟩
    rw [named] at listed ⊢
    rcases ancestors_outcome arena.closed declared with ⟨_, ways, all, order, -⟩ | ⟨_, _, stuck, -⟩
    · rw [listed] at all
      cases all
      exact order.exported arena member
    · rw [listed] at stuck
      cases stuck

theorem Explored.visible_iff (explored : Explored setting dir active r) {place : Nat} {P : Scanned}
    {name : String} {decl : ControllerDecl} (here : r.packages[place]? = some P)
    (found : P.controllers.get? name = some decl) :
    ∃ s ∈ P.package.structs, s.name = name ∧
      (Visible r place decl ↔ ∀ field, Assigned P.package setting.markers s field →
        Text.isExported field.name = true) := by
  have selectable := explored.selectable here found
  obtain ⟨s, declared, rfl, described⟩ := (explored.arranged.complete here).described found
  obtain ⟨-, -, same⟩ := declOf?_eq_some_iff.mp described
  obtain ⟨-, -, -, -, -, -, -, fields, -⟩ := ControllerDecl.mk.inj same
  refine ⟨s, declared, rfl, Iff.trans ?_ (forall_bindFields_iff fun name => Text.isExported name = true)⟩
  rw [← fields]
  exact ⟨Visible.fields, Visible.mk selectable⟩

/-- What a dispatcher selects is exported, but for the fields of its struct that it assigns: these
are bound under any name. -/
theorem resolve_visible_iff (ok : resolve setting dir active = .ok r) {place : Nat} {P : Scanned}
    {name : String} {decl : ControllerDecl} (here : r.packages[place]? = some P)
    (found : P.controllers.get? name = some decl) :
    Selectable r place decl ∧ ∃ s ∈ P.package.structs, s.name = name ∧
      (Visible r place decl ↔ ∀ field, Assigned P.package setting.markers s field →
        Text.isExported field.name = true) := by
  have explored := explored_of_resolve ok
  exact ⟨explored.selectable here found, explored.visible_iff here found⟩

/-- A package whose controller embeds one of the package at `path` below a prefix, binds a field and
has an action with a route that has a label. -/
def childPackage (path : String) : Package :=
  let action : Func := ⟨"X", "/a/a.go", ["//@get x show"], [], [⟨"", "", .named (some "h") "H"⟩],
    some ⟨"", "", .named none "A"⟩⟩
  ⟨"a", [], .ofList [("A", [action])],
    [⟨"A", "/a/a.go", [], [⟨"", "@route:\"v\"", .pointer (.named (some "b") "B")⟩,
      ⟨"x", "bind:\"action\"", .named none "string"⟩]⟩],
    .ofList [("/a/a.go", .ofList [("b", path), ("h", "h")])]⟩

def parentPackage : Package :=
  let action : Func := ⟨"Y", "/b/b.go", ["//@post y"], [], [⟨"", "", .named (some "h") "H"⟩],
    some ⟨"", "", .named none "B"⟩⟩
  ⟨"b", [], .ofList [("B", [action])], [⟨"B", "/b/b.go", [], []⟩],
    .ofList [("/b/b.go", .ofList [("h", "h")])]⟩

def childSource (path : String) : String :=
  "package a\nimport(b\"" ++ path ++ "\";\"h\")\ntype A struct\x7b*b.B\x60@route:\"v\"\x60;" ++
    "x string\x60bind:\"action\"\x60\x7d\n//@get x show\nfunc(A)X()h.H"

def parentSource : String :=
  "package b\nimport\"h\"\ntype B struct\x7b\x7d\n//@post y\nfunc(B)Y()h.H"

abbrev related (path : String) : Setting :=
  twoPackages [⟨"a", "/a"⟩, ⟨path, "/b"⟩] (childSource path).toUTF8 parentSource.toUTF8

structure Relates (path : String) : Prop where
  apart : "a" ≠ path
  root : keyOf (related path) "/a" = "a"
  inside : dirOf? (related path) "/a" "a" = some "/a"
  located : (related path).locator.dirFor? (related path).disk path = some "/b/"
  nowhere : (related path).locator.dirFor? (related path).disk "h" = none
  known : (related path).locator.importFor? (related path).disk "/a" = some "a"
  child : (related path).disk.package "/a" = .ok (childPackage path)
  controller : isController (childPackage path) (related path).markers "A" = true

theorem boundImport?_childPackage (path : String) (fields : List Arg) :
    boundImport? (childPackage path) ⟨"A", "/a/a.go", [], fields⟩
      (.pointer (.named (some "b") "B")) = some path := by
  have bound : (childPackage path).importOf? "/a/a.go" "b" = some path := rfl
  simpa [boundImport?, TypeExpr.package?, TypeExpr.deref] using bound

namespace Relates

variable {path : String} (relates : Relates path)

include relates

theorem packageOf?_child : packageOf? (related path) "/a" "a" = some (childPackage path) :=
  packageOf?_eq_some_iff.mpr ⟨"/a", relates.inside, relates.child⟩

theorem packageOf?_parent : packageOf? (related path) "/a" path = some parentPackage := by
  have located : dirOf? (related path) "/a" path = some "/b/" :=
    dirOf?_of_located relates.located (relates.root ▸ relates.apart.symm)
  exact packageOf?_eq_some_iff.mpr ⟨"/b/", located,
    Disk.package_of_single (readDirectory_twoPackages_b ..) (by decide) (by decide +kernel)⟩

theorem eq_of_imports_child {other : String} (imports : Imports (related path) "/a" "a" other) :
    other = path := by
  obtain ⟨_, _, _, here, entry⟩ := imports.mem_tables relates.packageOf?_child
  have here := Dictionary.mem_of_mem_ofList here
  simp only [List.mem_singleton, Prod.mk.injEq] at here
  obtain ⟨_, rfl⟩ := here
  have entry := Dictionary.mem_of_mem_ofList entry
  simp only [List.mem_cons, Prod.mk.injEq, List.not_mem_nil, or_false] at entry
  rcases entry with ⟨_, rfl⟩ | ⟨_, rfl⟩
  · rfl
  · have located := imports.located
    rw [relates.nowhere] at located
    cases located

theorem chain {other : String}
    (imports : Imports (related path) "/a" (keyOf (related path) "/a") other) : other = path := by
  rw [relates.root] at imports
  exact relates.eq_of_imports_child imports

theorem not_imports_parent (other : String) : ¬Imports (related path) "/a" path other := by
  intro imports
  obtain ⟨_, _, _, here, entry⟩ := imports.mem_tables relates.packageOf?_parent
  have here := Dictionary.mem_of_mem_ofList here
  simp only [List.mem_singleton, Prod.mk.injEq] at here
  obtain ⟨_, rfl⟩ := here
  have entry := Dictionary.mem_of_mem_ofList entry
  simp only [List.mem_singleton, Prod.mk.injEq] at entry
  obtain ⟨_, rfl⟩ := entry
  have located := imports.located
  rw [relates.nowhere] at located
  cases located

theorem exists_resolve (active : List Route.Prefix) :
    ∃ r, resolve (related path) "/a" active = .ok r := by
  refine exists_resolve_of_chain (fun _ => relates.chain) relates.not_imports_parent ?_ ?_
    ⟨_, relates.packageOf?_parent⟩
  all_goals rw [relates.root]
  · exact relates.apart
  · exact ⟨_, relates.packageOf?_child⟩

theorem package {r : Resolution} (arena : Arena (related path) "/a" r) {P : Scanned}
    (member : P ∈ r.packages) :
    P.importPath = "a" ∧ P.package = childPackage path ∨
      P.importPath = path ∧ P.package = parentPackage := by
  rcases package_of_chain (fun _ => relates.chain) relates.not_imports_parent arena member with
    ⟨key, known⟩ | ⟨key, known⟩
  · rw [relates.root, relates.packageOf?_child] at known
    exact .inl ⟨key.trans relates.root, (Option.some.inj known).symm⟩
  · rw [relates.packageOf?_parent] at known
    exact .inr ⟨key, (Option.some.inj known).symm⟩

theorem exists_root {r : Resolution} (arena : Arena (related path) "/a" r) :
    ∃ P decl, r.packages[r.root]? = some P ∧ P.package = childPackage path ∧
      P.controllers.get? "A" = some decl := by
  obtain ⟨P, here, key⟩ := arena.rooted
  have member := List.mem_of_getElem? here
  rcases relates.package arena member with ⟨-, package⟩ | ⟨other, -⟩
  · have controller : isController P.package (related path).markers "A" = true := by
      rw [package]
      exact relates.controller
    rw [← (arena.scanned P member).2, Dictionary.contains_iff, Dictionary.mem_keys_iff] at controller
    obtain ⟨decl, found⟩ := controller
    exact ⟨P, decl, here, package, found⟩
  · rw [key, relates.root] at other
    exact absurd other relates.apart

theorem targets : ∀ s ∈ (childPackage path).structs,
    s.fields.filterMap (target? (related path) "a" (childPackage path) s) = [(path, "B")] := by
  intro s declared
  cases List.mem_singleton.mp declared
  have embedded : target? (related path) "a" (childPackage path)
      ⟨"A", "/a/a.go", [], [⟨"", "@route:\"v\"", .pointer (.named (some "b") "B")⟩,
        ⟨"x", "bind:\"action\"", .named none "string"⟩]⟩
      ⟨"", "@route:\"v\"", .pointer (.named (some "b") "B")⟩ = some (path, "B") :=
    target?_foreign rfl rfl rfl (boundImport?_childPackage ..) (by rw [relates.located]; rfl)
  rw [List.filterMap_cons_some embedded]
  rfl

theorem embeds_child : EmbedsPointer (childPackage path) (related path).markers
    ⟨"A", "/a/a.go", [], [⟨"", "@route:\"v\"", .pointer (.named (some "b") "B")⟩,
      ⟨"x", "bind:\"action\"", .named none "string"⟩]⟩
    ⟨"", "@route:\"v\"", .pointer (.named (some "b") "B")⟩ := by
  refine ⟨relates.controller, ?_, List.mem_cons_self .., rfl, rfl, rfl⟩
  simp [Package.findStruct?, childPackage]

theorem exists_parent {r : Resolution} (arena : Arena (related path) "/a" r) :
    ∃ place P, place < r.root ∧ r.packages[place]? = some P ∧ P.importPath = path := by
  obtain ⟨root, there, key⟩ := arena.rooted
  have imports : Imports (related path) "/a" root.importPath path := by
    rw [key, relates.root]
    refine ⟨⟨?_, _, _, _, relates.packageOf?_child, relates.embeds_child, boundImport?_childPackage ..⟩,
      relates.apart.symm⟩
    rw [relates.located]
    rfl
  exact arena.behind _ root path there imports

end Relates

abbrev family : Setting :=
  related "b"

theorem relates_family : Relates "b" where
  apart := by decide
  root := by rfl
  inside := by rfl
  located := by rfl
  nowhere := by rfl
  known := by rfl
  child := Disk.package_of_single (readDirectory_twoPackages_a ..) (by decide) (by decide +kernel)
  controller := by decide +kernel

theorem resolve_visible_iff_family :
    ∃ r P decl s, resolve family "/a" [] = .ok r ∧ r.packages[r.root]? = some P ∧
      P.controllers.get? "A" = some decl ∧ Selectable r r.root decl ∧ s ∈ P.package.structs ∧
      (Visible r r.root decl ↔ ∀ field, Assigned P.package family.markers s field →
        Text.isExported field.name = true) := by
  obtain ⟨r, ok⟩ := relates_family.exists_resolve []
  obtain ⟨P, decl, here, -, found⟩ := relates_family.exists_root (explored_of_resolve ok).arena
  obtain ⟨selectable, s, declared, -, visible⟩ := resolve_visible_iff ok here found
  exact ⟨r, P, decl, s, ok, here, found, selectable, declared, visible⟩

theorem resolve_family_not_visible :
    ∃ r P decl, resolve family "/a" [] = .ok r ∧ r.packages[r.root]? = some P ∧
      P.controllers.get? "A" = some decl ∧ ¬Visible r r.root decl := by
  obtain ⟨r, ok⟩ := relates_family.exists_resolve []
  have explored := explored_of_resolve ok
  obtain ⟨P, decl, here, package, found⟩ := relates_family.exists_root explored.arena
  obtain ⟨s, declared, -, visible⟩ := explored.visible_iff here found
  refine ⟨r, P, decl, ok, here, found, fun all => ?_⟩
  rw [package, childPackage, List.mem_singleton] at declared
  subst declared
  have hidden := visible.mp all ⟨"x", "bind:\"action\"", .named none "string"⟩
    ⟨by simp, rfl, by decide, by rw [package]; decide +kernel⟩
  exact absurd hidden (by decide)

end Dispatchers.Resolve
