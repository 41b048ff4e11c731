import Dispatchers.Proofs.Resolve.Outcome

namespace Dispatchers.Resolve

open Controller Go Relation

/-- The key of a package and the name of a type in it that an embedded pointer field stands for. A
qualifier that is not bound stands for the package itself. -/
def target? (setting : Setting) (key : String) (p : Package) (s : Struct) (field : Arg) :
    Option (String × String) :=
  if field.isEmbedded && field.type.isPointer then
    field.type.name?.bind fun name =>
      match boundImport? p s field.type with
      | none => some (key, name)
      | some other =>
        if other = key ∨ (setting.locator.dirFor? setting.disk other).isSome then some (other, name)
        else none
  else none

def declares (setting : Setting) (dir : String) (target : String × String) : Bool :=
  (packageOf? setting dir target.1).any (isController · setting.markers target.2)

def Parent.Placed (r : Resolution) (i : Nat) (parent : Parent) : Prop :=
  ∃ P, r.packages[parent.package]? = some P ∧ P.importPath = parent.importPath ∧
    parent.name ∈ P.controllers.keys ∧
    match parent.id with
    | none => parent.package = i
    | some _ => parent.package < i

structure Arena (setting : Setting) (dir : String) (r : Resolution) : Prop where
  distinct : (r.packages.map (·.importPath)).Nodup
  explored : ∀ key, key ∈ r.packages.map (·.importPath) ↔
    ReflTransGen (Embeds setting dir) (keyOf setting dir) key
  behind : ∀ (i : Nat) (P : Scanned) (other : String), r.packages[i]? = some P →
    Imports setting dir P.importPath other →
    ∃ j Q, j < i ∧ r.packages[j]? = some Q ∧ Q.importPath = other
  rootLast : r.root + 1 = r.packages.length
  rooted : ∃ P, r.packages[r.root]? = some P ∧ P.importPath = keyOf setting dir
  scanned : ∀ P ∈ r.packages, packageOf? setting dir P.importPath = some P.package ∧
    ∀ name, P.controllers.contains name = isController P.package setting.markers name
  parents : ∀ (i : Nat) (P : Scanned) (name : String) (decl : ControllerDecl),
    r.packages[i]? = some P → P.controllers.get? name = some decl →
    ∃ s, P.package.findStruct? name = some s ∧
      decl.parents.map (fun parent => (parent.importPath, parent.name)) =
        (s.fields.filterMap (target? setting P.importPath P.package s)).filter (declares setting dir)
  placed : ∀ (i : Nat) (P : Scanned) (name : String) (decl : ControllerDecl),
    r.packages[i]? = some P → P.controllers.get? name = some decl →
    ∀ parent ∈ decl.parents, parent.Placed r i

variable {setting : Setting} {dir : String} {earlier packages : List Scanned} {scanned : Scanned}
  {numbered : List String} {s : Struct} {field : Arg} {outcome : Option Embedding}

theorem Complete.declares (complete : Complete setting dir earlier scanned) (name : String) :
    declares setting dir (scanned.importPath, name) = scanned.controllers.contains name := by
  rw [Resolve.declares, complete.packageOf?, Option.any_some, complete.controllers_contains]

theorem Complete.linkingOf_contains (complete : Complete setting dir earlier scanned)
    (name : String) :
    (linkingOf setting scanned).controllers.contains name = scanned.controllers.contains name := by
  rw [complete.controllers_contains, Bool.eq_iff_iff, Dictionary.contains_iff]
  exact mem_keys_collect scanned.package setting.markers scanned.prefixes name

theorem target?_own {key name : String} {p : Package} (embedded : field.isEmbedded = true)
    (pointer : field.type.isPointer = true) (named : field.type.name? = some name)
    (here : ∀ importPath, boundImport? p s field.type = some importPath → importPath = key) :
    target? setting key p s field = some (key, name) := by
  rw [target?, embedded, pointer, named]
  cases bound : boundImport? p s field.type with
  | none => rfl
  | some importPath =>
    obtain rfl := here importPath bound
    simp

theorem target?_foreign {key name importPath : String} {p : Package}
    (embedded : field.isEmbedded = true) (pointer : field.type.isPointer = true)
    (named : field.type.name? = some name)
    (there : boundImport? p s field.type = some importPath)
    (located : (setting.locator.dirFor? setting.disk importPath).isSome = true) :
    target? setting key p s field = some (importPath, name) := by
  rw [target?, embedded, pointer, named]
  simp [there, located]

theorem target?_unlocated {key importPath : String} {p : Package}
    (there : boundImport? p s field.type = some importPath) (foreign : importPath ≠ key)
    (nowhere : setting.locator.dirFor? setting.disk importPath = none) :
    target? setting key p s field = none := by
  simp [target?, there, foreign, nowhere]

theorem Linked.target
    (linked : Linked setting earlier numbered (linkingOf setting scanned) s field outcome)
    (arranged : Arranged setting dir earlier) (complete : Complete setting dir earlier scanned)
    (embedded : field.isEmbedded = true) (i : Nat) :
    (outcome.map (·.parent scanned.importPath i)).map
        (fun parent => (parent.importPath, parent.name)) =
      (target? setting scanned.importPath scanned.package s field).filter (declares setting dir) := by
  have declared {importPath : String} {index : Nat} {Q : Scanned}
      (placed : placeOf? earlier importPath = some index) (found : earlier[index]? = some Q)
      (name : String) : declares setting dir (importPath, name) = Q.controllers.contains name := by
    obtain ⟨same, there, rfl⟩ := getElem?_of_placeOf? placed
    rw [found] at there
    cases there
    exact (arranged.complete found).declares name
  cases linked with
  | skipped other =>
    rcases other with plain | unnamed
    · simp [target?, plain]
    · simp [target?, unnamed]
  | @own name pointer named here controller =>
    have target : target? setting scanned.importPath scanned.package s field =
        some (scanned.importPath, name) :=
      target?_own embedded pointer named (foreignImport?_eq_none_iff.mp here)
    rw [complete.linkingOf_contains, ← complete.declares] at controller
    rw [target, Option.filter_some_pos controller]
    rfl
  | @ownOther name pointer named here other =>
    have target : target? setting scanned.importPath scanned.package s field =
        some (scanned.importPath, name) :=
      target?_own embedded pointer named (foreignImport?_eq_none_iff.mp here)
    rw [complete.linkingOf_contains, ← complete.declares] at other
    rw [target, Option.filter_some_neg (by simpa using other)]
    rfl
  | unlocated there nowhere =>
    obtain ⟨bound, foreign⟩ := foreignImport?_eq_some_iff.mp there
    have target : target? setting scanned.importPath scanned.package s field = none :=
      target?_unlocated bound foreign nowhere
    rw [target]
    rfl
  | @foreign name importPath _ _ _ pointer named there located placed found controller _ =>
    have bound := (foreignImport?_eq_some_iff.mp there).1
    have target : target? setting scanned.importPath scanned.package s field =
        some (importPath, name) := target?_foreign embedded pointer named bound located
    rw [← declared placed found] at controller
    rw [target, Option.filter_some_pos controller]
    rfl
  | @foreignOther name importPath _ _ pointer named there located placed found other =>
    have bound := (foreignImport?_eq_some_iff.mp there).1
    have target : target? setting scanned.importPath scanned.package s field =
        some (importPath, name) := target?_foreign embedded pointer named bound located
    rw [← declared placed found] at other
    rw [target, Option.filter_some_neg (by simpa using other)]
    rfl

theorem ParentsOf.targets {embeddings : List Embedding}
    (parents : ParentsOf setting earlier numbered (linkingOf setting scanned) s
      (s.fields.filter (·.isEmbedded)) embeddings)
    (arranged : Arranged setting dir earlier) (complete : Complete setting dir earlier scanned)
    (i : Nat) :
    (embeddings.map (·.parent scanned.importPath i)).map
        (fun parent => (parent.importPath, parent.name)) =
      (s.fields.filterMap (target? setting scanned.importPath scanned.package s)).filter
        (declares setting dir) := by
  obtain ⟨outcomes, each, rfl⟩ := parents
  have skips : s.fields.filterMap (target? setting scanned.importPath scanned.package s) =
      (s.fields.filter (·.isEmbedded)).filterMap
        (target? setting scanned.importPath scanned.package s) := by
    rw [List.filterMap_filter]
    refine List.filterMap_congr fun field _ => ?_
    cases embedded : field.isEmbedded <;> simp [target?, embedded]
  have inside : ∀ field ∈ s.fields.filter (·.isEmbedded), field.isEmbedded = true :=
    fun _ member => (List.mem_filter.mp member).2
  rw [skips, List.filter_filterMap]
  generalize s.fields.filter (·.isEmbedded) = fields at each inside
  induction each with
  | nil => rfl
  | @cons field outcome fields outcomes linked _ ih =>
    have first := linked.target arranged complete (inside field (List.mem_cons_self ..)) i
    have others := ih fun field member => inside field (List.mem_cons_of_mem _ member)
    cases outcome with
    | none =>
      simp only [List.filterMap_cons, ← first]
      exact others
    | some e =>
      simp only [List.filterMap_cons, ← first]
      exact congrArg (_ :: ·) others

theorem Linked.placed {r : Resolution} {i : Nat} {e : Embedding}
    (linked : Linked setting (r.packages.take i) numbered (linkingOf setting scanned) s field (some e))
    (complete : Complete setting dir (r.packages.take i) scanned)
    (here : r.packages[i]? = some scanned) : (e.parent scanned.importPath i).Placed r i := by
  cases linked with
  | own pointer named own controller =>
    rw [complete.linkingOf_contains, Dictionary.contains_iff] at controller
    exact ⟨scanned, here, rfl, controller, rfl⟩
  | @foreign name importPath index id Q pointer named there located placed found controller number =>
    obtain ⟨same, listed, rfl⟩ := getElem?_of_placeOf? placed
    rw [found] at listed
    cases listed
    have before : index < i := by
      obtain ⟨bound, _⟩ := List.getElem?_eq_some_iff.mp found
      rw [List.length_take] at bound
      omega
    exact ⟨Q, getElem?_grown (List.take_prefix i r.packages) found, rfl,
      Dictionary.contains_iff.mp controller, before⟩

theorem ParentsOf.placed {r : Resolution} {i : Nat} {fields : List Arg} {embeddings : List Embedding}
    (parents : ParentsOf setting (r.packages.take i) numbered (linkingOf setting scanned) s fields
      embeddings)
    (complete : Complete setting dir (r.packages.take i) scanned)
    (here : r.packages[i]? = some scanned) :
    ∀ e ∈ embeddings, (e.parent scanned.importPath i).Placed r i := by
  obtain ⟨outcomes, each, rfl⟩ := parents
  intro e member
  obtain ⟨outcome, listed, rfl⟩ := List.mem_filterMap.mp member
  obtain ⟨field, -, linked⟩ := exists_related each.flip listed
  exact linked.placed complete here

theorem ParentsOf.numbers {fields : List Arg} {embeddings : List Embedding} {i : Nat}
    (parents : ParentsOf setting earlier numbered (linkingOf setting scanned) s fields embeddings) :
    ∀ e ∈ embeddings, match (e.parent scanned.importPath i).id with
      | none => (e.parent scanned.importPath i).importPath = scanned.importPath
      | some id =>
        numbered.findIdx? (· = (e.parent scanned.importPath i).importPath) = some id := by
  obtain ⟨outcomes, each, rfl⟩ := parents
  intro e member
  obtain ⟨outcome, listed, rfl⟩ := List.mem_filterMap.mp member
  obtain ⟨field, -, linked⟩ := exists_related each.flip listed
  cases linked with
  | own _ _ _ _ => rfl
  | foreign _ _ _ _ _ _ _ number => exact number

theorem Complete.parentsOf {name : String} {decl : ControllerDecl}
    (complete : Complete setting dir earlier scanned)
    (described : scanned.controllers.get? name = some decl) :
    ∃ s embeddings, scanned.package.findStruct? name = some s ∧
      ParentsOf setting earlier scanned.parentImports (linkingOf setting scanned) s
        (s.fields.filter (·.isEmbedded)) embeddings ∧
      decl.parents = embeddings.map (·.parent scanned.importPath earlier.length) := by
  have controller : isController scanned.package setting.markers name = true := by
    rw [← complete.controllers_contains, Dictionary.contains_iff, Dictionary.mem_keys_iff]
    exact ⟨decl, described⟩
  obtain ⟨s, declared⟩ : ∃ s, scanned.package.findStruct? name = some s := by
    simp only [isController, Bool.and_eq_true] at controller
    exact Option.isSome_iff_exists.mp controller.1.2
  rcases complete.get? name with ⟨_, _, embeddings, linked, final⟩ | ⟨_, absent⟩
  · rw [described] at final
    cases final
    have same : (linkingOf setting scanned).package.findStruct? name = some s := declared
    simp only [LinkedAs, same] at linked
    exact ⟨s, embeddings, declared, linked, rfl⟩
  · rw [described] at absent
    cases absent

theorem Explored.arena {active : List Route.Prefix} {r : Resolution}
    (explored : Explored setting dir active r) : Arena setting dir r := by
  have arranged := explored.arranged
  constructor
  case distinct => exact arranged.distinct
  case explored =>
    intro key
    rw [explored.mem_keys_iff, reached_iff_embeds]
  case behind =>
    intro i P other here imports
    exact take_placeOf? ((arranged.complete here).closed imports)
  case rootLast => exact explored.rootLast
  case rooted =>
    obtain ⟨P, here, named, _⟩ := explored.rooted
    exact ⟨P, here, named⟩
  case scanned =>
    intro P member
    obtain ⟨i, here⟩ := List.getElem?_of_mem member
    have complete := arranged.complete here
    exact ⟨complete.packageOf?, complete.controllers_contains⟩
  case parents =>
    intro i P name decl here described
    have complete := arranged.complete here
    obtain ⟨s, embeddings, declared, parents, same⟩ := complete.parentsOf described
    rw [length_take_of_getElem? here] at same
    refine ⟨s, declared, ?_⟩
    rw [same]
    exact parents.targets (arranged.take i) complete i
  case placed =>
    intro i P name decl here described parent member
    have complete := arranged.complete here
    obtain ⟨s, embeddings, -, parents, same⟩ := complete.parentsOf described
    rw [length_take_of_getElem? here] at same
    rw [same] at member
    obtain ⟨e, listed, rfl⟩ := List.mem_map.mp member
    exact parents.placed complete here e listed

end Dispatchers.Resolve
