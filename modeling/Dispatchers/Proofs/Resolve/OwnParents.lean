import Dispatchers.Proofs.Resolve.Exported

namespace Dispatchers.Resolve

open Controller Go

/-- The type belongs to the package itself: it is unqualified, or its qualifier is bound to the
path of the package. -/
def IsOwn (P : Scanned) (s : Struct) (type : TypeExpr) : Prop :=
  type.package? = none ∨ boundImport? P.package s type = some P.importPath

def IsUnbound (P : Scanned) (s : Struct) (type : TypeExpr) : Prop :=
  type.package?.isSome = true ∧ boundImport? P.package s type = none

/-- The controller of the package itself that an embedded pointer stands for. Its qualifier is looked
at only to rule out the other packages. -/
def ownParent? (P : Scanned) (s : Struct) (field : Arg) : Option String :=
  if field.isEmbedded && field.type.isPointer &&
      (boundImport? P.package s field.type).all (· = P.importPath) then
    field.type.name?.filter P.controllers.contains
  else none

variable {setting : Setting} {dir : String} {earlier : List Scanned} {P : Scanned}
  {numbered : List String} {s : Struct} {field : Arg} {outcome : Option Embedding}

theorem ownParent?_eq_some_iff {name : String} :
    ownParent? P s field = some name ↔
      field.isEmbedded = true ∧ field.type.isPointer = true ∧ field.type.name? = some name ∧
        P.controllers.contains name = true ∧
        ∀ importPath, boundImport? P.package s field.type = some importPath →
          importPath = P.importPath := by
  unfold ownParent?
  rw [Option.ite_none_right_eq_some, Option.filter_eq_some_iff, Bool.and_eq_true, Bool.and_eq_true,
    Option.all_eq_true_iff_get]
  constructor
  · rintro ⟨⟨⟨embedded, pointer⟩, own⟩, named, controller⟩
    refine ⟨embedded, pointer, named, controller, fun importPath bound => ?_⟩
    have same := own (by rw [bound]; rfl)
    simpa [bound] using same
  · rintro ⟨embedded, pointer, named, controller, own⟩
    refine ⟨⟨⟨embedded, pointer⟩, fun bound => ?_⟩, named, controller⟩
    exact decide_eq_true (own _ (Option.some_get bound).symm)

theorem isOwn_or_isUnbound {type : TypeExpr}
    (own : ∀ importPath, boundImport? P.package s type = some importPath →
      importPath = P.importPath) : IsOwn P s type ∨ IsUnbound P s type := by
  cases bound : boundImport? P.package s type with
  | some importPath =>
    obtain rfl := own importPath bound
    exact .inl (.inr bound)
  | none =>
    cases qualifier : type.package? with
    | none => exact .inl (.inl qualifier)
    | some name => exact .inr ⟨by rw [qualifier]; rfl, bound⟩

theorem not_isOwn_of_isUnbound {type : TypeExpr} (unbound : IsUnbound P s type) :
    ¬IsOwn P s type := by
  rintro (plain | bound)
  · have qualified := unbound.1
    rw [plain] at qualified
    cases qualified
  · rw [unbound.2] at bound
    cases bound

theorem Linked.ownParent
    (linked : Linked setting earlier numbered (linkingOf setting P) s field outcome)
    (complete : Complete setting dir earlier P) (embedded : field.isEmbedded = true) (i : Nat) :
    (outcome.map (·.parent P.importPath i)).filter (·.id.isNone) =
      (ownParent? P s field).map fun name => ⟨none, P.importPath, name, i⟩ := by
  have none_of (no : ∀ name, field.isEmbedded = true → field.type.isPointer = true →
      field.type.name? = some name → P.controllers.contains name = true →
      ¬∀ importPath, boundImport? P.package s field.type = some importPath →
        importPath = P.importPath) : ownParent? P s field = none := by
    rw [Option.eq_none_iff_forall_ne_some]
    intro name found
    obtain ⟨embedded, pointer, named, controller, own⟩ := ownParent?_eq_some_iff.mp found
    exact no name embedded pointer named controller own
  have elsewhere {importPath : String}
      (there : (linkingOf setting P).foreignImport? s field.type = some importPath) :
      ownParent? P s field = none := by
    obtain ⟨bound, foreign⟩ := foreignImport?_eq_some_iff.mp there
    exact none_of fun _ _ _ _ _ own => foreign (own importPath bound)
  cases linked with
  | skipped other =>
    rw [none_of]
    · rfl
    rintro name _ pointer named _ _
    rcases other with plain | unnamed
    · rw [pointer] at plain
      cases plain
    · rw [named] at unnamed
      cases unnamed
  | @own name pointer named here controller =>
    rw [complete.linkingOf_contains] at controller
    rw [ownParent?_eq_some_iff.mpr
      ⟨embedded, pointer, named, controller, foreignImport?_eq_none_iff.mp here⟩]
    rfl
  | @ownOther name pointer named here other =>
    rw [complete.linkingOf_contains] at other
    rw [none_of]
    · rfl
    intro name' _ _ named' controller _
    rw [named] at named'
    cases named'
    rw [other] at controller
    cases controller
  | unlocated there nowhere =>
    rw [elsewhere there]
    rfl
  | foreign pointer named there located placed found controller number =>
    rw [elsewhere there]
    rfl
  | foreignOther pointer named there located placed found other =>
    rw [elsewhere there]
    rfl

theorem ParentsOf.ownParents {embeddings : List Embedding}
    (parents : ParentsOf setting earlier numbered (linkingOf setting P) s
      (s.fields.filter (·.isEmbedded)) embeddings)
    (complete : Complete setting dir earlier P) (i : Nat) :
    (embeddings.map (·.parent P.importPath i)).filter (·.id.isNone) =
      (s.fields.filterMap (ownParent? P s)).map fun name => ⟨none, P.importPath, name, i⟩ := by
  obtain ⟨outcomes, each, rfl⟩ := parents
  have skips : s.fields.filterMap (ownParent? P s) =
      (s.fields.filter (·.isEmbedded)).filterMap (ownParent? P s) := by
    rw [List.filterMap_filter]
    refine List.filterMap_congr fun field _ => ?_
    cases embedded : field.isEmbedded <;> simp [ownParent?, embedded]
  have inside : ∀ field ∈ s.fields.filter (·.isEmbedded), field.isEmbedded = true :=
    fun _ member => (List.mem_filter.mp member).2
  rw [skips, List.map_filterMap, List.filter_filterMap, List.map_filterMap]
  generalize s.fields.filter (·.isEmbedded) = fields at each inside
  induction each with
  | nil => rfl
  | @cons field outcome fields outcomes linked _ ih =>
    have first := linked.ownParent complete (inside field (List.mem_cons_self ..)) i
    have others := ih fun field member => inside field (List.mem_cons_of_mem _ member)
    rw [List.filterMap_cons, List.filterMap_cons, id, first, others]

/-- The parents in the package itself are those that its embedded pointers name, in the order of the
fields. A qualifier that nothing binds does not keep a field from naming one, so all of these fields
are the package's own if and only if no such field has one. -/
theorem resolve_ownParents {active : List Route.Prefix} {r : Resolution}
    (ok : resolve setting dir active = .ok r) {i : Nat} (here : r.packages[i]? = some P)
    {name : String} {decl : ControllerDecl} (found : P.controllers.get? name = some decl) :
    ∃ s, P.package.findStruct? name = some s ∧
      decl.parents.filter (·.id.isNone) =
        (s.fields.filterMap (ownParent? P s)).map (fun parent => ⟨none, P.importPath, parent, i⟩) ∧
      ((∀ field ∈ s.fields, (ownParent? P s field).isSome → IsOwn P s field.type) ↔
        ¬∃ field ∈ s.fields, ∃ parent, field.isEmbedded = true ∧ field.type.isPointer = true ∧
          field.type.name? = some parent ∧ P.controllers.contains parent = true ∧
          IsUnbound P s field.type) := by
  have complete := (explored_of_resolve ok).arranged.complete here
  obtain ⟨s, embeddings, declared, parents, same⟩ := complete.parentsOf found
  refine ⟨s, declared, ?_, ?_, ?_⟩
  · rw [same, length_take_of_getElem? here]
    exact parents.ownParents complete i
  · rintro own ⟨field, member, parent, embedded, pointer, named, controller, unbound⟩
    refine not_isOwn_of_isUnbound unbound (own field member ?_)
    have gives : ownParent? P s field = some parent := by
      refine ownParent?_eq_some_iff.mpr ⟨embedded, pointer, named, controller, ?_⟩
      rw [unbound.2]
      nofun
    rw [gives]
    rfl
  · intro bound field member gives
    obtain ⟨parent, gives⟩ := Option.isSome_iff_exists.mp gives
    obtain ⟨embedded, pointer, named, controller, own⟩ := ownParent?_eq_some_iff.mp gives
    refine (isOwn_or_isUnbound own).resolve_right fun unbound => bound ?_
    exact ⟨field, member, parent, embedded, pointer, named, controller, unbound⟩

/-- A controller that embeds one of a package whose import path ends in a version, beside a
controller of the same name. -/
def versionedPackage : Package :=
  let action (name : String) : Func :=
    ⟨"X", "/a/a.go", [], [], [⟨"", "", .named (some "h") "H"⟩], some ⟨"", "", .named none name⟩⟩
  ⟨"a", [], .ofList [("A", [action "A"]), ("B", [action "B"])],
    [⟨"A", "/a/a.go", [], [⟨"", "", .pointer (.named (some "k") "B")⟩]⟩, ⟨"B", "/a/a.go", [], []⟩],
    .ofList [("/a/a.go", .ofList [("h", "h"), ("v2", "k/v2")])]⟩

abbrev versioned : Setting :=
  twoPackages bothRoots
    ("package a\nimport(\"h\";\"k/v2\")\ntype A struct\x7b*k.B\x7d\ntype B struct\x7b\x7d\n" ++
      "func(A)X()h.H\nfunc(B)X()h.H").toUTF8
    "package b".toUTF8

theorem package_versioned : versioned.disk.package "/a" = .ok versionedPackage :=
  Disk.package_of_single (readDirectory_twoPackages_a ..) (by decide) (by decide +kernel)

theorem packageOf?_versioned : packageOf? versioned "/a" "a" = some versionedPackage :=
  packageOf?_eq_some_iff.mpr ⟨"/a", dirOf?_bothRoots_a _ _, package_versioned⟩

theorem dirFor?_bothRoots_v2 (a b : ByteArray) :
    (twoPackages bothRoots a b).locator.dirFor? (twoPackages bothRoots a b).disk "k/v2" = none := by
  rfl

theorem not_imports_versioned (other : String) : ¬Imports versioned "/a" "a" other := by
  intro imports
  obtain ⟨_, _, _, here, entry⟩ := imports.mem_tables packageOf?_versioned
  have here := Dictionary.mem_of_mem_ofList here
  simp only [List.mem_singleton, Prod.mk.injEq] at here
  obtain ⟨_, rfl⟩ := here
  have entry := Dictionary.mem_of_mem_ofList entry
  simp only [List.mem_cons, Prod.mk.injEq, List.not_mem_nil, or_false] at entry
  have located := imports.located
  rcases entry with ⟨_, rfl⟩ | ⟨_, rfl⟩
  · rw [dirFor?_bothRoots_h] at located
    cases located
  · rw [dirFor?_bothRoots_v2] at located
    cases located

theorem exists_resolve_versioned : ∃ r, resolve versioned "/a" [] = .ok r := by
  have key : keyOf versioned "/a" = "a" := keyOf_bothRoots _ _
  refine exists_resolve_of_alone ?_ (p := versionedPackage) ?_
  · exact key ▸ not_imports_versioned
  · exact key ▸ packageOf?_versioned

theorem root_versioned {r : Resolution} (arena : Arena versioned "/a" r) :
    ∃ P decl, r.packages[r.root]? = some P ∧ P.importPath = "a" ∧ P.package = versionedPackage ∧
      P.controllers.contains "B" = true ∧ P.controllers.get? "A" = some decl := by
  obtain ⟨P, here, key⟩ := arena.rooted
  rw [keyOf_bothRoots] at key
  obtain ⟨known, controllers⟩ := arena.scanned P (List.mem_of_getElem? here)
  rw [key, packageOf?_versioned] at known
  have package : P.package = versionedPackage := (Option.some.inj known).symm
  have declares : isController P.package versioned.markers "A" = true ∧
      isController P.package versioned.markers "B" = true := by
    rw [package]
    constructor <;> decide +kernel
  rw [← controllers, ← controllers, Dictionary.contains_iff, Dictionary.mem_keys_iff] at declares
  obtain ⟨⟨decl, found⟩, other⟩ := declares
  exact ⟨P, decl, here, key, package, other, found⟩

theorem resolve_ownParents_versioned :
    ∃ r P decl s, resolve versioned "/a" [] = .ok r ∧ r.packages[r.root]? = some P ∧
      P.controllers.get? "A" = some decl ∧ P.package.findStruct? "A" = some s ∧
      decl.parents.filter (·.id.isNone) = (s.fields.filterMap (ownParent? P s)).map
        (fun parent => ⟨none, P.importPath, parent, r.root⟩) := by
  obtain ⟨r, ok⟩ := exists_resolve_versioned
  obtain ⟨P, decl, here, -, -, -, found⟩ := root_versioned (explored_of_resolve ok).arena
  obtain ⟨s, declared, parents, -⟩ := resolve_ownParents ok here found
  exact ⟨r, P, decl, s, ok, here, found, declared, parents⟩

/-- A qualifier that nothing binds makes the own controller of the same name the parent. -/
theorem resolve_versioned_unbound :
    ∃ r P decl s field, resolve versioned "/a" [] = .ok r ∧ r.packages[r.root]? = some P ∧
      P.controllers.get? "A" = some decl ∧ P.package.findStruct? "A" = some s ∧
      s.fields = [field] ∧ ¬IsOwn P s field.type ∧
      decl.parents.filter (·.id.isNone) = [⟨none, P.importPath, "B", r.root⟩] := by
  obtain ⟨r, ok⟩ := exists_resolve_versioned
  have explored := explored_of_resolve ok
  obtain ⟨P, decl, here, key, package, other, found⟩ := root_versioned explored.arena
  have complete := explored.arranged.complete here
  obtain ⟨s, embeddings, declared, parents, same⟩ := complete.parentsOf found
  obtain rfl : s = ⟨"A", "/a/a.go", [], [⟨"", "", .pointer (.named (some "k") "B")⟩]⟩ := by
    rw [package] at declared
    exact (Option.some.inj declared).symm
  have unbound : IsUnbound P ⟨"A", "/a/a.go", [], [⟨"", "", .pointer (.named (some "k") "B")⟩]⟩
      (.pointer (.named (some "k") "B")) := by
    refine ⟨rfl, ?_⟩
    rw [package]
    rfl
  refine ⟨r, P, decl, _, _, ok, here, found, declared, rfl, not_isOwn_of_isUnbound unbound, ?_⟩
  have gives : ownParent? P ⟨"A", "/a/a.go", [], [⟨"", "", .pointer (.named (some "k") "B")⟩]⟩
      ⟨"", "", .pointer (.named (some "k") "B")⟩ = some "B" := by
    refine ownParent?_eq_some_iff.mpr ⟨rfl, rfl, rfl, other, ?_⟩
    rw [unbound.2]
    nofun
  rw [same, length_take_of_getElem? here, parents.ownParents complete]
  simp [gives]

end Dispatchers.Resolve
