import Dispatchers.Proofs.Resolve.AncestorPaths

namespace Dispatchers.Resolve

open Controller Go Relation

def singleController (clause file name qualifier parent : String) : Package :=
  let self : Arg := ⟨"", "", .named none name⟩
  let action : Func :=
    ⟨"X", file, ["//@get x show"], [], [⟨"", "", .named (some "h") "H"⟩], some self⟩
  let embedded : Arg := ⟨"", "@route:\"v\"", .pointer (.named (some qualifier) parent)⟩
  ⟨clause, [], ⟨[(name, [action])], List.pairwise_singleton ..⟩, [⟨name, file, [], [embedded]⟩],
    ⟨[(file, .ofList [(qualifier, qualifier), ("h", "h")])], List.pairwise_singleton ..⟩⟩

theorem singleController_embeds (clause file name qualifier parent : String) (markers : Markers)
    (controller :
      isController (singleController clause file name qualifier parent) markers name = true) :
    EmbedsPointer (singleController clause file name qualifier parent) markers
      ⟨name, file, [], [⟨"", "@route:\"v\"", .pointer (.named (some qualifier) parent)⟩]⟩
      ⟨"", "@route:\"v\"", .pointer (.named (some qualifier) parent)⟩ := by
  refine ⟨controller, ?_, List.mem_singleton_self _, rfl, rfl, rfl⟩
  simp [Package.findStruct?, singleController]

theorem boundImport?_singleController (clause file name qualifier parent : String) (fields : List Arg) :
    boundImport? (singleController clause file name qualifier parent) ⟨name, file, [], fields⟩
      (.pointer (.named (some qualifier) parent)) = some qualifier := by
  have bound : (Dictionary.ofList [(qualifier, qualifier), ("h", "h")]).get? qualifier =
      some qualifier := Dictionary.get?_ofList (by simp) (by simp +contextual)
  simpa [boundImport?, TypeExpr.package?, TypeExpr.deref, Package.importOf?, singleController,
    Dictionary.get?] using bound

section SingleController

variable {setting : Setting} {dir key other clause file name qualifier parent : String}

theorem imports_singleController
    (known : packageOf? setting dir key = some (singleController clause file name qualifier parent))
    (controller :
      isController (singleController clause file name qualifier parent) setting.markers name = true)
    (foreign : qualifier ≠ key)
    (located : (setting.locator.dirFor? setting.disk qualifier).isSome = true) :
    Imports setting dir key qualifier := by
  refine ⟨⟨located, _, _, _, known,
    singleController_embeds clause file name qualifier parent setting.markers controller, ?_⟩,
    foreign⟩
  exact boundImport?_singleController ..

theorem eq_of_imports_singleController
    (known : packageOf? setting dir key = some (singleController clause file name qualifier parent))
    (imports : Imports setting dir key other) : other = qualifier ∨ other = "h" := by
  obtain ⟨_, _, _, here, entry⟩ := imports.mem_tables known
  simp only [singleController, List.mem_singleton, Prod.mk.injEq] at here
  obtain ⟨_, rfl⟩ := here
  have entry := Dictionary.mem_of_mem_ofList entry
  simp only [List.mem_cons, Prod.mk.injEq, List.not_mem_nil, or_false] at entry
  rcases entry with ⟨_, same⟩ | ⟨_, same⟩
  · exact .inl same
  · exact .inr same

end SingleController

def twoPackages (roots : List ImportRoot) (a b : ByteArray) : Setting :=
  ⟨⟨[(["a"], .directory), (["a", "a.go"], .file a),
      (["b"], .directory), (["b", "b.go"], .file b)], []⟩,
    ⟨none, roots, []⟩, ⟨⟨"h", "H", false⟩, ⟨"h", "H", false⟩, ⟨"h", "H", false⟩⟩⟩

def singleSource (clause name qualifier parent : String) : String :=
  "package " ++ clause ++ "\nimport(\"" ++ qualifier ++ "\";\"h\")\ntype " ++ name ++ " struct\x7b*" ++
    qualifier ++ "." ++ parent ++ "\x60@route:\"v\"\x60\x7d\n//@get x show\nfunc(" ++ name ++
    ")X()h.H"

abbrev crossed (roots : List ImportRoot) : Setting :=
  twoPackages roots
    (singleSource "a" "A" "b" "B").toUTF8 (singleSource "b" "B" "a" "A").toUTF8

theorem addSource?_crossed_a :
    Package.empty.addSource? (Disk.join "/a" "a.go")
        (singleSource "a" "A" "b" "B") =
      some (singleController "a" "/a/a.go" "A" "b" "B") := by
  decide +kernel

theorem readDirectory_twoPackages_a (roots : List ImportRoot) (a b : ByteArray) :
    (twoPackages roots a b).disk.readDirectory "/a" = .ok [("a.go", .file a)] := by
  rfl

theorem readDirectory_twoPackages_b (roots : List ImportRoot) (a b : ByteArray) :
    (twoPackages roots a b).disk.readDirectory "/b/" = .ok [("b.go", .file b)] := by
  rfl

theorem package_crossed_a (roots : List ImportRoot) :
    (crossed roots).disk.package "/a" = .ok (singleController "a" "/a/a.go" "A" "b" "B") :=
  Disk.package_of_single (readDirectory_twoPackages_a ..) (by decide) addSource?_crossed_a

theorem package_crossed_b (roots : List ImportRoot) :
    (crossed roots).disk.package "/b/" = .ok (singleController "b" "/b/b.go" "B" "a" "A") :=
  Disk.package_of_single (readDirectory_twoPackages_b ..) (by decide) (by decide +kernel)

def bothRoots : List ImportRoot :=
  [⟨"a", "/a"⟩, ⟨"b", "/b"⟩]

theorem keyOf_bothRoots (a b : ByteArray) : keyOf (twoPackages bothRoots a b) "/a" = "a" := by
  rfl

theorem dirOf?_bothRoots_a (a b : ByteArray) :
    dirOf? (twoPackages bothRoots a b) "/a" "a" = some "/a" := by
  rfl

theorem dirFor?_bothRoots_a (a b : ByteArray) :
    (twoPackages bothRoots a b).locator.dirFor? (twoPackages bothRoots a b).disk "a" =
      some "/a/" := by
  rfl

theorem dirFor?_bothRoots_b (a b : ByteArray) :
    (twoPackages bothRoots a b).locator.dirFor? (twoPackages bothRoots a b).disk "b" =
      some "/b/" := by
  rfl

theorem dirFor?_bothRoots_h (a b : ByteArray) :
    (twoPackages bothRoots a b).locator.dirFor? (twoPackages bothRoots a b).disk "h" = none := by
  rfl

theorem packageOf?_bothRoots_a :
    packageOf? (crossed bothRoots) "/a" "a" = some (singleController "a" "/a/a.go" "A" "b" "B") :=
  packageOf?_eq_some_iff.mpr ⟨"/a", dirOf?_bothRoots_a _ _, package_crossed_a bothRoots⟩

theorem packageOf?_bothRoots_b :
    packageOf? (crossed bothRoots) "/a" "b" = some (singleController "b" "/b/b.go" "B" "a" "A") := by
  have located : dirOf? (crossed bothRoots) "/a" "b" = some "/b/" :=
    dirOf?_of_located (dirFor?_bothRoots_b _ _) (by rw [keyOf_bothRoots]; decide)
  exact packageOf?_eq_some_iff.mpr ⟨"/b/", located, package_crossed_b bothRoots⟩

theorem readable_bothRoots {key : String} (reached : Reached (crossed bothRoots) "/a" key) :
    ∃ p, packageOf? (crossed bothRoots) "/a" key = some p := by
  have among : key ∈ ["a", "b"] := by
    refine reached.mem_of_closed (by rw [keyOf_bothRoots]; decide) ?_
    intro key member other imports
    have apart : other ≠ "h" := by
      rintro rfl
      have located := imports.located
      rw [dirFor?_bothRoots_h] at located
      cases located
    simp only [List.mem_cons, List.not_mem_nil, or_false] at member ⊢
    rcases member with rfl | rfl
    · exact .inr ((eq_of_imports_singleController packageOf?_bothRoots_a imports).resolve_right apart)
    · exact .inl ((eq_of_imports_singleController packageOf?_bothRoots_b imports).resolve_right apart)
  simp only [List.mem_cons, List.not_mem_nil, or_false] at among
  rcases among with rfl | rfl
  · exact ⟨_, packageOf?_bothRoots_a⟩
  · exact ⟨_, packageOf?_bothRoots_b⟩

/-- Where every package that can be reached can be read, a run ends with the fault of an import cycle
if and only if there is one, and with a result otherwise. Following imports comes to an end: what is
`beyond` a chain of so many of them is never asked for. -/
theorem resolve_decides_importCycle (setting : Setting) (dir : String) (active : List Route.Prefix)
    (readable : ∀ key, Reached setting dir key → ∃ p, packageOf? setting dir key = some p) :
    ((∃ key, resolve setting dir active = .error (.importCycle key)) ↔ Cyclic setting dir) ∧
    (¬Cyclic setting dir → ∃ r, resolve setting dir active = .ok r) ∧
    ∀ (beyond : Follow) (length : Nat), setting.disk.importPaths.length + 2 ≤ length →
      scan setting ((followStep setting)^[length] beyond) (keyOf setting dir) dir active .start =
        scanDirectory setting dir active .start := by
  refine ⟨⟨?_, ?_⟩, exists_resolve_of_acyclic readable, ?_⟩
  · rintro ⟨key, error⟩
    obtain ⟨_, _, cyclic⟩ := cycle_of_resolve readable error
    exact cyclic
  · intro cyclic
    cases outcome : resolve setting dir active with
    | ok r => exact absurd cyclic (acyclic_of_resolve outcome)
    | error cause =>
      obtain ⟨key, rfl, _⟩ := cycle_of_resolve readable outcome
      exact ⟨key, rfl⟩
  · intro beyond length enough
    obtain ⟨more, rfl⟩ := Nat.exists_eq_add_of_le enough
    rw [Function.iterate_add_apply]
    exact (scanDirectory_ends setting dir active ((followStep setting)^[more] beyond)).1

theorem resolve_crossed_importCycle :
    Cyclic (crossed bothRoots) "/a" ∧
      ∃ key, resolve (crossed bothRoots) "/a" [] = .error (.importCycle key) := by
  have a_b : Imports (crossed bothRoots) "/a" "a" "b" :=
    imports_singleController packageOf?_bothRoots_a (by decide +kernel) (by decide)
      (by rw [dirFor?_bothRoots_b]; rfl)
  have b_a : Imports (crossed bothRoots) "/a" "b" "a" :=
    imports_singleController packageOf?_bothRoots_b (by decide +kernel) (by decide)
      (by rw [dirFor?_bothRoots_a]; rfl)
  have reached : Reached (crossed bothRoots) "/a" "a" := by
    rw [Reached, keyOf_bothRoots]
  have cyclic : Cyclic (crossed bothRoots) "/a" := ⟨"a", reached, (TransGen.single a_b).tail b_a⟩
  exact ⟨cyclic, (resolve_decides_importCycle _ _ [] fun _ => readable_bothRoots).1.mpr cyclic⟩

section Chain

variable {setting : Setting} {dir parent : String}
  (child : ∀ other, Imports setting dir (keyOf setting dir) other → other = parent)
  (last : ∀ other, ¬Imports setting dir parent other)

include child last

theorem reached_of_chain {key : String} (reached : Reached setting dir key) :
    key = keyOf setting dir ∨ key = parent := by
  have among : key ∈ [keyOf setting dir, parent] := by
    refine reached.mem_of_closed (List.mem_cons_self ..) ?_
    intro key member other imports
    simp only [List.mem_cons, List.not_mem_nil, or_false] at member ⊢
    rcases member with rfl | rfl
    · exact .inr (child other imports)
    · exact absurd imports (last other)
  simpa using among

theorem exists_resolve_of_chain {active : List Route.Prefix} (apart : keyOf setting dir ≠ parent)
    (root : ∃ p, packageOf? setting dir (keyOf setting dir) = some p)
    (other : ∃ p, packageOf? setting dir parent = some p) :
    ∃ r, resolve setting dir active = .ok r := by
  refine exists_resolve_of_acyclic (fun key reached => ?_) ?_
  · rcases reached_of_chain child last reached with rfl | rfl
    · exact root
    · exact other
  · rintro ⟨key, reached, cycle⟩
    obtain ⟨next, first, rest⟩ := TransGen.head'_iff.mp cycle
    rcases reached_of_chain child last reached with rfl | rfl
    · obtain rfl := child next first
      rcases ReflTransGen.cases_head rest with same | ⟨_, second, _⟩
      · exact apart same.symm
      · exact last _ second
    · exact last _ first

theorem package_of_chain {r : Resolution} (arena : Arena setting dir r) {P : Scanned}
    (member : P ∈ r.packages) :
    P.importPath = keyOf setting dir ∧ packageOf? setting dir (keyOf setting dir) = some P.package ∨
      P.importPath = parent ∧ packageOf? setting dir parent = some P.package := by
  have known := (arena.scanned P member).1
  have reached : Reached setting dir P.importPath :=
    reached_iff_embeds.mpr ((arena.explored _).mp (List.mem_map_of_mem member))
  rcases reached_of_chain child last reached with key | key
  · exact .inl ⟨key, key ▸ known⟩
  · exact .inr ⟨key, key ▸ known⟩

end Chain

/-- Only the embedded package can be located, and the first one has no import path. -/
def embeddedRoot : List ImportRoot :=
  [⟨"b", "/b"⟩]

theorem keyOf_embeddedRoot (a b : ByteArray) :
    keyOf (twoPackages embeddedRoot a b) "/a" = "/a" := by
  rfl

theorem dirOf?_embeddedRoot_a (a b : ByteArray) :
    dirOf? (twoPackages embeddedRoot a b) "/a" "/a" = some "/a" := by
  rfl

theorem dirOf?_embeddedRoot_b (a b : ByteArray) :
    dirOf? (twoPackages embeddedRoot a b) "/a" "b" = some "/b/" := by
  rfl

theorem dirFor?_embeddedRoot_a (a b : ByteArray) :
    (twoPackages embeddedRoot a b).locator.dirFor? (twoPackages embeddedRoot a b).disk "a" = none := by
  rfl

theorem dirFor?_embeddedRoot_h (a b : ByteArray) :
    (twoPackages embeddedRoot a b).locator.dirFor? (twoPackages embeddedRoot a b).disk "h" = none := by
  rfl

theorem packageOf?_embeddedRoot_a :
    packageOf? (crossed embeddedRoot) "/a" "/a" = some (singleController "a" "/a/a.go" "A" "b" "B") :=
  packageOf?_eq_some_iff.mpr ⟨"/a", dirOf?_embeddedRoot_a _ _, package_crossed_a embeddedRoot⟩

theorem packageOf?_embeddedRoot_b :
    packageOf? (crossed embeddedRoot) "/a" "b" = some (singleController "b" "/b/b.go" "B" "a" "A") :=
  packageOf?_eq_some_iff.mpr ⟨"/b/", dirOf?_embeddedRoot_b _ _, package_crossed_b embeddedRoot⟩

theorem imports_embeddedRoot_a {other : String}
    (imports : Imports (crossed embeddedRoot) "/a" "/a" other) : other = "b" := by
  rcases eq_of_imports_singleController packageOf?_embeddedRoot_a imports with rfl | rfl
  · rfl
  · have located := imports.located
    rw [dirFor?_embeddedRoot_h] at located
    cases located

theorem not_imports_embeddedRoot_b (other : String) :
    ¬Imports (crossed embeddedRoot) "/a" "b" other := by
  intro imports
  have located := imports.located
  rcases eq_of_imports_singleController packageOf?_embeddedRoot_b imports with rfl | rfl
  · rw [dirFor?_embeddedRoot_a] at located
    cases located
  · rw [dirFor?_embeddedRoot_h] at located
    cases located

theorem exists_resolve_embeddedRoot (active : List Route.Prefix) :
    ∃ r, resolve (crossed embeddedRoot) "/a" active = .ok r := by
  refine exists_resolve_of_chain ?_ not_imports_embeddedRoot_b ?_ ?_ ⟨_, packageOf?_embeddedRoot_b⟩
  all_goals rw [keyOf_embeddedRoot]
  · exact fun _ => imports_embeddedRoot_a
  · decide
  · exact ⟨_, packageOf?_embeddedRoot_a⟩

/-- The packages of a run that ends well are the ones that can be reached, each behind those that it
embeds from, and the parents of each controller are those that its fields name. -/
theorem resolve_arena {setting : Setting} {dir : String} {active : List Route.Prefix}
    {r : Resolution} (ok : resolve setting dir active = .ok r) : Arena setting dir r :=
  (explored_of_resolve ok).arena

theorem resolve_arena_embeddedRoot :
    ∃ r, resolve (crossed embeddedRoot) "/a" [] = .ok r ∧ Arena (crossed embeddedRoot) "/a" r := by
  obtain ⟨r, ok⟩ := exists_resolve_embeddedRoot []
  exact ⟨r, ok, resolve_arena ok⟩

/-- For a controller of a run, asking for its ancestors ends with a fault if and only if a controller
that is its own ancestor can be reached, and lists all ways up otherwise. Going up comes to an end:
what is `beyond` a way of so many parents is never asked for. -/
theorem ancestors_postOrder {setting : Setting} {dir : String} {active : List Route.Prefix}
    {r : Resolution} (ok : resolve setting dir active = .ok r) {package : Nat} {name : String}
    {decl : ControllerDecl} (found : r.controller? package name = some decl) :
    (∀ unknown, r.ancestors package name ≠ .error (.unknownController unknown)) ∧
    ((∃ names last, r.ancestors package name = .error (.embeddingCycle names last)) ↔
      r.CycleAbove (package, name)) ∧
    (¬r.CycleAbove (package, name) → ∃ ancestors ways,
      r.ancestors package name = .ok ancestors ∧ PostOrder r (package, name) ways ancestors) ∧
    ∀ (beyond : Climb) (length : Nat), r.controllerCount + 1 ≤ length →
      (climbStep r)^[length] beyond (package, name) "" [(package, name)] =
        r.ancestors package name := by
  have closed := (explored_of_resolve ok).arena.closed
  have declared : r.declared (package, name) := Option.isSome_iff_exists.mpr ⟨decl, found⟩
  have ends : ∀ (beyond : Climb) (length : Nat), r.controllerCount + 1 ≤ length →
      (climbStep r)^[length] beyond (package, name) "" [(package, name)] =
        r.ancestors package name := by
    intro beyond length enough
    obtain ⟨more, rfl⟩ := Nat.exists_eq_add_of_le enough
    rw [Function.iterate_add_apply]
    exact (ancestorsWithin_yields closed declared ((climbStep r)^[more] beyond)
      (r.controllerCount + 1) (package, name) "" [] .root (Nat.le_refl _)).1
  rcases ancestors_outcome closed declared with
    ⟨ancestors, ways, listed, order, acyclic⟩ | ⟨names, last, error, cycle⟩
  · simp only at listed
    rw [listed]
    refine ⟨nofun, ⟨nofun, fun cycle => absurd cycle acyclic⟩, ?_, listed ▸ ends⟩
    exact fun _ => ⟨ancestors, ways, rfl, order⟩
  · simp only at error
    rw [error]
    refine ⟨nofun, ⟨fun _ => cycle, fun _ => ⟨names, last, rfl⟩⟩, ?_, error ▸ ends⟩
    exact fun acyclic => absurd cycle acyclic

theorem controller_embeddedRoot {r : Resolution} (arena : Arena (crossed embeddedRoot) "/a" r) :
    ∃ decl, r.controller? r.root "A" = some decl := by
  obtain ⟨P, here, key⟩ := arena.rooted
  rw [keyOf_embeddedRoot] at key
  obtain ⟨known, controllers⟩ := arena.scanned P (List.mem_of_getElem? here)
  rw [key, packageOf?_embeddedRoot_a] at known
  have package : P.package = singleController "a" "/a/a.go" "A" "b" "B" := (Option.some.inj known).symm
  have controller : isController P.package (crossed embeddedRoot).markers "A" = true := by
    rw [package]
    decide +kernel
  rw [← controllers, Dictionary.contains_iff, Dictionary.mem_keys_iff] at controller
  obtain ⟨decl, described⟩ := controller
  exact ⟨decl, Option.bind_eq_some_iff.mpr ⟨P, here, described⟩⟩

theorem ancestors_postOrder_embeddedRoot :
    ∃ r decl, resolve (crossed embeddedRoot) "/a" [] = .ok r ∧
      r.controller? r.root "A" = some decl ∧
      ((∃ names last, r.ancestors r.root "A" = .error (.embeddingCycle names last)) ↔
        r.CycleAbove (r.root, "A")) := by
  obtain ⟨r, ok⟩ := exists_resolve_embeddedRoot []
  obtain ⟨decl, found⟩ := controller_embeddedRoot (explored_of_resolve ok).arena
  exact ⟨r, decl, ok, found, (ancestors_postOrder ok found).2.1⟩

end Dispatchers.Resolve
