import Dispatchers.Proofs.Go.Sessions
import Dispatchers.Proofs.Resolve.Guarantees

namespace Dispatchers.Resolve

open Controller Go

variable {setting : Setting} {dir : String} {active : List Route.Prefix} {r : Resolution}
  {place : Nat} {P : Scanned} {name : String} {decl : ControllerDecl}

/-- The parents are those that the embedded fields of `s` give, in the order of the fields. -/
def ParentsFrom (setting : Setting) (r : Resolution) (place : Nat) (P : Scanned) (s : Struct)
    (parents : List Parent) : Prop :=
  ∃ embeddings, ParentsOf setting (r.packages.take place) P.parentImports (linkingOf setting P) s
      (s.fields.filter (·.isEmbedded)) embeddings ∧
    parents = embeddings.map (·.parent P.importPath place)

theorem Linked.unique {packages : List Scanned} {numbered : List String} {l : Linking} {s : Struct}
    {field : Arg} {one other : Option Embedding} (first : Linked setting packages numbered l s field one)
    (second : Linked setting packages numbered l s field other) : one = other := by
  cases first <;> cases second <;> simp_all

theorem ParentsFrom.unique {s : Struct} {one other : List Parent}
    (first : ParentsFrom setting r place P s one) (second : ParentsFrom setting r place P s other) :
    one = other := by
  obtain ⟨_, ⟨outcomes, each, rfl⟩, rfl⟩ := first
  obtain ⟨_, ⟨others, every, rfl⟩, rfl⟩ := second
  have same : outcomes = others :=
    List.right_unique_forall₂' (fun _ _ _ first second => first.unique second) each every
  rw [same]

structure Details (setting : Setting) (P : Scanned) (s : Struct) (decl : ControllerDecl) : Prop where
  file : decl.file = s.file
  comments : decl.comments = s.comments
  fields : decl.fields = (bindFields P.package setting.markers s).1

structure Describes (setting : Setting) (r : Resolution) (place : Nat) (P : Scanned) (s : Struct)
    (decl : ControllerDecl) : Prop extends Details setting P s decl where
  declared : s ∈ P.package.structs
  named : s.name = decl.name
  parents : ParentsFrom setting r place P s decl.parents

theorem Complete.details {earlier : List Scanned} (complete : Complete setting dir earlier P)
    (found : P.controllers.get? name = some decl) :
    ∃ last, P.package.structs.reverse.find? (·.name = name) = some last ∧
      decl.name = name ∧ Details setting P last decl := by
  obtain ⟨last, search, described⟩ := complete.describedByLast found
  have named : last.name = name := by simpa using List.find?_some search
  obtain ⟨-, -, same⟩ := declOf?_eq_some_iff.mp described
  obtain ⟨own, file, comments, -, -, -, -, fields, -⟩ := ControllerDecl.mk.inj same
  exact ⟨last, search, own.trans named, file, comments, fields⟩

theorem Explored.parentsFrom (explored : Explored setting dir active r)
    (here : r.packages[place]? = some P) (found : P.controllers.get? name = some decl) :
    ∃ first, P.package.findStruct? name = some first ∧
      ParentsFrom setting r place P first decl.parents := by
  obtain ⟨first, embeddings, declared, gives, same⟩ :=
    (explored.arranged.complete here).parentsOf found
  rw [length_take_of_getElem? here] at same
  exact ⟨first, declared, embeddings, gives, same⟩

theorem parents_of_pointer (explored : Explored setting dir active r)
    (here : r.packages[place]? = some P) (found : P.controllers.get? name = some decl) {s : Struct}
    (declared : P.package.findStruct? name = some s) {parent : String}
    (fields : s.fields = [⟨"", "", .pointer (.named none parent)⟩])
    (controller : P.controllers.contains parent = true) :
    decl.parents = [⟨none, P.importPath, parent, place⟩] := by
  obtain ⟨first, same, parents⟩ := explored.parentsFrom here found
  obtain rfl := Option.some.inj (same.symm.trans declared)
  have own : ParentsFrom setting r place P first [⟨none, P.importPath, parent, place⟩] := by
    refine ⟨[.own parent], ⟨[some (.own parent)], ?_, rfl⟩, rfl⟩
    rw [fields]
    refine .cons (.own rfl rfl rfl ?_) .nil
    rw [(explored.arranged.complete here).linkingOf_contains, controller]
  exact parents.unique own

/-- The last struct of its name gives a controller its file, comments and bound fields, and the first
one its parents. So one struct declares all of it if and only if there is one of the name that agrees
with the last in the former and with the first in the latter. -/
theorem resolve_describes (ok : resolve setting dir active = .ok r)
    (here : r.packages[place]? = some P) (found : P.controllers.get? name = some decl) :
    ∃ first last, P.package.findStruct? name = some first ∧
      P.package.structs.reverse.find? (·.name = name) = some last ∧
      Details setting P last decl ∧ ParentsFrom setting r place P first decl.parents ∧
      (first = last → Describes setting r place P first decl) ∧
      ((∃ s, Describes setting r place P s decl) ↔
        ∃ s ∈ P.package.structs, s.name = name ∧ s.file = last.file ∧ s.comments = last.comments ∧
          (bindFields P.package setting.markers s).1 =
            (bindFields P.package setting.markers last).1 ∧
          ∃ parents, ParentsFrom setting r place P first parents ∧
            ParentsFrom setting r place P s parents) := by
  have explored := explored_of_resolve ok
  obtain ⟨last, search, own, details⟩ := (explored.arranged.complete here).details found
  obtain ⟨first, declared, parents⟩ := explored.parentsFrom here found
  refine ⟨first, last, declared, search, details, parents, ?_, ?_, ?_⟩
  · rintro rfl
    exact ⟨details, List.mem_of_find?_eq_some declared,
      (by simpa using List.find?_some declared : first.name = name).trans own.symm, parents⟩
  · rintro ⟨s, describes⟩
    exact ⟨s, describes.declared, describes.named.trans own, describes.file.symm.trans details.file,
      describes.comments.symm.trans details.comments, describes.fields.symm.trans details.fields,
      decl.parents, parents, describes.parents⟩
  · rintro ⟨s, listed, named, file, comments, fields, shared, ofFirst, ofOther⟩
    refine ⟨s, ⟨?_, ?_, ?_⟩, listed, named.trans own.symm, parents.unique ofFirst ▸ ofOther⟩
    · rw [file, details.file]
    · rw [comments, details.comments]
    · rw [fields, details.fields]

def twoFiles (a b : ByteArray) : Setting :=
  ⟨⟨[(["a"], .directory), (["a", "a.go"], .file a), (["a", "b.go"], .file b)], []⟩,
    ⟨none, [⟨"a", "/a"⟩], []⟩, ⟨⟨"h", "H", false⟩, ⟨"h", "H", false⟩, ⟨"h", "H", false⟩⟩⟩

theorem keyOf_twoFiles (a b : ByteArray) : keyOf (twoFiles a b) "/a" = "a" := by
  rfl

theorem dirOf?_twoFiles (a b : ByteArray) : dirOf? (twoFiles a b) "/a" "a" = some "/a" := by
  rfl

theorem dirFor?_twoFiles_h (a b : ByteArray) :
    (twoFiles a b).locator.dirFor? (twoFiles a b).disk "h" = none := by
  rfl

theorem package_twoFiles {first second : String} {p : Package}
    (session : Package.empty.session [("/a/a.go", first), ("/a/b.go", second)] =
      ([.ok (), .ok ()], p)) :
    (twoFiles first.toUTF8 second.toUTF8).disk.package "/a" = .ok p := by
  have listed (a b : ByteArray) : (twoFiles a b).disk.readDirectory "/a" =
      .ok [("a.go", .file a), ("b.go", .file b)] := by rfl
  have sources (a b : ByteArray) : Disk.sourcesIn "/a" [("a.go", .file a), ("b.go", .file b)] =
      [("/a/a.go", a), ("/a/b.go", b)] := by
    have ordered : (!decide ("b.go" < "a.go")) = true := by decide
    have sorted : [("a.go", a), ("b.go", b)].Pairwise fun a b => !decide (b.1 < a.1) :=
      List.pairwise_pair.mpr ordered
    exact congrArg (List.map _) (List.mergeSort_of_pairwise sorted)
  refine Disk.package_eq_ok_iff.mpr ⟨_, _, listed _ _, ?_, ?_, session⟩
  · simp
  · rw [sources]
    exact .cons ⟨rfl, Disk.decode_toUTF8 _⟩ (.cons ⟨rfl, Disk.decode_toUTF8 _⟩ .nil)

/-- The files import nothing but the package of the markers, which cannot be located. -/
def ImportsMarkers (p : Package) : Prop :=
  ∀ file table qualifier path, (file, table) ∈ p.imports.entries →
    (qualifier, path) ∈ table.entries → path = "h"

theorem importsMarkers_of_entries {p : Package} {entries : List (String × ImportTable)}
    (imports : p.imports = .ofList entries)
    (markers : ∀ entry ∈ entries, ∀ bound ∈ entry.2.entries, bound.2 = "h") : ImportsMarkers p := by
  intro file table qualifier path here bound
  rw [imports] at here
  exact markers _ (Dictionary.mem_of_mem_ofList here) _ bound

section TwoFiles

variable {a b : ByteArray} {p : Package} (scanned : (twoFiles a b).disk.package "/a" = .ok p)

include scanned

theorem packageOf?_twoFiles : packageOf? (twoFiles a b) "/a" "a" = some p :=
  packageOf?_eq_some_iff.mpr ⟨"/a", dirOf?_twoFiles a b, scanned⟩

theorem not_imports_twoFiles (markers : ImportsMarkers p) (other : String) :
    ¬Imports (twoFiles a b) "/a" (keyOf (twoFiles a b) "/a") other := by
  intro imports
  rw [keyOf_twoFiles] at imports
  obtain ⟨file, table, qualifier, here, entry⟩ := imports.mem_tables (packageOf?_twoFiles scanned)
  obtain rfl := markers file table qualifier other here entry
  have located := imports.located
  rw [dirFor?_twoFiles_h] at located
  cases located

theorem exists_resolve_twoFiles (markers : ImportsMarkers p) :
    ∃ r, resolve (twoFiles a b) "/a" [] = .ok r := by
  refine exists_resolve_of_alone (not_imports_twoFiles scanned markers) (p := p) ?_
  rw [keyOf_twoFiles]
  exact packageOf?_twoFiles scanned

theorem root_twoFiles {r : Resolution} (arena : Arena (twoFiles a b) "/a" r) :
    ∃ P, r.packages[r.root]? = some P ∧ P.importPath = "a" ∧ P.package = p := by
  obtain ⟨P, here, key⟩ := arena.rooted
  rw [keyOf_twoFiles] at key
  have known := (arena.scanned P (List.mem_of_getElem? here)).1
  rw [key, packageOf?_twoFiles scanned] at known
  exact ⟨P, here, key, (Option.some.inj known).symm⟩

theorem eq_root_twoFiles (markers : ImportsMarkers p)
    (explored : Explored (twoFiles a b) "/a" active r) (here : r.packages[place]? = some P) :
    place = r.root ∧ P.importPath = "a" ∧ P.package = p := by
  obtain ⟨Q, packages, root, -⟩ := explored.packages_of_alone (not_imports_twoFiles scanned markers)
  obtain ⟨R, there, key, package⟩ := root_twoFiles scanned explored.arena
  rw [packages] at here there
  obtain rfl : place = 0 := by
    have bound := (List.getElem?_eq_some_iff.mp here).1
    rw [List.length_singleton] at bound
    omega
  rw [root] at there
  obtain rfl := Option.some.inj (here.symm.trans there)
  exact ⟨root.symm, key, package⟩

end TwoFiles

theorem Arena.exists_get? {setting : Setting} {dir : String} {r : Resolution} {P : Scanned}
    {i : Nat} (arena : Arena setting dir r) (here : r.packages[i]? = some P) {name : String}
    (controller : isController P.package setting.markers name = true) :
    ∃ decl, P.controllers.get? name = some decl := by
  rw [← (arena.scanned P (List.mem_of_getElem? here)).2, Dictionary.contains_iff,
    Dictionary.mem_keys_iff] at controller
  exact controller

def declaredTwice : Package :=
  let action (name : String) : Func :=
    ⟨"X", "/a/a.go", [], [], [⟨"", "", .named (some "h") "H"⟩], some ⟨"", "", .named none name⟩⟩
  ⟨"a", [], .ofList [("A", [action "A"]), ("B", [action "B"])],
    [⟨"A", "/a/a.go", [], [⟨"", "", .pointer (.named none "B")⟩]⟩, ⟨"B", "/a/a.go", [], []⟩,
      ⟨"A", "/a/b.go", [], []⟩],
    .ofList [("/a/a.go", .ofList [("h", "h")]), ("/a/b.go", .empty)]⟩

abbrev rebuilt : Setting :=
  twoFiles
    ("package a\nimport\"h\"\ntype A struct\x7b*B\x7d\ntype B struct\x7b\x7d\n" ++
      "func(A)X()h.H\nfunc(B)X()h.H").toUTF8
    "package a\ntype A struct\x7b\x7d\n".toUTF8

theorem package_rebuilt : rebuilt.disk.package "/a" = .ok declaredTwice :=
  package_twoFiles (by decide +kernel)

theorem importsMarkers_declaredTwice : ImportsMarkers declaredTwice :=
  importsMarkers_of_entries rfl (by decide)

theorem root_rebuilt {r : Resolution} (arena : Arena rebuilt "/a" r) :
    ∃ P decl, r.packages[r.root]? = some P ∧ P.package = declaredTwice ∧
      P.controllers.contains "B" = true ∧ P.controllers.get? "A" = some decl := by
  obtain ⟨P, here, -, package⟩ := root_twoFiles package_rebuilt arena
  have controller : isController P.package rebuilt.markers "A" = true := by
    rw [package]
    decide +kernel
  obtain ⟨decl, found⟩ := arena.exists_get? here controller
  refine ⟨P, decl, here, package, ?_, found⟩
  rw [(arena.scanned P (List.mem_of_getElem? here)).2, package]
  decide +kernel

theorem resolve_describes_rebuilt :
    ∃ r P decl first last, resolve rebuilt "/a" [] = .ok r ∧ r.packages[r.root]? = some P ∧
      P.controllers.get? "A" = some decl ∧ P.package.findStruct? "A" = some first ∧
      P.package.structs.reverse.find? (·.name = "A") = some last ∧ first ≠ last ∧
      Details rebuilt P last decl ∧ ParentsFrom rebuilt r r.root P first decl.parents := by
  obtain ⟨r, ok⟩ := exists_resolve_twoFiles package_rebuilt importsMarkers_declaredTwice
  obtain ⟨P, decl, here, package, -, found⟩ := root_rebuilt (explored_of_resolve ok).arena
  obtain ⟨first, last, declared, search, details, parents, -⟩ := resolve_describes ok here found
  refine ⟨r, P, decl, first, last, ok, here, found, declared, search, ?_, details, parents⟩
  rw [package] at declared search
  cases declared
  cases search
  decide

/-- No single struct declares a controller that has its file from the last struct of its name and a
parent from the first. -/
theorem resolve_rebuilt_mixed :
    ∃ r P decl, resolve rebuilt "/a" [] = .ok r ∧ r.packages[r.root]? = some P ∧
      P.controllers.get? "A" = some decl ∧ decl.file = "/a/b.go" ∧
      decl.parents = [⟨none, P.importPath, "B", r.root⟩] ∧
      ¬∃ s, Describes rebuilt r r.root P s decl := by
  obtain ⟨r, ok⟩ := exists_resolve_twoFiles package_rebuilt importsMarkers_declaredTwice
  have explored := explored_of_resolve ok
  obtain ⟨P, decl, here, package, other, found⟩ := root_rebuilt explored.arena
  have file : decl.file = "/a/b.go" := by
    obtain ⟨last, search, -, details⟩ := (explored.arranged.complete here).details found
    rw [package] at search
    cases search
    exact details.file
  have parents : decl.parents = [⟨none, P.importPath, "B", r.root⟩] :=
    parents_of_pointer explored here found (by rw [package]; rfl) rfl other
  refine ⟨r, P, decl, ok, here, found, file, parents, ?_⟩
  rintro ⟨s, describes⟩
  have listed := describes.declared
  have sameFile := describes.file
  rw [package, declaredTwice] at listed
  rw [file] at sameFile
  simp only [List.mem_cons, List.not_mem_nil, or_false] at listed
  rcases listed with rfl | rfl | rfl
  · exact absurd sameFile (by decide)
  · exact absurd sameFile (by decide)
  · have none : ParentsFrom rebuilt r r.root P ⟨"A", "/a/b.go", [], []⟩ [] :=
      ⟨[], ⟨[], .nil, rfl⟩, rfl⟩
    have absent := describes.parents.unique none
    rw [parents] at absent
    cases absent

end Dispatchers.Resolve
