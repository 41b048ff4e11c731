import Dispatchers.Proofs.Go.Sessions
import Dispatchers.Proofs.Handlers.FileSet
import Dispatchers.Proofs.Resolve.Declarations
import Dispatchers.Proofs.Text.TestNames

namespace Dispatchers.Handlers

open Controller Go Resolve Template

def fileName? (path : String) : Option String :=
  (Disk.components path).getLast?

/-- A name of a Go file, and not one of those that are passed over for how they begin. -/
structure IsGoFile (name : String) : Prop where
  go : ['.', 'g', 'o'] <:+ name.toList
  visible : name.toList.head? ≠ some '_' ∧ name.toList.head? ≠ some '.'

def IsTestFile (name : String) : Prop :=
  ['_', 't', 'e', 's', 't', '.', 'g', 'o'] <:+ name.toList

instance (name : String) : Decidable (IsTestFile name) :=
  inferInstanceAs (Decidable (_ <:+ _))

theorem IsGoFile.isSourceName_iff {name : String} (go : IsGoFile name) :
    Disk.isSourceName name = true ↔ ¬IsTestFile name := by
  have named : name.toList ≠ ".go".toList := fun same => go.visible.2 (same ▸ rfl)
  simp only [Disk.isSourceName, Bool.and_eq_true, bne_iff_ne, List.isSuffixOf_iff_suffix,
    Bool.not_eq_true', ← Bool.not_eq_true]
  exact ⟨fun counts => counts.2, fun untested => ⟨⟨named, go.go⟩, untested⟩⟩

section Controllers

variable {controller : String}

theorem toList_controllerFile (controller : String) :
    (Plan.controllerFile controller).toList =
      Text.snakeAfter none controller.toList ++ ['.', 'g', 'o'] := by
  rw [Plan.controllerFile, Text.snakeCase, String.toList_append, String.toList_ofList]
  rfl

theorem isGoFile_controllerFile (exported : Text.isExported controller = true) :
    IsGoFile (Plan.controllerFile controller) := by
  obtain ⟨first, rest, spelled, upper⟩ := Text.exists_of_isExported exported
  have begins {d : Char} (small : 0 < d.toNat ∧ d.toNat < 128) (letterless : d.isAlpha = false)
      (plain : Text.isUppercase d = false) :
      (Plan.controllerFile controller).toList.head? ≠ some d := by
    intro same
    have start : Text.separator none first rest.head? = [] := by simp [Text.separator, Text.startsWord]
    rw [toList_controllerFile, spelled, Text.snakeAfter_cons, start, List.nil_append,
      List.append_assoc, List.head?_append_of_ne_nil _ (Text.lowered_ne_nil first)] at same
    rw [Text.eq_of_mem_lowered small letterless (List.mem_of_head? same), plain] at upper
    cases upper
  refine ⟨?_, begins (by decide) (by decide) (by decide), begins (by decide) (by decide) (by decide)⟩
  rw [toList_controllerFile]
  exact List.suffix_append _ _

theorem isTestFile_controllerFile_iff :
    IsTestFile (Plan.controllerFile controller) ↔ Text.EndsInTest controller.toList := by
  have word : ['_', 't', 'e', 's', 't', '.', 'g', 'o'] =
      ['_', 't', 'e', 's', 't'] ++ ['.', 'g', 'o'] := rfl
  rw [← Text.suffix_snakeAfter_iff, IsTestFile, toList_controllerFile, word,
    List.suffix_append_self_iff]

end Controllers

section Files

variable {setting : Setting} {dir : String} {active : List Route.Prefix} {r : Resolution} {P : Scanned}
  {name : String}

theorem identifier_of_explored (explored : Explored setting dir active r) (member : P ∈ r.packages)
    (listed : name ∈ P.controllers.keys) :
    Text.IsIdentifier name ∧ Text.isExported name = true := by
  obtain ⟨place, here⟩ := List.getElem?_of_mem member
  obtain ⟨decl, found⟩ := Dictionary.mem_keys_iff.mp listed
  have complete := explored.arranged.complete here
  obtain ⟨s, declared, rfl, described⟩ := complete.described found
  exact ⟨Disk.package_named complete.package s declared, (declOf?_eq_some_iff.mp described).1⟩

theorem fileName?_of_mem_fileNames (named : ∀ name ∈ P.controllers.keys, Text.IsIdentifier name)
    {file : String} (member : file ∈ fileNames P) (output : String) :
    fileName? (Disk.join output file) = some file := by
  obtain ⟨plain, free⟩ := isPlain_of_mem_fileNames named member
  rw [fileName?, Disk.components_join_file plain free, List.getLast?_concat]

theorem isTestFile_iff_of_mem_fileNames {file : String} (member : file ∈ fileNames P) :
    IsTestFile file ↔ ∃ controller ∈ P.controllers.keys,
      file = Plan.controllerFile controller ∧ Text.EndsInTest controller.toList := by
  constructor
  · intro test
    rcases List.mem_append.mp member with own | shared
    · obtain ⟨controller, listed, rfl⟩ := List.mem_map.mp own
      exact ⟨controller, listed, rfl, isTestFile_controllerFile_iff.mp test⟩
    · rw [List.mem_singleton.mp shared] at test
      exact absurd test (by decide)
  · rintro ⟨controller, -, rfl, test⟩
    exact isTestFile_controllerFile_iff.mpr test

theorem isGoFile_of_mem_fileNames (explored : Explored setting dir active r) (inside : P ∈ r.packages)
    {file : String} (member : file ∈ fileNames P) : IsGoFile file := by
  rcases List.mem_append.mp member with own | shared
  · obtain ⟨controller, listed, rfl⟩ := List.mem_map.mp own
    exact isGoFile_controllerFile (identifier_of_explored explored inside listed).2
  · rw [List.mem_singleton.mp shared]
    exact ⟨by decide, by decide, by decide⟩

theorem exists_fileNames (ok : resolve setting dir active = .ok r) {disk : Disk} {l : Locator}
    {o : Options} {library : Library} {files : List OutputFile}
    (rendered : renderHandlers disk l r o library = .ok files) :
    ∃ root, r.packages[r.root]? = some root ∧
      (∀ P ∈ root :: besides r, P ∈ r.packages) ∧
      (∀ file ∈ files, ∃ P ∈ root :: besides r, ∃ name ∈ fileNames P,
        fileName? file.path = some name) ∧
      ∀ P ∈ root :: besides r, ∀ name ∈ fileNames P, ∃ file ∈ files,
        fileName? file.path = some name := by
  have explored := explored_of_resolve ok
  obtain ⟨root, here, paths, -⟩ := exists_paths ok rendered
  have inside : ∀ P ∈ root :: besides r, P ∈ r.packages := by
    refine List.forall_mem_cons.mpr ⟨List.mem_of_getElem? here, fun P beside => ?_⟩
    exact (mem_besides beside).1
  have named {P : Scanned} (generated : P ∈ root :: besides r) :
      ∀ name ∈ P.controllers.keys, Text.IsIdentifier name := fun name listed =>
    (identifier_of_explored explored (inside P generated) listed).1
  refine ⟨root, here, inside, fun file member => ?_, fun P generated name listed => ?_⟩
  · have path : file.path ∈ files.map (·.path) := List.mem_map_of_mem member
    rw [paths, List.mem_append, List.mem_flatMap] at path
    rcases path with own | ⟨P, beside, other⟩
    · obtain ⟨name, listed, same⟩ := List.mem_map.mp own
      refine ⟨root, List.mem_cons_self, name, listed, ?_⟩
      rw [← same, fileName?_of_mem_fileNames (named List.mem_cons_self) listed]
    · obtain ⟨name, listed, same⟩ := List.mem_map.mp other
      refine ⟨P, List.mem_cons_of_mem _ beside, name, listed, ?_⟩
      rw [← same, fileName?_of_mem_fileNames (named (List.mem_cons_of_mem _ beside)) listed]
  · have path : ∃ output, Disk.join output name ∈ files.map (·.path) := by
      rcases List.mem_cons.mp generated with rfl | beside
      · exact ⟨o.output, paths ▸ List.mem_append_left _ (List.mem_map_of_mem listed)⟩
      · refine ⟨Disk.join o.output P.importPath, paths ▸ List.mem_append_right _ ?_⟩
        exact List.mem_flatMap.mpr ⟨P, beside, List.mem_map_of_mem listed⟩
    obtain ⟨output, path⟩ := path
    obtain ⟨file, member, same⟩ := List.mem_map.mp path
    exact ⟨file, member, by rw [same, fileName?_of_mem_fileNames (named generated) listed]⟩

/-- The files of a run are Go files and none of them is passed over for how it begins. They are
sources of their packages but for the dispatchers of controllers that are named like tests. -/
theorem renderHandlers_sources (ok : resolve setting dir active = .ok r) {disk : Disk} {l : Locator}
    {o : Options} {library : Library} {files : List OutputFile}
    (rendered : renderHandlers disk l r o library = .ok files) :
    ∃ root, r.packages[r.root]? = some root ∧
      (∀ file ∈ files, ∃ name, fileName? file.path = some name ∧ IsGoFile name ∧
        (Disk.isSourceName name = true ↔ ¬IsTestFile name) ∧
        (IsTestFile name ↔ ∃ P ∈ root :: besides r, ∃ controller ∈ P.controllers.keys,
          name = Plan.controllerFile controller ∧ Text.EndsInTest controller.toList)) ∧
      ((∀ file ∈ files, ∀ name, fileName? file.path = some name → ¬IsTestFile name) ↔
        ∀ P ∈ root :: besides r, ∀ controller ∈ P.controllers.keys,
          ¬Text.EndsInTest controller.toList) := by
  have explored := explored_of_resolve ok
  obtain ⟨root, here, inside, each, made⟩ := exists_fileNames ok rendered
  refine ⟨root, here, fun file member => ?_, ?_, ?_⟩
  · obtain ⟨P, generated, name, listed, ends⟩ := each file member
    have go := isGoFile_of_mem_fileNames explored (inside P generated) listed
    refine ⟨name, ends, go, go.isSourceName_iff, fun test => ?_, ?_⟩
    · exact ⟨P, generated, (isTestFile_iff_of_mem_fileNames listed).mp test⟩
    · rintro ⟨-, -, controller, -, rfl, test⟩
      exact isTestFile_controllerFile_iff.mpr test
  · intro untested P generated controller listed test
    have own : Plan.controllerFile controller ∈ fileNames P :=
      List.mem_append_left _ (List.mem_map_of_mem listed)
    obtain ⟨file, member, ends⟩ := made P generated _ own
    exact untested file member _ ends (isTestFile_controllerFile_iff.mpr test)
  · intro plain file member name ends test
    obtain ⟨P, generated, other, listed, same⟩ := each file member
    obtain rfl := Option.some.inj (same.symm.trans ends)
    obtain ⟨controller, known, -, named⟩ := (isTestFile_iff_of_mem_fileNames listed).mp test
    exact plain P generated controller known named

end Files

theorem renderHandlers_sources_family :
    ∃ library r files root, Library.load family.disk none = .ok library ∧
      resolve family "/a" [] = .ok r ∧
      renderHandlers family.disk family.locator r placedOptions library = .ok files ∧
      r.packages[r.root]? = some root ∧
      ((∀ file ∈ files, ∀ name, fileName? file.path = some name → ¬IsTestFile name) ↔
        ∀ P ∈ root :: besides r, ∀ controller ∈ P.controllers.keys,
          ¬Text.EndsInTest controller.toList) := by
  obtain ⟨library, r, files, loaded, ok, rendered⟩ := exists_renderHandlers_related relates_family []
  obtain ⟨root, here, -, plain⟩ := renderHandlers_sources ok rendered
  exact ⟨library, r, files, root, loaded, ok, rendered, here, plain⟩

def probedPackage : Package :=
  let action : Func := ⟨"X", "/a/a.go", [], [], [⟨"", "", .named (some "h") "H"⟩],
    some ⟨"", "", .named none "ATest"⟩⟩
  ⟨"a", [], .ofList [("ATest", [action])], [⟨"ATest", "/a/a.go", [], []⟩],
    .ofList [("/a/a.go", .ofList [("h", "h")]), ("/a/b.go", .empty)]⟩

abbrev probed : Setting :=
  twoFiles "package a\nimport\"h\"\ntype ATest struct\x7b\x7d\nfunc(ATest)X()h.H".toUTF8
    "package a".toUTF8

theorem package_probed : probed.disk.package "/a" = .ok probedPackage :=
  package_twoFiles (by decide +kernel)

theorem importsMarkers_probed : ImportsMarkers probedPackage :=
  importsMarkers_of_entries rfl (by decide)

section Probed

variable {active : List Route.Prefix} {r : Resolution} {place : Nat} {P : Scanned}
  {decl : ControllerDecl}

theorem unobtrusive_probed (explored : Explored probed "/a" active r)
    (here : r.packages[place]? = some P) (member : decl ∈ P.controllers.values) :
    Unobtrusive P decl := by
  obtain ⟨-, -, package⟩ := eq_root_twoFiles package_probed importsMarkers_probed explored here
  refine unobtrusive_of_struct explored here member (by rw [package]; rfl) (by decide) ?_ ?_
  · rw [package]
    intro action own
    cases List.mem_singleton.mp (List.mem_of_mem_filter own)
    decide
  · intro target listed
    cases listed

end Probed

theorem renderHandlers_probed_test :
    ∃ library r files, Library.load probed.disk none = .ok library ∧
      resolve probed "/a" [] = .ok r ∧
      renderHandlers probed.disk probed.locator r placedOptions library = .ok files ∧
      ∃ file ∈ files, ∃ name, fileName? file.path = some name ∧ IsTestFile name ∧
        Disk.isSourceName name = false := by
  obtain ⟨library, loaded⟩ := exists_library probed.disk
  obtain ⟨r, ok⟩ := exists_resolve_twoFiles package_probed importsMarkers_probed
  have explored := explored_of_resolve ok
  have made : ∃ files, renderHandlers probed.disk probed.locator r placedOptions library = .ok files :=
    exists_renderHandlers_of_unobtrusive ok (fun place P here decl => unobtrusive_probed explored here)
      loaded (importFor?_twoFiles ..) rfl
  obtain ⟨files, rendered⟩ := made
  obtain ⟨root, here, inside, -, made⟩ := exists_fileNames ok rendered
  have package := (eq_root_twoFiles package_probed importsMarkers_probed explored here).2.2
  have controller : isController root.package probed.markers "ATest" = true := by
    rw [package]
    decide +kernel
  obtain ⟨decl, found⟩ := explored.arena.exists_get? here controller
  have listed : Plan.controllerFile "ATest" ∈ fileNames root :=
    List.mem_append_left _ (List.mem_map_of_mem (Dictionary.mem_keys_iff.mpr ⟨decl, found⟩))
  obtain ⟨file, member, name⟩ := made root List.mem_cons_self _ listed
  have test : IsTestFile (Plan.controllerFile "ATest") :=
    isTestFile_controllerFile_iff.mpr (.capital [] (p := 'A') (by decide))
  have go := isGoFile_of_mem_fileNames explored (inside root List.mem_cons_self) listed
  refine ⟨library, r, files, loaded, ok, rendered, file, member, _, name, test, ?_⟩
  exact Bool.eq_false_iff.mpr (mt go.isSourceName_iff.mp (not_not_intro test))

end Dispatchers.Handlers
