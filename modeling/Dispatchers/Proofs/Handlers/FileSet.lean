import Dispatchers.Proofs.Disk.Joining
import Dispatchers.Proofs.Handlers.Routes
import Dispatchers.Proofs.Text.SnakeCase

namespace Dispatchers.Handlers

open Controller Go Resolve Template

def fileNames (P : Scanned) : List String :=
  P.controllers.keys.map Plan.controllerFile ++ [Plan.packageFile]

def filesIn (dir : String) (P : Scanned) : List String :=
  (fileNames P).map (Disk.join dir)

section Packages

variable {p : Plan} {place : Nat} {P : Scanned} {d : Destination} {earlier : List String}
  {decl : ControllerDecl} {sheet : Sheet}

theorem map_eq_of_forall₂ {α β γ : Type} {f : α → γ} {g : β → γ} {as : List α} {bs : List β}
    (each : List.Forall₂ (fun a b => f a = g b) as bs) : as.map f = bs.map g := by
  induction each with
  | nil => rfl
  | cons first _ ih => rw [List.map_cons, List.map_cons, first, ih]

variable {setting : Setting} {dir : String} {active : List Route.Prefix} {e : Emitted}

theorem Emits.files (explored : Explored setting dir active p.resolution)
    (emits : Emits p place e) :
    e.sheets.map (·.path) = filesIn (p.destination place e.scanned).dir e.scanned ∧
      (fileNames e.scanned).Nodup := by
  obtain ⟨dispatchers, others, same, controllers, package⟩ := List.append_eq_map_iff.mp emits.made
  obtain ⟨shared, rfl, last⟩ := List.map_eq_singleton_iff.mp package
  obtain ⟨_, -, path, -, -⟩ := packageSheet_ok last.symm
  have each : List.Forall₂ (fun decl sheet =>
      Disk.join (p.destination place e.scanned).dir (Plan.controllerFile decl.name) = sheet.path)
      e.scanned.controllers.values dispatchers := by
    refine forall₂_controllerSheets controllers.symm fun decl _ earlier sheet ok => ?_
    obtain ⟨_, _, -, -, path, -⟩ := controllerSheet_ok ok
    exact path.symm
  have names := controllerFiles_eq explored emits.here
  have distinct := nodup_of_controllerSheets controllers.symm (List.nodup_singleton _)
  rw [names] at distinct
  constructor
  · rw [same, List.map_append, List.map_singleton, path, ← map_eq_of_forall₂ each, filesIn,
      fileNames, List.map_append, ← names, List.map_map]
    rfl
  · exact ((List.reverse_perm _).append_right _).nodup_iff.mp distinct

end Packages

section Steps

theorem nodup_below {α : Type} {dirs : List (List α × List α)} {shared : α}
    (each : ∀ dir ∈ dirs, dir.2.Nodup ∧ shared ∈ dir.2) :
    (dirs.flatMap fun dir => dir.2.map fun name => dir.1 ++ [name]).Nodup ↔
      (dirs.map Prod.fst).Nodup := by
  have apart {first second : List α × List α} (one : first ∈ dirs) (two : second ∈ dirs) :
      (first.2.map fun name => first.1 ++ [name]).Disjoint
        (second.2.map fun name => second.1 ++ [name]) ↔ first.1 ≠ second.1 := by
    constructor
    · intro disjoint same
      refine disjoint (List.mem_map_of_mem (each first one).2) ?_
      rw [same]
      exact List.mem_map_of_mem (each second two).2
    · intro other path here there
      obtain ⟨name, -, rfl⟩ := List.mem_map.mp here
      obtain ⟨_, -, same⟩ := List.mem_map.mp there
      exact other (List.append_inj_left' same rfl).symm
  rw [List.nodup_flatMap, List.Nodup, List.pairwise_map]
  constructor
  · rintro ⟨-, disjoint⟩
    exact disjoint.imp_of_mem fun one two => (apart one two).mp
  · intro distinct
    refine ⟨fun dir member => ?_, distinct.imp_of_mem fun one two => (apart one two).mpr⟩
    exact (each dir member).1.map fun _ _ same => (List.append_inj_right' same rfl)
      |> List.singleton_inj.mp

end Steps

section Runs

variable {setting : Setting} {dir : String} {active : List Route.Prefix} {r : Resolution}

structure Regular (r : Resolution) : Prop where
  clean : ∀ P ∈ r.packages, Path.IsCleanRelative P.importPath
  named : ∀ P ∈ r.packages, ∀ name ∈ P.controllers.keys, Text.IsIdentifier name

theorem isPlain_of_mem_fileNames {P : Scanned}
    (named : ∀ name ∈ P.controllers.keys, Text.IsIdentifier name) {file : String}
    (member : file ∈ fileNames P) : Disk.isPlain file.toList = true ∧ '/' ∉ file.toList := by
  rcases List.mem_append.mp member with controller | shared
  · obtain ⟨name, listed, rfl⟩ := List.mem_map.mp controller
    have free := (named name listed).not_mem_slash_snakeCase
    have spelled : (Plan.controllerFile name).toList = (Text.snakeCase name).toList ++ ['.', 'g', 'o'] :=
      String.toList_append
    rw [spelled]
    constructor
    · have long : (Text.snakeCase name).toList ++ ['.', 'g', 'o'] ≠ ['.'] := by
        intro same
        have length := congrArg List.length same
        rw [List.length_append, List.length_cons] at length
        simp at length
      simp [Disk.isPlain, long]
    · simpa using free
  · rw [List.mem_singleton.mp shared]
    decide

theorem nodup_components {packages : List (String × Scanned)}
    (named : ∀ entry ∈ packages, ∀ name ∈ entry.2.controllers.keys, Text.IsIdentifier name)
    (distinct : ∀ entry ∈ packages, (fileNames entry.2).Nodup) :
    ((packages.flatMap fun entry => filesIn entry.1 entry.2).map Disk.components).Nodup ↔
      (packages.map fun entry => Disk.components entry.1).Nodup := by
  let dirs := packages.map fun entry => (Disk.components entry.1, fileNames entry.2)
  have shared : ∀ dir ∈ dirs, dir.2.Nodup ∧ Plan.packageFile ∈ dir.2 := by
    intro dir member
    obtain ⟨entry, listed, rfl⟩ := List.mem_map.mp member
    exact ⟨distinct entry listed, List.mem_concat_self⟩
  have steps : (packages.flatMap fun entry => filesIn entry.1 entry.2).map Disk.components =
      dirs.flatMap fun dir => dir.2.map fun name => dir.1 ++ [name] := by
    rw [List.map_flatMap, List.flatMap_map]
    refine List.flatMap_congr fun entry listed => ?_
    rw [filesIn, List.map_map]
    refine List.map_congr_left fun file member => ?_
    obtain ⟨plain, free⟩ := isPlain_of_mem_fileNames (named entry listed) member
    exact Disk.components_join_file plain free
  rw [steps, nodup_below shared, List.map_map]
  rfl

theorem nodup_snakeCase {P : Scanned} (distinct : (fileNames P).Nodup) :
    (P.controllers.keys.map Text.snakeCase).Nodup ∧
      "init" ∉ P.controllers.keys.map Text.snakeCase := by
  have files : P.controllers.keys.map Plan.controllerFile =
      (P.controllers.keys.map Text.snakeCase).map (· ++ ".go") := by
    rw [List.map_map]
    rfl
  rw [fileNames, files, List.nodup_append] at distinct
  refine ⟨distinct.1.of_map, fun member => ?_⟩
  exact distinct.2.2 _ (List.mem_map_of_mem member) _ (List.mem_singleton_self _) rfl

section Directories

variable {output : String} {root : Scanned} {others : List Scanned}

/-- The root and the packages below it are generated in different directories unless one of them is
the dot. -/
theorem nodup_directories (clean : ∀ P ∈ others, Path.IsCleanRelative P.importPath)
    (distinct : (others.map (·.importPath)).Nodup) :
    (Disk.components output ::
        others.map fun P => Disk.components (Disk.join output P.importPath)).Nodup ↔
      output = "" ∨ ∀ P ∈ others, P.importPath ≠ "." := by
  have apart : (others.map fun P => Disk.components (Disk.join output P.importPath)).Nodup := by
    rw [List.Nodup, List.pairwise_map] at distinct ⊢
    refine distinct.imp_of_mem fun one two other same => other ?_
    exact (clean _ one).eq_of_components_join (clean _ two) same
  have own {P : Scanned} (member : P ∈ others) :
      Disk.components (Disk.join output P.importPath) = Disk.components output ↔
        output ≠ "" ∧ P.importPath = "." :=
    (clean P member).components_join_self_iff
  rw [List.nodup_cons, and_iff_left apart, List.mem_map]
  constructor
  · intro free
    by_cases here : output = ""
    · exact .inl here
    · exact .inr fun P member dot => free ⟨P, member, (own member).mpr ⟨here, dot⟩⟩
  · rintro away ⟨P, member, same⟩
    obtain ⟨here, dot⟩ := (own member).mp same
    rcases away with empty | dotless
    · exact here empty
    · exact dotless P member dot

end Directories

theorem mem_besides {P : Scanned} (member : P ∈ besides r) :
    P ∈ r.packages ∧ ∃ place ∈ Plan.places r, r.packages[place]? = some P := by
  obtain ⟨listed, full⟩ := List.mem_filter.mp member
  rw [decide_eq_true_iff] at full
  obtain ⟨place, apart, here⟩ := List.mem_eraseIdx_iff_getElem?.mp listed
  exact ⟨List.mem_of_getElem? here, place, mem_places_iff.mpr (.inr ⟨P, here, apart, full⟩), here⟩

theorem exists_paths (ok : resolve setting dir active = .ok r) {disk : Disk} {l : Locator}
    {o : Options} {library : Library} {files : List OutputFile}
    (rendered : renderHandlers disk l r o library = .ok files) :
    ∃ root, r.packages[r.root]? = some root ∧
      files.map (·.path) = filesIn o.output root ++
        (besides r).flatMap (fun P => filesIn (Disk.join o.output P.importPath) P) ∧
      ∀ P ∈ root :: besides r, (fileNames P).Nodup := by
  have explored := explored_of_resolve ok
  have arena := explored.arena
  obtain ⟨p, planned, rendered⟩ := bind_eq_ok_iff.mp rendered
  obtain ⟨made, all, each⟩ := renderSheets_ok rendered
  obtain ⟨rfl, rfl, -⟩ := plan_ok planned
  obtain ⟨emitted, emits, rfl⟩ := exists_emitted (fun _ => exists_of_mem_places arena) all
  obtain ⟨earlier, last, packages, -⟩ := explored.served
  have root : p.resolution.root = earlier.length := by
    have length := explored.rootLast
    rw [packages, List.length_append, List.length_singleton] at length
    omega
  have here : p.resolution.packages[p.resolution.root]? = some last := by
    rw [packages, root, List.getElem?_concat_length]
  refine ⟨last, here, ?_, ?_⟩
  · rw [← map_eq_of_forall₂ (each.imp fun _ _ made => (render_path made).symm), List.map_flatMap,
      ← flatMap_generated packages root]
    refine (flatMap_eq_of_forall₂ (emits.imp fun place e emits => ?_)).symm
    rw [emits.here, Option.elim_some, (emits.files explored).1, Plan.destination]
    split <;> rfl
  · intro P member
    have generated : ∃ place ∈ Plan.places p.resolution, p.resolution.packages[place]? = some P := by
      rcases List.mem_cons.mp member with rfl | beside
      · exact ⟨_, List.mem_cons_self, here⟩
      · exact (mem_besides beside).2
    obtain ⟨place, listed, there⟩ := generated
    obtain ⟨e, -, emitted⟩ := exists_related emits listed
    have same : e.scanned = P := Option.some.inj (emitted.here.symm.trans there)
    exact same ▸ (emitted.files explored).2

theorem nodup_files_iff (arena : Arena setting dir r) (regular : Regular r) {root : Scanned}
    (here : r.packages[r.root]? = some root)
    (fresh : ∀ P ∈ root :: besides r, (fileNames P).Nodup) (output : String) :
    ((filesIn output root ++ (besides r).flatMap fun P =>
        filesIn (Disk.join output P.importPath) P).map Disk.components).Nodup ↔
      output = "" ∨ ∀ P ∈ besides r, P.importPath ≠ "." := by
  have inside : ∀ P ∈ root :: besides r, P ∈ r.packages := by
    intro P member
    rcases List.mem_cons.mp member with rfl | beside
    · exact List.mem_of_getElem? here
    · exact (mem_besides beside).1
  have keys : ((besides r).map (·.importPath)).Nodup := by
    have part : (besides r).Sublist r.packages :=
      List.filter_sublist.trans (List.eraseIdx_sublist ..)
    exact arena.distinct.sublist (part.map _)
  let generated := (output, root) :: (besides r).map fun P => (Disk.join output P.importPath, P)
  have among : ∀ entry ∈ generated, entry.2 ∈ root :: besides r := by
    intro entry member
    rcases List.mem_cons.mp member with rfl | beside
    · exact List.mem_cons_self
    · obtain ⟨P, listed, rfl⟩ := List.mem_map.mp beside
      exact List.mem_cons_of_mem _ listed
  have steps : filesIn output root ++ (besides r).flatMap (fun P =>
        filesIn (Disk.join output P.importPath) P) =
      generated.flatMap fun entry => filesIn entry.1 entry.2 := by
    rw [List.flatMap_cons, List.flatMap_map]
  rw [steps, nodup_components (fun entry member => regular.named _ (inside _ (among entry member)))
    fun entry member => fresh _ (among entry member), List.map_cons, List.map_map]
  refine nodup_directories (fun P member => regular.clean P ?_) keys
  exact (mem_besides member).1

/-- A run that is rendered gives each generated package one file for each controller and one that
they share. Its files are at different places unless a package of the path `.` is generated into
the directory of the root. -/
theorem renderHandlers_files (ok : resolve setting dir active = .ok r) (regular : Regular r)
    {disk : Disk} {l : Locator} {o : Options} {library : Library} {files : List OutputFile}
    (rendered : renderHandlers disk l r o library = .ok files) :
    ∃ root, r.packages[r.root]? = some root ∧
      files.map (·.path) = filesIn o.output root ++
        (besides r).flatMap (fun P => filesIn (Disk.join o.output P.importPath) P) ∧
      (∀ P ∈ root :: besides r, (P.controllers.keys.map Text.snakeCase).Nodup ∧
        "init" ∉ P.controllers.keys.map Text.snakeCase) ∧
      ((files.map fun file => Disk.components file.path).Nodup ↔
        o.output = "" ∨ ∀ P ∈ besides r, P.importPath ≠ ".") := by
  obtain ⟨root, here, paths, fresh⟩ := exists_paths ok rendered
  refine ⟨root, here, paths, fun P member => nodup_snakeCase (fresh P member), ?_⟩
  have distinct := nodup_files_iff (explored_of_resolve ok).arena regular here fresh o.output
  rwa [← paths, List.map_map] at distinct

theorem regular_of_struct (explored : Explored setting dir active r)
    (each : ∀ P ∈ r.packages, Path.IsCleanRelative P.importPath ∧
      ∃ s, P.package.structs = [s] ∧ Text.IsIdentifier s.name) : Regular r := by
  constructor
  case clean => exact fun P member => (each P member).1
  case named =>
    intro P member name listed
    obtain ⟨-, s, only, identifier⟩ := each P member
    obtain ⟨place, here⟩ := List.getElem?_of_mem member
    rw [← names_eq_keys explored here] at listed
    obtain ⟨decl, inside, rfl⟩ := List.mem_map.mp listed
    rwa [(controller_of_struct explored here inside only).2.1]

end Runs

theorem isIdentifier_A : Text.IsIdentifier "A" :=
  ⟨'A', [], rfl, by decide, nofun⟩

theorem isIdentifier_B : Text.IsIdentifier "B" :=
  ⟨'B', [], rfl, by decide, nofun⟩

theorem regular_related {path : String} (relates : Relates path) (clean : Path.IsCleanRelative path)
    (explored : Explored (related path) "/a" active r) : Regular r := by
  refine regular_of_struct explored fun P member => ?_
  rcases relates.package explored.arena member with ⟨key, package⟩ | ⟨key, package⟩ <;>
    rw [key, package]
  · exact ⟨⟨by decide, by decide⟩, _, rfl, isIdentifier_A⟩
  · exact ⟨clean, _, rfl, isIdentifier_B⟩

theorem renderHandlers_files_family :
    ∃ library r files, Library.load family.disk none = .ok library ∧
      resolve family "/a" [] = .ok r ∧ Regular r ∧
      renderHandlers family.disk family.locator r placedOptions library = .ok files ∧
      (files.map fun file => Disk.components file.path).Nodup := by
  obtain ⟨library, r, files, loaded, ok, rendered⟩ := exists_renderHandlers_related relates_family []
  have explored := explored_of_resolve ok
  have regular := regular_related relates_family ⟨by decide, by decide⟩ explored
  obtain ⟨root, -, -, -, distinct⟩ := renderHandlers_files ok regular rendered
  refine ⟨library, r, files, loaded, ok, regular, rendered,
    distinct.mpr (.inr fun P member dot => ?_)⟩
  rcases relates_family.package explored.arena (mem_besides member).1 with ⟨key, -⟩ | ⟨key, -⟩ <;>
    exact absurd (key.symm.trans dot) (by decide)

section Dotted

/-- The second package is imported by the path that leads nowhere. -/
abbrev dotted : Setting :=
  related "."

theorem relates_dotted : Relates "." where
  apart := by decide
  root := by rfl
  inside := by rfl
  located := by rfl
  nowhere := by rfl
  known := by rfl
  child := Disk.package_of_single (readDirectory_twoPackages_a ..) (by decide) (by decide +kernel)
  controller := by decide +kernel

theorem exists_besides_dotted {r : Resolution} (arena : Arena dotted "/a" r) :
    ∃ P ∈ besides r, P.importPath = "." := by
  obtain ⟨place, P, before, here, dot⟩ := relates_dotted.exists_parent arena
  refine ⟨P, List.mem_filter.mpr ⟨?_, ?_⟩, dot⟩
  · exact List.mem_eraseIdx_iff_getElem?.mpr ⟨place, Nat.ne_of_lt before, here⟩
  · have member := List.mem_of_getElem? here
    have package : P.package = parentPackage := by
      rcases relates_dotted.package arena member with ⟨other, -⟩ | ⟨-, package⟩
      · exact absurd (other.symm.trans dot) (by decide)
      · exact package
    have controller : P.controllers.contains "B" = true := by
      rw [(arena.scanned P member).2, package]
      decide +kernel
    have listed := Dictionary.contains_iff.mp controller
    exact decide_eq_true (List.ne_nil_of_mem listed)

theorem renderHandlers_dotted_overlap :
    ∃ library r files, Library.load dotted.disk none = .ok library ∧
      resolve dotted "/a" [] = .ok r ∧ Regular r ∧
      renderHandlers dotted.disk dotted.locator r placedOptions library = .ok files ∧
      ¬(files.map fun file => Disk.components file.path).Nodup := by
  obtain ⟨library, r, files, loaded, ok, rendered⟩ := exists_renderHandlers_related relates_dotted []
  have explored := explored_of_resolve ok
  have regular := regular_related relates_dotted ⟨by decide, by decide⟩ explored
  refine ⟨library, r, files, loaded, ok, regular, rendered, fun distinct => ?_⟩
  obtain ⟨root, here, paths, fresh⟩ := exists_paths ok rendered
  have apart := nodup_files_iff explored.arena regular here fresh placedOptions.output
  rw [← paths, List.map_map] at apart
  rcases apart.mp distinct with empty | away
  · exact absurd empty (by decide)
  · obtain ⟨P, member, dot⟩ := exists_besides_dotted explored.arena
    exact away P member dot

end Dotted

end Dispatchers.Handlers
