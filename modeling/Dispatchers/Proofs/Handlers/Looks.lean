import Dispatchers.Handlers.Render
import Dispatchers.Proofs.Disk.Tree
import Dispatchers.Proofs.Except
import Dispatchers.Proofs.Resolve.Arena

namespace Dispatchers.Handlers

open Controller Disk Resolve Template

def moduleFile (names : List String) : String :=
  join (absolutePath names) "go.mod"

/-- A module file is asked for if no directory between its own and the start has one. -/
structure AsksModule (disk : Disk) (start names : List String) : Prop where
  above : names <+: start
  first : ∀ between, names <+: between → between <+: start → between ≠ names →
    disk.isFile (moduleFile between) = false

/-- A candidate for the directory of an import path is tried if none before it is a directory. -/
def Tried (disk : Disk) (l : Locator) (importPath candidate : String) : Prop :=
  ∃ before rest, l.candidates importPath = before ++ candidate :: rest ∧
    ∀ other ∈ before, disk.isDirectory other = false

/-- The places that a run asks the disk about when it scans and loads its templates. Of a package
directory it reads every source file, so also those that appear there. -/
inductive Looks (disk : Disk) (environment : Environment) (o : Options) : List String → Prop
  | module {names place : List String}
      (asked : AsksModule disk (absoluteNames disk.cwd o.input) names)
      (looked : place ∈ disk.looked (moduleFile names)) : Looks disk environment o place
  | directory {l : Locator} {r : Resolution} {P : Scanned} {c : Crossing} {candidate : String}
      {place : List String} (scanned : scan disk environment o = .ok (l, r))
      (member : P ∈ r.packages) (crosses : c ∈ P.crossings) (tried : Tried disk l c.importPath candidate)
      (looked : place ∈ disk.looked candidate) : Looks disk environment o place
  | package {l : Locator} {r : Resolution} {P : Scanned} {place : List String}
      (scanned : scan disk environment o = .ok (l, r)) (member : P ∈ r.packages)
      (looked : place ∈ disk.looked P.dir) : Looks disk environment o place
  | source {l : Locator} {r : Resolution} {P : Scanned} {names : List String} {name : String}
      (scanned : scan disk environment o = .ok (l, r)) (member : P ∈ r.packages)
      (found : disk.find P.dir = .ok (names, .directory)) (counts : isSourceName name = true) :
      Looks disk environment o (names ++ [name])
  | template {dir name : String} {place : List String} (given : o.templates = some dir)
      (member : name ∈ [Library.handlerName, Library.packageName, Library.listingName])
      (looked : place ∈ disk.looked (join dir name)) : Looks disk environment o place

theorem isFile_of_inDirectory {disk : Disk} {names : List String}
    (bare : GoModule.inDirectory disk names = .ok none) :
    disk.isFile (moduleFile names) = false := by
  unfold GoModule.inDirectory at bare
  simp only at bare
  split at bare
  · split at bare
    · cases bare
    · split at bare <;> cases bare
  · rename_i absent
    exact Bool.eq_false_iff.mpr absent

theorem find?_of_tried {α : Type} {p q : α → Bool} {items : List α}
    (same : ∀ before item rest, items = before ++ item :: rest →
      (∀ other ∈ before, p other = false) → q item = p item) : items.find? q = items.find? p := by
  induction items with
  | nil => rfl
  | cons item items ih =>
    have first := same [] item items rfl nofun
    cases found : p item with
    | true => rw [List.find?_cons_of_pos (first.trans found), List.find?_cons_of_pos found]
    | false =>
      rw [List.find?_cons_of_neg (by simp [first, found]), List.find?_cons_of_neg (by simp [found])]
      refine ih fun before other rest split none => ?_
      refine same (item :: before) other rest (by rw [split]; rfl) fun earlier member => ?_
      rcases List.mem_cons.mp member with rfl | member
      · exact found
      · exact none earlier member

section Modules

-- the recursion is over the names alone
attribute [local irreducible] GoModule.inDirectory

theorem above_nil (disk : Disk) : GoModule.above disk [] = GoModule.inDirectory disk [] :=
  rfl

theorem above_cons (disk : Disk) (name : String) (rest : List String) :
    GoModule.above disk (name :: rest) =
      match GoModule.inDirectory disk (name :: rest).reverse with
      | .ok none => GoModule.above disk rest
      | found => found :=
  rfl

end Modules

section Frame

variable {disk other : Disk} {environment : Environment} {o : Options} {l : Locator}
  {r : Resolution} {start names : List String} (tree : disk.IsTree) (grown : other.IsTree)
  (cwd : other.cwd = disk.cwd)

include tree grown cwd

theorem inDirectory_of_sameAt (same : SameAt disk other (moduleFile names)) :
    GoModule.inDirectory other names = GoModule.inDirectory disk names := by
  have file : other.isFile (moduleFile names) = disk.isFile (moduleFile names) :=
    isFile_of_sameAt tree grown cwd same
  unfold GoModule.inDirectory
  simp only
  change (if other.isFile (moduleFile names) = true then _ else _) =
    if disk.isFile (moduleFile names) = true then _ else _
  rw [file]
  split
  · rename_i there
    have text : other.readText (join (absolutePath names) "go.mod") =
        disk.readText (join (absolutePath names) "go.mod") :=
      readText_of_sameAt grown cwd same there
    rw [text]
  · rfl

theorem above_of_same
    (same : ∀ names, AsksModule disk start names → SameAt disk other (moduleFile names)) :
    ∀ reversed : List String, AsksModule disk start reversed.reverse →
      GoModule.above other reversed = GoModule.above disk reversed := by
  intro reversed
  induction reversed with
  | nil =>
    intro asked
    rw [above_nil, above_nil]
    exact inDirectory_of_sameAt tree grown cwd (same [] asked)
  | cons name rest ih =>
    intro asked
    have here : GoModule.inDirectory other (name :: rest).reverse =
        GoModule.inDirectory disk (name :: rest).reverse :=
      inDirectory_of_sameAt tree grown cwd (same _ asked)
    rw [above_cons, above_cons, here]
    cases inside : GoModule.inDirectory disk (name :: rest).reverse with
    | error cause => rfl
    | ok found =>
      cases found with
      | some m => rfl
      | none =>
        have below : rest.reverse <+: (name :: rest).reverse := by
          rw [List.reverse_cons]
          exact List.prefix_append _ _
        refine ih ⟨below.trans asked.above, fun between leads inner apart => ?_⟩
        by_cases same : between = (name :: rest).reverse
        · rw [same]
          exact isFile_of_inDirectory inside
        · refine asked.first between ?_ inner same
          -- both are below the start, and `between` is the longer one
          refine List.prefix_of_prefix_length_le asked.above inner ?_
          have longer : rest.reverse.length < between.length := by
            refine lt_of_le_of_ne leads.length_le fun equal => apart ?_
            exact (leads.eq_of_length equal).symm
          rw [List.length_reverse] at longer ⊢
          exact longer

omit tree grown in
theorem absolute_eq (path : String) : Locator.absolute other path = Locator.absolute disk path := by
  unfold Locator.absolute Disk.absolute
  rw [cwd]

omit tree grown in
theorem importFor?_eq (dir : String) : l.importFor? other dir = l.importFor? disk dir := by
  unfold Locator.importFor? Disk.absolute
  rw [cwd]

theorem discover_of_same (same : ∀ names, AsksModule disk (absoluteNames disk.cwd o.input) names →
      SameAt disk other (moduleFile names)) :
    Locator.discover other environment o.input o.roots =
      Locator.discover disk environment o.input o.roots := by
  have roots : Locator.absoluteRoot other = Locator.absoluteRoot disk := by
    funext root
    rw [Locator.absoluteRoot, Locator.absoluteRoot, absolute_eq cwd]
  unfold Locator.discover
  rw [absolute_eq cwd, roots]
  cases located : Locator.absolute disk o.input with
  | error cause => rfl
  | ok start =>
    have spelled : start = absoluteNames disk.cwd o.input := by
      unfold Locator.absolute Disk.absolute at located
      split at located
      · rename_i names found
        cases located
        split at found
        · cases found
        · cases found
          rfl
      · cases located
    have enclosing : GoModule.find other start = GoModule.find disk start := by
      refine above_of_same tree grown cwd (spelled ▸ same) start.reverse ⟨?_, ?_⟩
      · exact ⟨[], by rw [List.append_nil, List.reverse_reverse, spelled]⟩
      · rw [List.reverse_reverse]
        exact fun between leads inner apart =>
          absurd (leads.eq_of_length_le inner.length_le).symm apart
    show (GoModule.find other start >>= _) = _
    rw [enclosing]
    rfl

theorem dirFor?_of_same {importPath : String}
    (same : ∀ candidate, Tried disk l importPath candidate → SameAt disk other candidate) :
    l.dirFor? other importPath = l.dirFor? disk importPath := by
  refine find?_of_tried fun before candidate rest split none => ?_
  exact isDirectory_of_sameAt tree grown cwd (same candidate ⟨before, rest, split, none⟩)

theorem load_of_same (same : ∀ dir, o.templates = some dir →
      ∀ name ∈ [Library.handlerName, Library.packageName, Library.listingName],
        SameAt disk other (join dir name)) :
    Library.load other o.templates = Library.load disk o.templates := by
  have source (name standard : String)
      (member : name ∈ [Library.handlerName, Library.packageName, Library.listingName]) :
      Library.loadOne other o.templates name standard =
        Library.loadOne disk o.templates name standard := by
    have text : Library.sourceOf other o.templates name standard =
        Library.sourceOf disk o.templates name standard := by
      unfold Library.sourceOf
      cases given : o.templates with
      | none => rfl
      | some dir =>
        have at_path := same dir given name member
        have file := isFile_of_sameAt tree grown cwd at_path
        rw [Option.map_some]
        cases there : disk.isFile (join dir name) with
        | false =>
          rw [Option.filter_some_neg (by simp [file, there]),
            Option.filter_some_neg (by simp [there])]
        | true =>
          rw [Option.filter_some_pos (file.trans there), Option.filter_some_pos there]
          simp only [readText_of_sameAt grown cwd at_path there]
    rw [Library.loadOne, Library.loadOne, text]
  unfold Library.load
  rw [source _ _ (by simp), source _ _ (by simp), source _ _ (by simp)]

omit tree grown in
theorem renderHandlers_of_cwd (library : Library) :
    renderHandlers other l r o library = renderHandlers disk l r o library := by
  have imports (path : String) : l.importFor? other path = l.importFor? disk path :=
    importFor?_eq cwd path
  unfold renderHandlers Plan.of Plan.outputImportOf
  simp only [imports]

end Frame

theorem find_of_package {disk : Disk} {dir : String} {p : Go.Package}
    (read : disk.package dir = .ok p) : ∃ names, disk.find dir = .ok (names, .directory) := by
  unfold Disk.package Disk.readDirectory at read
  split at read
  · cases read
  · rename_i listed
    obtain ⟨⟨names, node⟩, found, listed⟩ := bind_eq_ok_iff.mp listed
    cases node with
    | directory => exact ⟨names, found⟩
    | file content => cases listed

section Scans

variable {disk other : Disk} {environment : Environment} {o : Options} {l : Locator}
  {r : Resolution}

theorem scan_of_discover (discovered : Locator.discover disk environment o.input o.roots = .ok l) :
    scan disk environment o =
      match resolve ⟨disk, l, o.markers⟩ o.input o.prefixes with
      | .ok resolution => .ok (l, resolution)
      | .error cause => .error (.resolution o.input cause) := by
  unfold scan
  rw [discovered]
  rfl

theorem scan_ok (scanned : scan disk environment o = .ok (l, r)) :
    Locator.discover disk environment o.input o.roots = .ok l ∧
      resolve ⟨disk, l, o.markers⟩ o.input o.prefixes = .ok r := by
  obtain ⟨found, discovered, -⟩ := bind_eq_ok_iff.mp scanned
  rw [scan_of_discover discovered] at scanned
  split at scanned
  · rename_i resolution resolved
    cases scanned
    exact ⟨discovered, resolved⟩
  · cases scanned

theorem exists_crossing_of_asks {setting : Setting} {dir : String} {earlier : List Scanned}
    {P : Scanned} (complete : Complete setting dir earlier P) {importPath : String}
    (asks : Asks setting dir P.importPath importPath) :
    ∃ c ∈ P.crossings, c.importPath = importPath := by
  obtain ⟨p, s, field, known, embeds, bound⟩ := asks.bound
  rw [complete.packageOf?] at known
  cases known
  refine ⟨⟨s, field, importPath⟩, List.mem_flatMap.mpr ⟨s.name, ?_, ?_⟩, rfl⟩
  · rw [← Dictionary.contains_iff, complete.controllers_contains, embeds.controller]
  · rw [crossingsOf, embeds.declared]
    refine List.mem_filterMap.mpr ⟨field, embeds.member, crossing?_eq_some_iff.mpr ?_⟩
    exact ⟨embeds.embedded, embeds.pointer, embeds.named, bound, asks.foreign, rfl, rfl⟩

variable (tree : disk.IsTree) (grown : other.IsTree) (cwd : other.cwd = disk.cwd)
  (same : ∀ place, Looks disk environment o place → other.node? place = disk.node? place)

include tree grown cwd same

theorem alike_of_same (scanned : scan disk environment o = .ok (l, r)) :
    Alike ⟨disk, l, o.markers⟩ ⟨other, l, o.markers⟩ o.input := by
  have explored := explored_of_resolve (scan_ok scanned).2
  have complete {key : String} (reached : Reached ⟨disk, l, o.markers⟩ o.input key) :
      ∃ earlier P, P ∈ r.packages ∧ P.importPath = key ∧
        Complete ⟨disk, l, o.markers⟩ o.input earlier P := by
    obtain ⟨P, member, named⟩ := List.mem_map.mp (explored.mem_keys_iff.mpr reached)
    obtain ⟨i, here⟩ := List.getElem?_of_mem member
    exact ⟨_, P, member, named, explored.arranged.complete here⟩
  constructor
  case markers => rfl
  case key => exact congrArg (·.getD o.input) (importFor?_eq cwd o.input)
  case packages =>
    intro key found reached located
    obtain ⟨earlier, P, member, rfl, complete⟩ := complete reached
    rw [complete.located] at located
    cases located
    obtain ⟨names, directory⟩ := find_of_package complete.package
    refine package_of_sameAt tree grown cwd (fun place looked => ?_) directory fun name counts => ?_
    · exact same place (.package scanned member looked)
    · exact same _ (.source scanned member directory counts)
  case dirs =>
    intro key importPath reached asks
    obtain ⟨earlier, P, member, rfl, complete⟩ := complete reached
    obtain ⟨c, crosses, rfl⟩ := exists_crossing_of_asks complete asks
    refine dirFor?_of_same tree grown cwd fun candidate tried place looked => ?_
    exact same place (.directory scanned member crosses tried looked)

theorem scan_of_same (scanned : scan disk environment o = .ok (l, r)) :
    scan other environment o = .ok (l, r) := by
  obtain ⟨discovered, resolved⟩ := scan_ok scanned
  have again : Locator.discover other environment o.input o.roots = .ok l := by
    rw [← discovered]
    exact discover_of_same tree grown cwd fun names asked place looked =>
      same place (.module asked looked)
  have alike := alike_of_same tree grown cwd same scanned
  rw [scan_of_discover again, resolve_alike alike, resolved]

/-- A run that scans well prepares the same on every disk that is the same where it looks. -/
theorem prepare_of_same (scanned : scan disk environment o = .ok (l, r)) :
    prepare other environment o = prepare disk environment o := by
  have templates : Library.load other o.templates = Library.load disk o.templates :=
    load_of_same tree grown cwd fun dir given name member place looked =>
      same place (.template given member looked)
  unfold prepare
  rw [scan_of_same tree grown cwd same scanned, scanned, templates]
  show (Library.load disk o.templates >>= fun library => renderHandlers other l r o library >>= _) =
    Library.load disk o.templates >>= fun library => renderHandlers disk l r o library >>= _
  simp only [renderHandlers_of_cwd cwd]

end Scans

end Dispatchers.Handlers
