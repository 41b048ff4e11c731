import Dispatchers.Locator
import Dispatchers.Proofs.Disk.Joining
import Dispatchers.Proofs.Disk.Tree

namespace Dispatchers

open Disk

inductive Location where
  | module (m : GoModule)
  | vendored (m : GoModule)
  | below (root : ImportRoot)
  | workspace (entry : String)
deriving DecidableEq

namespace Location

def base : Location → String
  | module m => m.dir
  | vendored m => join m.dir "vendor"
  | below root => root.dir
  | workspace entry => join entry "src"

/-- What the import paths of a place start with; elsewhere they are the way from the base. -/
def start? : Location → Option String
  | module m => some m.path
  | below root => some root.importPath
  | vendored _ | workspace _ => none

def dir? (location : Location) (path : String) : Option String :=
  match location.start? with
  | some start => (Locator.below? start path).map (join location.base)
  | none => some (join location.base path)

def import? (location : Location) (names : List String) : Option String :=
  let way := Locator.relative? location.base names
  match location.start? with
  | some start => way.map (Locator.extend start)
  | none => way.filter (!·.isEmpty)

end Location

namespace Locator

def searchOrder (l : Locator) : List Location :=
  l.module.toList.flatMap (fun m => [.module m, .vendored m]) ++ l.roots.map .below ++
    l.workspaces.map .workspace

def namingOrder (l : Locator) : List Location :=
  l.module.toList.flatMap (fun m => [.vendored m, .module m]) ++ l.roots.map .below ++
    l.workspaces.map .workspace

def before (l : Locator) (location : Location) : List Location :=
  l.searchOrder.takeWhile (· ≠ location)

def source? (l : Locator) (disk : Disk) (dir : String) : Option (Location × String) :=
  match disk.absolute dir with
  | .ok names => l.namingOrder.findSome? fun location => (location.import? names).map (location, ·)
  | .error _ => none

structure IsClean (l : Locator) : Prop where
  module : ∀ m ∈ l.module, Path.IsCleanAbsolute m.dir
  roots : ∀ root ∈ l.roots, Path.IsCleanAbsolute root.dir
  workspaces : ∀ entry ∈ l.workspaces, Path.IsCleanAbsolute entry

theorem candidates_eq (l : Locator) (path : String) :
    l.candidates path = l.searchOrder.filterMap (·.dir? path) := by
  have roots : (l.roots.map Location.below).filterMap (·.dir? path) =
      l.roots.filterMap fun root => (below? root.importPath path).map (join root.dir) :=
    List.filterMap_map
  have workspaces : (l.workspaces.map Location.workspace).filterMap (·.dir? path) =
      l.workspaces.map fun entry => join (join entry "src") path := by
    rw [List.filterMap_map, ← List.filterMap_eq_map]
    rfl
  unfold candidates searchOrder
  rw [List.filterMap_append, List.filterMap_append, roots, workspaces]
  cases l.module with
  | none => rfl
  | some m =>
    cases inside : below? m.path path <;> simp [Location.dir?, Location.start?, Location.base, inside]

theorem importForNames?_eq (l : Locator) (names : List String) :
    l.importForNames? names = l.namingOrder.findSome? (·.import? names) := by
  have roots : (l.roots.map Location.below).findSome? (·.import? names) =
      l.roots.findSome? fun root => (relative? root.dir names).map (extend root.importPath) :=
    List.findSome?_map
  have workspaces : (l.workspaces.map Location.workspace).findSome? (·.import? names) =
      l.workspaces.findSome? fun entry =>
        (relative? (join entry "src") names).filter (!·.isEmpty) :=
    List.findSome?_map
  unfold importForNames? namingOrder
  simp only [Option.orElse_eq_orElse, Option.orElse_eq_or]
  rw [List.findSome?_append, List.findSome?_append, roots, workspaces, Option.or_assoc]
  cases l.module with
  | none => rfl
  | some m =>
    have pair (f : Location → Option String) (a b : Location) :
        [a, b].findSome? f = (f a).or (f b) := by
      rw [List.findSome?_cons, List.findSome?_singleton]
      cases f a <;> rfl
    rw [Option.toList_some, List.flatMap_singleton, pair]
    rfl

theorem importFor?_eq (l : Locator) (disk : Disk) (dir : String) :
    l.importFor? disk dir = (l.source? disk dir).map Prod.snd := by
  unfold importFor? source?
  cases disk.absolute dir with
  | error cause => rfl
  | ok names =>
    simp only [importForNames?_eq, List.map_findSome?, Function.comp_def, Option.map_map,
      Option.map_id']

theorem below?_extend (start rest : String) : below? start (extend start rest) = some rest := by
  by_cases here : rest = ""
  · have bare : start.toList.isPrefixOf? start.toList = some [] :=
      List.isPrefixOf?_eq_some_iff_append_eq.mpr (List.append_nil _)
    rw [here, below?, show extend start "" = start from rfl, bare]
  · have longer : extend start rest = start ++ "/" ++ rest := if_neg (by simpa using here)
    have inside : start.toList.isPrefixOf? (start ++ "/" ++ rest).toList =
        some ('/' :: rest.toList) := by
      rw [List.isPrefixOf?_eq_some_iff_append_eq, String.toList_append, String.toList_append,
        List.append_assoc]
      rfl
    rw [below?, longer, inside]
    exact congrArg some String.ofList_toList

end Locator

namespace Location

variable {location : Location} {names : List String} {path : String}

theorem dir?_of_import? (named : location.import? names = some path) :
    ∃ rest, components location.base ++ rest = root :: names ∧
      location.dir? path = some (join location.base ("/".intercalate rest)) := by
  unfold import? Locator.relative? at named
  unfold dir?
  cases started : location.start? with
  | none =>
    simp only [started, Option.filter_eq_some_iff, Option.map_eq_some_iff] at named
    obtain ⟨⟨rest, inside, rfl⟩, -⟩ := named
    exact ⟨rest, List.isPrefixOf?_eq_some_iff_append_eq.mp inside, rfl⟩
  | some start =>
    simp only [started, Option.map_map, Option.map_eq_some_iff] at named
    obtain ⟨rest, inside, rfl⟩ := named
    refine ⟨rest, List.isPrefixOf?_eq_some_iff_append_eq.mp inside, ?_⟩
    simp only [Function.comp_apply, Locator.below?_extend, Option.map_some]

theorem components_dir?_of_import? (full : location.base ≠ "") (counts : ∀ name ∈ names, IsStep name)
    (named : location.import? names = some path) :
    ∃ dir, location.dir? path = some dir ∧ components dir = root :: names := by
  obtain ⟨rest, steps, found⟩ := dir?_of_import? named
  refine ⟨_, found, ?_⟩
  have some : components location.base ≠ [] := mt components_eq_nil_iff.mp full
  obtain ⟨first, more, split⟩ := List.exists_cons_of_ne_nil some
  have behind : ∀ name ∈ rest, IsStep name := by
    intro name member
    rw [split, List.cons_append, List.cons.injEq] at steps
    exact counts name (steps.2 ▸ List.mem_append_right _ member)
  rw [components_join_intercalate full behind, steps]

end Location

namespace Locator

variable {l : Locator} {location : Location} {disk : Disk} {dir path : String}

/-- A directory that some place has for an import path is found, unless an earlier place has one. -/
theorem dirFor?_of_mem (listed : location ∈ l.searchOrder) (place : location.dir? path = some dir)
    (there : disk.isDirectory dir = true) :
    ∃ found, l.dirFor? disk path = some found ∧ disk.isDirectory found = true ∧
      (found = dir ∨ ∃ earlier ∈ l.before location, earlier.dir? path = some found) := by
  let good := fun other : Location => (other.dir? path).any disk.isDirectory
  have chosen : l.dirFor? disk path = (l.searchOrder.find? good).bind (·.dir? path) := by
    rw [dirFor?, candidates_eq, List.find?_filterMap]
  have holds : good location = true := by
    simp only [good, place, Option.any_some, there]
  obtain ⟨first, met⟩ := Option.isSome_iff_exists.mp
    (List.find?_isSome.mpr ⟨location, listed, holds⟩)
  obtain ⟨held, front, back, split, bad⟩ := List.find?_eq_some_iff_append.mp met
  obtain ⟨found, lies, exist⟩ := (Option.any_eq_true ..).mp held
  refine ⟨found, by rw [chosen, met, Option.bind_some, lies], exist, ?_⟩
  by_cases same : first = location
  · rw [same, place] at lies
    exact .inl (Option.some.inj lies).symm
  · -- Nothing in front of the first place with a directory has one, so `location` stands behind it.
    have apart : ∀ other ∈ front, decide (other ≠ location) = true := by
      intro other member
      rw [decide_eq_true_iff]
      rintro rfl
      have missed := bad other member
      rw [holds] at missed
      cases missed
    have later : first ∈ (first :: back).takeWhile (· ≠ location) := by
      rw [List.takeWhile_cons_of_pos (by simpa using same)]
      exact List.mem_cons_self ..
    refine .inr ⟨first, ?_, lies⟩
    rw [before, split, List.takeWhile_append_of_pos apart]
    exact List.mem_append_right _ later

theorem import?_of_source? (found : l.source? disk dir = some (location, path)) :
    location ∈ l.namingOrder ∧
      ∃ names, disk.absolute dir = .ok names ∧ location.import? names = some path := by
  unfold source? at found
  cases absolute : disk.absolute dir with
  | error cause => simp [absolute] at found
  | ok names =>
    simp only [absolute] at found
    obtain ⟨other, listed, named⟩ := List.exists_of_findSome?_eq_some found
    obtain ⟨name, given, same⟩ := Option.map_eq_some_iff.mp named
    cases same
    exact ⟨listed, names, rfl, given⟩

theorem mem_searchOrder_iff : location ∈ l.searchOrder ↔ location ∈ l.namingOrder := by
  unfold searchOrder namingOrder
  cases l.module with
  | none => rfl
  | some m => simp [or_left_comm]

theorem module_eq_of_mem {m : GoModule} (listed : .module m ∈ l.searchOrder) : l.module = some m := by
  simpa [searchOrder] using listed

theorem before_module {m : GoModule} (enclosing : l.module = some m) : l.before (.module m) = [] := by
  simp [before, searchOrder, enclosing]

theorem IsClean.base_ne_empty (clean : l.IsClean) (listed : location ∈ l.searchOrder) :
    location.base ≠ "" := by
  cases location with
  | module m => exact (clean.module m (module_eq_of_mem listed)).ne_empty
  | vendored m => exact join_ne_empty ⟨by decide, by decide⟩ _
  | below root =>
    have configured : root ∈ l.roots := by simpa [searchOrder] using listed
    exact (clean.roots root configured).ne_empty
  | workspace entry => exact join_ne_empty ⟨by decide, by decide⟩ _

theorem absolute_of_isCleanAbsolute (disk : Disk) (here : Path.IsCleanAbsolute dir) :
    ∃ names, disk.absolute dir = .ok names ∧ components dir = root :: names ∧
      ∀ name ∈ names, IsStep name := by
  have steps := components_of_isAbsolute here.absolute
  have counts := isStep_of_components steps
  refine ⟨_, ?_, steps, counts⟩
  rw [Disk.absolute, if_neg (by simpa using here.ne_empty), absoluteNames, steps, List.foldl_cons,
    foldl_move_names counts here.descends]
  rfl

/-- A directory is found again by its import path, unless a place that is tried before the one that
named it has another directory for that path. -/
theorem dirFor?_importFor? (clean : l.IsClean) (here : Path.IsCleanAbsolute dir)
    (there : disk.isDirectory dir = true) (named : l.importFor? disk dir = some path) :
    ∃ location found, l.source? disk dir = some (location, path) ∧
      l.dirFor? disk path = some found ∧ disk.isDirectory found = true ∧
      (components found = components dir ∨
        ∃ earlier ∈ l.before location, earlier.dir? path = some found) ∧
      ∀ m, location = .module m → components found = components dir := by
  rw [importFor?_eq, Option.map_eq_some_iff] at named
  obtain ⟨⟨location, other⟩, source, rfl⟩ := named
  obtain ⟨listed, names, absolute, given⟩ := import?_of_source? source
  have listed := mem_searchOrder_iff.mpr listed
  obtain ⟨steps, leads, whole, counts⟩ := absolute_of_isCleanAbsolute disk here
  obtain rfl := Except.ok.inj (absolute.symm.trans leads)
  obtain ⟨own, lies, same⟩ :=
    Location.components_dir?_of_import? (clean.base_ne_empty listed) counts given
  rw [← whole] at same
  rw [← isDirectory_congr disk same] at there
  obtain ⟨found, looked, exist, first⟩ := dirFor?_of_mem listed lies there
  have place : components found = components dir ∨
      ∃ earlier ∈ l.before location, earlier.dir? other = some found := by
    rcases first with rfl | shadowed
    · exact .inl same
    · exact .inr shadowed
  refine ⟨location, found, source, looked, exist, place, ?_⟩
  rintro m rfl
  rw [before_module (module_eq_of_mem listed)] at place
  simpa using place

def shop : GoModule :=
  ⟨"acme.com/shop", "/shop"⟩

def shopDisk : Disk :=
  ⟨[["shop"], ["shop", "kit"], ["shop", "vendor"], ["shop", "vendor", "acme.com"],
    ["shop", "vendor", "acme.com", "shop"], ["shop", "vendor", "acme.com", "shop", "kit"]].map
      (·, .directory), []⟩

def shopLocator : Locator :=
  ⟨some shop, [⟨"kit", "/shop/kit"⟩], ["/go"]⟩

theorem dirFor?_importFor?_shop :
    (shopLocator.IsClean ∧ Path.IsCleanAbsolute "/shop/vendor/acme.com/shop/kit" ∧
      shopDisk.isDirectory "/shop/vendor/acme.com/shop/kit" = true ∧
      shopLocator.importFor? shopDisk "/shop/vendor/acme.com/shop/kit" =
        some "acme.com/shop/kit") ∧
    ∃ earlier ∈ shopLocator.before (.vendored shop),
      earlier.dir? "acme.com/shop/kit" = some "/shop/kit" := by
  have clean : shopLocator.IsClean := by
    refine ⟨?_, ?_, ?_⟩
    · rintro m ⟨⟩
      exact ⟨by decide, by decide⟩
    · intro root member
      rw [List.mem_singleton.mp member]
      exact ⟨by decide, by decide⟩
    · intro entry member
      rw [List.mem_singleton.mp member]
      exact ⟨by decide, by decide⟩
  have here : Path.IsCleanAbsolute "/shop/vendor/acme.com/shop/kit" := ⟨by decide, by decide⟩
  have there : shopDisk.isDirectory "/shop/vendor/acme.com/shop/kit" = true := rfl
  have named : shopLocator.importFor? shopDisk "/shop/vendor/acme.com/shop/kit" =
      some "acme.com/shop/kit" := rfl
  have source : shopLocator.source? shopDisk "/shop/vendor/acme.com/shop/kit" =
      some (.vendored shop, "acme.com/shop/kit") := rfl
  have nearer : shopLocator.dirFor? shopDisk "acme.com/shop/kit" = some "/shop/kit" := rfl
  refine ⟨⟨clean, here, there, named⟩, ?_⟩
  obtain ⟨location, found, comes, looked, -, place, -⟩ := dirFor?_importFor? clean here there named
  rw [source] at comes
  rw [nearer] at looked
  cases comes
  cases looked
  rcases place with same | shadowed
  · exact absurd same (by decide)
  · exact shadowed

end Locator

end Dispatchers
