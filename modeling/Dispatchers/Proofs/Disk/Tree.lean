import Dispatchers.Disk.Sources
import Dispatchers.Proofs.Disk.Writing
import Mathlib.Data.List.Sort

namespace Dispatchers.Disk

/-- Nothing is listed twice, and whatever is there is inside a directory. -/
structure IsTree (disk : Disk) : Prop where
  once : (disk.nodes.map Prod.fst).Nodup
  inside : ∀ names name, disk.node? (names ++ [name]) ≠ none → disk.node? names = some .directory

def isName (step : Component) : Bool :=
  step ≠ root ∧ step ≠ "." ∧ step ≠ ".."

/-- The places that steps ask about: the one that they lead to, and those from which a step is taken
that is no name. -/
def stops (names : List String) : List Component → List (List String)
  | [] => [names]
  | step :: rest =>
    if isName step then stops (names ++ [step]) rest else names :: stops (move names step) rest

def looked (disk : Disk) (path : String) : List (List String) :=
  stops (disk.startOf path) (components path)

section Steps

variable {p q : String}

theorem resolve_congr (disk : Disk) (same : components p = components q) :
    disk.resolve p = disk.resolve q := by
  have full : p.isEmpty = q.isEmpty := by
    rw [Bool.eq_iff_iff, String.isEmpty_iff, String.isEmpty_iff, ← components_eq_nil_iff, same,
      components_eq_nil_iff]
  have start : isAbsolute p = isAbsolute q := by
    rw [Bool.eq_iff_iff, isAbsolute_iff, isAbsolute_iff, same]
  rw [resolve, resolve, full, start, same]

theorem isDirectory_congr (disk : Disk) (same : components p = components q) :
    disk.isDirectory p = disk.isDirectory q := by
  rw [Bool.eq_iff_iff, isDirectory_iff, isDirectory_iff]
  simp only [find_eq_ok_iff, resolve_congr disk same, true_or]

end Steps

section Stops

variable {disk other : Disk} {start names : List String} {step : Component} {steps : List Component}

theorem move_of_isName (name : isName step = true) : move start step = start ++ [step] := by
  simp only [isName, decide_eq_true_iff] at name
  rw [move, if_neg name.1, if_neg name.2.1, if_neg name.2.2]

theorem foldl_move_mem_stops : steps.foldl move start ∈ stops start steps := by
  induction steps generalizing start with
  | nil => exact List.mem_singleton_self _
  | cons step steps ih =>
    rw [List.foldl_cons, stops]
    split
    · rename_i name
      rw [move_of_isName name]
      exact ih
    · exact List.mem_cons_of_mem _ ih

/-- Between the places that they ask about, steps lead through directories by themselves. -/
theorem Walks.congr (tree : other.IsTree)
    (same : ∀ place ∈ stops start steps, other.node? place = disk.node? place)
    (there : disk.node? (steps.foldl move start) ≠ none) (walks : Walks disk start steps) :
    Walks other start steps := by
  induction steps generalizing start with
  | nil => exact walks_nil
  | cons step steps ih =>
    obtain ⟨here, walks⟩ := walks_cons.mp walks
    rw [stops] at same
    split at same
    · rename_i name
      rw [List.foldl_cons, move_of_isName name] at there
      rw [move_of_isName name] at walks
      have next : Walks other (start ++ [step]) steps := ih same there walks
      -- nothing asks about the start itself, but what follows is inside it
      refine walks_cons.mpr ⟨tree.inside start step ?_, by rwa [move_of_isName name]⟩
      cases steps with
      | nil =>
        rw [same (start ++ [step]) (List.mem_singleton_self _)]
        exact there
      | cons =>
        rw [(walks_cons.mp next).1]
        exact nofun
    · refine walks_cons.mpr ⟨?_, ih (fun place member => same place (List.mem_cons_of_mem _ member))
        there walks⟩
      rw [same start (List.mem_cons_self ..), here]

end Stops

section Trees

variable {disk : Disk} {place names start : List String} {name : String} {node : Node}
  {step : Component}

theorem mem_iff_lookup {nodes : List (List String × Node)} (once : (nodes.map Prod.fst).Nodup) :
    (place, node) ∈ nodes ↔ nodes.lookup place = some node := by
  induction nodes with
  | nil => exact ⟨nofun, nofun⟩
  | cons entry nodes ih =>
    obtain ⟨other, held⟩ := entry
    rw [List.map_cons, List.nodup_cons] at once
    have later := ih once.2
    rw [List.mem_cons, List.lookup_cons, Prod.mk.injEq]
    by_cases same : place = other
    · subst same
      rw [beq_self_eq_true]
      constructor
      · rintro (⟨-, rfl⟩ | listed)
        · rfl
        · exact absurd (List.mem_map_of_mem listed) once.1
      · intro found
        exact .inl ⟨rfl, (Option.some.inj found).symm⟩
    · rw [beq_eq_false_iff_ne.mpr same]
      simpa [same] using later

theorem mem_nodes_iff (tree : disk.IsTree) (some : place ≠ []) :
    (place, node) ∈ disk.nodes ↔ disk.node? place = .some node := by
  rw [node?, if_neg (by simpa using some)]
  exact mem_iff_lookup tree.once

theorem isTree_of_nodes (once : (disk.nodes.map Prod.fst).Nodup)
    (inside : ∀ entry ∈ disk.nodes, disk.node? entry.1.dropLast = some .directory) :
    disk.IsTree := by
  refine ⟨once, fun names name there => ?_⟩
  cases found : disk.node? (names ++ [name]) with
  | none => exact absurd found there
  | some node =>
    rw [node?, if_neg (by simp)] at found
    have above := inside _ ((mem_iff_lookup once).mpr found)
    rwa [List.dropLast_concat] at above

theorem IsTree.dropLast_move (tree : disk.IsTree) (here : disk.node? start = some .directory)
    (free : disk.node? (move start step) ≠ some .directory) :
    move start step ≠ [] ∧ (move start step).dropLast = start := by
  have some : move start step ≠ [] := fun same => free (same ▸ node?_root disk)
  refine ⟨some, ?_⟩
  unfold move at free some ⊢
  split
  · rename_i rooted
    rw [if_pos rooted] at some
    exact absurd rfl some
  rename_i other
  rw [if_neg other] at free some
  split
  · rename_i dot
    rw [if_pos dot] at free
    exact absurd here free
  rename_i other
  rw [if_neg other] at free some
  split
  · rename_i up
    rw [if_pos up] at free some
    have last : start ≠ [] := by
      rintro rfl
      exact some rfl
    have above := tree.inside start.dropLast (start.getLast last)
      (by rw [List.dropLast_concat_getLast, here]; exact nofun)
    exact absurd above free
  · simp

theorem IsTree.put (tree : disk.IsTree) (some : place ≠ [])
    (inside : disk.node? place.dropLast = .some .directory)
    (kept : node = .directory ∨ disk.node? place ≠ .some .directory) :
    (disk.put place node).IsTree := by
  constructor
  case once =>
    rw [Disk.put, List.map_cons, List.nodup_cons]
    constructor
    · intro member
      obtain ⟨entry, listed, same⟩ := List.mem_map.mp member
      simpa [same] using (List.mem_filter.mp listed).2
    · exact tree.once.sublist (List.Sublist.map _ List.filter_sublist)
  case inside =>
    intro names name there
    have above : disk.node? names = .some .directory := by
      by_cases same : names ++ [name] = place
      · rw [← same, List.dropLast_concat] at inside
        exact inside
      · rw [node?_put_of_ne same] at there
        exact tree.inside names name there
    by_cases same : names = place
    · subst same
      rw [node?_put_self some]
      exact congrArg _ (kept.resolve_right fun free => free above)
    · rw [node?_put_of_ne same, above]

theorem IsTree.enterMaking {step : Component} {made : Disk} (tree : disk.IsTree)
    (ok : Disk.enterMaking (disk, start) step = .ok (made, names)) : made.IsTree := by
  obtain ⟨reached, stepped, made⟩ := bind_eq_ok_iff.mp ok
  obtain ⟨here, rfl⟩ := enter_eq_ok_iff.mp stepped
  split at made
  · cases made
    exact tree
  · rename_i bare
    cases made
    have free : disk.node? (move start step) ≠ some .directory := by
      rw [bare]
      exact nofun
    obtain ⟨some, above⟩ := tree.dropLast_move here free
    exact tree.put some (by rw [above, here]) (.inl rfl)

theorem IsTree.makeEach {steps : List Component} (tree : disk.IsTree) :
    (Disk.makeEach (disk, start) steps).1.IsTree := by
  induction steps generalizing disk start with
  | nil => exact tree
  | cons step steps ih =>
    rw [Disk.makeEach]
    cases entered : Disk.enterMaking (disk, start) step with
    | error cause => exact tree
    | ok next =>
      obtain ⟨between, names⟩ := next
      exact ih (tree.enterMaking entered)

theorem IsTree.makePath (tree : disk.IsTree) (path : String) : (disk.makePath path).1.IsTree := by
  have made : (Disk.makeEach (disk, disk.startOf path) (components path)).1.IsTree := tree.makeEach
  rwa [← makePath_fst] at made

def childOf? (names : List String) (entry : List String × Node) : Option (String × Node) :=
  match entry.1.getLast? with
  | some name => if entry.1.dropLast = names then some (name, entry.2) else none
  | none => none

theorem children_eq (disk : Disk) (names : List String) :
    disk.children names = disk.nodes.filterMap (childOf? names) :=
  rfl

theorem childOf?_eq_some_iff {entry : List String × Node} {child : String × Node} :
    childOf? names entry = some child ↔ entry = (names ++ [child.1], child.2) := by
  obtain ⟨place, held⟩ := entry
  constructor
  · intro found
    unfold childOf? at found
    split at found
    · rename_i name ends
      split at found
      · rename_i above
        cases found
        have place_eq : place = names ++ [name] := by
          rw [← above, List.dropLast_append_getLast? name ends]
        rw [place_eq]
      · cases found
    · cases found
  · intro same
    cases same
    simp [childOf?]

theorem mem_children_iff (tree : disk.IsTree) :
    (name, node) ∈ disk.children names ↔ disk.node? (names ++ [name]) = some node := by
  rw [← mem_nodes_iff tree (by simp), children_eq, List.mem_filterMap]
  constructor
  · rintro ⟨entry, listed, found⟩
    rwa [childOf?_eq_some_iff.mp found] at listed
  · intro listed
    exact ⟨_, listed, childOf?_eq_some_iff.mpr rfl⟩

def sourceOf? (child : String × Node) : Option (String × ByteArray) :=
  match child.2 with
  | .file content => if isSourceName child.1 then some (child.1, content) else none
  | .directory => none

theorem sourcesIn_eq (dir : String) (children : List (String × Node)) :
    sourcesIn dir children =
      ((children.filterMap sourceOf?).mergeSort fun a b => !(b.1 < a.1)).map
        fun source => (join dir source.1, source.2) :=
  rfl

theorem sourceOf?_eq_some_iff {child : String × Node} {source : String × ByteArray} :
    sourceOf? child = some source ↔
      isSourceName source.1 = true ∧ child = (source.1, .file source.2) := by
  obtain ⟨name, node⟩ := child
  obtain ⟨other, content⟩ := source
  cases node with
  | directory => simp [sourceOf?]
  | file text =>
    simp only [sourceOf?, Option.ite_none_right_eq_some, Option.some.injEq, Prod.mk.injEq,
      Node.file.injEq]
    constructor
    · rintro ⟨counts, rfl, rfl⟩
      exact ⟨counts, rfl, rfl⟩
    · rintro ⟨counts, rfl, rfl⟩
      exact ⟨counts, rfl, rfl⟩

theorem mem_sources_iff (tree : disk.IsTree) {content : ByteArray} :
    (name, content) ∈ (disk.children names).filterMap sourceOf? ↔
      isSourceName name = true ∧ disk.node? (names ++ [name]) = some (.file content) := by
  rw [List.mem_filterMap, ← mem_children_iff tree]
  constructor
  · rintro ⟨child, listed, source⟩
    obtain ⟨counts, rfl⟩ := sourceOf?_eq_some_iff.mp source
    exact ⟨counts, listed⟩
  · rintro ⟨counts, listed⟩
    exact ⟨_, listed, sourceOf?_eq_some_iff.mpr ⟨counts, rfl⟩⟩

theorem nodup_sources (tree : disk.IsTree) (names : List String) :
    ((disk.children names).filterMap sourceOf?).Nodup := by
  have nodes : disk.nodes.Nodup := tree.once.of_map
  refine List.Nodup.filterMap ?_ (List.Nodup.filterMap ?_ nodes)
  · intro one two source first second
    obtain ⟨-, rfl⟩ := sourceOf?_eq_some_iff.mp first
    obtain ⟨-, rfl⟩ := sourceOf?_eq_some_iff.mp second
    rfl
  · intro one two child first second
    rw [childOf?_eq_some_iff.mp first, childOf?_eq_some_iff.mp second]

theorem pairwise_mergeSort_key {α : Type} (key : α → String) (values : List α) :
    List.Pairwise (fun a b => key a ≤ key b) (values.mergeSort fun a b => !(key b < key a)) := by
  refine (List.pairwise_mergeSort ?_ ?_ values).imp fun ordered => ?_
  · intro a b c first second
    simp only [Bool.not_eq_true', decide_eq_false_iff_not, String.not_lt] at first second ⊢
    exact String.le_trans first second
  · intro a b
    simp only [Bool.or_eq_true, Bool.not_eq_true', decide_eq_false_iff_not, String.not_lt]
    exact String.le_total (key a) (key b)
  · simpa only [Bool.not_eq_true', decide_eq_false_iff_not, String.not_lt] using ordered

end Trees

section Looks

variable {disk other : Disk} {path dir : String} {names : List String} {node : Node}
  (tree : disk.IsTree) (grown : other.IsTree) (cwd : other.cwd = disk.cwd)

/-- Two disks are the same wherever a look at a path asks about them. -/
def SameAt (disk other : Disk) (path : String) : Prop :=
  ∀ place ∈ disk.looked path, other.node? place = disk.node? place

theorem looked_eq (cwd : other.cwd = disk.cwd) (path : String) :
    other.looked path = disk.looked path := by
  rw [looked, looked, startOf, startOf, cwd]

include cwd in
theorem SameAt.symm (same : SameAt disk other path) : SameAt other disk path := by
  intro place member
  rw [looked_eq cwd] at member
  exact (same place member).symm

section Finding

include grown cwd

theorem find_of_sameAt (same : SameAt disk other path) (found : disk.find path = .ok (names, node)) :
    other.find path = .ok (names, node) := by
  obtain ⟨resolved, here, plain⟩ := find_eq_ok_iff.mp found
  obtain ⟨full, walks, target⟩ := resolve_eq_ok_iff.mp resolved
  have final := foldl_components disk path
  rw [target] at final
  have there : disk.node? ((components path).foldl move (disk.startOf path)) ≠ none := by
    rw [final, here]
    exact nofun
  have again : Walks other (other.startOf path) (components path) := by
    rw [startOf, cwd]
    exact walks.congr grown same there
  have held : other.node? names = some node := by
    rw [← here]
    exact same names (final ▸ foldl_move_mem_stops)
  exact find_eq_ok_iff.mpr ⟨resolve_eq_ok_iff.mpr ⟨full, again, cwd ▸ target⟩, held, plain⟩

end Finding

include tree grown cwd

theorem find_iff_of_sameAt (same : SameAt disk other path) :
    other.find path = .ok (names, node) ↔ disk.find path = .ok (names, node) :=
  ⟨find_of_sameAt tree cwd.symm (same.symm cwd), find_of_sameAt grown cwd same⟩

theorem isFile_of_sameAt (same : SameAt disk other path) :
    other.isFile path = disk.isFile path := by
  rw [Bool.eq_iff_iff, isFile_iff, isFile_iff]
  exact exists_congr fun _ => exists_congr fun _ => find_iff_of_sameAt tree grown cwd same

theorem isDirectory_of_sameAt (same : SameAt disk other path) :
    other.isDirectory path = disk.isDirectory path := by
  rw [Bool.eq_iff_iff, isDirectory_iff, isDirectory_iff]
  exact exists_congr fun _ => find_iff_of_sameAt tree grown cwd same

omit tree in
theorem readText_of_sameAt (same : SameAt disk other path) (file : disk.isFile path = true) :
    other.readText path = disk.readText path := by
  obtain ⟨names, content, found⟩ := isFile_iff.mp file
  rw [readText, readText, found, find_of_sameAt grown cwd same found]

omit cwd in
theorem sourcesIn_of_same (same : ∀ name, isSourceName name = true →
      other.node? (names ++ [name]) = disk.node? (names ++ [name])) :
    sourcesIn dir (other.children names) = sourcesIn dir (disk.children names) := by
  have agree {name : String} {content : ByteArray} :
      (name, content) ∈ (other.children names).filterMap sourceOf? ↔
        (name, content) ∈ (disk.children names).filterMap sourceOf? := by
    rw [mem_sources_iff grown, mem_sources_iff tree]
    exact and_congr_right fun counts => by rw [same name counts]
  rw [sourcesIn_eq, sourcesIn_eq]
  refine congrArg _ (List.Perm.eq_of_pairwise ?_ (pairwise_mergeSort_key Prod.fst _)
    (pairwise_mergeSort_key Prod.fst _) ?_)
  -- two sources of one name are the file that stands at its place
  · rintro ⟨name, content⟩ ⟨name', content'⟩ one two before behind
    have equal : name = name' := String.le_antisymm before behind
    subst equal
    rw [List.mem_mergeSort] at one two
    have here := ((mem_sources_iff tree).mp (agree.mp one)).2
    have there := ((mem_sources_iff tree).mp two).2
    rw [here] at there
    cases there
    rfl
  · refine (List.mergeSort_perm _ _).trans (List.Perm.trans ?_ (List.mergeSort_perm _ _).symm)
    exact (List.perm_ext_iff_of_nodup (nodup_sources grown _) (nodup_sources tree _)).mpr
      fun _ => agree

theorem package_of_sameAt (same : SameAt disk other dir)
    (found : disk.find dir = .ok (names, .directory))
    (sources : ∀ name, isSourceName name = true →
      other.node? (names ++ [name]) = disk.node? (names ++ [name])) :
    other.package dir = disk.package dir := by
  have listed : disk.readDirectory dir = .ok (disk.children names) := by
    rw [readDirectory, found]
    rfl
  have again : other.readDirectory dir = .ok (other.children names) := by
    rw [readDirectory, find_of_sameAt grown cwd same found]
    rfl
  rw [package, package, listed, again]
  simp only [sourcesIn_of_same tree grown sources]

end Looks

end Dispatchers.Disk
