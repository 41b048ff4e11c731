import Dispatchers.Listing
import Dispatchers.Proofs.Disk.Tree
import Dispatchers.Proofs.Text.Split
import Mathlib.Data.List.Forall2

namespace Dispatchers

namespace Disk

def IsNamed (disk : Disk) : Prop :=
  ∀ entry ∈ disk.nodes, entry.1 ≠ [] ∧ ∀ name ∈ entry.1, '/' ∉ name.toList

section Files

variable {disk : Disk} {names rest : List String}

def fileBelow? (names : List String) (entry : List String × Node) : Option (List String) :=
  match entry.2 with
  | .file _ => names.isPrefixOf? entry.1
  | .directory => none

theorem filesBelow_eq (disk : Disk) (names : List String) :
    disk.filesBelow names = disk.nodes.filterMap (fileBelow? names) :=
  rfl

theorem fileBelow?_eq_some_iff {entry : List String × Node} :
    fileBelow? names entry = some rest ↔ ∃ content, entry = (names ++ rest, .file content) := by
  obtain ⟨place, node⟩ := entry
  cases node with
  | directory => simp [fileBelow?]
  | file content => simp [fileBelow?, List.isPrefixOf?_eq_some_iff_append_eq, eq_comm]

theorem mem_filesBelow_iff (tree : disk.IsTree) (named : disk.IsNamed) :
    rest ∈ disk.filesBelow names ↔ ∃ content, disk.node? (names ++ rest) = some (.file content) := by
  rw [filesBelow_eq, List.mem_filterMap]
  constructor
  · rintro ⟨entry, listed, below⟩
    obtain ⟨content, rfl⟩ := fileBelow?_eq_some_iff.mp below
    exact ⟨content, (mem_nodes_iff tree (named _ listed).1).mp listed⟩
  · rintro ⟨content, there⟩
    have inside : names ++ rest ≠ [] := by
      intro root
      rw [root, node?_root] at there
      cases there
    exact ⟨_, (mem_nodes_iff tree inside).mpr there, fileBelow?_eq_some_iff.mpr ⟨content, rfl⟩⟩

theorem nodup_filesBelow (tree : disk.IsTree) (names : List String) :
    (disk.filesBelow names).Nodup := by
  rw [filesBelow_eq, List.Nodup, List.pairwise_filterMap]
  refine (List.pairwise_map.mp tree.once).imp fun apart rest below other beside same => ?_
  obtain ⟨_, rfl⟩ := fileBelow?_eq_some_iff.mp below
  obtain ⟨_, rfl⟩ := fileBelow?_eq_some_iff.mp beside
  exact apart (by rw [same])

theorem slash_not_mem_of_mem_filesBelow (named : disk.IsNamed) (member : rest ∈ disk.filesBelow names) :
    ∀ name ∈ rest, '/' ∉ name.toList := by
  rw [filesBelow_eq, List.mem_filterMap] at member
  obtain ⟨entry, listed, below⟩ := member
  obtain ⟨content, rfl⟩ := fileBelow?_eq_some_iff.mp below
  exact fun name inside => (named _ listed).2 name (List.mem_append_right _ inside)

end Files

end Disk

namespace Listing

/-- The names that a key shows. One name with backslashes shows as several. -/
def shown (names : List String) : List (List Char) :=
  names.flatMap fun name => Text.splitOn '\\' name.toList

/-- An entry of the index of `input` for the file that `rest` leads to from there. -/
structure Lists (input : String) (rest : List String) (e : Entry) : Prop where
  key : e.key.toList = Text.joinWith '/' (shown rest)
  path : e.path = Path.join [slashed input, e.key]

section Keys

variable {root : String} {names other : List String}

theorem map_slash (s : List Char) :
    (s.map fun c => if c = '\\' then '/' else c) = Text.joinWith '/' (Text.splitOn '\\' s) := by
  have kept : (Text.splitOn '\\' s).map (List.map fun c => if c = '\\' then '/' else c) =
      Text.splitOn '\\' s := by
    refine (List.map_congr_left fun piece member => ?_).trans (List.map_id _)
    have plain := Text.not_mem_splitOn member
    refine (List.map_congr_left fun c inside => if_neg ?_).trans (List.map_id _)
    rintro rfl
    exact plain inside
  conv_lhs => rw [← Text.joinWith_splitOn '\\' s]
  rw [Text.map_joinWith, kept]
  rfl

theorem toList_key (root : String) (names : List String) :
    (entryOf root names).key.toList = Text.joinWith '/' (shown names) := by
  rw [entryOf, slashed, String.toList_ofList, String.toList_intercalate]
  change (Text.joinWith '/' (names.map String.toList)).map _ = _
  rw [Text.map_joinWith, List.map_map, shown,
    Text.joinWith_flatMap fun name : String => Text.splitOn_ne_nil '\\' name.toList]
  exact congrArg _ (List.map_congr_left fun name _ => map_slash name.toList)

theorem lists_entryOf (input : String) (names : List String) :
    Lists input names (entryOf (slashed input) names) :=
  ⟨toList_key _ names, rfl⟩

theorem shown_of_plain (plain : ∀ name ∈ names, '\\' ∉ name.toList) :
    shown names = names.map String.toList := by
  induction names with
  | nil => rfl
  | cons name names ih =>
    have first : Text.splitOn '\\' name.toList = [name.toList] := by
      rw [Text.splitOn_eq, List.splitOn_eq_singleton (plain name List.mem_cons_self)]
    have others := ih fun other member => plain other (List.mem_cons_of_mem _ member)
    rw [shown] at others ⊢
    rw [List.flatMap_cons, first, others]
    rfl

theorem eq_of_shown
    (plain : (∀ name ∈ names, '\\' ∉ name.toList) ∧ ∀ name ∈ other, '\\' ∉ name.toList)
    (same : shown names = shown other) : names = other := by
  rw [shown_of_plain plain.1, shown_of_plain plain.2] at same
  exact (List.map_injective_iff.mpr fun _ _ => String.toList_inj.mp) same

theorem splitOn_key (some : names ≠ []) (free : ∀ name ∈ names, '/' ∉ name.toList) :
    Text.splitOn '/' (entryOf root names).key.toList = shown names := by
  rw [toList_key]
  refine Text.splitOn_joinWith (fun piece member => ?_) ?_
  · obtain ⟨name, listed, member⟩ := List.mem_flatMap.mp member
    exact fun slash => free name listed (Text.subset_of_mem_splitOn member slash)
  · obtain ⟨name, rest, rfl⟩ := List.exists_cons_of_ne_nil some
    rw [shown, List.flatMap_cons]
    exact List.append_ne_nil_of_left_ne_nil (Text.splitOn_ne_nil _ _) _

theorem key_eq_iff (some : names ≠ [] ∧ other ≠ [])
    (free : (∀ name ∈ names, '/' ∉ name.toList) ∧ ∀ name ∈ other, '/' ∉ name.toList) :
    (entryOf root names).key = (entryOf root other).key ↔ shown names = shown other := by
  constructor
  · intro same
    have first : Text.splitOn '/' (entryOf root names).key.toList = shown names :=
      splitOn_key some.1 free.1
    rw [← first, same, splitOn_key some.2 free.2]
  · intro same
    rw [← String.toList_inj, toList_key, toList_key, same]

end Keys

section Entries

variable {disk : Disk} {input : String} {names : List String}

theorem exists_files (found : disk.find input = .ok (names, .directory)) :
    ∃ files : List (List String), files.Perm (disk.filesBelow names) ∧
      entries disk input = .ok (files.map (entryOf (slashed input))) ∧
      files.Pairwise fun a b =>
        (entryOf (slashed input) a).key ≤ (entryOf (slashed input) b).key := by
  let walk := (disk.filesBelow names).mergeSort namesLe
  let key (rest : List String) : String := (entryOf (slashed input) rest).key
  -- the entries are sorted by key, and so are the files that they are made of
  refine ⟨walk.mergeSort fun a b => !(key b < key a), ?_, ?_, Disk.pairwise_mergeSort_key key walk⟩
  · exact (List.mergeSort_perm walk _).trans (List.mergeSort_perm _ _)
  · have sorted : (walk.mergeSort fun a b => !(key b < key a)).map (entryOf (slashed input)) =
        (walk.map (entryOf (slashed input))).mergeSort fun a b => !(b.key < a.key) :=
      List.map_mergeSort fun _ _ _ _ => rfl
    rw [entries, found, sorted]

theorem strict_iff_nodup {listed : List Entry} (sorted : listed.Pairwise fun a b => a.key ≤ b.key) :
    listed.Pairwise (fun a b => a.key < b.key) ↔ (listed.map (·.key)).Nodup := by
  rw [List.Nodup, List.pairwise_map]
  constructor
  · refine fun strict => strict.imp fun {a b} less same => ?_
    rw [same] at less
    exact String.lt_irrefl b.key less
  · intro apart
    refine (sorted.and apart).imp fun both => String.not_le.mp fun behind => ?_
    exact both.2 (String.le_antisymm both.1 behind)

/-- The index of a directory has one entry for each file below it, in order of the keys. The keys are
all different if and only if no two files show the same names, as when no name has a backslash. -/
theorem entries_indexes (tree : disk.IsTree) (named : disk.IsNamed)
    (found : disk.find input = .ok (names, .directory)) :
    ∃ (files : List (List String)) (listed : List Entry), entries disk input = .ok listed ∧
      List.Forall₂ (Lists input) files listed ∧ files.Nodup ∧
      (∀ rest, rest ∈ files ↔ ∃ content, disk.node? (names ++ rest) = some (.file content)) ∧
      listed.Pairwise (fun a b => a.key ≤ b.key) ∧
      (listed.Pairwise (fun a b => a.key < b.key) ↔
        ∀ one ∈ files, ∀ other ∈ files, shown one = shown other → one = other) ∧
      ((∀ rest ∈ files, ∀ name ∈ rest, '\\' ∉ name.toList) →
        listed.Pairwise fun a b => a.key < b.key) := by
  obtain ⟨files, below, listed, sorted⟩ := exists_files found
  have once : files.Nodup := below.nodup_iff.mpr (Disk.nodup_filesBelow tree names)
  have inside (rest : List String) :
      rest ∈ files ↔ ∃ content, disk.node? (names ++ rest) = some (.file content) :=
    below.mem_iff.trans (Disk.mem_filesBelow_iff tree named)
  have free {rest : List String} (member : rest ∈ files) : ∀ name ∈ rest, '/' ∉ name.toList :=
    Disk.slash_not_mem_of_mem_filesBelow named (below.mem_iff.mp member)
  have some {rest : List String} (member : rest ∈ files) : rest ≠ [] := by
    rintro rfl
    obtain ⟨content, there⟩ := (inside []).mp member
    rw [List.append_nil, (Disk.find_eq_ok_iff.mp found).2.1] at there
    cases there
  have strict : (files.map (entryOf (slashed input))).Pairwise (fun a b => a.key < b.key) ↔
      ∀ one ∈ files, ∀ other ∈ files, shown one = shown other → one = other := by
    rw [strict_iff_nodup (List.pairwise_map.mpr sorted), List.map_map, List.nodup_map_iff_inj_on once]
    refine forall₂_congr fun one first => forall₂_congr fun other second => imp_congr_left ?_
    exact key_eq_iff ⟨some first, some second⟩ ⟨free first, free second⟩
  refine ⟨files, _, listed, ?_, once, inside, List.pairwise_map.mpr sorted, strict, fun plain => ?_⟩
  · exact List.forall₂_map_right_iff.mpr (List.forall₂_same.mpr fun rest _ => lists_entryOf input rest)
  · exact strict.mpr fun one first other second => eq_of_shown ⟨plain one first, plain other second⟩

end Entries

def backslashed : Disk :=
  ⟨[(["v"], .directory), (["v", "a\\b"], .file .empty), (["v", "a"], .directory),
    (["v", "a", "b"], .file .empty)], []⟩

theorem isTree_backslashed : backslashed.IsTree :=
  Disk.isTree_of_nodes (by decide) (by decide)

theorem isNamed_backslashed : backslashed.IsNamed := by
  simp [Disk.IsNamed, backslashed]

theorem find_backslashed : backslashed.find "v" = .ok (["v"], .directory) := by
  rfl

theorem entries_indexes_backslashed :
    ∃ (files : List (List String)) (listed : List Entry), backslashed.IsTree ∧ backslashed.IsNamed ∧
      backslashed.find "v" = .ok (["v"], .directory) ∧ entries backslashed "v" = .ok listed ∧
      List.Forall₂ (Lists "v") files listed ∧
      (listed.Pairwise (fun a b => a.key < b.key) ↔
        ∀ one ∈ files, ∀ other ∈ files, shown one = shown other → one = other) := by
  obtain ⟨files, listed, known, each, -, -, -, strict, -⟩ :=
    entries_indexes isTree_backslashed isNamed_backslashed find_backslashed
  exact ⟨files, listed, isTree_backslashed, isNamed_backslashed, find_backslashed, known, each, strict⟩

/-- Two files of an index may share their key, and the path that is given for one of them leads to
the other. -/
theorem entries_backslashed : backslashed.IsTree ∧ backslashed.IsNamed ∧
    entries backslashed "v" = .ok [⟨"a/b", "v/a/b"⟩, ⟨"a/b", "v/a/b"⟩] := by
  obtain ⟨files, below, listed, -⟩ := exists_files find_backslashed
  have alike : (backslashed.filesBelow ["v"]).map (entryOf (slashed "v")) =
      List.replicate 2 ⟨"a/b", "v/a/b"⟩ := by rfl
  have same := List.perm_replicate.mp (alike ▸ below.map (entryOf (slashed "v")))
  exact ⟨isTree_backslashed, isNamed_backslashed, listed.trans (congrArg Except.ok same)⟩

end Listing

end Dispatchers
