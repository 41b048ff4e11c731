import Dispatchers.Disk.Sources
import Dispatchers.Proofs.Dictionary

namespace Dispatchers.Go

def Package.ImportsIn (p : Package) (paths : List String) : Prop :=
  ∀ file qualifier path, p.importOf? file qualifier = some path → path ∈ paths

def ImportTable.In (table : ImportTable) (paths : List String) : Prop :=
  ∀ qualifier path, table.get? qualifier = some path → path ∈ paths

theorem ImportTable.In.insertAll {table : ImportTable} {paths : List String} (bound : table.In paths)
    (entries : List (String × String)) (named : ∀ entry ∈ entries, entry.2 ∈ paths) :
    ImportTable.In (entries.foldl (fun t (qualifier, path) => t.insert qualifier path) table)
      paths := by
  induction entries generalizing table with
  | nil => exact bound
  | cons entry entries ih =>
    obtain ⟨name, target⟩ := entry
    refine ih ?_ fun e member => named e (List.mem_cons_of_mem _ member)
    intro qualifier path found
    rw [Dictionary.get?_insert] at found
    split at found
    · rw [← Option.some.inj found]
      exact named _ (List.mem_cons_self ..)
    · exact bound qualifier path found

theorem Package.add_imports (p : Package) (table : ImportTable) (d : Declaration) :
    (p.add table d).1.imports = p.imports := by
  cases d <;> rfl

theorem ImportTable.In.add {table : ImportTable} {paths : List String} (bound : table.In paths)
    (p : Package) (d : Declaration) (named : ∀ path ∈ Disk.importsOf d, path ∈ paths) :
    ImportTable.In (p.add table d).2 paths := by
  cases d with
  | imports entries =>
    refine bound.insertAll entries fun entry member => named entry.2 ?_
    exact List.mem_map_of_mem member
  | _ => exact bound

theorem Package.foldl_add {paths : List String} (declarations : List Declaration)
    (named : ∀ path ∈ declarations.flatMap Disk.importsOf, path ∈ paths) (p : Package)
    (table : ImportTable) (bound : table.In paths) :
    let q := declarations.foldl (fun (q, table) d => q.add table d) (p, table)
    q.1.imports = p.imports ∧ ImportTable.In q.2 paths := by
  induction declarations generalizing p table with
  | nil => exact ⟨rfl, bound⟩
  | cons d declarations ih =>
    rw [List.flatMap_cons] at named
    have first : ∀ path ∈ Disk.importsOf d, path ∈ paths :=
      fun path member => named path (List.mem_append_left _ member)
    have next := ih (fun path member => named path (List.mem_append_right _ member)) (p.add table d).1
      (p.add table d).2 (bound.add p d first)
    rw [p.add_imports] at next
    exact next

theorem Package.ImportsIn.addAll {p : Package} {paths : List String} (bound : p.ImportsIn paths)
    (file : String) (declarations : List Declaration)
    (named : ∀ path ∈ declarations.flatMap Disk.importsOf, path ∈ paths) :
    (p.addAll file declarations).ImportsIn paths := by
  obtain ⟨kept, table⟩ := foldl_add declarations named p .empty (fun _ _ found => nomatch found)
  intro other qualifier path found
  unfold importOf? Package.addAll at found
  simp only [Dictionary.get?_insert, kept] at found
  split at found
  · exact table qualifier path found
  · exact bound other qualifier path found

theorem Source.declarations?_imports (file source : String) :
    (Source.declarations? file source).map (·.flatMap Disk.importsOf) =
      (Source.declarations? "" source).map (·.flatMap Disk.importsOf) := by
  have same (item : Source.Item) (row : Nat) (before : List Sibling) :
      Disk.importsOf (item.declaration file row before) =
        Disk.importsOf (item.declaration "" row before) := by
    cases item with
    | function header =>
      unfold Source.Item.declaration
      dsimp only
      split <;> rfl
    | _ => rfl
  unfold Source.declarations?
  cases Lexer.tokens? source with
  | none => rfl
  | some tokens =>
    cases read : Source.items (Grammar.Rules.ofDepth tokens.length) tokens with
    | none => simp [read]
    | some result => simp [read, List.flatMap_map, same]

end Dispatchers.Go

namespace Dispatchers.Disk

open Go

theorem decode_toUTF8 (text : String) : decode text.toUTF8 = .ok text := by
  have valid : String.fromUTF8? text.toUTF8 = some text := by
    simp only [String.fromUTF8?, String.toUTF8_eq_toByteArray, dif_pos text.isValidUTF8]
    rfl
  rw [decode, valid]

theorem mem_sourcesIn {dir : String} {children : List (String × Node)}
    {source : String × ByteArray} (member : source ∈ sourcesIn dir children) :
    ∃ name, isSourceName name = true ∧ (name, .file source.2) ∈ children := by
  simp only [sourcesIn, List.mem_map, List.mem_mergeSort, List.mem_filterMap] at member
  obtain ⟨⟨name, content⟩, ⟨⟨child, node⟩, listed, found⟩, rfl⟩ := member
  cases node with
  | directory => cases found
  | file text =>
    simp only at found
    split at found
    · rename_i counts
      cases found
      exact ⟨name, counts, listed⟩
    · cases found

theorem mem_children {disk : Disk} {names : List String} {name : String} {node : Node}
    (member : (name, node) ∈ disk.children names) :
    ∃ place, place.getLast? = some name ∧ (place, node) ∈ disk.nodes := by
  unfold children at member
  obtain ⟨⟨place, other⟩, listed, found⟩ := List.mem_filterMap.mp member
  simp only at found
  cases last : place.getLast? with
  | none => simp [last] at found
  | some child =>
    simp only [last] at found
    split at found
    · cases found
      exact ⟨place, last, listed⟩
    · cases found

theorem mem_importPaths {disk : Disk} {place : List String} {name text : String}
    {content : ByteArray} (last : place.getLast? = some name)
    (listed : (place, .file content) ∈ disk.nodes) (counts : isSourceName name = true)
    (decoded : decode content = .ok text) :
    ∀ path ∈ ((Source.declarations? "" text).getD []).flatMap importsOf, path ∈ disk.importPaths := by
  intro path member
  unfold importPaths
  refine List.mem_flatMap.mpr ⟨_, listed, ?_⟩
  simp only [last, Option.any_some, counts, if_true, decoded]
  exact member

theorem addSource_importsIn {p q : Package} {source : String × ByteArray} {paths : List String}
    (bound : p.ImportsIn paths) (added : addSource p source = .ok q)
    (named : ∀ text, decode source.2 = .ok text →
      ∀ path ∈ ((Source.declarations? "" text).getD []).flatMap importsOf, path ∈ paths) :
    q.ImportsIn paths := by
  unfold addSource at added
  cases decoded : decode source.2 with
  | error cause => simp [decoded] at added
  | ok text =>
    simp only [decoded, Package.parse, Package.addSource?] at added
    have imports := Source.declarations?_imports source.1 text
    cases parsed : Source.declarations? source.1 text with
    | none => simp [parsed] at added
    | some declarations =>
      simp only [parsed, Option.map_some, Except.ok.injEq] at added
      subst added
      refine bound.addAll source.1 declarations fun path member => named text decoded path ?_
      rw [parsed] at imports
      cases bare : Source.declarations? "" text with
      | none => simp [bare] at imports
      | some plain =>
        rw [bare] at imports
        simp only [Option.map_some, Option.some.injEq] at imports
        rw [Option.getD_some, ← imports]
        exact member

theorem foldlM_addSource_importsIn {paths : List String} (sources : List (String × ByteArray))
    (named : ∀ source ∈ sources, ∀ text, decode source.2 = .ok text →
      ∀ path ∈ ((Source.declarations? "" text).getD []).flatMap importsOf, path ∈ paths)
    {p q : Package} (bound : p.ImportsIn paths) (added : sources.foldlM addSource p = .ok q) :
    q.ImportsIn paths := by
  induction sources generalizing p with
  | nil =>
    cases added
    exact bound
  | cons source sources ih =>
    rw [List.foldlM_cons] at added
    cases first : addSource p source with
    | error cause =>
      rw [first] at added
      cases added
    | ok middle =>
      rw [first] at added
      exact ih (fun s member => named s (List.mem_cons_of_mem _ member))
        (addSource_importsIn bound first (named source (List.mem_cons_self ..))) added

/-- What the files of a scanned package import is named somewhere on the disk. -/
theorem package_importsIn {disk : Disk} {dir : String} {p : Package}
    (scanned : disk.package dir = .ok p) : p.ImportsIn disk.importPaths := by
  unfold package at scanned
  cases listed : disk.readDirectory dir with
  | error cause => simp [listed] at scanned
  | ok children =>
    simp only [listed] at scanned
    have bare : Package.empty.ImportsIn disk.importPaths := fun _ _ _ found => nomatch found
    have named : ∀ source ∈ sourcesIn dir children, ∀ text, decode source.2 = .ok text →
        ∀ path ∈ ((Source.declarations? "" text).getD []).flatMap importsOf,
          path ∈ disk.importPaths := by
      intro source member text decoded
      obtain ⟨name, counts, child⟩ := mem_sourcesIn member
      obtain ⟨names, found⟩ : ∃ names, children = disk.children names := by
        unfold readDirectory at listed
        cases located : disk.find dir with
        | error cause =>
          rw [located] at listed
          cases listed
        | ok found =>
          rw [located] at listed
          obtain ⟨names, node⟩ := found
          cases node with
          | directory =>
            cases listed
            exact ⟨names, rfl⟩
          | file content => cases listed
      rw [found] at child
      obtain ⟨place, last, node⟩ := mem_children child
      exact mem_importPaths last node counts decoded
    cases sources : sourcesIn dir children with
    | nil => simp [sources] at scanned
    | cons source rest =>
      simp only [sources] at scanned
      rw [sources] at named
      exact foldlM_addSource_importsIn _ named bare scanned

theorem package_of_single {disk : Disk} {dir name text : String} {p : Package}
    (listed : disk.readDirectory dir = .ok [(name, .file text.toUTF8)])
    (counts : isSourceName name = true)
    (read : Package.empty.addSource? (join dir name) text = some p) :
    disk.package dir = .ok p := by
  have sources : sourcesIn dir [(name, .file text.toUTF8)] =
      [(join dir name, text.toUTF8)] := by
    simp [sourcesIn, counts]
  rw [package, listed]
  simp only [sources, List.foldlM_cons, List.foldlM_nil, addSource, decode_toUTF8, Package.parse, read]
  rfl

end Dispatchers.Disk
