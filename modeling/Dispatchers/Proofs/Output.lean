import Dispatchers.Output
import Dispatchers.Proofs.Disk.ImportPaths
import Dispatchers.Proofs.Disk.Tree

namespace Dispatchers.OutputFile

open Disk

def place (cwd : List String) (f : OutputFile) : List String :=
  absoluteNames cwd f.path

def Above (cwd : List String) (path : String) (names : List String) : Prop :=
  ∃ before after, before ≠ [] ∧ after ≠ [] ∧ components path = before ++ after ∧
    before.foldl move cwd = names

/-- What writing one file changes: the file is there, and directories above it that were missing. -/
structure Writes (before : Disk) (f : OutputFile) (after : Disk) : Prop where
  keeps : Keeps before after
  here : after.find f.path = .ok (f.place before.cwd, .file f.contents.toUTF8)
  others : ∀ names, names ≠ f.place before.cwd → after.node? names = before.node? names ∨
    before.node? names = none ∧ after.node? names = some .directory ∧ Above before.cwd f.path names

/-- What writing files in turn changes: at every place the last file that leads there stays. -/
structure Wrote (before : Disk) (files : List OutputFile) (after : Disk) : Prop where
  keeps : Keeps before after
  found : ∀ f ∈ files, ∃ content, after.find f.path = .ok (f.place before.cwd, .file content)
  last : ∀ earlier f later, files = earlier ++ f :: later →
    (∀ g ∈ later, g.place before.cwd ≠ f.place before.cwd) →
    after.node? (f.place before.cwd) = some (.file f.contents.toUTF8)
  others : ∀ names, (∀ f ∈ files, f.place before.cwd ≠ names) →
    after.node? names = before.node? names ∨
    before.node? names = none ∧ after.node? names = some .directory ∧
      ∃ f ∈ files, Above before.cwd f.path names

section Paths

variable {cwd names : List String} {path : String}

theorem Above.isPrefix (above : Above cwd path names) (down : ".." ∉ components path) :
    names <+: absoluteNames cwd path ∧ names ≠ absoluteNames cwd path := by
  obtain ⟨before, after, some, more, split, rfl⟩ := above
  obtain ⟨first, rest, rfl⟩ := List.exists_cons_of_ne_nil some
  have counts : ∀ step ∈ after, IsStep step := fun step member =>
    isStep_of_components split step (List.mem_append_right _ member)
  have plain : ".." ∉ after := by
    rw [split] at down
    exact fun member => down (List.mem_append_right _ member)
  have target : absoluteNames cwd path = (first :: rest).foldl move cwd ++ after := by
    rw [absoluteNames, split, List.foldl_append, foldl_move_names counts plain]
  rw [target]
  exact ⟨List.prefix_append _ _, by simpa using more⟩

end Paths

section Steps

variable {disk before between after : Disk} {f : OutputFile} {files : List OutputFile}
  {names : List String}

theorem exists_parent {path : String} (resolved : disk.resolve path = .ok names)
    (some : names ≠ []) :
    ∃ dir last, parent? path = .some dir ∧ disk.startOf path = disk.startOf dir ∧
      components path = components dir ++ [last] := by
  obtain ⟨full, -, target⟩ := resolve_eq_ok_iff.mp resolved
  have steps := components_parent path
  cases parent : parent? path with
  | none =>
    rw [parent] at steps
    have rooted : components path = [root] := steps.resolve_left full
    rw [absoluteNames, rooted] at target
    exact absurd target.symm some
  | some dir =>
    rw [parent] at steps
    obtain ⟨absolute, last, split⟩ := steps
    refine ⟨dir, last, rfl, ?_, split⟩
    rw [startOf, startOf, absolute]

theorem above_of_onTheWay {path dir : String} {last : Component}
    (split : components path = components dir ++ [last])
    (way : OnTheWay (disk.startOf dir) (components dir) names) : Above disk.cwd path names := by
  obtain ⟨steps, ⟨rest, whole⟩, some, rfl⟩ := way
  refine ⟨steps, rest ++ [last], some, by simp, ?_, ?_⟩
  · rw [split, ← whole, List.append_assoc]
  · exact (foldl_move_startOf disk ⟨rest, whole⟩ (.inl some)).symm

def writeInto (ready : Disk) (f : OutputFile) : Disk × Except Fault Unit :=
  match ready.writeFile f.path f.contents.toUTF8 with
  | .ok written => (written, .ok ())
  | .error cause => (ready, .error (.during .writeFile f.path (.io cause)))

theorem attempt_eq (disk : Disk) {dir : String} (parent : parent? f.path = some dir) :
    f.attempt disk =
      match disk.makePath dir with
      | (ready, .error cause) => (ready, .error (.during .makeOutput dir (.io cause)))
      | (ready, .ok _) => f.writeInto ready := by
  unfold attempt makeParent
  rw [parent]
  simp only
  rcases disk.makePath dir with ⟨ready, cause | _⟩ <;> rfl

theorem attempt_bare (disk : Disk) (parent : parent? f.path = none) :
    f.attempt disk = f.writeInto disk := by
  unfold attempt makeParent
  rw [parent]
  rfl

theorem writeInto_ok (ok : f.writeInto before = (after, .ok ())) :
    before.writeFile f.path f.contents.toUTF8 = .ok after := by
  unfold writeInto at ok
  split at ok
  · rename_i written writes
    cases ok
    exact writes
  · cases ok

theorem writeInto_error {cause : Fault} (error : f.writeInto before = (after, .error cause)) :
    after = before := by
  unfold writeInto at error
  split at error
  · cases error
  · cases error
    rfl

theorem attempt_ok_parent (ok : f.attempt before = (after, .ok ())) :
    ∃ dir ready, parent? f.path = some dir ∧ before.makePath dir = (ready, .ok ()) ∧
      f.writeInto ready = (after, .ok ()) := by
  cases parent : parent? f.path with
  | none =>
    rw [attempt_bare before parent] at ok
    obtain ⟨names, resolved, free, -, -⟩ := writeFile_ok (writeInto_ok ok)
    obtain ⟨dir, -, found, -⟩ := exists_parent resolved fun same => free (same ▸ node?_root before)
    rw [parent] at found
    cases found
  | some dir =>
    rw [attempt_eq before parent] at ok
    split at ok
    · cases ok
    · rename_i ready _ made
      exact ⟨dir, ready, rfl, made, ok⟩

theorem attempt_ok (ok : f.attempt before = (after, .ok ())) : Writes before f after := by
  obtain ⟨dir, ready, parent, made, ok⟩ := attempt_ok_parent ok
  have grows := makePath_grows before dir
  rw [made] at grows
  obtain ⟨names, resolved, free, plain, rfl⟩ := writeFile_ok (writeInto_ok ok)
  have some : names ≠ [] := fun same => free (same ▸ node?_root ready)
  have keeps : Keeps ready (ready.put names (.file f.contents.toUTF8)) := .put free
  have target : f.place before.cwd = names := by
    rw [place, ← grows.cwd]
    exact (resolve_eq_ok_iff.mp resolved).2.2
  refine ⟨grows.toKeeps.trans keeps, ?_, fun other apart => ?_⟩
  · rw [target]
    exact find_file_iff.mpr ⟨keeps.resolve resolved, node?_put_self some, plain⟩
  · rw [node?_put_of_ne (target ▸ apart)]
    rcases grows.nodes other with same | ⟨bare, there, way⟩
    · exact .inl same
    · obtain ⟨_, last, found, -, split⟩ := exists_parent resolved some
      rw [parent] at found
      cases found
      exact .inr ⟨bare, there, above_of_onTheWay split way⟩

theorem attempt_error {cause : Fault} (error : f.attempt before = (after, .error cause)) :
    Grows before (Above before.cwd f.path) after := by
  cases parent : parent? f.path with
  | none =>
    rw [attempt_bare before parent] at error
    rw [writeInto_error error]
    exact .refl ..
  | some dir =>
    have steps := components_parent f.path
    rw [parent] at steps
    obtain ⟨-, last, split⟩ := steps
    have grows := (makePath_grows before dir).mono fun _ => above_of_onTheWay split
    rw [attempt_eq before parent] at error
    split at error
    · rename_i made
      cases error
      rwa [made] at grows
    · rename_i made
      rw [made] at grows
      rwa [writeInto_error error]

theorem attempt_of_find {content : ByteArray}
    (found : disk.find f.path = .ok (names, .file content)) :
    f.attempt disk = (disk.put names (.file f.contents.toUTF8), .ok ()) := by
  obtain ⟨resolved, here, -⟩ := find_eq_ok_iff.mp found
  have some : names ≠ [] := by
    rintro rfl
    cases here
  obtain ⟨dir, last, parent, same, split⟩ := exists_parent resolved some
  obtain ⟨-, walks, -⟩ := resolve_eq_ok_iff.mp resolved
  rw [same, split] at walks
  have there : disk.node? ((components dir).foldl move (disk.startOf dir)) = .some .directory :=
    walks (components dir) last [] rfl
  have first : Walks disk (disk.startOf dir) (components dir) := by
    intro before step after steps
    exact walks before step (after ++ [last]) (by rw [steps]; simp)
  rw [attempt_eq disk parent, makePath_of_walks first there]
  simp only [writeInto, writeFile_of_isFile found]

theorem writeAll_cons (disk : Disk) (f : OutputFile) (files : List OutputFile) :
    writeAll disk (f :: files) =
      match f.attempt disk with
      | (written, .ok _) => writeAll written files
      | (left, .error cause) => (left, .error cause) :=
  rfl

theorem Wrote.nil (disk : Disk) : Wrote disk [] disk :=
  ⟨.refl disk, nofun, fun earlier f later split => by simp at split, fun _ _ => .inl rfl⟩

theorem Wrote.cons (first : Writes before f between) (rest : Wrote between files after) :
    Wrote before (f :: files) after := by
  have cwd := first.keeps.cwd
  constructor
  case keeps => exact first.keeps.trans rest.keeps
  case found =>
    intro g member
    rcases List.mem_cons.mp member with rfl | member
    · exact rest.keeps.find first.here
    · exact cwd ▸ rest.found g member
  case last =>
    intro earlier g later split final
    cases earlier with
    | cons _ earlier =>
      cases split
      have held := rest.last earlier g later rfl (by rw [cwd]; exact final)
      rwa [cwd] at held
    -- the first file stays where no later one leads to its place
    | nil =>
      cases split
      have here := (find_eq_ok_iff.mp first.here).2.1
      rcases rest.others (f.place before.cwd) (by rw [cwd]; exact final) with same | ⟨bare, -⟩
      · rw [same, here]
      · rw [bare] at here
        cases here
  case others =>
    intro names apart
    have other : names ≠ f.place before.cwd := fun same => apart f (List.mem_cons_self ..) same.symm
    have others : ∀ g ∈ files, g.place between.cwd ≠ names := fun g member =>
      cwd ▸ apart g (List.mem_cons_of_mem _ member)
    rcases rest.others names others with same | ⟨bare, there, g, member, above⟩
    · rw [same]
      rcases first.others names other with same | ⟨bare, there, above⟩
      · exact .inl same
      · exact .inr ⟨bare, there, f, List.mem_cons_self .., above⟩
    -- a directory that a later file makes was not there before the first one either
    · rcases first.others names other with same | ⟨-, there', -⟩
      · rw [same] at bare
        exact .inr ⟨bare, there, g, List.mem_cons_of_mem _ member, cwd ▸ above⟩
      · rw [there'] at bare
        cases bare

theorem writeAll_ok (ok : writeAll before files = (after, .ok ())) : Wrote before files after := by
  induction files generalizing before with
  | nil =>
    cases ok
    exact .nil _
  | cons f files ih =>
    rw [writeAll_cons] at ok
    split at ok
    · rename_i written _ writes
      exact .cons (attempt_ok writes) (ih ok)
    · cases ok

theorem writeAll_error {cause : Fault} (error : writeAll before files = (after, .error cause)) :
    ∃ done f rest between, files = done ++ f :: rest ∧ Wrote before done between ∧
      Grows between (Above before.cwd f.path) after := by
  induction files generalizing before with
  | nil => cases error
  | cons f files ih =>
    rw [writeAll_cons] at error
    split at error
    · rename_i written _ writes
      obtain ⟨done, g, rest, between, rfl, wrote, grows⟩ := ih error
      have first := attempt_ok writes
      exact ⟨f :: done, g, rest, between, rfl, .cons first wrote, first.keeps.cwd ▸ grows⟩
    · rename_i left _ failed
      cases error
      exact ⟨[], f, files, before, rfl, .nil before, attempt_error failed⟩

theorem attempt_isTree (tree : before.IsTree) (ok : f.attempt before = (after, .ok ())) :
    after.IsTree := by
  obtain ⟨dir, ready, -, made, ok⟩ := attempt_ok_parent ok
  have grown := tree.makePath dir
  rw [made] at grown
  obtain ⟨names, resolved, free, -, rfl⟩ := writeFile_ok (writeInto_ok ok)
  have some : names ≠ [] := fun same => free (same ▸ node?_root ready)
  obtain ⟨-, walks, target⟩ := resolve_eq_ok_iff.mp resolved
  obtain ⟨dir, last, -, -, split⟩ := exists_parent resolved some
  have here := walks (components dir) last [] split
  rw [← foldl_components, split, List.foldl_append] at target
  change move ((components dir).foldl move (ready.startOf f.path)) last = names at target
  obtain ⟨-, above⟩ := grown.dropLast_move here (by rw [target]; exact free)
  rw [target] at above
  exact grown.put some (by rw [above, here]) (.inr free)

theorem writeAll_isTree (tree : before.IsTree) (ok : writeAll before files = (after, .ok ())) :
    after.IsTree := by
  induction files generalizing before with
  | nil =>
    cases ok
    exact tree
  | cons f files ih =>
    rw [writeAll_cons] at ok
    split at ok
    · rename_i written _ writes
      exact ih (attempt_isTree tree writes) ok
    · cases ok

theorem writeAll_of_found
    (found : ∀ f ∈ files, ∃ content, disk.find f.path = .ok (f.place disk.cwd, .file content)) :
    ∃ again, writeAll disk files = (again, .ok ()) := by
  induction files generalizing disk with
  | nil => exact ⟨disk, rfl⟩
  | cons f files ih =>
    obtain ⟨_, here⟩ := found f (List.mem_cons_self ..)
    have written := attempt_of_find here
    have keeps := (attempt_ok written).keeps
    rw [writeAll_cons, written]
    refine ih fun g member => ?_
    obtain ⟨_, there⟩ := found g (List.mem_cons_of_mem _ member)
    exact keeps.cwd ▸ keeps.find there

end Steps

namespace Wrote

variable {before after again : Disk} {files : List OutputFile} {f : OutputFile} {names : List String}

theorem exists_last {cwd : List String} (some : ∃ f ∈ files, f.place cwd = names) :
    ∃ earlier g later, files = earlier ++ g :: later ∧ g.place cwd = names ∧
      ∀ h ∈ later, h.place cwd ≠ names := by
  induction files with
  | nil =>
    obtain ⟨_, member, _⟩ := some
    cases member
  | cons first files ih =>
    by_cases behind : ∃ f ∈ files, f.place cwd = names
    · obtain ⟨earlier, g, later, rfl, here, final⟩ := ih behind
      exact ⟨first :: earlier, g, later, rfl, here, final⟩
    · obtain ⟨f, member, here⟩ := some
      rcases List.mem_cons.mp member with rfl | member
      · exact ⟨[], f, files, rfl, here, fun h later same => behind ⟨h, later, same⟩⟩
      · exact absurd ⟨f, member, here⟩ behind

theorem readText (wrote : Wrote before files after) (member : f ∈ files) :
    ∃ g ∈ files, g.place before.cwd = f.place before.cwd ∧ after.readText f.path = .ok g.contents := by
  have written : ∃ g ∈ files, g.place before.cwd = f.place before.cwd := ⟨f, member, rfl⟩
  obtain ⟨earlier, g, later, split, same, final⟩ := exists_last written
  have listed : g ∈ files := by simp [split]
  have held := wrote.last earlier g later split (same ▸ final)
  obtain ⟨content, found⟩ := wrote.found f member
  rw [same, (find_eq_ok_iff.mp found).2.1] at held
  cases held
  refine ⟨g, listed, same, ?_⟩
  rw [Disk.readText, found]
  exact decode_toUTF8 g.contents

theorem readText_iff (wrote : Wrote before files after) :
    (∀ f ∈ files, after.readText f.path = .ok f.contents) ↔
      ∀ f ∈ files, ∀ g ∈ files, f.place before.cwd = g.place before.cwd →
        f.contents = g.contents := by
  have same_text {f g : OutputFile} (one : f ∈ files) (other : g ∈ files)
      (same : f.place before.cwd = g.place before.cwd) :
      after.readText f.path = after.readText g.path := by
    obtain ⟨_, here⟩ := wrote.found f one
    obtain ⟨_, there⟩ := wrote.found g other
    have node := (find_eq_ok_iff.mp here).2.1
    rw [same, (find_eq_ok_iff.mp there).2.1] at node
    cases node
    rw [Disk.readText, Disk.readText, here, there]
    rfl
  constructor
  · intro own f one g other same
    have texts := same_text one other same
    rw [own f one, own g other] at texts
    exact Except.ok.inj texts
  · intro equal f member
    obtain ⟨g, listed, same, text⟩ := wrote.readText member
    rw [text, equal g listed f member same]

-- two spellings of one path are one file
example : (writeAll ⟨[], []⟩ [⟨"/a/b", "x"⟩, ⟨"/a/./b", "y"⟩]).1.readText "/a/b" = .ok "y" := by
  rfl

theorem changed (wrote : Wrote before files after) (other : after.node? names ≠ before.node? names) :
    (∃ f ∈ files, f.place before.cwd = names) ∨
    before.node? names = none ∧ after.node? names = some .directory ∧
      ∃ f ∈ files, Above before.cwd f.path names ∧
        (".." ∉ components f.path →
          names <+: f.place before.cwd ∧ names ≠ f.place before.cwd) := by
  by_cases written : ∃ f ∈ files, f.place before.cwd = names
  · exact .inl written
  · have apart : ∀ f ∈ files, f.place before.cwd ≠ names := fun f member same =>
      written ⟨f, member, same⟩
    obtain ⟨bare, there, f, member, above⟩ := (wrote.others names apart).resolve_left other
    exact .inr ⟨bare, there, f, member, above, above.isPrefix⟩

/-- Once files are written, writing them again changes nothing. -/
theorem node?_again (wrote : Wrote before files after) (once : Wrote after files again)
    (names : List String) : again.node? names = after.node? names := by
  have cwd := wrote.keeps.cwd
  by_cases some : ∃ f ∈ files, f.place before.cwd = names
  · obtain ⟨earlier, g, later, split, rfl, final⟩ := exists_last some
    have first := wrote.last earlier g later split final
    have second := once.last earlier g later split (by rw [cwd]; exact final)
    rw [cwd] at second
    rw [first, second]
  · have apart : ∀ f ∈ files, f.place after.cwd ≠ names := by
      rw [cwd]
      exact fun f member same => some ⟨f, member, same⟩
    rcases once.others names apart with same | ⟨bare, -, f, member, steps, rest, full, more, split, rfl⟩
    · exact same
    -- whatever the path of a file runs through was made when it was written first
    · obtain ⟨_, found⟩ := wrote.found f member
      obtain ⟨-, walks, -⟩ := resolve_eq_ok_iff.mp (find_eq_ok_iff.mp found).1
      obtain ⟨step, rest, rfl⟩ := List.exists_cons_of_ne_nil more
      have there := walks steps step rest split
      rw [foldl_move_startOf after ⟨_, split.symm⟩ (.inl full), bare] at there
      cases there

end Wrote

end Dispatchers.OutputFile
