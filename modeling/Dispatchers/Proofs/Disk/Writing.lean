import Dispatchers.Disk.Write
import Dispatchers.Proofs.Disk.Components
import Dispatchers.Proofs.Except

namespace Dispatchers.Disk

section Nodes

variable {disk : Disk} {place names : List String} {node : Node}

theorem node?_root (disk : Disk) : disk.node? [] = some .directory :=
  rfl

theorem lookup_filter_ne (nodes : List (List String × Node)) (apart : place ≠ names) :
    (nodes.filter (·.1 ≠ names)).lookup place = nodes.lookup place := by
  induction nodes with
  | nil => rfl
  | cons entry nodes ih =>
    obtain ⟨other, held⟩ := entry
    by_cases here : other = names
    · rw [List.filter_cons_of_neg (by simpa using here), ih, List.lookup_cons,
        beq_eq_false_iff_ne.mpr (here ▸ apart)]
    · rw [List.filter_cons_of_pos (by simpa using here), List.lookup_cons, List.lookup_cons, ih]

theorem node?_put_self (some : names ≠ []) : (disk.put names node).node? names = .some node := by
  rw [node?, if_neg (by simpa using some), put, List.lookup_cons_self]

theorem node?_put_of_ne (apart : place ≠ names) : (disk.put names node).node? place = disk.node? place := by
  unfold node?
  split
  · rfl
  · rw [put, List.lookup_cons, beq_eq_false_iff_ne.mpr apart]
    exact lookup_filter_ne disk.nodes apart

end Nodes

def startOf (disk : Disk) (path : String) : List String :=
  if isAbsolute path then [] else disk.cwd

def Walks (disk : Disk) (start : List String) (steps : List Component) : Prop :=
  ∀ before step after, steps = before ++ step :: after →
    disk.node? (before.foldl move start) = some .directory

section Walking

variable {disk : Disk} {path : String} {start names : List String} {step : Component}
  {steps : List Component}

theorem enter_eq_ok_iff :
    disk.enter start step = .ok names ↔ disk.node? start = some .directory ∧ move start step = names := by
  unfold enter
  split
  · rename_i here
    simp [here]
  · rename_i here
    simp [here]
  · rename_i here
    simp [here]

theorem walks_nil : Walks disk start [] := by
  intro before step after split
  simp at split

theorem walks_cons :
    Walks disk start (step :: steps) ↔
      disk.node? start = some .directory ∧ Walks disk (move start step) steps := by
  constructor
  · intro walks
    refine ⟨walks [] step steps rfl, fun before next after split => ?_⟩
    exact walks (step :: before) next after (by rw [split]; rfl)
  · rintro ⟨here, walks⟩ before next after split
    cases before with
    | nil => exact here
    | cons first before =>
      cases split
      exact walks before next after rfl

theorem foldlM_enter_eq_ok_iff :
    steps.foldlM disk.enter start = .ok names ↔
      Walks disk start steps ∧ steps.foldl move start = names := by
  induction steps generalizing start with
  | nil =>
    rw [List.foldlM_nil]
    exact ⟨fun same => ⟨walks_nil, Except.ok.inj same⟩, fun ⟨_, same⟩ => congrArg _ same⟩
  | cons step steps ih =>
    rw [List.foldlM_cons, List.foldl_cons, walks_cons]
    cases entered : disk.enter start step with
    | error cause =>
      refine ⟨nofun, fun ⟨⟨here, _⟩, _⟩ => ?_⟩
      rw [enter_eq_ok_iff.mpr ⟨here, rfl⟩] at entered
      cases entered
    | ok next =>
      obtain ⟨here, rfl⟩ := enter_eq_ok_iff.mp entered
      exact ih.trans ⟨fun ⟨walks, same⟩ => ⟨⟨here, walks⟩, same⟩,
        fun ⟨⟨_, walks⟩, same⟩ => ⟨walks, same⟩⟩

theorem foldl_move_startOf (disk : Disk) {before : List Component} (leads : before <+: components path)
    (some : before ≠ [] ∨ isAbsolute path = false) :
    before.foldl move (disk.startOf path) = before.foldl move disk.cwd := by
  unfold startOf
  cases absolute : isAbsolute path with
  | false => rfl
  | true =>
    cases before with
    | nil => simp [absolute] at some
    | cons step before =>
      rw [components_of_isAbsolute absolute, List.cons_prefix_cons] at leads
      rw [leads.1]
      rfl

theorem foldl_components (disk : Disk) (path : String) :
    (components path).foldl move (disk.startOf path) = absoluteNames disk.cwd path := by
  refine foldl_move_startOf disk (List.prefix_refl _) ?_
  cases absolute : isAbsolute path with
  | false => exact .inr rfl
  | true => simp [components, absolute]

theorem resolve_eq_ok_iff :
    disk.resolve path = .ok names ↔
      path ≠ "" ∧ Walks disk (disk.startOf path) (components path) ∧
        absoluteNames disk.cwd path = names := by
  unfold resolve
  by_cases empty : path = ""
  · simp [empty]
  · rw [if_neg (by simpa using empty), ← foldl_components]
    exact foldlM_enter_eq_ok_iff.trans ⟨fun found => ⟨empty, found⟩, And.right⟩

theorem find_eq_ok_iff {node : Node} :
    disk.find path = .ok (names, node) ↔
      disk.resolve path = .ok names ∧ disk.node? names = some node ∧
        (node = .directory ∨ endsInSlash path = false) := by
  unfold find
  rw [bind_eq_ok_iff]
  constructor
  · rintro ⟨place, resolved, found⟩
    split at found
    · cases found
    · rename_i here
      cases found
      exact ⟨resolved, here, .inl rfl⟩
    · rename_i here
      split at found
      · cases found
      · rename_i plain
        cases found
        exact ⟨resolved, here, .inr (by simpa using plain)⟩
  · rintro ⟨resolved, here, plain⟩
    refine ⟨names, resolved, ?_⟩
    rw [here]
    cases node with
    | directory => rfl
    | file content =>
      rcases plain with absent | plain
      · cases absent
      · simp only [plain, Bool.false_eq_true, if_false]
        rfl

theorem find_file_iff {content : ByteArray} :
    disk.find path = .ok (names, .file content) ↔
      disk.resolve path = .ok names ∧ disk.node? names = some (.file content) ∧
        endsInSlash path = false := by
  simp [find_eq_ok_iff]

theorem isFile_iff :
    disk.isFile path = true ↔ ∃ names content, disk.find path = .ok (names, .file content) := by
  unfold isFile
  split
  · rename_i names content found
    exact ⟨fun _ => ⟨names, content, found⟩, fun _ => rfl⟩
  · rename_i other
    exact ⟨nofun, fun ⟨names, content, found⟩ => absurd found (other names content)⟩

theorem isDirectory_iff :
    disk.isDirectory path = true ↔ ∃ names, disk.find path = .ok (names, .directory) := by
  unfold isDirectory
  split
  · rename_i names found
    exact ⟨fun _ => ⟨names, found⟩, fun _ => rfl⟩
  · rename_i other
    exact ⟨nofun, fun ⟨names, found⟩ => absurd found (other names)⟩

end Walking

/-- A disk that has more directories than another one, all of them among `new`. -/
structure Grows (disk : Disk) (new : List String → Prop) (grown : Disk) : Prop where
  cwd : grown.cwd = disk.cwd
  nodes : ∀ place, grown.node? place = disk.node? place ∨
    disk.node? place = none ∧ grown.node? place = some .directory ∧ new place

namespace Grows

variable {disk grown more : Disk} {new newer : List String → Prop} {place : List String} {node : Node}

theorem refl (disk : Disk) (new : List String → Prop) : Grows disk new disk :=
  ⟨rfl, fun _ => .inl rfl⟩

theorem mono (grows : Grows disk new grown) (among : ∀ place, new place → newer place) :
    Grows disk newer grown := by
  refine ⟨grows.cwd, fun place => ?_⟩
  rcases grows.nodes place with same | ⟨bare, made, here⟩
  · exact .inl same
  · exact .inr ⟨bare, made, among place here⟩

theorem trans (one : Grows disk new grown) (other : Grows grown new more) : Grows disk new more := by
  refine ⟨other.cwd.trans one.cwd, fun place => ?_⟩
  rcases other.nodes place with same | ⟨bare, made, here⟩
  · rw [same]
    exact one.nodes place
  · rcases one.nodes place with same | ⟨_, held, _⟩
    · exact .inr ⟨same ▸ bare, made, here⟩
    · rw [bare] at held
      cases held

theorem keeps (grows : Grows disk new grown) (here : disk.node? place = some node) :
    grown.node? place = some node := by
  rcases grows.nodes place with same | ⟨bare, _, _⟩
  · rw [same, here]
  · rw [bare] at here
    cases here

theorem put (bare : disk.node? place = none) (among : new place) :
    Grows disk new (disk.put place .directory) := by
  have some : place ≠ [] := by
    rintro rfl
    cases bare
  refine ⟨rfl, fun other => ?_⟩
  by_cases same : other = place
  · subst same
    exact .inr ⟨bare, node?_put_self some, among⟩
  · exact .inl (node?_put_of_ne same)

end Grows

/-- A disk on which directories stay directories and files stay files. -/
structure Keeps (disk after : Disk) : Prop where
  cwd : after.cwd = disk.cwd
  directories : ∀ place, disk.node? place = some .directory → after.node? place = some .directory
  files : ∀ place content, disk.node? place = some (.file content) →
    ∃ other, after.node? place = some (.file other)

namespace Keeps

variable {disk between after : Disk} {path : String} {place : List String}

theorem refl (disk : Disk) : Keeps disk disk :=
  ⟨rfl, fun _ here => here, fun _ content here => ⟨content, here⟩⟩

theorem trans (one : Keeps disk between) (other : Keeps between after) : Keeps disk after := by
  refine ⟨other.cwd.trans one.cwd, fun place here => ?_, fun place content here => ?_⟩
  · exact other.directories place (one.directories place here)
  · obtain ⟨_, here⟩ := one.files place content here
    exact other.files place _ here

theorem put {content : ByteArray} (free : disk.node? place ≠ some .directory) :
    Keeps disk (disk.put place (.file content)) := by
  have some : place ≠ [] := fun same => free (same ▸ node?_root disk)
  refine ⟨rfl, fun other here => ?_, fun other old here => ?_⟩
  · have apart : other ≠ place := fun same => free (same ▸ here)
    rw [node?_put_of_ne apart, here]
  · by_cases same : other = place
    · subst same
      exact ⟨content, node?_put_self some⟩
    · exact ⟨old, by rw [node?_put_of_ne same, here]⟩

theorem walks {start : List String} {steps : List Component} (keeps : Keeps disk after)
    (walks : Walks disk start steps) : Walks after start steps :=
  fun before step rest split => keeps.directories _ (walks before step rest split)

theorem startOf (keeps : Keeps disk after) (path : String) : after.startOf path = disk.startOf path := by
  unfold Disk.startOf
  rw [keeps.cwd]

theorem resolve (keeps : Keeps disk after) (resolved : disk.resolve path = .ok place) :
    after.resolve path = .ok place := by
  obtain ⟨some, walks, target⟩ := resolve_eq_ok_iff.mp resolved
  refine resolve_eq_ok_iff.mpr ⟨some, ?_, by rw [keeps.cwd, target]⟩
  rw [keeps.startOf]
  exact keeps.walks walks

theorem find {content : ByteArray} (keeps : Keeps disk after)
    (found : disk.find path = .ok (place, .file content)) :
    ∃ other, after.find path = .ok (place, .file other) := by
  obtain ⟨resolved, here, plain⟩ := find_file_iff.mp found
  obtain ⟨other, here⟩ := keeps.files _ _ here
  exact ⟨other, find_file_iff.mpr ⟨keeps.resolve resolved, here, plain⟩⟩

end Keeps

theorem Grows.toKeeps {disk grown : Disk} {new : List String → Prop} (grows : Grows disk new grown) :
    Keeps disk grown :=
  ⟨grows.cwd, fun _ => grows.keeps, fun _ content here => ⟨content, grows.keeps here⟩⟩

def OnTheWay (start : List String) (steps : List Component) (place : List String) : Prop :=
  ∃ before, before <+: steps ∧ before ≠ [] ∧ before.foldl move start = place

section Directories

variable {disk made : Disk} {path : String} {start names : List String} {step : Component}
  {steps : List Component}

theorem enterMaking_ok (ok : enterMaking (disk, start) step = .ok (made, names)) :
    disk.node? start = some .directory ∧ move start step = names ∧ Grows disk (· = names) made := by
  obtain ⟨next, entered, ok⟩ := bind_eq_ok_iff.mp ok
  obtain ⟨here, rfl⟩ := enter_eq_ok_iff.mp entered
  split at ok
  · cases ok
    exact ⟨here, rfl, .refl ..⟩
  · rename_i bare
    cases ok
    exact ⟨here, rfl, .put bare rfl⟩

/-- Making directories changes nothing else, also where it stops at a fault. -/
theorem makeEach_grows (disk : Disk) (start : List String) (steps : List Component) :
    Grows disk (OnTheWay start steps) (makeEach (disk, start) steps).1 := by
  induction steps generalizing disk start with
  | nil => exact .refl ..
  | cons step steps ih =>
    rw [makeEach]
    cases entered : enterMaking (disk, start) step with
    | error cause => exact .refl ..
    | ok next =>
      obtain ⟨between, place⟩ := next
      obtain ⟨-, rfl, first⟩ := enterMaking_ok entered
      refine (first.mono ?_).trans ((ih between _).mono ?_)
      · rintro _ rfl
        exact ⟨[step], by simp, by simp, rfl⟩
      · rintro place ⟨before, leads, -, target⟩
        exact ⟨step :: before, List.cons_prefix_cons.mpr ⟨rfl, leads⟩, List.cons_ne_nil _ _, target⟩

theorem makeEach_ok (ok : makeEach (disk, start) steps = (made, .ok names)) :
    Walks made start steps ∧ steps.foldl move start = names := by
  induction steps generalizing disk start with
  | nil =>
    cases ok
    exact ⟨walks_nil, rfl⟩
  | cons step steps ih =>
    have grows := makeEach_grows disk start (step :: steps)
    rw [ok] at grows
    rw [makeEach] at ok
    split at ok
    · rename_i next entered
      obtain ⟨between, place⟩ := next
      obtain ⟨here, rfl, -⟩ := enterMaking_ok entered
      obtain ⟨walks, target⟩ := ih ok
      exact ⟨walks_cons.mpr ⟨grows.keeps here, walks⟩, target⟩
    · cases ok

theorem makeEach_of_walks (walks : Walks disk start steps)
    (there : disk.node? (steps.foldl move start) ≠ none) :
    makeEach (disk, start) steps = (disk, .ok (steps.foldl move start)) := by
  induction steps generalizing start with
  | nil => rfl
  | cons step steps ih =>
    obtain ⟨here, walks⟩ := walks_cons.mp walks
    have next : disk.node? (move start step) ≠ none := by
      cases steps with
      | nil => exact there
      | cons =>
        rw [(walks_cons.mp walks).1]
        exact nofun
    obtain ⟨node, found⟩ := Option.ne_none_iff_exists'.mp next
    have entered : enterMaking (disk, start) step = .ok (disk, move start step) := by
      refine bind_eq_ok_iff.mpr ⟨_, enter_eq_ok_iff.mpr ⟨here, rfl⟩, ?_⟩
      rw [found]
      rfl
    rw [makeEach, entered]
    exact ih walks there

theorem makePath_eq (disk : Disk) (path : String) :
    disk.makePath path =
      match makeEach (disk, disk.startOf path) (components path) with
      | (made, .error cause) => (made, .error cause)
      | (made, .ok names) =>
        match made.node? names with
        | some .directory => (made, .ok ())
        | some (.file _) => (made, .error .alreadyExists)
        | none => (made, .error .notFound) :=
  rfl

theorem makePath_fst (disk : Disk) (path : String) :
    (disk.makePath path).1 = (makeEach (disk, disk.startOf path) (components path)).1 := by
  rw [makePath_eq]
  rcases makeEach (disk, disk.startOf path) (components path) with ⟨left, cause | names⟩
  · rfl
  · simp only
    split <;> rfl

theorem makePath_grows (disk : Disk) (path : String) :
    Grows disk (OnTheWay (disk.startOf path) (components path)) (disk.makePath path).1 := by
  rw [makePath_fst]
  exact makeEach_grows ..

theorem makePath_eq_ok_iff :
    disk.makePath path = (made, .ok ()) ↔ ∃ names,
      makeEach (disk, disk.startOf path) (components path) = (made, .ok names) ∧
        made.node? names = some .directory := by
  rw [makePath_eq]
  rcases makeEach (disk, disk.startOf path) (components path) with ⟨left, cause | names⟩
  · simp
  · constructor
    · intro ok
      simp only at ok
      split at ok
      · rename_i there
        cases ok
        exact ⟨names, rfl, there⟩
      · cases ok
      · cases ok
    · rintro ⟨_, same, there⟩
      cases same
      simp only [there]

theorem makePath_of_walks (walks : Walks disk (disk.startOf path) (components path))
    (there : disk.node? ((components path).foldl move (disk.startOf path)) = some .directory) :
    disk.makePath path = (disk, .ok ()) := by
  have led := makeEach_of_walks walks (by rw [there]; exact nofun)
  exact makePath_eq_ok_iff.mpr ⟨_, led, there⟩

theorem writeFile_ok {written : Disk} {content : ByteArray}
    (ok : disk.writeFile path content = .ok written) :
    ∃ names, disk.resolve path = .ok names ∧ disk.node? names ≠ some .directory ∧
      endsInSlash path = false ∧ written = disk.put names (.file content) := by
  obtain ⟨names, resolved, ok⟩ := bind_eq_ok_iff.mp ok
  refine ⟨names, resolved, ?_⟩
  split at ok
  · cases ok
  · rename_i here
    split at ok
    · cases ok
    · rename_i plain
      cases ok
      exact ⟨by rw [here]; exact nofun, by simpa using plain, rfl⟩
  · rename_i here
    split at ok
    · cases ok
    · rename_i plain
      split at ok
      · cases ok
        exact ⟨by rw [here]; exact nofun, by simpa using plain, rfl⟩
      · cases ok
      · cases ok

theorem writeFile_of_isFile {content old : ByteArray} (found : disk.find path = .ok (names, .file old)) :
    disk.writeFile path content = .ok (disk.put names (.file content)) := by
  obtain ⟨resolved, here, plain⟩ := find_file_iff.mp found
  refine bind_eq_ok_iff.mpr ⟨names, resolved, ?_⟩
  simp only [here, plain, Bool.false_eq_true, if_false]
  rfl

end Directories

end Dispatchers.Disk
