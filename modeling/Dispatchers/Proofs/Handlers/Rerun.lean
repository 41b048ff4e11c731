import Dispatchers.Proofs.Delivery
import Dispatchers.Proofs.Handlers.Coherence
import Dispatchers.Proofs.Handlers.Looks

namespace Dispatchers.Handlers

open Controller Disk Resolve Template

section Runs

variable {disk after : Disk} {environment : Environment} {o : Options} {g : Generated String}

theorem generate_ok (ok : generate disk environment o = (after, .ok g)) :
    ∃ made, prepare disk environment o = .ok made ∧
      g = ⟨made.files.map (·.path), made.report⟩ ∧
      ∃ paths, OutputFile.deliver disk o.dryRun made.files = (after, .ok paths) := by
  cases ready : prepare disk environment o with
  | error cause =>
    rw [generate_of_error ready] at ok
    cases ok
  | ok made =>
    rw [generate_of_prepare ready] at ok
    rcases delivered : OutputFile.deliver disk o.dryRun made.files with ⟨last, cause | paths⟩
    · rw [delivered] at ok
      cases ok
    · rw [delivered] at ok
      cases ok
      exact ⟨made, rfl, rfl, paths, delivered⟩

theorem scan_of_prepare {made : Generated OutputFile}
    (ready : prepare disk environment o = .ok made) :
    ∃ l r, scan disk environment o = .ok (l, r) := by
  obtain ⟨⟨l, r⟩, scanned, -⟩ := bind_eq_ok_iff.mp ready
  exact ⟨l, r, scanned⟩

end Runs

/-- A run that does not look at what it changes can be repeated: it gives the same files and
problems again and leaves the disk as it is. -/
theorem generate_again {disk after : Disk} {environment : Environment} {o : Options}
    {g : Generated String} (tree : disk.IsTree)
    (ok : generate disk environment o = (after, .ok g))
    (unseen : ∀ place, after.node? place ≠ disk.node? place → ¬Looks disk environment o place) :
    ∃ again, generate after environment o = (again, .ok g) ∧ again.cwd = after.cwd ∧
      ∀ place, again.node? place = after.node? place := by
  obtain ⟨made, ready, rfl, paths, delivered⟩ := generate_ok ok
  cases dry : o.dryRun with
  | true =>
    rw [dry, deliver_dry] at delivered
    cases delivered
    exact ⟨_, ok, rfl, fun _ => rfl⟩
  | false =>
    rw [dry] at delivered
    obtain ⟨rfl, written⟩ := deliver_ok delivered
    have wrote := OutputFile.writeAll_ok written
    have cwd := wrote.keeps.cwd
    obtain ⟨l, r, scanned⟩ := scan_of_prepare ready
    -- the second run finds what the first one found, and every file in its place
    have prepared : prepare after environment o = .ok made := by
      rw [← ready]
      refine prepare_of_same tree (OutputFile.writeAll_isTree tree written) cwd ?_ scanned
      exact fun place looks => by_contra fun changed => unseen place changed looks
    obtain ⟨again, rewritten⟩ := OutputFile.writeAll_of_found (cwd.symm ▸ wrote.found)
    have once := OutputFile.writeAll_ok rewritten
    refine ⟨again, ?_, once.keeps.cwd, wrote.node?_again once⟩
    rw [generate_of_prepare prepared, dry, deliver_of_writeAll rewritten]
    rfl

def withFiles (written : List (List String × Node)) (source : ByteArray) : Disk :=
  ⟨written ++ [(["a"], .directory), (["a", "a.go"], .file source)], []⟩

/-- The package that the controller embeds from is not on the disk. -/
def lonely : Disk :=
  withFiles [] (singleSource "a" "A" "b" "B").toUTF8

def lonelyOptions (output : String) : Options :=
  { Options.of "/a" output "routes" with
    markers := ⟨⟨"h", "H", false⟩, ⟨"h", "H", false⟩, ⟨"h", "H", false⟩⟩
    roots := bothRoots }

def settingOf (disk : Disk) : Setting :=
  ⟨disk, ⟨none, bothRoots, []⟩, (lonelyOptions "").markers⟩

def lonelyFiles (output dispatcher shared : String) : List OutputFile :=
  [⟨join output "a.go", dispatcher⟩, ⟨join output "init.go", shared⟩]

def writtenIn (first : String) (dispatcher shared : ByteArray) : List (List String × Node) :=
  [([first, "out", "init.go"], .file shared), ([first, "out", "a.go"], .file dispatcher),
    ([first, "out"], .directory), ([first], .directory)]

def places (first : String) : List (List String) :=
  [[first, "out", "init.go"], [first, "out", "a.go"], [first, "out"], [first]]

section Lonely

variable (source dispatcher shared : ByteArray)

theorem isTree_withFiles : (withFiles [] source).IsTree := by
  refine isTree_of_nodes ?_ ?_
  · show [["a"], ["a", "a.go"]].Nodup
    decide
  · intro entry member
    simp only [withFiles, List.nil_append, List.mem_cons, List.not_mem_nil, or_false] at member
    rcases member with rfl | rfl <;> rfl

section Either

-- before a run and after it
variable {written : List (List String × Node)}
  (known : written = [] ∨ written = writtenIn "b" dispatcher shared)

include known

theorem discover_withFiles :
    Locator.discover (withFiles written source) .empty "/a" bothRoots =
      .ok ⟨none, bothRoots, []⟩ := by
  rcases known with rfl | rfl <;> rfl

theorem readDirectory_withFiles :
    (withFiles written source).readDirectory "/a" = .ok [("a.go", .file source)] := by
  rcases known with rfl | rfl <;> rfl

end Either

theorem dirFor?_withFiles :
    Locator.dirFor? ⟨none, bothRoots, []⟩ (withFiles [] source) "b" = none ∧
      Locator.dirFor? ⟨none, bothRoots, []⟩ (withFiles [] source) "h" = none := by
  exact ⟨rfl, rfl⟩

theorem dirFor?_withFiles_b :
    Locator.dirFor? ⟨none, bothRoots, []⟩ (withFiles (writtenIn "b" dispatcher shared) source) "b" =
      some "/b/" := by
  rfl

theorem package_withFiles_b :
    (withFiles (writtenIn "b" dispatcher shared) source).package "/b/" =
      .error (.noSources "/b/") := by
  have listed : (withFiles (writtenIn "b" dispatcher shared) source).readDirectory "/b/" =
      .ok [("out", .directory)] := by rfl
  simp [Disk.package, listed, sourcesIn]

theorem node?_withFiles {written : List (List String × Node)} {place : List String}
    (apart : place ∉ written.map Prod.fst) :
    (withFiles written source).node? place = (withFiles [] source).node? place := by
  have absent : written.lookup place = none := by
    refine List.lookup_eq_none_iff.mpr fun entry member => ?_
    simpa using fun same : place = entry.1 => apart (same ▸ List.mem_map_of_mem member)
  unfold node?
  split
  · rfl
  · rw [withFiles, List.lookup_append, absent]
    rfl

theorem attempt_of_steps {disk ready after : Disk} {path dir : String} (text : String)
    (parent : Disk.parent? path = some dir) (made : disk.makePath dir = (ready, .ok ()))
    (written : ready.writeFile path text.toUTF8 = .ok after) :
    OutputFile.attempt disk ⟨path, text⟩ = (after, .ok ()) := by
  rw [OutputFile.attempt_eq disk parent, made]
  simp only [OutputFile.writeInto, written]

theorem writeAll_withFiles_o (first second : String) :
    OutputFile.writeAll (withFiles [] source) (lonelyFiles "/o/out" first second) =
      (withFiles (writtenIn "o" first.toUTF8 second.toUTF8) source, .ok ()) := by
  rw [lonelyFiles, OutputFile.writeAll_cons, attempt_of_steps first rfl rfl rfl]
  simp only
  rw [OutputFile.writeAll_cons, attempt_of_steps second rfl rfl rfl]
  rfl

theorem writeAll_withFiles_b (first second : String) :
    OutputFile.writeAll (withFiles [] source) (lonelyFiles "/b/out" first second) =
      (withFiles (writtenIn "b" first.toUTF8 second.toUTF8) source, .ok ()) := by
  rw [lonelyFiles, OutputFile.writeAll_cons, attempt_of_steps first rfl rfl rfl]
  simp only
  rw [OutputFile.writeAll_cons, attempt_of_steps second rfl rfl rfl]
  rfl

end Lonely

theorem package_lonely : lonely.package "/a" = .ok (singleController "a" "/a/a.go" "A" "b" "B") :=
  Disk.package_of_single (readDirectory_withFiles _ .empty .empty (.inl rfl)) (by decide)
    addSource?_crossed_a

theorem packageOf?_lonely :
    packageOf? (settingOf lonely) "/a" "a" = some (singleController "a" "/a/a.go" "A" "b" "B") :=
  packageOf?_eq_some_iff.mpr ⟨"/a", rfl, package_lonely⟩

theorem not_imports_lonely (other : String) : ¬Imports (settingOf lonely) "/a" "a" other := by
  intro imports
  obtain ⟨nowhere, nothing⟩ := dirFor?_withFiles (singleSource "a" "A" "b" "B").toUTF8
  have located : ((settingOf lonely).locator.dirFor? lonely other).isSome = true := imports.located
  rcases eq_of_imports_singleController packageOf?_lonely imports with rfl | rfl
  · rw [show (settingOf lonely).locator.dirFor? lonely "b" = none from nowhere] at located
    cases located
  · rw [show (settingOf lonely).locator.dirFor? lonely "h" = none from nothing] at located
    cases located

theorem exists_resolve_lonely : ∃ r, resolve (settingOf lonely) "/a" [] = .ok r :=
  exists_resolve_of_alone not_imports_lonely packageOf?_lonely

structure Alone (r : Resolution) (P : Scanned) (decl : ControllerDecl) : Prop where
  packages : r.packages = [P]
  root : r.root = 0
  dir : P.dir = "/a"
  crossings : P.crossings.map (·.importPath) = ["b"]
  controllers : P.controllers.values = [decl]
  named : decl.name = "A"
  actions : decl.actions.map (fun action => (action.name, action.results.length)) = [("X", 1)]
  parents : decl.parents = []

theorem alone_of_resolve {r : Resolution} (ok : resolve (settingOf lonely) "/a" [] = .ok r) :
    ∃ P decl, Alone r P decl := by
  have explored := explored_of_resolve ok
  obtain ⟨P, packages, root, complete⟩ := explored.packages_of_alone not_imports_lonely
  have here : r.packages[0]? = some P := by rw [packages]; rfl
  have key : P.importPath = "a" := eq_of_reached_alone not_imports_lonely complete.reached
  have package : P.package = singleController "a" "/a/a.go" "A" "b" "B" := by
    have known := complete.packageOf?
    rw [key, packageOf?_lonely] at known
    exact (Option.some.inj known).symm
  have dir : P.dir = "/a" := by
    have located := complete.located
    rw [key] at located
    exact (Option.some.inj located).symm
  have prefixes : P.prefixes = [] := by
    obtain ⟨Q, there, -, none⟩ := explored.rooted
    rw [root, here] at there
    cases there
    exact none
  have keys : P.controllers.keys = ["A"] := by
    refine (keys_finished complete.controllers).trans ?_
    rw [package, prefixes]
    decide +kernel
  have names := names_eq_keys explored here
  rw [keys] at names
  obtain ⟨decl, controllers, named⟩ := List.map_eq_singleton_iff.mp names
  have found : P.controllers.get? "A" = some decl :=
    named ▸ get?_of_mem_values explored here (by rw [controllers]; exact List.mem_singleton_self _)
  refine ⟨P, decl, packages, root, dir, ?_, controllers, named, ?_, ?_⟩
  · rw [Scanned.crossings, keys, key, package]
    decide +kernel
  · rw [(complete.routed found).actions, package]
    decide +kernel
  · obtain ⟨s, declared, same⟩ := explored.arena.parents 0 P "A" decl here found
    have unlocated :
        s.fields.filterMap (target? (settingOf lonely) P.importPath P.package s) = [] := by
      rw [package] at declared
      cases declared
      have nowhere := (dirFor?_withFiles (singleSource "a" "A" "b" "B").toUTF8).1
      rw [key, package, List.filterMap_cons_none (target?_unlocated rfl (by decide) nowhere)]
      rfl
    rw [unlocated] at same
    exact List.map_eq_nil_iff.mp same

section Preparing

variable {r : Resolution} {P : Scanned} {decl : ControllerDecl}

theorem Alone.only (alone : Alone r P decl) {place : Nat} {Q : Scanned}
    (here : r.packages[place]? = some Q) : Q = P := by
  have member := List.mem_of_getElem? here
  rw [alone.packages] at member
  exact List.mem_singleton.mp member

theorem Alone.places (alone : Alone r P decl) : Plan.places r = [0] := by
  rw [Plan.places, alone.root, alone.packages]
  rfl

theorem importFor?_lonely : Locator.importFor? ⟨none, bothRoots, []⟩ lonely "/a" = some "a" := by
  rfl

theorem Alone.unobtrusive (alone : Alone r P decl) {place : Nat} {Q : Scanned}
    (here : r.packages[place]? = some Q) {other : ControllerDecl}
    (member : other ∈ Q.controllers.values) : Unobtrusive Q other := by
  obtain rfl := alone.only here
  rw [alone.controllers, List.mem_singleton] at member
  subst member
  constructor
  case unreserved =>
    rw [alone.named]
    decide
  case actions =>
    intro action listed
    have known := List.mem_map_of_mem (f := fun action => (action.name, action.results.length)) listed
    rw [alone.actions, List.mem_singleton, Prod.mk.injEq] at known
    rw [known.1]
    decide
  case results =>
    intro action listed
    have known := List.mem_map_of_mem (f := fun action => (action.name, action.results.length)) listed
    rw [alone.actions, List.mem_singleton, Prod.mk.injEq] at known
    rw [known.2]
    decide
  case ownFile =>
    rw [alone.named]
    decide
  case alone =>
    intro another listed
    rw [alone.controllers, List.mem_singleton] at listed
    rw [listed]
  case foreign =>
    rw [alone.parents]
    exact List.forall_mem_nil _

theorem not_rejected_lonely (alone : Alone r P decl)
    (ok : resolve (settingOf lonely) "/a" [] = .ok r) (output : String) {cause : Fault} :
    ¬Rejected lonely ⟨none, bothRoots, []⟩ r (lonelyOptions output) cause := by
  refine not_rejected_of_unobtrusive (explored_of_resolve ok)
    (fun place Q here other => alone.unobtrusive here) ?_ fun several => ?_
  · change Locator.importFor? ⟨none, bothRoots, []⟩ lonely "/a" ≠ none
    rw [importFor?_lonely]
    exact Option.some_ne_none _
  · rw [alone.places] at several
    exact absurd several (by decide)

theorem files_lonely (alone : Alone r P decl) {output : String} {library : Library}
    {files : List OutputFile}
    (rendered : renderHandlers lonely ⟨none, bothRoots, []⟩ r (lonelyOptions output) library =
      .ok files) :
    ∃ dispatcher shared, files = lonelyFiles output dispatcher shared := by
  obtain ⟨p, planned, rendered⟩ := bind_eq_ok_iff.mp rendered
  obtain ⟨made, all, each⟩ := renderSheets_ok rendered
  obtain ⟨rfl, options, -⟩ := plan_ok planned
  have sheets : p.sheets = p.sheetsOf 0 P := by
    rw [Plan.sheets, alone.places, List.flatMap_singleton, alone.packages]
    rfl
  have dir : (p.destination 0 P).dir = output := by
    rw [Plan.destination, if_pos alone.root.symm, options]
    rfl
  rw [sheets, Plan.sheetsOf, alone.controllers] at all
  obtain ⟨dispatcher, _, rfl, first, rest⟩ := List.map_eq_cons_iff.mp all.symm
  obtain ⟨shared, _, rfl, second, rest⟩ := List.map_eq_cons_iff.mp rest
  obtain rfl := List.map_eq_nil_iff.mp rest
  obtain ⟨_, _, -, -, dispatches, -, -⟩ := controllerSheet_ok first.symm
  obtain ⟨_, -, shares, -, -⟩ := packageSheet_ok second.symm
  rw [dir, alone.named] at dispatches
  rw [dir] at shares
  obtain ⟨one, _, first, rest, rfl⟩ := List.forall₂_cons_left_iff.mp each
  obtain ⟨two, _, second, last, rfl⟩ := List.forall₂_cons_left_iff.mp rest
  obtain rfl := List.forall₂_nil_left_iff.mp last
  have named : one.path = join output "a.go" := (render_path first).trans dispatches
  have other : two.path = join output "init.go" := (render_path second).trans shares
  exact ⟨one.contents, two.contents, by rw [lonelyFiles, ← named, ← other]⟩

theorem scan_lonely (output : String) (ok : resolve (settingOf lonely) "/a" [] = .ok r) :
    scan lonely .empty (lonelyOptions output) = .ok (⟨none, bothRoots, []⟩, r) := by
  have discovered : Locator.discover lonely .empty (lonelyOptions output).input
      (lonelyOptions output).roots = .ok ⟨none, bothRoots, []⟩ := discover_withFiles _ .empty .empty (.inl rfl)
  have resolved : resolve ⟨lonely, ⟨none, bothRoots, []⟩, (lonelyOptions output).markers⟩
      (lonelyOptions output).input (lonelyOptions output).prefixes = .ok r := ok
  rw [scan_of_discover discovered, resolved]

theorem exists_prepare_lonely (output : String) :
    ∃ r P decl dispatcher shared, Alone r P decl ∧
      scan lonely .empty (lonelyOptions output) = .ok (⟨none, bothRoots, []⟩, r) ∧
      prepare lonely .empty (lonelyOptions output) =
        .ok ⟨lonelyFiles output dispatcher shared, r.report⟩ := by
  obtain ⟨r, ok⟩ := exists_resolve_lonely
  obtain ⟨P, decl, alone⟩ := alone_of_resolve ok
  obtain ⟨library, loaded⟩ := exists_library lonely
  have scanned := scan_lonely output ok
  have few : ∀ Q ∈ r.packages, ∀ other ∈ Q.controllers.values, HasFewResults other := by
    intro Q member other listed
    obtain ⟨place, here⟩ := List.getElem?_of_mem member
    exact (alone.unobtrusive here listed).results
  cases rendered : renderHandlers lonely ⟨none, bothRoots, []⟩ r (lonelyOptions output) library with
  | error cause =>
    exact absurd (rejected_of_load ok loaded few rendered) (not_rejected_lonely alone ok output)
  | ok files =>
    obtain ⟨dispatcher, shared, rfl⟩ := files_lonely alone rendered
    refine ⟨r, P, decl, dispatcher, shared, alone, scanned, ?_⟩
    refine bind_eq_ok_iff.mpr ⟨_, scanned, bind_eq_ok_iff.mpr ⟨library, loaded, ?_⟩⟩
    exact bind_eq_ok_iff.mpr ⟨_, rendered, rfl⟩

end Preparing

def Aside (place : List String) : Prop :=
  place = ["b"] ∨ place.head? ∈ [none, some "a", some "go.mod"]

instance (place : List String) : Decidable (Aside place) :=
  inferInstanceAs (Decidable (place = ["b"] ∨ place.head? ∈ _))

theorem looks_lonely {output : String} {place : List String}
    (looks : Looks lonely .empty (lonelyOptions output) place) : Aside place := by
  obtain ⟨r, P, decl, _, _, alone, scanned, -⟩ := exists_prepare_lonely output
  cases looks with
  | @module names _ asked looked =>
    have start : absoluteNames lonely.cwd "/a" = ["a"] := by decide
    have above : names <+: absoluteNames lonely.cwd "/a" := asked.above
    rw [start] at above
    rcases List.prefix_cons_iff.mp above with rfl | ⟨rest, rfl, inner⟩
    · exact (by decide : ∀ place ∈ [[], ["go.mod"]], Aside place) place looked
    · rw [List.prefix_nil.mp inner] at looked
      exact (by decide : ∀ place ∈ [[], ["a", "go.mod"]], Aside place) place looked
  | directory found member crosses tried looked =>
    rw [scanned] at found
    cases found
    rw [alone.packages, List.mem_singleton] at member
    have imported := List.mem_map_of_mem (f := (·.importPath)) (member ▸ crosses)
    rw [alone.crossings, List.mem_singleton] at imported
    obtain ⟨before, rest, split, -⟩ := tried
    rw [imported] at split
    change ["/b/"] = _ at split
    rcases List.append_eq_singleton_iff.mp split.symm with ⟨-, same⟩ | ⟨-, absent⟩
    · obtain ⟨rfl, -⟩ := List.cons.inj same
      exact (by decide : ∀ place ∈ [[], ["b"]], Aside place) place looked
    · cases absent
  | package found member looked =>
    rw [scanned] at found
    cases found
    rw [alone.packages, List.mem_singleton] at member
    rw [member, alone.dir] at looked
    exact (by decide : ∀ place ∈ [[], ["a"]], Aside place) place looked
  | source found member known counts =>
    rw [scanned] at found
    cases found
    rw [alone.packages, List.mem_singleton] at member
    have here : lonely.find "/a" = .ok (["a"], .directory) := by rfl
    rw [member, alone.dir, here] at known
    cases known
    exact .inr (by simp)
  | template given member looked =>
    cases given

theorem generate_lonely {output first : String}
    (written : ∀ dispatcher shared, OutputFile.writeAll lonely (lonelyFiles output dispatcher shared) =
      (withFiles (writtenIn first dispatcher.toUTF8 shared.toUTF8)
        (singleSource "a" "A" "b" "B").toUTF8, .ok ())) :
    ∃ dispatcher shared g, generate lonely .empty (lonelyOptions output) =
      (withFiles (writtenIn first dispatcher shared) (singleSource "a" "A" "b" "B").toUTF8, .ok g) := by
  obtain ⟨r, P, decl, dispatcher, shared, -, -, ready⟩ := exists_prepare_lonely output
  refine ⟨dispatcher.toUTF8, shared.toUTF8,
    ⟨(lonelyFiles output dispatcher shared).map (·.path), r.report⟩, ?_⟩
  rw [generate_of_prepare ready, show (lonelyOptions output).dryRun = false from rfl,
    deliver_of_writeAll (written dispatcher shared)]
  rfl

theorem generate_again_lonely :
    ∃ after again g, lonely.IsTree ∧
      generate lonely .empty (lonelyOptions "/o/out") = (after, .ok g) ∧
      (∀ place, after.node? place ≠ lonely.node? place →
        ¬Looks lonely .empty (lonelyOptions "/o/out") place) ∧
      generate after .empty (lonelyOptions "/o/out") = (again, .ok g) ∧
      ∀ place, again.node? place = after.node? place := by
  have tree : lonely.IsTree := isTree_withFiles _
  obtain ⟨dispatcher, shared, g, ok⟩ := generate_lonely (writeAll_withFiles_o _)
  have unseen : ∀ place, (withFiles (writtenIn "o" dispatcher shared)
      (singleSource "a" "A" "b" "B").toUTF8).node? place ≠ lonely.node? place →
        ¬Looks lonely .empty (lonelyOptions "/o/out") place := by
    intro place changed looks
    have written : place ∈ places "o" := by_contra fun apart => changed (node?_withFiles _ apart)
    have apart : ∀ place ∈ places "o", ¬Aside place := by decide
    exact apart place written (looks_lonely looks)
  obtain ⟨again, repeated, -, same⟩ := generate_again tree ok unseen
  exact ⟨_, again, g, tree, ok, unseen, repeated, same⟩

theorem exists_prepare_error_lonely (dispatcher shared : ByteArray) (output : String) :
    ∃ cause, prepare (withFiles (writtenIn "b" dispatcher shared)
      (singleSource "a" "A" "b" "B").toUTF8) .empty (lonelyOptions output) = .error cause := by
  -- the disk stays opaque, so that nothing evaluates the source
  generalize made : withFiles (writtenIn "b" dispatcher shared)
    (singleSource "a" "A" "b" "B").toUTF8 = disk
  have package : disk.package "/a" = .ok (singleController "a" "/a/a.go" "A" "b" "B") :=
    Disk.package_of_single (made ▸ readDirectory_withFiles _ _ _ (.inr rfl)) (by decide)
      addSource?_crossed_a
  have found : Locator.dirFor? ⟨none, bothRoots, []⟩ disk "b" = some "/b/" :=
    made ▸ dirFor?_withFiles_b _ _ _
  have known : packageOf? (settingOf disk) "/a" "a" =
      some (singleController "a" "/a/a.go" "A" "b" "B") :=
    packageOf?_eq_some_iff.mpr ⟨"/a", rfl, package⟩
  have controller : isController (singleController "a" "/a/a.go" "A" "b" "B")
      (settingOf disk).markers "A" = true := by
    change isController _ (lonelyOptions "").markers "A" = true
    decide +kernel
  have imports : Imports (settingOf disk) "/a" "a" "b" :=
    imports_singleController known controller (by decide) (Option.isSome_of_eq_some found)
  cases outcome : resolve (settingOf disk) "/a" [] with
  | error cause =>
    have discovered : Locator.discover disk .empty (lonelyOptions output).input
        (lonelyOptions output).roots = .ok ⟨none, bothRoots, []⟩ :=
      made ▸ discover_withFiles _ _ _ (.inr rfl)
    have failed : resolve ⟨disk, ⟨none, bothRoots, []⟩, (lonelyOptions output).markers⟩
        (lonelyOptions output).input (lonelyOptions output).prefixes = .error cause := outcome
    refine ⟨.resolution "/a" cause, bind_eq_error_iff.mpr (.inl ?_)⟩
    rw [scan_of_discover discovered, failed]
    rfl
  | ok r =>
    have explored := explored_of_resolve outcome
    obtain ⟨P, listed, named⟩ := List.mem_map.mp (explored.mem_keys_iff.mpr (.single imports))
    obtain ⟨i, here⟩ := List.getElem?_of_mem listed
    have complete := explored.arranged.complete here
    have located := complete.located
    rw [named] at located
    change Locator.dirFor? ⟨none, bothRoots, []⟩ disk "b" = some P.dir at located
    rw [found, Option.some.injEq] at located
    have empty : disk.package "/b/" = .error (.noSources "/b/") := made ▸ package_withFiles_b _ _ _
    have scanned : disk.package P.dir = .ok P.package := complete.package
    rw [← located, empty] at scanned
    cases scanned

/-- That nothing in the output directory is looked at is not enough: a directory above it that the
first run makes is a package without sources to the second one. -/
theorem generate_again_above :
    ∃ after g cause, lonely.IsTree ∧
      generate lonely .empty (lonelyOptions "/b/out") = (after, .ok g) ∧
      (∀ place, absoluteNames lonely.cwd (lonelyOptions "/b/out").output <+: place →
        ¬Looks lonely .empty (lonelyOptions "/b/out") place) ∧
      generate after .empty (lonelyOptions "/b/out") = (after, .error cause) := by
  have tree : lonely.IsTree := isTree_withFiles _
  obtain ⟨dispatcher, shared, g, ok⟩ := generate_lonely (writeAll_withFiles_b _)
  have unseen (place : List String)
      (below : absoluteNames lonely.cwd (lonelyOptions "/b/out").output <+: place) :
      ¬Looks lonely .empty (lonelyOptions "/b/out") place := by
    have spelled : absoluteNames lonely.cwd (lonelyOptions "/b/out").output = ["b", "out"] := by rfl
    rw [spelled] at below
    intro looks
    obtain ⟨rest, rfl⟩ := below
    have apart : ¬Aside (["b", "out"] ++ rest) := by simp [Aside]
    exact apart (looks_lonely looks)
  obtain ⟨cause, failed⟩ := exists_prepare_error_lonely dispatcher shared "/b/out"
  exact ⟨_, g, cause, tree, ok, unseen, generate_of_error failed⟩

end Dispatchers.Handlers
