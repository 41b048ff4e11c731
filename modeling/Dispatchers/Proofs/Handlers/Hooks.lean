import Dispatchers.Proofs.Handlers.Coherence
import Dispatchers.Proofs.Resolve.Declarations

namespace Dispatchers.Handlers

open Controller Go Resolve

def ancestorCall? (r : Resolution) (hook : ControllerDecl → Option HookMethod) (a : Ancestor) :
    Option HookCall :=
  ((r.controller? a.parent.package a.parent.name).bind hook).map fun h => ⟨"c." ++ a.access, h.shape⟩

/-- A call for each ancestor that has the hook, in the order of the ancestors, and behind them one
for the controller itself. -/
def hookCalls (r : Resolution) (hook : ControllerDecl → Option HookMethod)
    (ancestors : List Ancestor) (decl : ControllerDecl) : List HookCall :=
  ancestors.filterMap (ancestorCall? r hook) ++ ((hook decl).map fun h => ⟨"c", h.shape⟩).toList

/-- The controller whose dispatcher an expression in a generated package names: one of the package
itself, or behind a qualifier one of the package with that number. -/
inductive Makes (r : Resolution) (place : Nat) : String → Place → Prop
  | own {name : String} (declared : r.declared (place, name)) : Makes r place name (place, name)
  | foreign {P Q : Scanned} {id index : Nat} {name importPath : String}
      (here : r.packages[place]? = some P) (numbered : P.parentImports[id]? = some importPath)
      (there : r.packages[index]? = some Q) (path : Q.importPath = importPath)
      (declared : r.declared (index, name)) :
      Makes r place (qualifier id ++ "." ++ name) (index, name)

/-- The selectors that hold a controller once the dispatcher of `start` has made it. Each dispatcher
assigns the parents that it makes, with theirs, to fields of the value it allocates as `c`. -/
inductive Allocates (r : Resolution) (external : Bool) (start : Place) : String → Place → Prop
  | self : Allocates r external start "c" start
  | assigned {receiver : String} {place target : Place} {decl : ControllerDecl}
      {view : ControllerView} {parent : ParentView}
      (allocated : Allocates r external start receiver place)
      (described : r.controller? place.1 place.2 = some decl)
      (dispatched : controllerView r place.1 external decl = .ok view)
      (listed : parent ∈ view.parents) (makes : Makes r place.1 parent.call target) :
      Allocates r external start (receiver ++ "." ++ parent.name) target

def Callable (r : Resolution) (external : Bool) (start : Place)
    (hook : ControllerDecl → Option HookMethod) (call : HookCall) : Prop :=
  ∃ target decl h, Allocates r external start call.receiver target ∧
    r.controller? target.1 target.2 = some decl ∧ hook decl = some h ∧ call.shape = h.shape

section Views

variable {r : Resolution} {place : Nat} {external : Bool} {decl : ControllerDecl}

theorem flatMap_hookCall {ancestors : List Ancestor} {chain : List (String × ControllerDecl)}
    (each : List.Forall₂ (fun a found => ancestorDecl r a = .ok found) ancestors chain)
    (hook : ControllerDecl → Option HookMethod) :
    chain.flatMap (fun entry => HookCall.of entry.1 (hook entry.2)) =
      ancestors.filterMap (ancestorCall? r hook) := by
  induction each with
  | nil => rfl
  | @cons a found _ _ first _ ih =>
    unfold ancestorDecl at first
    split at first
    · rename_i parent described
      cases first
      rw [List.flatMap_cons, ih, List.filterMap_cons, ancestorCall?, described, Option.bind_some]
      cases hook parent <;> rfl
    · cases first

theorem controllerView_calls {view : ControllerView}
    (ok : controllerView r place external decl = .ok view) :
    ∃ ancestors, r.ancestors place decl.name = .ok ancestors ∧
      view.before = hookCalls r (·.before) ancestors decl ∧
      view.after = hookCalls r (·.after) ancestors decl := by
  obtain ⟨ancestors, listed, ok⟩ := bind_eq_ok_iff.mp ok
  obtain ⟨chain, found, ok⟩ := bind_eq_ok_iff.mp ok
  obtain ⟨_, _, ok⟩ := bind_eq_ok_iff.mp ok
  cases ok
  have each := forall₂_of_mapM found
  have calls (hook : ControllerDecl → Option HookMethod) :
      (chain ++ [("c", decl)]).flatMap (fun entry => HookCall.of entry.1 (hook entry.2)) =
        hookCalls r hook ancestors decl := by
    rw [List.flatMap_append, flatMap_hookCall each, hookCalls, List.flatMap_singleton]
    cases hook decl <;> rfl
  exact ⟨ancestors, listed, calls (·.before), calls (·.after)⟩

theorem callable_of_mem_hookCalls {start : Place} {hook : ControllerDecl → Option HookMethod}
    {ancestors : List Ancestor} {call : HookCall}
    (described : r.controller? start.1 start.2 = some decl)
    (allocated : ∀ a ∈ ancestors, Allocates r external start ("c." ++ a.access) a.parent.place)
    (member : call ∈ hookCalls r hook ancestors decl) : Callable r external start hook call := by
  rcases List.mem_append.mp member with inherited | own
  · obtain ⟨a, among, called⟩ := List.mem_filterMap.mp inherited
    obtain ⟨h, has, rfl⟩ := Option.map_eq_some_iff.mp called
    obtain ⟨ancestor, known, has⟩ := Option.bind_eq_some_iff.mp has
    exact ⟨a.parent.place, ancestor, h, allocated a among, known, has, rfl⟩
  · obtain ⟨h, has, rfl⟩ := Option.map_eq_some_iff.mp (Option.mem_toList.mp own)
    exact ⟨start, decl, h, .self, described, has, rfl⟩

end Views

section Runs

variable {setting : Setting} {dir : String} {active : List Route.Prefix} {r : Resolution}
  {external : Bool} {start place : Place} {receiver : String} {decl : ControllerDecl}
  (ok : resolve setting dir active = .ok r)

include ok

theorem exists_controllerView (external : Bool)
    (described : r.controller? place.1 place.2 = some decl) (free : ¬r.CycleAbove place) :
    ∃ view, controllerView r place.1 external decl = .ok view := by
  obtain ⟨P, here, found⟩ := Option.bind_eq_some_iff.mp described
  cases made : controllerView r place.1 external decl with
  | ok view => exact ⟨view, rfl⟩
  | error cause =>
    obtain ⟨_, _, _, _, cycle⟩ := controllerView_circular (renderable_of_resolve ok) here
      (Dictionary.mem_values_of_get? found) made
    rw [((explored_of_resolve ok).arranged.complete here |>.routed found).named] at cycle
    exact absurd cycle free

theorem makes_parent {parent : Parent} (described : r.controller? place.1 place.2 = some decl)
    (listed : parent ∈ decl.parents) :
    Makes r place.1 (ParentView.of parent).call parent.place := by
  have explored := explored_of_resolve ok
  obtain ⟨P, here, found⟩ := Option.bind_eq_some_iff.mp described
  have numbers := (numbered_of_explored explored here).parents decl
    (Dictionary.mem_values_of_get? found) parent listed
  obtain ⟨Q, there, path, inside, before⟩ :=
    explored.arena.placed place.1 P place.2 decl here found parent listed
  have declared : r.declared parent.place :=
    explored.arena.closed.declared place parent (Resolution.mem_parentsAt_iff.mpr ⟨decl, described, listed⟩)
  obtain ⟨number, importPath, name, index⟩ := parent
  cases number with
  | none =>
    obtain rfl : index = place.1 := before
    exact .own declared
  | some id =>
    have number : numberOf? P importPath = some id := numbers
    rw [numberOf?_eq_some_iff (explored.arranged.complete here).numbered] at number
    exact .foreign here number there path declared

theorem Allocates.parent {parent : Parent} (allocated : Allocates r external start receiver place)
    (free : ¬r.CycleAbove place) (member : parent ∈ r.parentsAt place) :
    Allocates r external start (receiver ++ "." ++ parent.name) parent.place := by
  obtain ⟨decl, described, listed⟩ := Resolution.mem_parentsAt_iff.mp member
  obtain ⟨view, made⟩ := exists_controllerView ok external described free
  have assigned : ParentView.of parent ∈ view.parents := by
    rw [(controllerView_ok made).1]
    exact List.mem_map_of_mem listed
  exact .assigned allocated described made assigned (makes_parent ok described listed)

theorem Allocates.along {ks : List Nat} {parents : List Parent}
    (allocated : Allocates r external start receiver place) (started : receiver ≠ "")
    (free : ¬r.CycleAbove place) (known : r.path? place ks = some parents) :
    Allocates r external start (accessAlong receiver parents)
      (parents.foldl (fun _ parent => parent.place) place) := by
  induction ks generalizing receiver place parents with
  | nil =>
    cases known
    exact allocated
  | cons k ks ih =>
    obtain ⟨parent, here, rest⟩ := Option.bind_eq_some_iff.mp known
    obtain ⟨others, further, rfl⟩ := Option.map_eq_some_iff.mp rest
    have member := List.mem_of_getElem? here
    have longer : select receiver parent.name = receiver ++ "." ++ parent.name := by
      simp [select, started]
    rw [accessAlong, List.foldl_cons, List.foldl_cons, longer]
    -- what is above the parent is above the place, so the rest of the way is free of cycles too
    refine ih (allocated.parent ok free member) (by simp) (fun cycle => ?_) further
    exact free (cycle.of_parent ⟨parent, member, rfl⟩)

theorem allocates_ancestor {ancestors : List Ancestor} {ways : List (List Nat)}
    (order : PostOrder r start ways ancestors) (free : ¬r.CycleAbove start) {a : Ancestor}
    (member : a ∈ ancestors) : Allocates r external start ("c." ++ a.access) a.parent.place := by
  obtain ⟨ks, -, above, last, known, rfl⟩ := exists_related order.ends.flip member
  have own : Allocates r external start "c" start := .self
  have allocated := own.along ok (by decide) free known
  rw [accessAlong_eq_intercalate (by decide), String.intercalate_cons_of_ne_nil (by simp),
    List.foldl_append] at allocated
  exact allocated

/-- Around an action come the hooks of the ancestors in their order and then those of the controller
itself, each on a value that the dispatcher has allocated. -/
theorem controllerView_hooks {place : Nat} {name : String}
    (described : r.controller? place name = some decl) {ancestors : List Ancestor}
    (listed : r.ancestors place name = .ok ancestors) (external : Bool) :
    ∃ view, controllerView r place external decl = .ok view ∧
      view.before = hookCalls r (·.before) ancestors decl ∧
      view.after = hookCalls r (·.after) ancestors decl ∧
      (∀ a ∈ ancestors, r.declared a.parent.place ∧
        Allocates r external (place, name) ("c." ++ a.access) a.parent.place) ∧
      (∀ call ∈ view.before, Callable r external (place, name) (·.before) call) ∧
      (∀ call ∈ view.after, Callable r external (place, name) (·.after) call) ∧
      (view.needsArgs = true ↔
        ∃ call ∈ view.before ++ view.after, call.shape.forwardsArgs = true) := by
  have explored := explored_of_resolve ok
  have closed := explored.arena.closed
  have declared : r.declared (place, name) := Option.isSome_iff_exists.mpr ⟨decl, described⟩
  rcases ancestors_outcome closed declared with ⟨_, ways, same, order, free⟩ | ⟨_, _, stuck, -⟩
  case inr =>
    rw [listed] at stuck
    cases stuck
  rw [listed] at same
  cases same
  obtain ⟨view, made⟩ : ∃ view, controllerView r place external decl = .ok view :=
    exists_controllerView ok external described free
  obtain ⟨P, here, found⟩ := Option.bind_eq_some_iff.mp described
  obtain ⟨_, again, before, after⟩ := controllerView_calls made
  rw [(explored.arranged.complete here |>.routed found).named, listed] at again
  cases again
  have allocated (a : Ancestor) (member : a ∈ ancestors) :
      Allocates r external (place, name) ("c." ++ a.access) a.parent.place :=
    allocates_ancestor ok order free member
  have callable (hook : ControllerDecl → Option HookMethod) :
      ∀ call ∈ hookCalls r hook ancestors decl, Callable r external (place, name) hook call :=
    fun _ => callable_of_mem_hookCalls described allocated
  refine ⟨view, made, before, after, fun a member => ⟨order.declared closed member, allocated a member⟩,
    before ▸ callable _, after ▸ callable _, ?_⟩
  rw [ControllerView.needsArgs, List.any_eq_true]

end Runs

/-- A controller without hooks, and its parent with one that takes the values of the route. -/
def guardedPackage : Package :=
  let marked : Arg := ⟨"", "", .named (some "h") "H"⟩
  let method (receiver name file : String) (params : List Arg) (result : Arg) : Func :=
    ⟨name, file, [], params, [result], some ⟨"", "", .named none receiver⟩⟩
  ⟨"a", [], .ofList [
      ("A", [method "A" "X" "/a/a.go" [] marked]),
      ("B", [method "B" "X" "/a/b.go" [] marked,
        method "B" "Before" "/a/b.go" [marked, marked, ⟨"", "", .slice (.named none "string")⟩]
          ⟨"", "", .named none "bool"⟩])],
    [⟨"A", "/a/a.go", [], [⟨"", "", .pointer (.named none "B")⟩]⟩, ⟨"B", "/a/b.go", [], []⟩],
    .ofList [("/a/a.go", .ofList [("h", "h")]), ("/a/b.go", .ofList [("h", "h")])]⟩

abbrev guarded : Setting :=
  twoFiles
    "package a\nimport\"h\"\ntype A struct\x7b*B\x7d\nfunc(A)X()h.H".toUTF8
    ("package a\nimport\"h\"\ntype B struct\x7b\x7d\n" ++
      "func(B)X()h.H\nfunc(B)Before(h.H,h.H,[]string)bool").toUTF8

theorem package_guarded : guarded.disk.package "/a" = .ok guardedPackage :=
  package_twoFiles (by decide +kernel)

theorem importsMarkers_guarded : ImportsMarkers guardedPackage :=
  importsMarkers_of_entries rfl (by decide)

section Guarded

variable {active : List Route.Prefix} {r : Resolution} {place : Nat} {P : Scanned}
  {name : String} {decl : ControllerDecl} (explored : Explored guarded "/a" active r)

include explored

theorem exists_get?_guarded {name : String} (known : name = "A" ∨ name = "B")
    (here : r.packages[place]? = some P) : ∃ decl, P.controllers.get? name = some decl := by
  refine explored.arena.exists_get? here ?_
  rw [(eq_root_twoFiles package_guarded importsMarkers_guarded explored here).2.2]
  rcases known with rfl | rfl <;> decide +kernel

theorem parents_guarded (here : r.packages[place]? = some P)
    (found : P.controllers.get? name = some decl) :
    name = "A" ∧ decl.parents = [⟨none, "a", "B", r.root⟩] ∨ name = "B" ∧ decl.parents = [] := by
  obtain ⟨root, key, package⟩ :=
    eq_root_twoFiles package_guarded importsMarkers_guarded explored here
  obtain ⟨s, declared, parents⟩ := explored.parentsFrom here found
  have member := List.mem_of_find?_eq_some declared
  have named : s.name = name := by simpa using List.find?_some declared
  rw [package] at member
  simp only [guardedPackage, List.mem_cons, List.not_mem_nil, or_false] at member
  rcases member with rfl | rfl
  · obtain ⟨other, described⟩ := exists_get?_guarded explored (.inr rfl) here
    have controller : P.controllers.contains "B" = true :=
      Dictionary.contains_iff.mpr (Dictionary.mem_keys_iff.mpr ⟨other, described⟩)
    rw [← root, ← key]
    exact .inl ⟨named.symm, parents_of_pointer explored here found declared rfl controller⟩
  · obtain ⟨_, ⟨_, each, rfl⟩, same⟩ := parents
    cases each
    exact .inr ⟨named.symm, same⟩

theorem not_cycleAbove_guarded (start : Place) : ¬r.CycleAbove start := by
  refine Resolution.not_cycleAbove_of_descends (fun other => if other.2 = "A" then 1 else 0) ?_ start
  rintro below _ ⟨parent, member, rfl⟩
  obtain ⟨decl, described, listed⟩ := Resolution.mem_parentsAt_iff.mp member
  obtain ⟨P, here, found⟩ := Option.bind_eq_some_iff.mp described
  rcases parents_guarded explored here found with ⟨name, parents⟩ | ⟨-, parents⟩
  · rw [parents, List.mem_singleton] at listed
    subst listed
    simp [Parent.place, name]
  · rw [parents] at listed
    cases listed

theorem ancestors_guarded (described : r.controller? r.root "A" = some decl)
    (parents : decl.parents = [⟨none, "a", "B", r.root⟩]) :
    ∃ ancestors, r.ancestors r.root "A" = .ok ancestors ∧
      ⟨⟨none, "a", "B", r.root⟩, "B"⟩ ∈ ancestors := by
  have declared : r.declared (r.root, "A") := Option.isSome_iff_exists.mpr ⟨decl, described⟩
  have embedded : r.parentsAt (r.root, "A") = [⟨none, "a", "B", r.root⟩] :=
    (Resolution.parentsAt_of_controller? described).trans parents
  have path : r.path? (r.root, "A") [0] = some [⟨none, "a", "B", r.root⟩] := by
    rw [Resolution.path?_cons (by rw [embedded]; rfl)]
    rfl
  rcases ancestors_outcome explored.arena.closed declared with
    ⟨ancestors, ways, listed, order, -⟩ | ⟨_, _, -, cycle⟩
  case inr => exact absurd cycle (not_cycleAbove_guarded explored _)
  have way : [0] ∈ ways := (order.complete [0]).mpr ⟨by simp, by rw [path]; rfl⟩
  obtain ⟨a, member, above, last, known, rfl⟩ := exists_related order.ends way
  rw [path] at known
  obtain ⟨rfl, rfl⟩ : above = [] ∧ last = ⟨none, "a", "B", r.root⟩ := by
    have same := Option.some.inj known
    simpa [List.append_eq_singleton_iff, eq_comm] using same
  exact ⟨ancestors, listed, member⟩

end Guarded

theorem before_of_complete {setting : Setting} {dir : String} {earlier : List Scanned} {P : Scanned}
    (complete : Complete setting dir earlier P) {name : String} {decl : ControllerDecl}
    (found : P.controllers.get? name = some decl) :
    decl.before = (classified P.package setting.markers name).1.before := by
  obtain ⟨last, search, described⟩ := complete.describedByLast found
  have named : last.name = name := by simpa using List.find?_some search
  obtain ⟨-, -, same⟩ := declOf?_eq_some_iff.mp described
  rw [← named]
  exact congrArg ControllerDecl.before same

theorem controllerView_hooks_guarded :
    ∃ r decl ancestors view, resolve guarded "/a" [] = .ok r ∧
      r.controller? r.root "A" = some decl ∧ r.ancestors r.root "A" = .ok ancestors ∧
      controllerView r r.root false decl = .ok view ∧
      ⟨"c.B", ⟨false, true⟩⟩ ∈ view.before ∧ view.needsArgs = true ∧
      Allocates r false (r.root, "A") "c.B" (r.root, "B") := by
  obtain ⟨r, ok⟩ := exists_resolve_twoFiles package_guarded importsMarkers_guarded
  have explored := explored_of_resolve ok
  obtain ⟨P, here, -, package⟩ := root_twoFiles package_guarded explored.arena
  obtain ⟨decl, found⟩ := exists_get?_guarded explored (.inl rfl) here
  obtain ⟨above, upper⟩ := exists_get?_guarded explored (.inr rfl) here
  have described : r.controller? r.root "A" = some decl := Option.bind_eq_some_iff.mpr ⟨P, here, found⟩
  have known : r.controller? r.root "B" = some above := Option.bind_eq_some_iff.mpr ⟨P, here, upper⟩
  have parents : decl.parents = [⟨none, "a", "B", r.root⟩] := by
    rcases parents_guarded explored here found with ⟨-, parents⟩ | ⟨absent, -⟩
    · exact parents
    · exact absurd absent (by decide)
  obtain ⟨ancestors, listed, member⟩ := ancestors_guarded explored described parents
  obtain ⟨view, made, before, -, allocated, -, -, needsArgs⟩ :=
    controllerView_hooks ok described listed false
  have shape : above.before.map (·.shape) = some ⟨false, true⟩ := by
    rw [before_of_complete (explored.arranged.complete here) upper, package]
    decide +kernel
  obtain ⟨h, has, shape⟩ := Option.map_eq_some_iff.mp shape
  have called : ⟨"c.B", ⟨false, true⟩⟩ ∈ view.before := by
    rw [before]
    refine List.mem_append_left _ (List.mem_filterMap.mpr ⟨_, member, ?_⟩)
    rw [ancestorCall?, known, Option.bind_some, has, Option.map_some, shape]
    rfl
  exact ⟨r, decl, ancestors, view, ok, described, listed, made, called,
    needsArgs.mpr ⟨_, List.mem_append_left _ called, rfl⟩, (allocated _ member).2⟩

end Dispatchers.Handlers
