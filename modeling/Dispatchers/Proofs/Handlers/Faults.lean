import Dispatchers.Proofs.Handlers.Planning
import Dispatchers.Proofs.Handlers.Rendering
import Dispatchers.Proofs.Resolve.Declarations
import Dispatchers.Proofs.Resolve.Provenance

namespace Dispatchers.Handlers

open Controller Resolve Template

structure Renderable (r : Resolution) : Prop where
  closed : r.Closed
  known : ∀ (place : Nat) (P : Scanned), r.packages[place]? = some P →
    ∀ decl ∈ P.controllers.values, r.controller? place decl.name = some decl
  bindable : ∀ P ∈ r.packages, ∀ decl ∈ P.controllers.values, ∀ action ∈ decl.actions,
    ∀ param ∈ action.params, (bindableName? param.type).isSome = true
  several : ∀ P ∈ r.packages, ∀ decl ∈ P.controllers.values, ∀ parent ∈ decl.parents,
    parent.id.isSome = true → 1 < (Plan.places r).length
  numbered : ∀ P ∈ r.packages, ∀ importPath ∈ P.parentImports, 1 < (Plan.places r).length

structure Dispatched (r : Resolution) (place : Nat) (P : Scanned) (decl : ControllerDecl) :
    Prop where
  generated : place ∈ Plan.places r
  here : r.packages[place]? = some P
  listed : decl ∈ P.controllers.values

inductive Rejected (disk : Disk) (l : Locator) (r : Resolution) (o : Options) : Fault → Prop
  | noInputImport (nowhere : l.importFor? disk o.input = none) :
      Rejected disk l r o (.noInputImport o.input)
  | noOutputImport (several : 1 < (Plan.places r).length) (unset : o.outputImport = none)
      (nowhere : l.importFor? disk o.output = none) :
      Rejected disk l r o (.noOutputImport o.output)
  | reservedController {place : Nat} {P : Scanned} {decl : ControllerDecl}
      (dispatched : Dispatched r place P decl)
      (reserved : decl.name ∈ Plan.reservedControllers) :
      Rejected disk l r o (.reservedController decl.name P.importPath)
  | reservedAction {place : Nat} {P : Scanned} {decl : ControllerDecl} {action : Go.Func}
      (dispatched : Dispatched r place P decl) (member : action ∈ decl.actions)
      (reserved : action.name ∈ Plan.reservedActions) :
      Rejected disk l r o (.reservedAction decl.name action.name P.importPath)
  | sameFile {place : Nat} {P : Scanned} {before after : List ControllerDecl}
      {decl : ControllerDecl} (dispatched : Dispatched r place P decl)
      (order : P.controllers.values = before ++ decl :: after)
      (taken : Plan.controllerFile decl.name = Plan.packageFile ∨
        ∃ other ∈ before, Plan.controllerFile other.name = Plan.controllerFile decl.name) :
      Rejected disk l r o (.sameFile decl.name P.importPath (Plan.controllerFile decl.name))
  | embeddingCycle {place : Nat} {P : Scanned} {decl : ControllerDecl} {chain : List String}
      {again : String} (dispatched : Dispatched r place P decl)
      (met : r.ancestors place decl.name = .error (.embeddingCycle chain again))
      (cycle : r.CycleAbove (place, decl.name)) :
      Rejected disk l r o (.embeddingCycle chain again)

/-- No action has more results than a template can go through. -/
def HasFewResults (decl : ControllerDecl) : Prop :=
  ∀ action ∈ decl.actions, action.results.length ≤ rangeLimit

def FailsToRender (library : Library) (cause : Fault) : Prop :=
  ∃ (sheet : Sheet) (problem : TemplateFault), sheet.render library = .error cause ∧
    cause = .during .renderTemplate sheet.template (.template problem)

/-- Faults by which the parts of a run would contradict each other. -/
inductive Inconsistent : Fault → Prop
  | outputImportNeeded : Inconsistent .outputImportNeeded
  | unknownController (name : String) : Inconsistent (.unknownController name)
  | unknownParent (name : String) : Inconsistent (.unknownParent name)
  | unbindableParameter (parameter action : String) :
      Inconsistent (.unbindableParameter parameter action)
  | noConversion (type : String) : Inconsistent (.noConversion type)

theorem Rejected.not_inconsistent {disk : Disk} {l : Locator} {r : Resolution} {o : Options}
    {cause : Fault} (rejected : Rejected disk l r o cause) : ¬Inconsistent cause := by
  intro inconsistent
  cases inconsistent <;> cases rejected

section Conversions

variable {type : Go.TypeExpr} {name : String}

theorem mem_primitives_of_bindableName? (bindable : bindableName? type = some name) :
    ∃ primitive ∈ primitives, name = primitive ∨ name = "[]" ++ primitive := by
  unfold bindableName? at bindable
  split at bindable
  · split at bindable
    · rename_i listed
      cases bindable
      exact ⟨_, by simpa using listed, .inl rfl⟩
    · cases bindable
  · split at bindable
    · rename_i listed
      cases bindable
      exact ⟨_, by simpa using listed, .inr rfl⟩
    · cases bindable
  · cases bindable

theorem exists_conversion (bindable : bindableName? type = some name) :
    ∃ function, conversions.get? name = some function := by
  obtain ⟨primitive, listed, spelled⟩ := mem_primitives_of_bindableName? bindable
  rw [← Dictionary.mem_keys_iff, conversions, Dictionary.mem_keys_ofList, List.map_flatMap,
    List.mem_flatMap]
  exact ⟨primitive, listed, by simpa using spelled⟩

end Conversions

section Renderable

variable {setting : Setting} {dir : String} {active : List Route.Prefix} {r : Resolution}

theorem generated_of_placed {place : Nat} {P : Scanned} {parent : Parent}
    (rootLast : r.root + 1 = r.packages.length) (here : r.packages[place]? = some P)
    (placed : parent.Placed r place) (foreign : parent.id.isSome = true) :
    parent.package ∈ Plan.places r ∧ parent.package ≠ r.root := by
  obtain ⟨Q, there, -, listed, before⟩ := placed
  obtain ⟨id, numbered⟩ := Option.isSome_iff_exists.mp foreign
  rw [numbered] at before
  have before : parent.package < place := before
  -- the root stands behind all packages that are embedded from
  have bound : place < r.packages.length := (List.getElem?_eq_some_iff.mp here).1
  have apart : parent.package ≠ r.root := by omega
  exact ⟨mem_places_iff.mpr (.inr ⟨Q, there, apart, List.ne_nil_of_mem listed⟩), apart⟩

theorem several_of_generated {place : Nat} (generated : place ∈ Plan.places r)
    (apart : place ≠ r.root) : 1 < (Plan.places r).length := by
  rcases List.mem_cons.mp generated with root | behind
  · exact absurd root apart
  · have rest := List.length_pos_of_mem behind
    rw [Plan.places, List.length_cons]
    omega

theorem get?_of_mem_values (explored : Explored setting dir active r) {place : Nat} {P : Scanned}
    (here : r.packages[place]? = some P) {decl : ControllerDecl}
    (member : decl ∈ P.controllers.values) : P.controllers.get? decl.name = some decl := by
  have complete := explored.arranged.complete here
  obtain ⟨name, found⟩ := Dictionary.exists_get?_of_mem_values member
  exact (complete.routed found).named.symm ▸ found

theorem several_of_parent (explored : Explored setting dir active r) {place : Nat} {P : Scanned}
    (here : r.packages[place]? = some P) {name : String} {decl : ControllerDecl}
    (found : P.controllers.get? name = some decl) {parent : Parent} (listed : parent ∈ decl.parents)
    (foreign : parent.id.isSome = true) : 1 < (Plan.places r).length := by
  have arena := explored.arena
  have placed := arena.placed place P name decl here found parent listed
  obtain ⟨generated, apart⟩ := generated_of_placed arena.rootLast here placed foreign
  exact several_of_generated generated apart

theorem names_eq_keys (explored : Explored setting dir active r) {place : Nat} {P : Scanned}
    (here : r.packages[place]? = some P) :
    P.controllers.values.map (·.name) = P.controllers.keys := by
  have complete := explored.arranged.complete here
  rw [Dictionary.values, Dictionary.keys, List.map_map]
  refine List.map_congr_left fun entry member => ?_
  exact (complete.routed (Dictionary.get?_of_mem member)).named

theorem names_nodup (explored : Explored setting dir active r) {place : Nat} {P : Scanned}
    (here : r.packages[place]? = some P) : (P.controllers.values.map (·.name)).Nodup := by
  rw [names_eq_keys explored here]
  exact P.controllers.nodup_keys

theorem controllerFiles_eq (explored : Explored setting dir active r) {place : Nat} {P : Scanned}
    (here : r.packages[place]? = some P) :
    P.controllers.values.map (fun decl => Plan.controllerFile decl.name) =
      P.controllers.keys.map Plan.controllerFile := by
  rw [← names_eq_keys explored here, List.map_map]
  rfl

theorem isController_of_mem (explored : Explored setting dir active r) {place : Nat} {P : Scanned}
    (here : r.packages[place]? = some P) {decl : ControllerDecl}
    (member : decl ∈ P.controllers.values) :
    isController P.package setting.markers decl.name = true := by
  rw [← (explored.arranged.complete here).controllers_contains, Dictionary.contains_iff,
    Dictionary.mem_keys_iff]
  exact ⟨decl, get?_of_mem_values explored here member⟩

theorem exists_target (explored : Explored setting dir active r) {place : Nat} {P : Scanned}
    (here : r.packages[place]? = some P) {decl : ControllerDecl}
    (member : decl ∈ P.controllers.values) {parent : Parent} (listed : parent ∈ decl.parents) :
    ∃ s, P.package.findStruct? decl.name = some s ∧
      (parent.importPath, parent.name) ∈
        s.fields.filterMap (target? setting P.importPath P.package s) := by
  have found := get?_of_mem_values explored here member
  obtain ⟨s, declared, same⟩ := explored.arena.parents place P decl.name decl here found
  have inside := List.mem_map_of_mem (f := fun parent => (parent.importPath, parent.name)) listed
  rw [same] at inside
  exact ⟨s, declared, (List.mem_filter.mp inside).1⟩

theorem exists_struct (explored : Explored setting dir active r) {place : Nat} {P : Scanned}
    (here : r.packages[place]? = some P) {decl : ControllerDecl}
    (member : decl ∈ P.controllers.values) :
    ∃ s ∈ P.package.structs, P.package.findStruct? decl.name = some s ∧ decl.name = s.name ∧
      decl.actions = actionsOf P.package setting.markers s.name := by
  have controller := isController_of_mem explored here member
  simp only [isController, Bool.and_eq_true] at controller
  obtain ⟨declared, found⟩ := Option.isSome_iff_exists.mp controller.1.2
  have name : declared.name = decl.name := by simpa using List.find?_some found
  have routed := (explored.arranged.complete here).routed (get?_of_mem_values explored here member)
  exact ⟨declared, List.mem_of_find?_eq_some found, found, name.symm, name ▸ routed.actions⟩

theorem controller_of_struct (explored : Explored setting dir active r) {place : Nat} {P : Scanned}
    (here : r.packages[place]? = some P) {decl : ControllerDecl}
    (member : decl ∈ P.controllers.values) {s : Go.Struct} (only : P.package.structs = [s]) :
    P.package.findStruct? decl.name = some s ∧ decl.name = s.name ∧
      decl.actions = actionsOf P.package setting.markers s.name := by
  obtain ⟨declared, inside, described⟩ := exists_struct explored here member
  rw [only, List.mem_singleton] at inside
  exact inside ▸ described

theorem renderable_of_resolve (ok : resolve setting dir active = .ok r) : Renderable r := by
  have explored := explored_of_resolve ok
  constructor
  case closed => exact explored.arena.closed
  case known =>
    intro place P here decl member
    exact Option.bind_eq_some_iff.mpr ⟨P, here, get?_of_mem_values explored here member⟩
  case bindable =>
    intro P inside decl member action listed
    obtain ⟨place, here⟩ := List.getElem?_of_mem inside
    have routed := (explored.arranged.complete here).routed (get?_of_mem_values explored here member)
    rw [routed.actions, actionsOf, List.mem_filter, decide_eq_true_iff] at listed
    exact (verdict_eq_action listed.2).2
  case several =>
    intro P inside decl member parent listed foreign
    obtain ⟨place, here⟩ := List.getElem?_of_mem inside
    exact several_of_parent explored here (get?_of_mem_values explored here member) listed foreign
  case numbered =>
    intro P inside importPath member
    obtain ⟨place, here⟩ := List.getElem?_of_mem inside
    have complete := explored.arranged.complete here
    obtain ⟨name, decl, parent, entry, listed, foreign, -⟩ := complete.used importPath member
    exact several_of_parent explored here (Dictionary.get?_of_mem entry) listed foreign

end Renderable

section Steps

variable {disk : Disk} {l : Locator} {r : Resolution} {o : Options} {p : Plan} {place : Nat}
  {P : Scanned} {d : Destination} {decl : ControllerDecl} {cause : Fault}

theorem paramView_ne_error {external : Bool} {action : String} {param : Go.Arg}
    (bindable : (bindableName? param.type).isSome = true) :
    paramView external action param ≠ .error cause := by
  obtain ⟨type, named⟩ := Option.isSome_iff_exists.mp bindable
  obtain ⟨function, converted⟩ := exists_conversion named
  simp [paramView, named, converted]

theorem checkNames_error (dispatched : Dispatched r place P decl)
    (error : Plan.checkNames P.importPath decl = .error cause) : Rejected disk l r o cause := by
  unfold Plan.checkNames at error
  split at error
  · rename_i reserved
    cases error
    exact .reservedController dispatched (by simpa using reserved)
  · split at error
    · rename_i action found
      cases error
      have reserved := List.find?_some found
      exact .reservedAction dispatched (List.mem_of_find?_eq_some found) (by simpa using reserved)
    · cases error

theorem parentImport_error {importPath : String} (error : p.parentImport importPath = .error cause) :
    p.outputImport = none := by
  unfold Plan.parentImport at error
  split at error
  · cases error
  · assumption

theorem parentEntry_error {parent : Parent} (error : p.parentEntry parent = .error cause) :
    parent.id.isSome = true ∧ p.outputImport = none := by
  unfold Plan.parentEntry at error
  split at error
  · rename_i qualifier qualified
    rcases bind_eq_error_iff.mp error with missing | ⟨_, _, absent⟩
    · obtain ⟨id, numbered, -⟩ := Option.map_eq_some_iff.mp qualified
      exact ⟨by rw [numbered]; rfl, parentImport_error missing⟩
    · cases absent
  · cases error

/-- Nothing but a controller among its own ancestors keeps a controller from its dispatcher. -/
theorem controllerView_circular (renderable : Renderable r) (here : r.packages[place]? = some P)
    (inside : decl ∈ P.controllers.values) {external : Bool}
    (error : controllerView r place external decl = .error cause) :
    ∃ chain again, cause = .embeddingCycle chain again ∧
      r.ancestors place decl.name = .error cause ∧ r.CycleAbove (place, decl.name) := by
  have known := renderable.known place P here decl inside
  have declared : r.declared (place, decl.name) := Option.isSome_iff_exists.mpr ⟨decl, known⟩
  rcases controllerView_error error with circular | ⟨ancestors, listed, a, member, lost⟩ |
    ⟨action, member, param, taken, unread⟩
  · rcases ancestors_outcome renderable.closed declared with ⟨_, _, listed, -⟩ |
      ⟨chain, again, stuck, cycle⟩
    · rw [listed] at circular
      cases circular
    · rw [stuck] at circular
      cases circular
      exact ⟨chain, again, rfl, stuck, cycle⟩
  -- whatever the ancestors of a controller list is a controller of the run
  · rcases ancestors_outcome renderable.closed declared with ⟨_, ways, same, order, -⟩ | ⟨_, _, stuck, -⟩
    · rw [listed] at same
      cases same
      obtain ⟨parent, described⟩ := Option.isSome_iff_exists.mp (order.declared renderable.closed member)
      change r.controller? a.parent.package a.parent.name = some parent at described
      simp [ancestorDecl, described] at lost
    · rw [listed] at stuck
      cases stuck
  · have bindable :=
      renderable.bindable P (List.mem_of_getElem? here) decl inside action member param taken
    exact absurd unread (paramView_ne_error bindable)

theorem controllerView_rejected (renderable : Renderable r) (dispatched : Dispatched r place P decl)
    {external : Bool} (error : controllerView r place external decl = .error cause) :
    Rejected disk l r o cause := by
  obtain ⟨chain, again, rfl, stuck, cycle⟩ :=
    controllerView_circular renderable dispatched.here dispatched.listed error
  exact .embeddingCycle dispatched stuck cycle

theorem controllerSheet_rejected (renderable : Renderable p.resolution)
    (imported : 1 < (Plan.places p.resolution).length → p.outputImport ≠ none)
    (dispatched : Dispatched p.resolution place P decl) {before after : List ControllerDecl}
    (order : P.controllers.values = before ++ decl :: after)
    (error : p.controllerSheet place P d
      ((before.map fun other => Plan.controllerFile other.name).reverse ++ [Plan.packageFile]) decl =
        .error cause) : Rejected disk l p.resolution o cause := by
  rcases controllerSheet_error error with reserved | ⟨taken, rfl⟩ | unseen | ⟨parent, member, missing⟩
  · exact checkNames_error dispatched reserved
  · refine .sameFile dispatched order ?_
    simp only [List.mem_append, List.mem_reverse, List.mem_map, List.mem_singleton] at taken
    exact taken.symm
  · exact controllerView_rejected renderable dispatched unseen
  · obtain ⟨foreign, unset⟩ := parentEntry_error missing
    have inside := List.mem_of_getElem? dispatched.here
    exact absurd unset (imported (renderable.several P inside decl dispatched.listed parent member foreign))

theorem packageSheet_ne_error (renderable : Renderable p.resolution)
    (imported : 1 < (Plan.places p.resolution).length → p.outputImport ≠ none)
    (inside : P ∈ p.resolution.packages) : p.packageSheet P d ≠ .error cause := by
  intro error
  obtain ⟨importPath, member, missing⟩ := packageSheet_error error
  exact imported (renderable.numbered P inside importPath member) (parentImport_error missing)

theorem sheets_rejected (renderable : Renderable p.resolution)
    (imported : 1 < (Plan.places p.resolution).length → p.outputImport ≠ none)
    (member : .error cause ∈ p.sheets) : Rejected disk l p.resolution o cause := by
  obtain ⟨place, generated, P, here, listed⟩ := mem_sheets member
  rcases List.mem_append.mp listed with controllers | shared
  · obtain ⟨before, decl, after, order, error⟩ := mem_controllerSheets controllers
    have among : decl ∈ P.controllers.values := by simp [order]
    exact controllerSheet_rejected renderable imported ⟨generated, here, among⟩ order error.symm
  · have error := (List.mem_singleton.mp shared).symm
    exact absurd error (packageSheet_ne_error renderable imported (List.mem_of_getElem? here))

theorem outputImportOf_ok {found : Option String}
    (ok : Plan.outputImportOf disk l r o = .ok found) (several : 1 < (Plan.places r).length) :
    found ≠ none := by
  unfold Plan.outputImportOf at ok
  rw [if_pos several] at ok
  split at ok
  · cases ok
    exact nofun
  · split at ok
    · cases ok
      exact nofun
    · cases ok

theorem plan_error (error : Plan.of disk l r o = .error cause) : Rejected disk l r o cause := by
  unfold Plan.of at error
  split at error
  · rename_i nowhere
    cases error
    exact .noInputImport nowhere
  rcases bind_eq_error_iff.mp error with missing | ⟨_, _, absent⟩
  · unfold Plan.outputImportOf at missing
    split at missing
    · cases missing
    rename_i unset
    split at missing
    · rename_i several
      split at missing
      · cases missing
      · rename_i nowhere
        cases missing
        exact .noOutputImport several unset nowhere
    · cases missing
  · cases absent

theorem plan_ok (ok : Plan.of disk l r o = .ok p) :
    p.resolution = r ∧ p.options = o ∧ Plan.outputImportOf disk l r o = .ok p.outputImport := by
  unfold Plan.of at ok
  split at ok
  · cases ok
  obtain ⟨found, imported, ok⟩ := bind_eq_ok_iff.mp ok
  cases ok
  exact ⟨rfl, rfl, imported⟩

theorem fewResults_of_controllerView {external : Bool} {view : ControllerView}
    (few : HasFewResults decl) (seen : controllerView r place external decl = .ok view) :
    view.FewResults := by
  intro action member
  obtain ⟨⟨method, routes⟩, listed, made⟩ := exists_related (controllerView_ok seen).2.flip member
  rw [(actionView_ok made).2]
  exact (Nat.sub_le ..).trans (few method (List.of_mem_zip listed).1)

theorem render_error {library : Library} {sheet : Sheet}
    (error : sheet.render library = .error cause) :
    ∃ problem, cause = .during .renderTemplate sheet.template (.template problem) := by
  rcases bind_eq_error_iff.mp error with failed | ⟨_, _, absent⟩
  · unfold Library.render at failed
    simp only at failed
    split at failed
    · cases failed
    · rename_i problem _
      cases failed
      exact ⟨problem, rfl⟩
  · cases absent

end Steps

section Runs

variable {setting : Setting} {dir : String} {active : List Route.Prefix} {r : Resolution}
  (ok : resolve setting dir active = .ok r) {disk : Disk} {l : Locator} {o : Options}
  {library : Library} {cause : Fault}

include ok

theorem renderHandlers_error (error : renderHandlers disk l r o library = .error cause) :
    Rejected disk l r o cause ∨ ∃ (p : Plan) (sheet : Sheet), p.resolution = r ∧
      .ok sheet ∈ p.sheets ∧ sheet.render library = .error cause := by
  have renderable := renderable_of_resolve ok
  rcases bind_eq_error_iff.mp error with unplanned | ⟨p, planned, unrendered⟩
  · exact .inl (plan_error unplanned)
  obtain ⟨made, member, stopped⟩ := exists_of_mapM unrendered
  obtain ⟨rfl, rfl, found⟩ := plan_ok planned
  rcases bind_eq_error_iff.mp stopped with unmade | ⟨sheet, rfl, failed⟩
  · have imported := outputImportOf_ok found
    exact .inl (sheets_rejected renderable imported (unmade ▸ member))
  · exact .inr ⟨p, sheet, rfl, member, failed⟩

theorem renderHandlers_rejected (error : renderHandlers disk l r o library = .error cause) :
    Rejected disk l r o cause ∨ FailsToRender library cause := by
  rcases renderHandlers_error ok error with rejected | ⟨_, sheet, -, -, failed⟩
  · exact .inl rejected
  · obtain ⟨problem, template⟩ := render_error failed
    exact .inr ⟨sheet, problem, failed, template⟩

/-- Without templates of its own a run fails for reasons that its input gives, where no action has so
many results that a template could not go through them. -/
theorem rejected_of_load {any : Disk} (loaded : Library.load any none = .ok library)
    (few : ∀ P ∈ r.packages, ∀ decl ∈ P.controllers.values, HasFewResults decl)
    (error : renderHandlers disk l r o library = .error cause) : Rejected disk l r o cause := by
  refine (renderHandlers_error ok error).resolve_right ?_
  rintro ⟨p, sheet, rfl, member, failed⟩
  have made : ∃ file, sheet.render library = .ok file := by
    refine exists_render loaded fun view content => ?_
    obtain ⟨_, P, decl, here, listed, seen⟩ := view_of_mem_sheets member content
    exact fewResults_of_controllerView (few P (List.mem_of_getElem? here) decl listed) seen
  obtain ⟨file, rendered⟩ := made
  rw [failed] at rendered
  cases rendered

end Runs

/-- Whatever a run found can be rendered unless its input is rejected or a template fails: its parts
never contradict each other. -/
theorem renderHandlers_fault {setting : Setting} {dir : String} {active : List Route.Prefix}
    {r : Resolution} (ok : resolve setting dir active = .ok r) (disk : Disk) (l : Locator)
    (o : Options) (library : Library) {cause : Fault}
    (error : renderHandlers disk l r o library = .error cause) :
    ¬Inconsistent cause ∧ (Rejected disk l r o cause ∨ FailsToRender library cause) := by
  have outcome := renderHandlers_rejected ok error
  refine ⟨?_, outcome⟩
  rcases outcome with rejected | ⟨_, _, _, rfl⟩
  · exact rejected.not_inconsistent
  · exact nofun

/-- A package of two controllers whose files have one name. -/
def alikePackage : Go.Package :=
  let action (name file : String) : Go.Func :=
    ⟨"X", file, [], [], [⟨"", "", .named (some "h") "H"⟩], some ⟨"", "", .named none name⟩⟩
  ⟨"a", [], .ofList [("AbC", [action "AbC" "/a/a.go"]), ("Ab_c", [action "Ab_c" "/a/b.go"])],
    [⟨"AbC", "/a/a.go", [], []⟩, ⟨"Ab_c", "/a/b.go", [], []⟩],
    .ofList [("/a/a.go", .ofList [("h", "h")]), ("/a/b.go", .ofList [("h", "h")])]⟩

abbrev alike : Setting :=
  twoFiles "package a\nimport\"h\"\ntype AbC struct\x7b\x7d\nfunc(AbC)X()h.H".toUTF8
    "package a\nimport\"h\"\ntype Ab_c struct\x7b\x7d\nfunc(Ab_c)X()h.H".toUTF8

theorem package_alike : alike.disk.package "/a" = .ok alikePackage :=
  package_twoFiles (by decide +kernel)

theorem importsMarkers_alike : ImportsMarkers alikePackage :=
  importsMarkers_of_entries rfl (by decide)

theorem importFor?_twoFiles (a b : ByteArray) :
    (twoFiles a b).locator.importFor? (twoFiles a b).disk "/a" = some "a" := by
  rfl

def placedOptions : Options :=
  { Options.of "/a" "/out" "routes" with outputImport := some "g" }

section Alike

variable {active : List Route.Prefix} {r : Resolution} {place : Nat} {P : Scanned}
  {decl : ControllerDecl} (explored : Explored alike "/a" active r)
  (here : r.packages[place]? = some P)

include explored here

theorem decl_alike (member : decl ∈ P.controllers.values) :
    decl.name ∈ ["AbC", "Ab_c"] ∧ decl.parents = [] ∧
      ∀ action ∈ decl.actions, action.name = "X" ∧ action.results.length = 1 := by
  obtain ⟨-, -, package⟩ := eq_root_twoFiles package_alike importsMarkers_alike explored here
  obtain ⟨s, inside, declared, named, actions⟩ := exists_struct explored here member
  rw [package, alikePackage, List.mem_cons, List.mem_singleton] at inside
  have plain : s.fields = [] := by rcases inside with rfl | rfl <;> rfl
  refine ⟨?_, List.eq_nil_iff_forall_not_mem.mpr fun parent listed => ?_, fun action listed => ?_⟩
  · rw [named]
    rcases inside with rfl | rfl <;> decide
  · obtain ⟨other, there, target⟩ := exists_target explored here member listed
    cases declared.symm.trans there
    rw [plain] at target
    cases target
  · rw [actions, package] at listed
    have listed := List.mem_of_mem_filter listed
    rcases inside with rfl | rfl <;> cases List.mem_singleton.mp listed <;> exact ⟨rfl, rfl⟩

theorem names_alike : "AbC" ∈ P.controllers.keys ∧ "Ab_c" ∈ P.controllers.keys := by
  obtain ⟨-, -, package⟩ := eq_root_twoFiles package_alike importsMarkers_alike explored here
  simp only [Dictionary.mem_keys_iff]
  constructor <;> refine explored.arena.exists_get? here ?_ <;> rw [package] <;> decide +kernel

end Alike

theorem not_reserved_alike : ∀ name ∈ ["AbC", "Ab_c"], name ∉ Plan.reservedControllers := by
  decide

theorem controllerFile_alike : ∀ name ∈ ["AbC", "Ab_c"], Plan.controllerFile name = "ab_c.go" := by
  decide

theorem renderHandlers_alike_ne_ok {r : Resolution} (ok : resolve alike "/a" [] = .ok r)
    {disk : Disk} {l : Locator} {o : Options} {library : Library} {files : List OutputFile} :
    renderHandlers disk l r o library ≠ .ok files := by
  intro rendered
  have explored := explored_of_resolve ok
  obtain ⟨p, planned, rendered⟩ := bind_eq_ok_iff.mp rendered
  obtain ⟨made, all, -⟩ := renderSheets_ok rendered
  obtain ⟨rfl, -, -⟩ := plan_ok planned
  obtain ⟨P, here, -, -⟩ := root_twoFiles package_alike explored.arena
  obtain ⟨sheets, controllers, -⟩ := exists_sheets fun outcome member =>
    all ▸ mem_sheets_of_place (List.mem_cons_self ..) here (List.mem_append_left _ member)
  have distinct := nodup_of_controllerSheets controllers (List.nodup_singleton _)
  rw [controllerFiles_eq explored here] at distinct
  have distinct := List.nodup_reverse.mp (List.nodup_append.mp distinct).1
  obtain ⟨first, second⟩ := names_alike explored here
  exact absurd (List.inj_on_of_nodup_map distinct first second (by decide)) (by decide)

theorem renderHandlers_fault_alike :
    ∃ library r cause, Library.load alike.disk none = .ok library ∧
      resolve alike "/a" [] = .ok r ∧
      renderHandlers alike.disk alike.locator r placedOptions library = .error cause ∧
      ¬Inconsistent cause ∧ ∃ name, cause = .sameFile name "a" "ab_c.go" := by
  obtain ⟨library, loaded⟩ := exists_library alike.disk
  obtain ⟨r, ok⟩ := exists_resolve_twoFiles package_alike importsMarkers_alike
  have explored := explored_of_resolve ok
  cases rendered : renderHandlers alike.disk alike.locator r placedOptions library with
  | ok files => exact absurd rendered (renderHandlers_alike_ne_ok ok)
  | error cause =>
    refine ⟨library, r, cause, loaded, ok, rendered, (renderHandlers_fault ok _ _ _ _ rendered).1, ?_⟩
    have few : ∀ P ∈ r.packages, ∀ decl ∈ P.controllers.values, HasFewResults decl := by
      intro P member decl listed action own
      obtain ⟨place, here⟩ := List.getElem?_of_mem member
      rw [((decl_alike explored here listed).2.2 action own).2]
      decide
    cases rejected_of_load ok loaded few rendered with
    | noInputImport nowhere => cases (importFor?_twoFiles _ _).symm.trans nowhere
    | noOutputImport _ unset => cases unset
    | reservedController dispatched reserved =>
      have named := (decl_alike explored dispatched.here dispatched.listed).1
      exact absurd reserved (not_reserved_alike _ named)
    | reservedAction dispatched member reserved =>
      rw [((decl_alike explored dispatched.here dispatched.listed).2.2 _ member).1] at reserved
      exact absurd reserved (by decide)
    | @sameFile place P before after decl dispatched =>
      have named := (decl_alike explored dispatched.here dispatched.listed).1
      have key := (eq_root_twoFiles package_alike importsMarkers_alike explored dispatched.here).2.1
      exact ⟨decl.name, by rw [key, controllerFile_alike _ named]⟩
    | embeddingCycle _ _ cycle =>
      refine absurd cycle (Resolution.not_cycleAbove_of_parents (fun i P name decl here found => ?_) _)
      rw [(decl_alike explored here (Dictionary.mem_values_of_get? found)).2.1]
      exact List.forall_mem_nil _

/-- A controller that is alone in its package and gives no reason for a run to fail. -/
structure Unobtrusive (P : Scanned) (decl : ControllerDecl) : Prop where
  unreserved : decl.name ∉ Plan.reservedControllers
  actions : ∀ action ∈ decl.actions, action.name ∉ Plan.reservedActions
  results : HasFewResults decl
  ownFile : Plan.controllerFile decl.name ≠ Plan.packageFile
  alone : ∀ other ∈ P.controllers.values, other.name = decl.name
  foreign : ∀ parent ∈ decl.parents, parent.importPath ≠ P.importPath

theorem unobtrusive_of_struct {setting : Setting} {dir : String} {active : List Route.Prefix}
    {r : Resolution} (explored : Explored setting dir active r) {place : Nat} {P : Scanned}
    (here : r.packages[place]? = some P) {decl : ControllerDecl}
    (member : decl ∈ P.controllers.values) {s : Go.Struct} (only : P.package.structs = [s])
    (name : s.name ∉ Plan.reservedControllers ∧ Plan.controllerFile s.name ≠ Plan.packageFile)
    (actions : ∀ action ∈ actionsOf P.package setting.markers s.name,
      action.name ∉ Plan.reservedActions ∧ action.results.length ≤ rangeLimit)
    (foreign : ∀ target ∈ s.fields.filterMap (target? setting P.importPath P.package s),
      target.1 ≠ P.importPath) : Unobtrusive P decl := by
  obtain ⟨declared, same, own⟩ := controller_of_struct explored here member only
  constructor
  case unreserved => exact same ▸ name.1
  case actions => exact own ▸ fun action member => (actions action member).1
  case results =>
    rw [HasFewResults, own]
    exact fun action member => (actions action member).2
  case ownFile => exact same ▸ name.2
  case alone =>
    intro other listed
    exact (controller_of_struct explored here listed only).2.1.trans same.symm
  case foreign =>
    intro parent listed
    obtain ⟨found, there, target⟩ := exists_target explored here member listed
    cases declared.symm.trans there
    exact foreign _ target

section Unobtrusive

variable {setting : Setting} {dir : String} {active : List Route.Prefix} {r : Resolution}
  (explored : Explored setting dir active r)
  (each : ∀ (place : Nat) (P : Scanned), r.packages[place]? = some P →
    ∀ decl ∈ P.controllers.values, Unobtrusive P decl)

include explored each

theorem not_cycleAbove_of_unobtrusive (start : Place) : ¬r.CycleAbove start := by
  refine Resolution.not_cycleAbove_of_parents (fun i P name decl here found parent listed => ?_) start
  have foreign := (each i P here decl (Dictionary.mem_values_of_get? found)).foreign parent listed
  obtain ⟨Q, there, named, -, before⟩ := explored.arena.placed i P name decl here found parent listed
  cases number : parent.id with
  | some id =>
    rw [number] at before
    exact before
  -- a parent without a number would be in the package itself
  | none =>
    rw [number] at before
    obtain rfl : parent.package = i := before
    rw [here] at there
    cases there
    exact absurd named.symm foreign

theorem not_rejected_of_unobtrusive {disk : Disk} {l : Locator} {o : Options}
    (input : l.importFor? disk o.input ≠ none)
    (output : 1 < (Plan.places r).length → o.outputImport = none → l.importFor? disk o.output ≠ none)
    {cause : Fault} : ¬Rejected disk l r o cause := by
  have unobtrusive {place : Nat} {P : Scanned} {decl : ControllerDecl}
      (dispatched : Dispatched r place P decl) : Unobtrusive P decl :=
    each place P dispatched.here decl dispatched.listed
  intro rejected
  cases rejected with
  | noInputImport nowhere => exact input nowhere
  | noOutputImport several unset nowhere => exact output several unset nowhere
  | reservedController dispatched reserved => exact (unobtrusive dispatched).unreserved reserved
  | reservedAction dispatched member reserved =>
    exact (unobtrusive dispatched).actions _ member reserved
  | @sameFile place P before after decl dispatched order taken =>
    rcases taken with shared | ⟨other, earlier, -⟩
    · exact (unobtrusive dispatched).ownFile shared
    · have distinct := names_nodup explored dispatched.here
      rw [order, List.map_append, List.map_cons, List.nodup_append] at distinct
      have member : other ∈ P.controllers.values := by simp [order, earlier]
      have same := (unobtrusive dispatched).alone other member
      exact distinct.2.2 other.name (List.mem_map_of_mem earlier) decl.name (List.mem_cons_self ..) same
  | embeddingCycle _ _ cycle => exact not_cycleAbove_of_unobtrusive explored each _ cycle

end Unobtrusive

theorem exists_renderHandlers_of_unobtrusive {setting : Setting} {dir : String}
    {active : List Route.Prefix} {r : Resolution} (ok : resolve setting dir active = .ok r)
    (each : ∀ (place : Nat) (P : Scanned), r.packages[place]? = some P →
      ∀ decl ∈ P.controllers.values, Unobtrusive P decl)
    {disk any : Disk} {l : Locator} {o : Options} {library : Library} {input output : String}
    (loaded : Library.load any none = .ok library) (known : l.importFor? disk o.input = some input)
    (given : o.outputImport = some output) :
    ∃ files, renderHandlers disk l r o library = .ok files := by
  cases rendered : renderHandlers disk l r o library with
  | ok files => exact ⟨files, rfl⟩
  | error cause =>
    have few : ∀ P ∈ r.packages, ∀ decl ∈ P.controllers.values, HasFewResults decl := by
      intro P member decl listed
      obtain ⟨place, here⟩ := List.getElem?_of_mem member
      exact (each place P here decl listed).results
    refine absurd (rejected_of_load ok loaded few rendered)
      (not_rejected_of_unobtrusive (explored_of_resolve ok) each ?_ fun _ unset => ?_)
    · rw [known]
      exact Option.some_ne_none input
    · rw [given] at unset
      cases unset

end Dispatchers.Handlers
