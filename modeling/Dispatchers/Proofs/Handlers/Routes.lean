import Dispatchers.Proofs.Handlers.Coherence
import Dispatchers.Proofs.Template.Shapes
import Dispatchers.RouteTable

namespace Dispatchers.Handlers

open Controller Resolve Template

structure Row where
  package : String
  controller : String
  method : String
  pattern : String
  /-- Empty for a route without one. -/
  label : String
  handler : String
deriving DecidableEq

def rowOfEntry (e : RouteEntry) : Row :=
  ⟨e.package, e.controller, e.route.verb.name, e.route.pattern, e.route.label.getD "",
    e.route.handler⟩

/-- The row that a template reads from the value of a route. -/
def rowOfValue (package controller : String) (route : Value) : Row :=
  ⟨package, controller, (route.field "method").display, (route.field "pattern").display,
    (route.field "label").display, (route.field "handler_name").display⟩

namespace Sheet

def dispatcher (s : Sheet) : Value :=
  s.context.field "controller"

def methods (s : Sheet) : List Value :=
  (s.dispatcher.field "actions").items

/-- The rows in a file that is generated for the package `importPath`, as its template reads
them. -/
def rows (importPath : String) (s : Sheet) : List Row :=
  s.methods.flatMap fun action => (action.field "routes").items.map
    (rowOfValue importPath (s.dispatcher.field "name").display)

/-- Every route of a file is at the method that has the name of its handler. -/
def Attached (s : Sheet) : Prop :=
  ∀ action ∈ s.methods, ∀ route ∈ (action.field "routes").items,
    (route.field "handler_name").display =
      (s.dispatcher.field "name").display ++ "." ++ (action.field "name").display

end Sheet

structure Emitted where
  scanned : Scanned
  sheets : List Sheet

def Emitted.rows (e : Emitted) : List Row :=
  e.sheets.flatMap (·.rows e.scanned.importPath)

structure Emits (p : Plan) (place : Nat) (e : Emitted) : Prop where
  here : p.resolution.packages[place]? = some e.scanned
  made : p.sheetsOf place e.scanned = e.sheets.map .ok

def tableRows (r : Resolution) : List Row :=
  (RouteTable.ofResolution r).map rowOfEntry

def rowsOfController (importPath : String) (decl : ControllerDecl) : List Row :=
  (RouteTable.ofController importPath decl).map rowOfEntry

def rowsOf (P : Scanned) : List Row :=
  P.controllers.values.flatMap (rowsOfController P.importPath)

theorem tableRows_eq (r : Resolution) : tableRows r = r.packages.flatMap rowsOf := by
  simp only [tableRows, RouteTable.ofResolution, List.map_flatMap]
  rfl

section Values

variable {s : Sheet} {view : ControllerView}

theorem RouteView.rowOfValue_value (package controller : String) (r : RouteView) :
    rowOfValue package controller r.value =
      ⟨package, controller, r.method, r.pattern, r.label, r.handler⟩ := by
  have method : r.value.field "method" = .text r.method := Value.field_record (by simp) (by simp)
  have pattern : r.value.field "pattern" = .text r.pattern := Value.field_record (by simp) (by simp)
  have label : r.value.field "label" = .text r.label := Value.field_record (by simp) (by simp)
  have handler : r.value.field "handler_name" = .text r.handler :=
    Value.field_record (by simp) (by simp)
  rw [rowOfValue, method, pattern, label, handler]
  rfl

theorem RouteView.handler_value (r : RouteView) :
    (r.value.field "handler_name").display = r.handler :=
  congrArg Row.handler (r.rowOfValue_value "" "")

theorem ActionView.name_value (a : ActionView) : (a.value.field "name").display = a.name := by
  have name : a.value.field "name" = .text a.name := Value.field_record (by simp) (by simp)
  rw [name]
  rfl

theorem ActionView.routes_value (a : ActionView) :
    (a.value.field "routes").items = a.routes.map RouteView.value := by
  have routes : a.value.field "routes" = .list (a.routes.map RouteView.value) :=
    Value.field_record (by simp) (by simp)
  rw [routes]
  rfl

theorem ControllerView.name_value (v : ControllerView) :
    (v.value.field "name").display = v.name := by
  have name : v.value.field "name" = .text v.name := Value.field_record (by simp) (by simp)
  rw [name]
  rfl

theorem ControllerView.actions_value (v : ControllerView) :
    (v.value.field "actions").items = v.actions.map ActionView.value := by
  have actions : v.value.field "actions" = .list (v.actions.map ActionView.value) :=
    Value.field_record (by simp) (by simp)
  rw [actions]
  rfl

theorem dispatcher_of_controller (content : s.content = .controller view) :
    s.dispatcher = view.value := by
  rw [Sheet.dispatcher, Sheet.context, Sheet.entries, content]
  exact Value.field_record (by simp) (by simp)

theorem methods_of_controller (content : s.content = .controller view) :
    s.methods = view.actions.map ActionView.value := by
  rw [Sheet.methods, dispatcher_of_controller content, view.actions_value]

theorem rows_of_controller (content : s.content = .controller view) (importPath : String) :
    s.rows importPath = view.actions.flatMap fun action => action.routes.map fun route =>
      ⟨importPath, view.name, route.method, route.pattern, route.label, route.handler⟩ := by
  simp only [Sheet.rows, methods_of_controller content, dispatcher_of_controller content,
    view.name_value, List.flatMap_map, ActionView.routes_value, List.map_map, Function.comp_def,
    RouteView.rowOfValue_value]

theorem methods_of_package {controllers : List String} {parents : List Nat} {callsInit : Bool}
    {helpers : List ConversionHelper}
    (content : s.content = .package controllers parents callsInit helpers) : s.methods = [] := by
  have none : s.dispatcher = .undefined := by
    rw [Sheet.dispatcher, Sheet.context, Sheet.entries, content]
    exact Value.field_record_of_absent (by simp)
  rw [Sheet.methods, none]
  rfl

end Values

section Lists

variable {α β γ : Type}

theorem flatMap_eq_of_forall₂ {f : α → List γ} {g : β → List γ} {as : List α} {bs : List β}
    (each : List.Forall₂ (fun a b => f a = g b) as bs) : as.flatMap f = bs.flatMap g := by
  induction each with
  | nil => rfl
  | cons first _ ih => rw [List.flatMap_cons, List.flatMap_cons, first, ih]

theorem flatMap_filter {f : α → List γ} {kept : α → Bool} {as : List α}
    (others : ∀ a ∈ as, kept a = false → f a = []) : (as.filter kept).flatMap f = as.flatMap f := by
  induction as with
  | nil => rfl
  | cons a as ih =>
    have rest := ih fun b member => others b (List.mem_cons_of_mem _ member)
    cases keep : kept a with
    | true => rw [List.filter_cons_of_pos keep, List.flatMap_cons, List.flatMap_cons, rest]
    | false =>
      rw [List.filter_cons_of_neg (by simp [keep]), List.flatMap_cons, rest,
        others a (List.mem_cons_self ..) keep, List.nil_append]

end Lists

section Views

variable {r : Resolution} {place : Nat} {external : Bool} {decl : ControllerDecl}

theorem handler_of_mem_ofComments {controller action file : String} {active : List Route.Prefix}
    {comments : List String} {route : Route}
    (member : route ∈ (Route.ofComments controller action file active comments).1) :
    route.handler = controller ++ "." ++ action := by
  obtain ⟨found, listed, member⟩ := List.mem_flatMap.mp member
  obtain ⟨line, -, rfl⟩ := List.mem_map.mp listed
  unfold Route.ofLine at member
  split at member
  · cases member
  · obtain ⟨verb, -, member⟩ := List.mem_flatMap.mp member
    obtain ⟨full, -, rfl⟩ := List.mem_map.mp member
    rfl
  · cases member

theorem actionView_routes {action : Go.Func} {routes : List Route} {view : ActionView}
    (ok : actionView external action routes = .ok view) :
    view.name = action.name ∧ view.routes = routes.map RouteView.of := by
  obtain ⟨params, -, ok⟩ := bind_eq_ok_iff.mp ok
  cases ok
  exact ⟨rfl, rfl⟩

theorem controllerView_name {view : ControllerView}
    (ok : controllerView r place external decl = .ok view) : view.name = decl.name := by
  obtain ⟨_, _, ok⟩ := bind_eq_ok_iff.mp ok
  obtain ⟨_, _, ok⟩ := bind_eq_ok_iff.mp ok
  obtain ⟨_, _, ok⟩ := bind_eq_ok_iff.mp ok
  cases ok
  rfl

variable {setting : Setting} {P : Scanned} {view : ControllerView}

theorem actions_of_controllerView (routed : Routed setting P decl.name decl)
    (ok : controllerView r place external decl = .ok view) :
    List.Forall₂ (fun action made => made.name = action.name ∧ made.routes =
      (Route.ofComments decl.name action.name action.file P.prefixes action.comments).1.map
        RouteView.of) decl.actions view.actions := by
  have pairs := (controllerView_ok ok).2
  rw [routed.routes, ← List.map_prod_left_eq_zip, List.forall₂_map_left_iff] at pairs
  exact pairs.imp fun _ _ made => actionView_routes made

theorem routes_of_controllerView (routed : Routed setting P decl.name decl)
    (ok : controllerView r place external decl = .ok view) :
    view.actions.map (·.routes) = decl.routes.map fun routes => routes.map RouteView.of := by
  have each := actions_of_controllerView routed ok
  rw [routed.routes]
  generalize decl.actions = actions at each
  generalize view.actions = views at each
  induction each with
  | nil => rfl
  | cons made _ ih => rw [List.map_cons, List.map_cons, List.map_cons, made.2, ih]

end Views

section Packages

variable {setting : Setting} {dir : String} {active : List Route.Prefix} {p : Plan} {place : Nat}
  {P : Scanned} {d : Destination} {earlier : List String} {decl : ControllerDecl} {sheet : Sheet}
  {e : Emitted}

theorem rows_of_controllerSheet (routed : Routed setting P decl.name decl)
    (ok : p.controllerSheet place P d earlier decl = .ok sheet) :
    sheet.rows P.importPath = rowsOfController P.importPath decl := by
  obtain ⟨view, -, seen, -, -, -, content⟩ := controllerSheet_ok ok
  let row (route : RouteView) : Row :=
    ⟨P.importPath, decl.name, route.method, route.pattern, route.label, route.handler⟩
  calc sheet.rows P.importPath
    _ = view.actions.flatMap fun action => action.routes.map row := by
      rw [rows_of_controller content, controllerView_name seen]
    _ = (view.actions.map (·.routes)).flatten.map row := by
      rw [List.map_flatten, List.map_map, List.flatMap_def]
      rfl
    _ = (decl.routes.flatten.map RouteView.of).map row := by
      rw [routes_of_controllerView routed seen, ← List.map_flatten]
    _ = rowsOfController P.importPath decl := by
      rw [rowsOfController, RouteTable.ofController, List.map_map, List.map_map]
      rfl

theorem attached_of_controllerSheet (routed : Routed setting P decl.name decl)
    (ok : p.controllerSheet place P d earlier decl = .ok sheet) : sheet.Attached := by
  obtain ⟨view, -, seen, -, -, -, content⟩ := controllerSheet_ok ok
  intro method member route listed
  rw [methods_of_controller content] at member
  obtain ⟨made, inside, rfl⟩ := List.mem_map.mp member
  rw [made.routes_value] at listed
  obtain ⟨answered, among, rfl⟩ := List.mem_map.mp listed
  obtain ⟨action, -, name, routes⟩ :=
    exists_related (actions_of_controllerView routed seen).flip inside
  rw [routes] at among
  obtain ⟨route, found, rfl⟩ := List.mem_map.mp among
  rw [RouteView.handler_value, dispatcher_of_controller content, view.name_value, made.name_value,
    controllerView_name seen, name]
  exact handler_of_mem_ofComments found

theorem routed_of_explored (explored : Explored setting dir active p.resolution)
    (here : p.resolution.packages[place]? = some P) (member : decl ∈ P.controllers.values) :
    Routed setting P decl.name decl :=
  (explored.arranged.complete here).routed (get?_of_mem_values explored here member)

theorem Emits.sheets (explored : Explored setting dir active p.resolution) (emits : Emits p place e) :
    ∃ dispatchers shared, e.sheets = dispatchers ++ [shared] ∧
      shared.rows e.scanned.importPath = [] ∧ shared.Attached ∧
      List.Forall₂ (fun decl sheet =>
        sheet.rows e.scanned.importPath = rowsOfController e.scanned.importPath decl ∧
          sheet.Attached) e.scanned.controllers.values dispatchers := by
  have made := emits.made
  obtain ⟨dispatchers, others, same, controllers, package⟩ := List.append_eq_map_iff.mp made
  obtain ⟨shared, rfl, last⟩ := List.map_eq_singleton_iff.mp package
  obtain ⟨_, -, -, -, content⟩ := packageSheet_ok last.symm
  have none := methods_of_package content
  refine ⟨dispatchers, shared, same, by rw [Sheet.rows, none]; rfl, ?_, ?_⟩
  · intro method member
    rw [none] at member
    cases member
  · refine forall₂_controllerSheets controllers.symm fun decl member earlier sheet ok => ?_
    have routed := routed_of_explored explored emits.here member
    exact ⟨rows_of_controllerSheet routed ok, attached_of_controllerSheet routed ok⟩

theorem Emits.rows (explored : Explored setting dir active p.resolution) (emits : Emits p place e) :
    e.rows = rowsOf e.scanned := by
  obtain ⟨dispatchers, shared, same, none, -, each⟩ := emits.sheets explored
  rw [Emitted.rows, same, List.flatMap_append, List.flatMap_singleton, none, List.append_nil]
  exact (flatMap_eq_of_forall₂ (each.imp fun _ _ both => both.1.symm)).symm

theorem Emits.attached (explored : Explored setting dir active p.resolution)
    (emits : Emits p place e) : ∀ sheet ∈ e.sheets, sheet.Attached := by
  obtain ⟨dispatchers, shared, same, -, last, each⟩ := emits.sheets explored
  intro sheet member
  rw [same, List.mem_append, List.mem_singleton] at member
  rcases member with own | rfl
  · obtain ⟨_, -, -, attached⟩ := exists_related each.flip own
    exact attached
  · exact last

theorem exists_emitted {places : List Nat} {made : List Sheet}
    (known : ∀ place ∈ places, ∃ P, p.resolution.packages[place]? = some P)
    (planned : (places.flatMap fun place =>
      match p.resolution.packages[place]? with
      | some s => p.sheetsOf place s
      | none => []) = made.map .ok) :
    ∃ emitted, List.Forall₂ (Emits p) places emitted ∧ emitted.flatMap (·.sheets) = made := by
  induction places generalizing made with
  | nil => exact ⟨[], .nil, (List.map_eq_nil_iff.mp planned.symm).symm⟩
  | cons place places ih =>
    obtain ⟨P, here⟩ := known place (List.mem_cons_self ..)
    rw [List.flatMap_cons, here] at planned
    obtain ⟨sheets, others, rfl, first, rest⟩ := List.append_eq_map_iff.mp planned
    obtain ⟨emitted, each, rfl⟩ :=
      ih (fun other member => known other (List.mem_cons_of_mem _ member)) rest.symm
    exact ⟨⟨P, sheets⟩ :: emitted, .cons ⟨here, first.symm⟩ each, rfl⟩

end Packages

section Order

variable {setting : Setting} {dir : String} {active : List Route.Prefix} {r : Resolution}

theorem exists_of_mem_places (arena : Arena setting dir r) {place : Nat}
    (member : place ∈ Plan.places r) : ∃ P, r.packages[place]? = some P := by
  rcases mem_places_iff.mp member with rfl | ⟨P, here, -⟩
  · obtain ⟨P, here, -⟩ := arena.rooted
    exact ⟨P, here⟩
  · exact ⟨P, here⟩

theorem rowsOf_of_empty {P : Scanned} (empty : P.controllers.keys = []) : rowsOf P = [] := by
  have values : P.controllers.values = [] :=
    List.map_eq_nil_iff.mpr (List.map_eq_nil_iff.mp empty)
  rw [rowsOf, values]
  rfl

def isBeside (r : Resolution) (entry : Scanned × Nat) : Bool :=
  decide (entry.2 ≠ r.root ∧ entry.1.controllers.keys ≠ [])

theorem places_eq (r : Resolution) :
    Plan.places r = r.root :: (r.packages.zipIdx.filter (isBeside r)).map Prod.snd :=
  rfl

def besides (r : Resolution) : List Scanned :=
  (r.packages.eraseIdx r.root).filter (·.controllers.keys ≠ [])

section Places

variable {earlier : List Scanned} {last : Scanned}

theorem besides_eq (packages : r.packages = earlier ++ [last]) (root : r.root = earlier.length) :
    besides r = earlier.filter (·.controllers.keys ≠ []) := by
  rw [besides, packages, root, List.eraseIdx_append_of_length_le (Nat.le_refl _), Nat.sub_self]
  simp

/-- The root is generated first, and behind it what is generated besides. -/
theorem flatMap_generated {β : Type} {f g : Scanned → List β}
    (packages : r.packages = earlier ++ [last]) (root : r.root = earlier.length) :
    ((Plan.places r).flatMap fun place =>
      (r.packages[place]?).elim [] fun P => if place = r.root then f P else g P) =
      f last ++ (besides r).flatMap g := by
  have first : r.packages[r.root]? = some last := by
    rw [packages, root, List.getElem?_concat_length]
  have beside : r.packages.zipIdx.filter (isBeside r) =
      earlier.zipIdx.filter fun entry => decide (entry.1.controllers.keys ≠ []) := by
    have root_only : [(last, earlier.length)].filter (isBeside r) = [] := by simp [isBeside, root]
    rw [packages, List.zipIdx_append, List.filter_append, List.zipIdx_singleton, Nat.zero_add,
      root_only, List.append_nil]
    refine List.filter_congr fun entry member => ?_
    have bound := List.snd_lt_of_mem_zipIdx member
    have apart : entry.2 ≠ r.root := by omega
    simp [isBeside, apart]
  have at_place : ∀ entry ∈ earlier.zipIdx.filter fun entry => decide (entry.1.controllers.keys ≠ []),
      ((r.packages[entry.2]?).elim [] fun P => if entry.2 = r.root then f P else g P) =
        g entry.1 := by
    intro entry member
    have member := (List.mem_filter.mp member).1
    have here : earlier[entry.2]? = some entry.1 := List.mem_zipIdx_iff_getElem?.mp member
    have bound := List.snd_lt_of_mem_zipIdx member
    have apart : entry.2 ≠ r.root := by omega
    rw [getElem?_grown ⟨[last], packages.symm⟩ here, Option.elim_some, if_neg apart]
  rw [places_eq, List.flatMap_cons, first, beside, List.flatMap_map, List.flatMap_congr at_place,
    Option.elim_some, if_pos rfl, besides_eq packages root, ← List.flatMap_map]
  have kept : (earlier.zipIdx.filter fun entry => decide (entry.1.controllers.keys ≠ [])).map
      Prod.fst = earlier.filter (·.controllers.keys ≠ []) := by
    have all : (earlier.zipIdx.map Prod.fst).filter (·.controllers.keys ≠ []) = _ :=
      List.filter_map
    rw [List.zipIdx_map_fst] at all
    exact all.symm
  rw [kept]

/-- A package without controllers adds no rows, so that nothing is lost where it is left out. -/
theorem flatMap_places (packages : r.packages = earlier ++ [last]) (root : r.root = earlier.length) :
    (Plan.places r).flatMap (fun place => (r.packages[place]?).elim [] rowsOf) =
      rowsOf last ++ earlier.flatMap rowsOf := by
  have generated := flatMap_generated (f := rowsOf) (g := rowsOf) packages root
  simp only [ite_self] at generated
  rw [generated, besides_eq packages root, flatMap_filter]
  intro P _ empty
  exact rowsOf_of_empty (by simpa using empty)

end Places

theorem package_of_mem_rowsOf {P : Scanned} {row : Row} (member : row ∈ rowsOf P) :
    row.package = P.importPath := by
  obtain ⟨decl, -, member⟩ := List.mem_flatMap.mp member
  obtain ⟨entry, listed, rfl⟩ := List.mem_map.mp member
  obtain ⟨route, -, rfl⟩ := List.mem_map.mp listed
  rfl

theorem filter_rows_append {earlier : List Scanned} {last : Scanned}
    (distinct : ((earlier ++ [last]).map (·.importPath)).Nodup) (importPath name : String) :
    (rowsOf last ++ earlier.flatMap rowsOf).filter
        (fun row => row.package = importPath ∧ row.controller = name) =
      (earlier.flatMap rowsOf ++ rowsOf last).filter
        (fun row => row.package = importPath ∧ row.controller = name) := by
  rw [List.filter_append, List.filter_append]
  by_cases here : last.importPath = importPath
  · have none : (earlier.flatMap rowsOf).filter
        (fun row => row.package = importPath ∧ row.controller = name) = [] := by
      rw [List.filter_eq_nil_iff]
      intro row member
      obtain ⟨P, before, member⟩ := List.mem_flatMap.mp member
      rw [package_of_mem_rowsOf member, ← here]
      rw [List.map_append, List.map_singleton, List.nodup_append] at distinct
      have apart := distinct.2.2 P.importPath (List.mem_map_of_mem before) last.importPath
        (List.mem_singleton_self _)
      simp [apart]
    rw [none, List.append_nil, List.nil_append]
  · have none : (rowsOf last).filter
        (fun row => row.package = importPath ∧ row.controller = name) = [] := by
      rw [List.filter_eq_nil_iff]
      intro row member
      rw [package_of_mem_rowsOf member]
      simp [here]
    rw [none, List.append_nil, List.nil_append]

/-- The dispatchers of a run have exactly the rows of its table, those of each controller in the
same order, and every row is at the method of its own action. -/
theorem renderHandlers_routes (ok : resolve setting dir active = .ok r) {disk : Disk} {l : Locator}
    {o : Options} {library : Library} {files : List OutputFile}
    (rendered : renderHandlers disk l r o library = .ok files) :
    ∃ (p : Plan) (emitted : List Emitted), Plan.of disk l r o = .ok p ∧
      List.Forall₂ (Emits p) (Plan.places r) emitted ∧
      List.Forall₂ (fun sheet file => sheet.render library = .ok file)
        (emitted.flatMap (·.sheets)) files ∧
      (emitted.flatMap (·.rows)).Perm (tableRows r) ∧
      (∀ importPath name,
        (emitted.flatMap (·.rows)).filter
            (fun row => row.package = importPath ∧ row.controller = name) =
          (tableRows r).filter
            (fun row => row.package = importPath ∧ row.controller = name)) ∧
      ∀ e ∈ emitted, ∀ sheet ∈ e.sheets, sheet.Attached := by
  have explored := explored_of_resolve ok
  have arena := explored.arena
  obtain ⟨p, planned, rendered⟩ := bind_eq_ok_iff.mp rendered
  obtain ⟨made, all, each⟩ := renderSheets_ok rendered
  obtain ⟨rfl, -, -⟩ := plan_ok planned
  obtain ⟨emitted, emits, rfl⟩ := exists_emitted (fun _ => exists_of_mem_places arena) all
  obtain ⟨earlier, last, packages, -⟩ := explored.served
  have root : p.resolution.root = earlier.length := by
    have length := explored.rootLast
    rw [packages, List.length_append, List.length_singleton] at length
    omega
  have rows : emitted.flatMap (·.rows) = rowsOf last ++ earlier.flatMap rowsOf := by
    rw [← flatMap_places packages root]
    refine (flatMap_eq_of_forall₂ (emits.imp fun place e emits => ?_)).symm
    rw [emits.here, emits.rows explored]
    rfl
  have table : tableRows p.resolution = earlier.flatMap rowsOf ++ rowsOf last := by
    rw [tableRows_eq, packages, List.flatMap_append, List.flatMap_singleton]
  refine ⟨p, emitted, planned, emits, each, ?_, ?_, ?_⟩
  · rw [rows, table]
    exact List.perm_append_comm
  · intro importPath name
    rw [rows, table]
    exact filter_rows_append (packages ▸ arena.distinct) importPath name
  · intro e member
    obtain ⟨_, -, emits⟩ := exists_related emits.flip member
    exact emits.attached explored

theorem mem_tableRows {place : Nat} {P : Scanned} (here : r.packages[place]? = some P)
    (member : decl ∈ P.controllers.values) {row : Row}
    (listed : row ∈ rowsOfController P.importPath decl) : row ∈ tableRows r := by
  rw [tableRows_eq]
  exact List.mem_flatMap.mpr ⟨P, List.mem_of_getElem? here, List.mem_flatMap.mpr ⟨decl, member, listed⟩⟩

theorem mem_tableRows_family (explored : Explored family "/a" [⟨.only .get, "p"⟩] r) :
    ⟨"a", "A", "GET", "p/x", "show", "A.X"⟩ ∈ tableRows r := by
  obtain ⟨P, decl, here, package, found⟩ := relates_family.exists_root explored.arena
  obtain ⟨first, there, key, initial⟩ := explored.rooted
  cases here.symm.trans there
  have routed := (explored.arranged.complete here).routed found
  have routes : decl.routes = [[⟨.get, "p/x", some "show", "A.X"⟩]] := by
    rw [routed.routes, routed.actions, initial, package]
    decide +kernel
  refine mem_tableRows here (Dictionary.mem_values_of_get? found) ?_
  rw [key, relates_family.root, rowsOfController, RouteTable.ofController, routes, routed.named]
  decide

theorem renderHandlers_routes_family :
    ∃ library r files p emitted, Library.load family.disk none = .ok library ∧
      resolve family "/a" [⟨.only .get, "p"⟩] = .ok r ∧
      renderHandlers family.disk family.locator r placedOptions library = .ok files ∧
      List.Forall₂ (Emits p) (Plan.places r) emitted ∧
      List.Forall₂ (fun sheet file => sheet.render library = .ok file)
        (emitted.flatMap (·.sheets)) files ∧
      (emitted.flatMap (·.rows)).Perm (tableRows r) ∧
      ⟨"a", "A", "GET", "p/x", "show", "A.X"⟩ ∈ emitted.flatMap (·.rows) ∧
      ∀ e ∈ emitted, ∀ sheet ∈ e.sheets, sheet.Attached := by
  obtain ⟨library, r, files, loaded, ok, rendered⟩ :=
    exists_renderHandlers_related relates_family [⟨.only .get, "p"⟩]
  obtain ⟨p, emitted, -, emits, each, same, -, attached⟩ := renderHandlers_routes ok rendered
  exact ⟨library, r, files, p, emitted, loaded, ok, rendered, emits, each, same,
    same.mem_iff.mpr (mem_tableRows_family (explored_of_resolve ok)), attached⟩

end Order

end Dispatchers.Handlers
