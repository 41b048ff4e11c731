import Dispatchers.Handlers.Render
import Dispatchers.Proofs.Except
import Dispatchers.Proofs.Resolve.Linking

namespace Dispatchers.Handlers

open Controller Resolve Template

section Views

variable {r : Resolution} {place : Nat} {external : Bool} {decl : ControllerDecl} {cause : Fault}

theorem actionView_error {action : Go.Func} {routes : List Route}
    (error : actionView external action routes = .error cause) :
    ∃ param ∈ action.params, paramView external action.name param = .error cause := by
  rcases bind_eq_error_iff.mp error with unread | ⟨_, _, absent⟩
  · exact exists_of_mapM unread
  · cases absent

theorem actionView_ok {action : Go.Func} {routes : List Route} {view : ActionView}
    (ok : actionView external action routes = .ok view) :
    List.Forall₂ (fun param made => paramView external action.name param = .ok made) action.params
      view.params ∧ view.extraResults = action.results.length - 1 := by
  obtain ⟨params, read, ok⟩ := bind_eq_ok_iff.mp ok
  cases ok
  exact ⟨forall₂_of_mapM read, rfl⟩

theorem controllerView_ok {view : ControllerView}
    (ok : controllerView r place external decl = .ok view) :
    view.parents = decl.parents.map ParentView.of ∧
      List.Forall₂ (fun action made => actionView external action.1 action.2 = .ok made)
        (decl.actions.zip decl.routes) view.actions := by
  obtain ⟨_, _, ok⟩ := bind_eq_ok_iff.mp ok
  obtain ⟨_, _, ok⟩ := bind_eq_ok_iff.mp ok
  obtain ⟨actions, read, ok⟩ := bind_eq_ok_iff.mp ok
  cases ok
  exact ⟨rfl, forall₂_of_mapM read⟩

theorem controllerView_error (error : controllerView r place external decl = .error cause) :
    r.ancestors place decl.name = .error cause ∨
    (∃ ancestors, r.ancestors place decl.name = .ok ancestors ∧
      ∃ a ∈ ancestors, ancestorDecl r a = .error cause) ∨
    ∃ action ∈ decl.actions, ∃ param ∈ action.params,
      paramView external action.name param = .error cause := by
  rcases bind_eq_error_iff.mp error with circular | ⟨ancestors, listed, error⟩
  · exact .inl circular
  rcases bind_eq_error_iff.mp error with lost | ⟨_, _, error⟩
  · exact .inr (.inl ⟨ancestors, listed, exists_of_mapM lost⟩)
  rcases bind_eq_error_iff.mp error with unread | ⟨_, _, absent⟩
  · obtain ⟨⟨action, routes⟩, member, failed⟩ := exists_of_mapM unread
    obtain ⟨param, taken, failed⟩ := actionView_error failed
    exact .inr (.inr ⟨action, (List.of_mem_zip member).1, param, taken, failed⟩)
  · cases absent

end Views

section Sheets

variable {p : Plan} {place : Nat} {P : Scanned} {d : Destination} {earlier : List String}
  {decl : ControllerDecl} {sheet : Sheet} {cause : Fault}

theorem controllerSheet_error
    (error : p.controllerSheet place P d earlier decl = .error cause) :
    Plan.checkNames P.importPath decl = .error cause ∨
    (Plan.controllerFile decl.name ∈ earlier ∧
      cause = .sameFile decl.name P.importPath (Plan.controllerFile decl.name)) ∨
    controllerView p.resolution place p.options.conversionImport.isSome decl = .error cause ∨
    ∃ parent ∈ decl.parents, p.parentEntry parent = .error cause := by
  rcases bind_eq_error_iff.mp error with reserved | ⟨_, _, error⟩
  · exact .inl reserved
  simp only at error
  split at error
  · rename_i taken
    cases error
    exact .inr (.inl ⟨by simpa using taken, rfl⟩)
  rcases bind_eq_error_iff.mp error with unseen | ⟨_, _, error⟩
  · exact .inr (.inr (.inl unseen))
  rcases bind_eq_error_iff.mp error with unplaced | ⟨_, _, absent⟩
  · exact .inr (.inr (.inr (exists_of_mapM unplaced)))
  · cases absent

theorem controllerSheet_ok (ok : p.controllerSheet place P d earlier decl = .ok sheet) :
    ∃ view parents,
      controllerView p.resolution place p.options.conversionImport.isSome decl = .ok view ∧
      decl.parents.mapM p.parentEntry = .ok parents ∧
      sheet.path = Disk.join d.dir (Plan.controllerFile decl.name) ∧
      sheet.imports =
        .ofList (Plan.controllersEntry d :: parents.reduceOption ++ p.conversionEntry view) ∧
      sheet.content = .controller view := by
  obtain ⟨_, _, ok⟩ := bind_eq_ok_iff.mp ok
  simp only at ok
  split at ok
  · cases ok
  obtain ⟨view, seen, ok⟩ := bind_eq_ok_iff.mp ok
  obtain ⟨parents, placed, ok⟩ := bind_eq_ok_iff.mp ok
  cases ok
  exact ⟨view, parents, seen, placed, rfl, rfl, rfl⟩

theorem controllerFile_fresh (ok : p.controllerSheet place P d earlier decl = .ok sheet) :
    Plan.controllerFile decl.name ∉ earlier := by
  obtain ⟨_, _, ok⟩ := bind_eq_ok_iff.mp ok
  simp only at ok
  split at ok
  · cases ok
  · rename_i fresh
    simpa using fresh

def numberedEntry (p : Plan) (numbered : String × Nat) : Except Fault (String × String) := do
  return (qualifier numbered.2, ← p.parentImport numbered.1)

theorem packageSheet_ok (ok : p.packageSheet P d = .ok sheet) :
    ∃ parents, P.parentImports.zipIdx.mapM (numberedEntry p) = .ok parents ∧
      sheet.path = Disk.join d.dir Plan.packageFile ∧
      sheet.imports = .ofList (parents ++
        (if Plan.callsInit P then [Plan.controllersEntry d] else []) ++
        if p.options.conversionImport.isNone then
          [("strconv", "strconv"), ("url", "net/url")] else []) ∧
      sheet.content = .package P.controllers.keys (P.parentImports.zipIdx.map Prod.snd)
        (Plan.callsInit P)
        (if p.options.conversionImport.isNone then conversionHelpers else []) := by
  obtain ⟨parents, placed, ok⟩ := bind_eq_ok_iff.mp ok
  cases ok
  exact ⟨parents, placed, rfl, rfl, rfl⟩

theorem packageSheet_error (error : p.packageSheet P d = .error cause) :
    ∃ importPath ∈ P.parentImports, p.parentImport importPath = .error cause := by
  rcases bind_eq_error_iff.mp error with unplaced | ⟨_, _, absent⟩
  · obtain ⟨⟨importPath, id⟩, member, failed⟩ := exists_of_mapM (f := numberedEntry p) unplaced
    rcases bind_eq_error_iff.mp failed with missing | ⟨_, _, absent⟩
    · exact ⟨importPath, List.fst_mem_of_mem_zipIdx member, missing⟩
    · cases absent
  · cases absent

theorem mem_controllerSheets {decls : List ControllerDecl} {outcome : Except Fault Sheet}
    (member : outcome ∈ p.controllerSheets place P d earlier decls) :
    ∃ before decl after, decls = before ++ decl :: after ∧
      outcome = p.controllerSheet place P d
        ((before.map fun other => Plan.controllerFile other.name).reverse ++ earlier) decl := by
  induction decls generalizing earlier with
  | nil => cases member
  | cons decl decls ih =>
    rcases List.mem_cons.mp member with first | later
    · exact ⟨[], decl, decls, rfl, first⟩
    · obtain ⟨before, other, after, rfl, made⟩ := ih later
      refine ⟨decl :: before, other, after, rfl, ?_⟩
      simpa using made

theorem forall₂_controllerSheets {good : ControllerDecl → Sheet → Prop}
    {decls : List ControllerDecl} {sheets : List Sheet}
    (ok : p.controllerSheets place P d earlier decls = sheets.map .ok)
    (each : ∀ decl ∈ decls, ∀ earlier sheet,
      p.controllerSheet place P d earlier decl = .ok sheet → good decl sheet) :
    List.Forall₂ good decls sheets := by
  induction decls generalizing earlier sheets with
  | nil =>
    rw [List.map_eq_nil_iff.mp ok.symm]
    exact .nil
  | cons decl decls ih =>
    cases sheets with
    | nil => cases ok
    | cons sheet sheets =>
      obtain ⟨first, others⟩ := List.cons.inj ok
      refine .cons (each decl (List.mem_cons_self ..) earlier sheet first) (ih others ?_)
      exact fun other member => each other (List.mem_cons_of_mem _ member)

theorem nodup_of_controllerSheets {decls : List ControllerDecl} {sheets : List Sheet}
    (ok : p.controllerSheets place P d earlier decls = sheets.map .ok) (distinct : earlier.Nodup) :
    ((decls.map fun decl => Plan.controllerFile decl.name).reverse ++ earlier).Nodup := by
  induction decls generalizing earlier sheets with
  | nil => exact distinct
  | cons decl decls ih =>
    cases sheets with
    | nil => cases ok
    | cons sheet sheets =>
      obtain ⟨first, others⟩ := List.cons.inj ok
      have fresh := controllerFile_fresh first
      have rest := ih others (List.nodup_cons.mpr ⟨fresh, distinct⟩)
      rwa [List.map_cons, List.reverse_cons, List.append_assoc]

theorem mem_sheets {outcome : Except Fault Sheet} (member : outcome ∈ p.sheets) :
    ∃ place ∈ Plan.places p.resolution, ∃ P, p.resolution.packages[place]? = some P ∧
      outcome ∈ p.sheetsOf place P := by
  obtain ⟨place, listed, inside⟩ := List.mem_flatMap.mp member
  cases found : p.resolution.packages[place]? with
  | none => simp [found] at inside
  | some P =>
    rw [found] at inside
    exact ⟨place, listed, P, found, inside⟩

theorem mem_sheets_of_place {outcome : Except Fault Sheet}
    (listed : place ∈ Plan.places p.resolution) (here : p.resolution.packages[place]? = some P)
    (member : outcome ∈ p.sheetsOf place P) : outcome ∈ p.sheets := by
  refine List.mem_flatMap.mpr ⟨place, listed, ?_⟩
  rw [here]
  exact member

theorem view_of_mem_sheets (member : .ok sheet ∈ p.sheets) {view : ControllerView}
    (content : sheet.content = .controller view) :
    ∃ place P decl, p.resolution.packages[place]? = some P ∧ decl ∈ P.controllers.values ∧
      controllerView p.resolution place p.options.conversionImport.isSome decl = .ok view := by
  obtain ⟨place, -, P, here, inside⟩ := mem_sheets member
  rcases List.mem_append.mp inside with own | shared
  · obtain ⟨before, decl, after, order, made⟩ := mem_controllerSheets own
    obtain ⟨_, _, seen, -, -, -, same⟩ := controllerSheet_ok made.symm
    rw [content] at same
    cases same
    exact ⟨place, P, decl, here, by simp [order], seen⟩
  · obtain ⟨_, -, -, -, other⟩ := packageSheet_ok (List.mem_singleton.mp shared).symm
    rw [content] at other
    cases other

theorem exists_sheets {outcomes : List (Except Fault Sheet)} {made : List Sheet}
    (among : ∀ outcome ∈ outcomes, outcome ∈ made.map .ok) :
    ∃ sheets : List Sheet, outcomes = sheets.map .ok ∧ ∀ sheet ∈ sheets, sheet ∈ made := by
  induction outcomes with
  | nil => exact ⟨[], rfl, nofun⟩
  | cons outcome outcomes ih =>
    obtain ⟨sheet, listed, rfl⟩ := List.mem_map.mp (among _ (List.mem_cons_self ..))
    obtain ⟨sheets, rfl, inside⟩ := ih fun other member => among other (List.mem_cons_of_mem _ member)
    refine ⟨sheet :: sheets, rfl, fun other member => ?_⟩
    rcases List.mem_cons.mp member with rfl | later
    · exact listed
    · exact inside other later

theorem renderSheets_ok {library : Library} {outcomes : List (Except Fault Sheet)}
    {files : List OutputFile} (rendered : renderSheets library outcomes = .ok files) :
    ∃ made : List Sheet, outcomes = made.map .ok ∧
      List.Forall₂ (fun sheet file => sheet.render library = .ok file) made files := by
  have each := forall₂_of_mapM rendered
  clear rendered
  induction each with
  | nil => exact ⟨[], rfl, .nil⟩
  | cons first _ ih =>
    obtain ⟨sheet, rfl, file⟩ := bind_eq_ok_iff.mp first
    obtain ⟨made, rfl, others⟩ := ih
    exact ⟨sheet :: made, rfl, .cons file others⟩

theorem render_eq_ok_iff {library : Library} {file : OutputFile} :
    sheet.render library = .ok file ↔
      file.path = sheet.path ∧ library.render sheet.template sheet.context = .ok file.contents := by
  rw [Sheet.render, bind_eq_ok_iff]
  constructor
  · rintro ⟨text, made, same⟩
    cases same
    exact ⟨rfl, made⟩
  · rintro ⟨path, made⟩
    obtain ⟨_, text⟩ := file
    cases path
    exact ⟨text, made, rfl⟩

theorem render_path {library : Library} {file : OutputFile}
    (rendered : sheet.render library = .ok file) : file.path = sheet.path :=
  (render_eq_ok_iff.mp rendered).1

theorem mem_places_iff {r : Resolution} :
    place ∈ Plan.places r ↔ place = r.root ∨
      ∃ P, r.packages[place]? = some P ∧ place ≠ r.root ∧ P.controllers.keys ≠ [] := by
  unfold Plan.places
  simp only [List.mem_cons, List.mem_map, List.mem_filter, decide_eq_true_iff, Prod.exists,
    List.mem_zipIdx_iff_getElem?]
  constructor
  · rintro (root | ⟨P, i, ⟨here, other, full⟩, rfl⟩)
    · exact .inl root
    · exact .inr ⟨P, here, other, full⟩
  · rintro (root | ⟨P, here, other, full⟩)
    · exact .inl root
    · exact .inr ⟨P, place, ⟨here, other, full⟩, rfl⟩

end Sheets

end Dispatchers.Handlers
