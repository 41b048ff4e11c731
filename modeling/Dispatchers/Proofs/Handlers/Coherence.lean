import Dispatchers.Proofs.Handlers.Faults
import Dispatchers.Proofs.Handlers.Preamble
import Dispatchers.Proofs.Resolve.Exported

namespace Dispatchers.Handlers

open Controller Go Resolve Template

variable {p : Plan} {place : Nat} {P : Scanned} {decl : ControllerDecl}

structure Coherent (p : Plan) (files : List OutputFile) (place : Nat) (P : Scanned) : Prop where
  sheets : ∃ dispatchers shared helpers,
    p.sheetsOf place P = (dispatchers ++ [shared]).map .ok ∧
    List.Forall₂ (Dispatches p (p.destination place P)) P.controllers.values dispatchers ∧
    Shares p P (p.destination place P) helpers shared ∧
    ∀ sheet ∈ dispatchers ++ [shared], Agrees p P sheet
  parents : ∀ decl ∈ P.controllers.values, ∀ parent ∈ decl.parents, parent.id.isSome = true →
    ∀ name ∈ [Plan.packageFile, Plan.controllerFile parent.name],
      ∃ file ∈ files, file.path = Disk.join (Disk.join p.options.output parent.importPath) name

section Runs

variable {setting : Setting} {dir : String} {active : List Route.Prefix} {r : Resolution}

theorem numbered_of_explored (explored : Explored setting dir active r)
    (here : r.packages[place]? = some P) : Numbered P := by
  have complete := explored.arranged.complete here
  have number {importPath : String} {id : Nat} : numberOf? P importPath = some id ↔
      P.parentImports[id]? = some importPath :=
    numberOf?_eq_some_iff complete.numbered
  constructor
  case all =>
    intro id
    constructor
    · rintro ⟨importPath, counted⟩
      exact (List.getElem?_eq_some_iff.mp (number.mp counted)).1
    · intro bound
      exact ⟨P.parentImports[id], number.mpr (List.getElem?_eq_getElem bound)⟩
  case once =>
    intro id one other first second
    rw [number] at first second
    rw [first] at second
    exact Option.some.inj second
  case parents =>
    intro decl member parent listed
    obtain ⟨s, embeddings, -, parents, same⟩ :=
      complete.parentsOf (get?_of_mem_values explored here member)
    rw [same] at listed
    obtain ⟨e, inside, rfl⟩ := List.mem_map.mp listed
    exact parents.numbers e inside

theorem sheets_of_explored (explored : Explored setting dir active p.resolution)
    {made : List Sheet} (planned : p.sheets = made.map .ok)
    (generated : place ∈ Plan.places p.resolution) (here : p.resolution.packages[place]? = some P) :
    ∃ dispatchers shared helpers,
      p.sheetsOf place P = (dispatchers ++ [shared]).map .ok ∧
      List.Forall₂ (Dispatches p (p.destination place P)) P.controllers.values dispatchers ∧
      Shares p P (p.destination place P) helpers shared ∧
      (∀ sheet ∈ dispatchers ++ [shared], Agrees p P sheet) ∧
      ∀ sheet ∈ dispatchers ++ [shared], sheet ∈ made := by
  have complete := explored.arranged.complete here
  have numbered := numbered_of_explored explored here
  have among : ∀ outcome ∈ p.sheetsOf place P, outcome ∈ made.map .ok := fun outcome member =>
    planned ▸ mem_sheets_of_place generated here member
  obtain ⟨dispatchers, controllers, madeFirst⟩ := exists_sheets fun outcome member =>
    among outcome (List.mem_append_left _ member)
  obtain ⟨shared, madeLast, package⟩ := List.mem_map.mp
    (among _ List.mem_concat_self)
  obtain ⟨helpers, shares⟩ := shares_of_packageSheet package.symm
  -- every controller has as many routes as actions, so none is lost where they are paired
  have each : List.Forall₂ (fun decl sheet =>
      Dispatches p (p.destination place P) decl sheet ∧ Agrees p P sheet)
      P.controllers.values dispatchers := by
    refine forall₂_controllerSheets controllers fun decl member earlier sheet ok => ?_
    have routed := complete.routed (get?_of_mem_values explored here member)
    have lengths : decl.routes.length = decl.actions.length := by
      rw [routed.routes, List.length_map]
    exact ⟨dispatches_of_controllerSheet lengths ok, agrees_of_controllerSheet numbered member ok⟩
  refine ⟨dispatchers, shared, helpers, ?_, each.imp fun _ _ both => both.1, shares, ?_, ?_⟩
  · rw [List.map_append, ← controllers, List.map_singleton, package]
    rfl
  · intro sheet member
    rcases List.mem_append.mp member with own | last
    · obtain ⟨decl, -, -, agrees⟩ := exists_related each.flip own
      exact agrees
    · rw [List.mem_singleton.mp last]
      exact agrees_of_packageSheet complete.numbered package.symm
  · intro sheet member
    rcases List.mem_append.mp member with own | last
    · exact madeFirst sheet own
    · exact List.mem_singleton.mp last ▸ madeLast

theorem parent_generated (explored : Explored setting dir active p.resolution) {library : Library}
    {made : List Sheet} {files : List OutputFile} (planned : p.sheets = made.map .ok)
    (rendered : List.Forall₂ (fun sheet file => sheet.render library = .ok file) made files)
    (here : p.resolution.packages[place]? = some P) (member : decl ∈ P.controllers.values)
    {parent : Parent} (listed : parent ∈ decl.parents) (foreign : parent.id.isSome = true) :
    ∀ name ∈ [Plan.packageFile, Plan.controllerFile parent.name],
      ∃ file ∈ files, file.path = Disk.join (Disk.join p.options.output parent.importPath) name := by
  have arena := explored.arena
  have found := get?_of_mem_values explored here member
  have placed := arena.placed place P decl.name decl here found parent listed
  obtain ⟨generated, apart⟩ := generated_of_placed arena.rootLast here placed foreign
  obtain ⟨Q, there, named, inside, -⟩ := placed
  obtain ⟨dispatchers, shared, helpers, -, dispatches, shares, -, listedAll⟩ :=
    sheets_of_explored explored planned generated there
  have target : (p.destination parent.package Q).dir = Disk.join p.options.output parent.importPath := by
    rw [Plan.destination, if_neg apart, named]
  have written {sheet : Sheet} (member : sheet ∈ dispatchers ++ [shared]) :
      ∃ file ∈ files, file.path = sheet.path := by
    obtain ⟨file, listed, made⟩ := exists_related rendered (listedAll sheet member)
    exact ⟨file, listed, render_path made⟩
  intro name which
  simp only [List.mem_cons, List.not_mem_nil, or_false] at which
  rcases which with rfl | rfl
  · rw [← target, ← shares.path]
    exact written List.mem_concat_self
  · obtain ⟨ancestor, described⟩ := Dictionary.mem_keys_iff.mp inside
    have same := ((explored.arranged.complete there).routed described).named
    have value : ancestor ∈ Q.controllers.values := Dictionary.mem_values_of_get? described
    obtain ⟨sheet, own, dispatches⟩ := exists_related dispatches value
    rw [← target, ← same, ← dispatches.path]
    exact written (List.mem_append_left _ own)

/-- Whatever run is rendered, its files import what they use and nothing else, and what they import
from each other is generated with them. Without templates of its own it writes these imports as the
text of every file starts. -/
theorem renderHandlers_coherent (ok : resolve setting dir active = .ok r) {disk : Disk} {l : Locator}
    {o : Options} {library : Library} {files : List OutputFile}
    (rendered : renderHandlers disk l r o library = .ok files) :
    ∃ (p : Plan) (made : List Sheet), Plan.of disk l r o = .ok p ∧ p.sheets = made.map .ok ∧
      List.Forall₂ (fun sheet file => file.path = sheet.path ∧
        library.render sheet.template sheet.context = .ok file.contents) made files ∧
      (∀ any, Library.load any none = .ok library →
        List.Forall₂ (fun sheet file => ∃ more, file.contents = sheet.preamble ++ more) made files) ∧
      (∀ sheet ∈ made, Sheet.importLoop.eval (scopesOf sheet.context) =
        .ok (.list (sheet.importTable.entries.map fun (name, path) => .list [.text name, .text path]))) ∧
      (∀ P ∈ r.packages, Numbered P) ∧
      ∀ place ∈ Plan.places r, ∀ P, r.packages[place]? = some P → Coherent p files place P := by
  have explored := explored_of_resolve ok
  obtain ⟨p, planned, rendered⟩ := bind_eq_ok_iff.mp rendered
  obtain ⟨made, all, each⟩ := renderSheets_ok rendered
  obtain ⟨rfl, -, -⟩ := plan_ok planned
  have texts := each.imp fun _ _ made => render_eq_ok_iff.mp made
  refine ⟨p, made, planned, all, texts, fun any loaded => ?_, fun sheet _ => sheet.importLoop_eval,
    ?_, ?_⟩
  · exact texts.imp fun _ _ made => render_preamble loaded made.2
  · intro P member
    obtain ⟨place, here⟩ := List.getElem?_of_mem member
    exact numbered_of_explored explored here
  · intro place generated P here
    obtain ⟨dispatchers, shared, helpers, sheets, dispatches, shares, agrees, -⟩ :=
      sheets_of_explored explored all generated here
    refine ⟨⟨dispatchers, shared, helpers, sheets, dispatches, shares, agrees⟩, ?_⟩
    intro decl member parent listed foreign
    exact parent_generated explored all each here member listed foreign

end Runs

section Related

variable {path : String} (relates : Relates path) {active : List Route.Prefix} {r : Resolution}

include relates

theorem unobtrusive_related (explored : Explored (related path) "/a" active r)
    (here : r.packages[place]? = some P) (member : decl ∈ P.controllers.values) :
    Unobtrusive P decl := by
  rcases relates.package explored.arena (List.mem_of_getElem? here) with
    ⟨key, package⟩ | ⟨-, package⟩
  · refine unobtrusive_of_struct explored here member (by rw [package]; rfl) (by decide) ?_ ?_
    · rw [package]
      intro action own
      cases List.mem_singleton.mp (List.mem_of_mem_filter own)
      decide
    · rw [key, package, relates.targets _ List.mem_cons_self]
      simpa using relates.apart.symm
  · refine unobtrusive_of_struct explored here member (by rw [package]; rfl) (by decide) ?_ ?_
    · rw [package]
      intro action own
      cases List.mem_singleton.mp (List.mem_of_mem_filter own)
      decide
    · intro target listed
      cases listed

theorem exists_renderHandlers_related (active : List Route.Prefix) :
    ∃ library r files, Library.load (related path).disk none = .ok library ∧
      resolve (related path) "/a" active = .ok r ∧
      renderHandlers (related path).disk (related path).locator r placedOptions library =
        .ok files := by
  obtain ⟨library, loaded⟩ := exists_library (related path).disk
  obtain ⟨r, ok⟩ := relates.exists_resolve active
  have made : ∃ files, renderHandlers (related path).disk (related path).locator r placedOptions
      library = .ok files :=
    exists_renderHandlers_of_unobtrusive ok
      (fun place P here decl => unobtrusive_related relates (explored_of_resolve ok) here) loaded
      relates.known rfl
  obtain ⟨files, rendered⟩ := made
  exact ⟨library, r, files, loaded, ok, rendered⟩

end Related

theorem renderHandlers_coherent_family :
    ∃ library r files, Library.load family.disk none = .ok library ∧
      resolve family "/a" [] = .ok r ∧
      renderHandlers family.disk family.locator r placedOptions library = .ok files ∧
      ∃ p made, p.sheets = made.map .ok ∧
        List.Forall₂ (fun sheet file => ∃ more, file.contents = sheet.preamble ++ more) made files ∧
        ∀ place ∈ Plan.places r, ∀ P, r.packages[place]? = some P → Coherent p files place P := by
  obtain ⟨library, r, files, loaded, ok, rendered⟩ := exists_renderHandlers_related relates_family []
  obtain ⟨p, made, -, all, -, texts, -, -, coherent⟩ := renderHandlers_coherent ok rendered
  exact ⟨library, r, files, loaded, ok, rendered, p, made, all, texts _ loaded, coherent⟩

end Dispatchers.Handlers
