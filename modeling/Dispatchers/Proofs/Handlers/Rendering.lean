import Dispatchers.Handlers.Render
import Dispatchers.Proofs.Template.Shapes

namespace Dispatchers.Handlers

open Template

section Fields

def hookFields : List (String × Shape) :=
  [("receiver", .any), ("returns_handler", .any), ("forwards_args", .any)]

def parentFields : List (String × Shape) :=
  [("name", .any), ("call", .any)]

def paramFields : List (String × Shape) :=
  [("name", .any), ("ty", .any), ("conv", .any)]

def boundFields : List (String × Shape) :=
  [("name", .any), ("kind", .any), ("value", .any)]

def routeFields : List (String × Shape) :=
  [("method", .any), ("pattern", .any), ("label", .any), ("handler_name", .any)]

def actionFields : List (String × Shape) :=
  [("name", .any), ("comments", .list .any), ("params", .list (.record paramFields)),
    ("extra_results", .size), ("routes", .list (.record routeFields))]

def controllerFields : List (String × Shape) :=
  [("name", .any), ("comments", .list .any), ("parents", .list (.record parentFields)),
    ("fields", .list (.record boundFields)), ("before", .list (.record hookFields)),
    ("after", .list (.record hookFields)), ("needs_args", .any),
    ("actions", .list (.record actionFields)), ("uses_conv", .any)]

def helperFields : List (String × Shape) :=
  [("ty", .any), ("func", .any), ("parser", .any)]

def commonFields : List (String × Shape) :=
  [("header", .any), ("package", .any), ("base_imports", .record []), ("imports", .record [])]

def handlerFields : List (String × Shape) :=
  commonFields ++ [("controller", .record controllerFields)]

def packageFields : List (String × Shape) :=
  commonFields ++ [("controllers", .list .any), ("parent_ids", .list .any), ("init_func", .any),
    ("helpers", .list (.record helperFields))]

end Fields

section Values

theorem fits_texts (texts : List String) : Fits (.list .any) (.ofTexts texts) :=
  .list fun v _ => .any v

theorem fits_map {α : Type} {s : Shape} {value : α → Value} {items : List α}
    (each : ∀ x ∈ items, Fits s (value x)) : Fits (.list s) (.list (items.map value)) :=
  .list (List.forall_mem_map.mpr each)

theorem fits_hook (h : HookCall) : Fits (.record hookFields) h.value :=
  fits_record (by simp) (by simp [Matches, hookFields, Fits.any])

theorem fits_parent (p : ParentView) : Fits (.record parentFields) p.value :=
  fits_record (by simp) (by simp [Matches, parentFields, Fits.any])

theorem fits_param (p : ParamView) : Fits (.record paramFields) p.value :=
  fits_record (by simp) (by simp [Matches, paramFields, Fits.any])

theorem fits_field (f : FieldView) : Fits (.record boundFields) f.value :=
  fits_record (by simp) (by simp [Matches, boundFields, Fits.any])

theorem fits_route (r : RouteView) : Fits (.record routeFields) r.value :=
  fits_record (by simp) (by simp [Matches, routeFields, Fits.any])

theorem fits_helper (h : ConversionHelper) : Fits (.record helperFields) h.value :=
  fits_record (by simp) (by simp [Matches, helperFields, Fits.any])

theorem fits_action {a : ActionView} (few : a.extraResults ≤ rangeLimit) :
    Fits (.record actionFields) a.value := by
  refine fits_record (by simp) ?_
  simp only [Matches, actionFields, List.forall₂_cons, List.forall₂_nil_left_iff, true_and, and_true]
  exact ⟨.any _, fits_texts _, fits_map fun p _ => fits_param p, .size few,
    fits_map fun r _ => fits_route r⟩

def ControllerView.FewResults (v : ControllerView) : Prop :=
  ∀ action ∈ v.actions, action.extraResults ≤ rangeLimit

theorem fits_controller {v : ControllerView} (few : v.FewResults) :
    Fits (.record controllerFields) v.value := by
  refine fits_record (by simp) ?_
  simp only [Matches, controllerFields, List.forall₂_cons, List.forall₂_nil_left_iff, true_and,
    and_true]
  exact ⟨.any _, fits_texts _, fits_map fun p _ => fits_parent p, fits_map fun f _ => fits_field f,
    fits_map fun h _ => fits_hook h, fits_map fun h _ => fits_hook h, .any _,
    fits_map fun a member => fits_action (few a member), .any _⟩

theorem fits_imports (entries : List (String × Value)) : Fits (.record []) (.map entries) :=
  .record fun _ _ absent => nomatch absent

end Values

namespace Sheet

def importsValue (s : Sheet) : Value :=
  .map (s.imports.entries.map fun (name, path) => (name, .text path))

def commonEntries (s : Sheet) : List (String × Value) :=
  [("header", .text generatedHeader), ("package", .text s.package), ("base_imports", baseImports),
    ("imports", s.importsValue)]

theorem context_eq (s : Sheet) : s.context = .record (s.commonEntries ++ s.entries) :=
  rfl

theorem matches_common (s : Sheet) : Matches commonFields s.commonEntries := by
  simp only [Matches, commonFields, commonEntries, List.forall₂_cons, List.forall₂_nil_left_iff,
    true_and, and_true]
  exact ⟨.any _, .any _, fits_imports _, fits_imports _⟩

theorem fits_context {s : Sheet} {more : List (String × Shape)}
    (aligned : Matches more s.entries) : Matches (commonFields ++ more) (s.commonEntries ++ s.entries) :=
  List.rel_append s.matches_common aligned

theorem matches_controller {s : Sheet} {view : ControllerView} (content : s.content = .controller view)
    (few : view.FewResults) :
    Matches [("controller", .record controllerFields)] s.entries := by
  rw [entries, content]
  exact .cons ⟨rfl, fits_controller few⟩ .nil

theorem matches_package {s : Sheet} {controllers : List String} {parents : List Nat} {init : Bool}
    {helpers : List ConversionHelper} (content : s.content = .package controllers parents init helpers) :
    Matches [("controllers", .list .any), ("parent_ids", .list .any), ("init_func", .any),
      ("helpers", .list (.record helperFields))] s.entries := by
  rw [entries, content]
  exact .cons ⟨rfl, fits_texts _⟩ (.cons ⟨rfl, fits_map fun _ _ => .any _⟩
    (.cons ⟨rfl, .any _⟩ (.cons ⟨rfl, fits_map fun h _ => fits_helper h⟩ .nil)))

theorem distinct_keys (s : Sheet) : ((s.commonEntries ++ s.entries).map Prod.fst).Nodup := by
  unfold commonEntries entries
  cases s.content <;> simp

end Sheet

def preambleSegments : List Segment := [
  .output [.name "header"], .text "\n\npackage ", .output [.name "package"],
  .text "\n\nimport (\n",
  .statement [.name "for", .name "alias", .mark ",", .name "path", .name "in", .name "merge",
    .mark "(", .name "base_imports", .mark ",", .name "imports", .mark ")", .mark "|",
    .name "items"],
  .text "\t", .output [.name "alias"], .text " ",
  .output [.name "path", .mark "|", .name "go_quote"], .text "\n", .statement [.name "endfor"]]

def closesImports : Segment → Bool
  | .text s => s.toList.take 2 = [')', '\n']
  | _ => false

def startsWithPreamble (segments : List Segment) : Bool :=
  segments.take preambleSegments.length = preambleSegments &&
    segments[preambleSegments.length]?.any closesImports

def isFileTemplate (fields : List (String × Shape)) (source : String) : Bool :=
  (Segment.ofSource? source).any fun segments => startsWithPreamble segments &&
    ((segments.foldlM Partial.segment? .start).bind Partial.nodes?).any
      (areSound (fields.lookup ·))

theorem isFileTemplate_handler : isFileTemplate handlerFields Standard.handler = true := by
  simp only [isFileTemplate, Segment.ofSource?, Standard.handler, Standard.ofLines,
    String.toList_join, List.map_cons, List.map_nil, List.flatMap_cons, List.flatMap_nil,
    String.toList_append, String.reduceToList]
  decide +kernel

theorem isFileTemplate_package : isFileTemplate packageFields Standard.package = true := by
  simp only [isFileTemplate, Segment.ofSource?, Standard.package, Standard.ofLines,
    String.toList_join, List.map_cons, List.map_nil, List.flatMap_cons, List.flatMap_nil,
    String.toList_append, String.reduceToList]
  decide +kernel

theorem isSoundSource_of_isFileTemplate {fields : List (String × Shape)} {source : String}
    (checked : isFileTemplate fields source = true) : isSoundSource fields source = true := by
  obtain ⟨segments, read, both⟩ := (Option.any_eq_true ..).mp checked
  rw [isSoundSource, ofSource?, read]
  exact (Bool.and_eq_true_iff.mp both).2

theorem isSoundSource_handler : isSoundSource handlerFields Standard.handler = true :=
  isSoundSource_of_isFileTemplate isFileTemplate_handler

theorem isSoundSource_package : isSoundSource packageFields Standard.package = true :=
  isSoundSource_of_isFileTemplate isFileTemplate_package

theorem isSome_listing : (ofSource? Standard.listing).isSome = true := by
  simp only [ofSource?, Segment.ofSource?, Standard.listing, Standard.ofLines,
    String.toList_join, List.map_cons, List.map_nil, List.flatMap_cons, List.flatMap_nil,
    String.toList_append, String.reduceToList]
  decide +kernel

section Standard

variable {disk : Disk} {library : Library}

theorem find?_handler (library : Library) :
    library.find? Library.handlerName = some library.handler :=
  rfl

theorem find?_package (library : Library) :
    library.find? Library.packageName = some library.package :=
  rfl

theorem library_render_of_render {library : Library} {name text : String} {t : Template} {context : Value}
    (found : library.find? name = some t) (made : t.render context = .ok text) :
    library.render name context = .ok text := by
  simp only [Library.render, found, made]

theorem render_of_render {library : Library} {name text : String} {t : Template} {context : Value}
    (found : library.find? name = some t) (made : library.render name context = .ok text) :
    t.render context = .ok text := by
  simp only [Library.render, found] at made
  cases rendered : t.render context with
  | ok other =>
    rw [rendered] at made
    exact congrArg Except.ok (Except.ok.inj made)
  | error cause =>
    rw [rendered] at made
    cases made

theorem loadOne_none (disk : Disk) (name standard : String) {t : Template}
    (parsed : Template.parse standard = .ok t) :
    Library.loadOne disk none name standard = .ok t := by
  have source : Library.sourceOf disk none name standard = .ok standard := rfl
  refine bind_eq_ok_iff.mpr ⟨standard, source, ?_⟩
  simp only [parsed]
  rfl

theorem exists_library (disk : Disk) : ∃ library, Library.load disk none = .ok library := by
  obtain ⟨handler, first⟩ := exists_parse (isSome_of_isSoundSource isSoundSource_handler)
  obtain ⟨package, second⟩ := exists_parse (isSome_of_isSoundSource isSoundSource_package)
  obtain ⟨listing, third⟩ := exists_parse isSome_listing
  refine ⟨⟨handler, package, listing⟩, ?_⟩
  rw [Library.load, loadOne_none disk _ _ first, loadOne_none disk _ _ second,
    loadOne_none disk _ _ third]
  rfl

variable (loaded : Library.load disk none = .ok library)

include loaded

theorem parse_of_load : Template.parse Standard.handler = .ok library.handler ∧
    Template.parse Standard.package = .ok library.package := by
  obtain ⟨handler, first⟩ := exists_parse (isSome_of_isSoundSource isSoundSource_handler)
  obtain ⟨package, second⟩ := exists_parse (isSome_of_isSoundSource isSoundSource_package)
  obtain ⟨listing, third⟩ := exists_parse isSome_listing
  rw [Library.load, loadOne_none disk _ _ first, loadOne_none disk _ _ second,
    loadOne_none disk _ _ third] at loaded
  cases loaded
  exact ⟨first, second⟩

/-- They have a text for every file whose actions have no more results than a range has elements. -/
theorem exists_render {sheet : Sheet}
    (few : ∀ view, sheet.content = .controller view → view.FewResults) :
    ∃ file, sheet.render library = .ok file := by
  obtain ⟨handler, package⟩ := parse_of_load loaded
  have text : ∃ text, library.render sheet.template sheet.context = .ok text := by
    rw [Sheet.context_eq, Sheet.template]
    cases content : sheet.content with
    | controller view =>
      obtain ⟨text, made⟩ := render_ok isSoundSource_handler handler sheet.distinct_keys
        (Sheet.fits_context (sheet.matches_controller content (few view content)))
      exact ⟨text, library_render_of_render (find?_handler library) made⟩
    | package =>
      obtain ⟨text, made⟩ := render_ok isSoundSource_package package sheet.distinct_keys
        (Sheet.fits_context (sheet.matches_package content))
      exact ⟨text, library_render_of_render (find?_package library) made⟩
  obtain ⟨text, made⟩ := text
  exact ⟨⟨sheet.path, text⟩, bind_eq_ok_iff.mpr ⟨text, made, rfl⟩⟩

end Standard

end Dispatchers.Handlers
