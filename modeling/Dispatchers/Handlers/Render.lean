import Dispatchers.Handlers.Sheet
import Dispatchers.Output
import Dispatchers.Template.Library

namespace Dispatchers.Handlers

open Resolve Template

def HookCall.value (h : HookCall) : Value :=
  .record [("receiver", .text h.receiver), ("returns_handler", .bool h.shape.returnsHandler),
    ("forwards_args", .bool h.shape.forwardsArgs)]

def ParentView.value (p : ParentView) : Value :=
  .record [("name", .text p.name), ("call", .text p.call)]

def ParamView.value (p : ParamView) : Value :=
  .record [("name", .text p.name), ("ty", .text p.type), ("conv", .text p.conversion)]

def FieldView.value (f : FieldView) : Value :=
  .record [("name", .text f.name), ("kind", .text f.kind.name), ("value", .text f.assigned)]

def RouteView.value (r : RouteView) : Value :=
  .record [("method", .text r.method), ("pattern", .text r.pattern), ("label", .text r.label),
    ("handler_name", .text r.handler)]

def ActionView.value (a : ActionView) : Value :=
  .record [("name", .text a.name), ("comments", .ofTexts a.comments),
    ("params", .list (a.params.map ParamView.value)),
    ("extra_results", .ofNumber a.extraResults), ("routes", .list (a.routes.map RouteView.value))]

def ControllerView.value (v : ControllerView) : Value :=
  .record [("name", .text v.name), ("comments", .ofTexts v.comments),
    ("parents", .list (v.parents.map ParentView.value)),
    ("fields", .list (v.fields.map FieldView.value)), ("before", .list (v.before.map HookCall.value)),
    ("after", .list (v.after.map HookCall.value)), ("needs_args", .bool v.needsArgs),
    ("actions", .list (v.actions.map ActionView.value)), ("uses_conv", .bool v.usesConversions)]

def ConversionHelper.value (h : ConversionHelper) : Value :=
  .record [("ty", .text h.type), ("func", .text h.function),
    ("parser", (h.parse.map Value.text).getD .none)]

namespace Sheet

def template (s : Sheet) : String :=
  match s.content with
  | .controller _ => Library.handlerName
  | .package .. => Library.packageName

def entries (s : Sheet) : List (String × Value) :=
  match s.content with
  | .controller view => [("controller", view.value)]
  | .package controllers parents callsInit helpers =>
    [("controllers", .ofTexts controllers), ("parent_ids", .list (parents.map Value.ofNumber)),
      ("init_func", .bool callsInit), ("helpers", .list (helpers.map ConversionHelper.value))]

def baseImports : Value :=
  .record [("http", .text "net/http")]

def context (s : Sheet) : Value :=
  let imports := s.imports.entries.map fun (name, path) => (name, Value.text path)
  .record ([("header", .text generatedHeader), ("package", .text s.package),
    ("base_imports", baseImports), ("imports", .map imports)] ++ s.entries)

def render (library : Library) (s : Sheet) : Except Fault OutputFile := do
  return ⟨s.path, ← library.render s.template s.context⟩

end Sheet

/-- Renders files in turn; the first fault ends the run. -/
def renderSheets (library : Library) (sheets : List (Except Fault Sheet)) :
    Except Fault (List OutputFile) :=
  sheets.mapM fun sheet => do (← sheet).render library

def renderHandlers (disk : Disk) (l : Locator) (r : Resolution) (o : Options) (library : Library) :
    Except Fault (List OutputFile) := do
  let plan ← Plan.of disk l r o
  renderSheets library plan.sheets

structure Generated (α : Type) where
  files : List α
  report : Report

def prepare (disk : Disk) (environment : Environment) (o : Options) :
    Except Fault (Generated OutputFile) := do
  let (locator, resolution) ← scan disk environment o
  let library ← Library.load disk o.templates
  return ⟨← renderHandlers disk locator resolution o library, resolution.report⟩

/-- Generates the dispatchers and gives the paths of their files. A run that fails before it writes
leaves the disk as it was. -/
def generate (disk : Disk) (environment : Environment) (o : Options) :
    Disk × Except Fault (Generated String) :=
  match prepare disk environment o with
  | .error cause => (disk, .error cause)
  | .ok prepared =>
    let (after, written) := OutputFile.deliver disk o.dryRun prepared.files
    (after, written.map fun paths => ⟨paths, prepared.report⟩)

end Dispatchers.Handlers
