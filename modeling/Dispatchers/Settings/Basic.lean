import Dispatchers.Handlers.Options
import Dispatchers.Toml.Grammar

namespace Dispatchers

structure PrefixSetting where
  method : String
  path : String
deriving DecidableEq

structure HandlerSettings where
  input : Option String
  output : Option String
  package : Option String
  outputImport : Option String
deriving DecidableEq

structure ListingSettings where
  input : Option String
  output : Option String
  package : Option String
deriving DecidableEq

structure Settings where
  handlers : HandlerSettings
  listing : ListingSettings
  markers : Controller.Markers
  conversionImport : Option String
  templates : Option String
  prefixes : List PrefixSetting
  roots : List ImportRoot

def Settings.standard : Settings :=
  ⟨⟨none, none, none, none⟩, ⟨none, none, none⟩, .standard, none, none, [], []⟩

namespace Toml.Value

def text? : Value → Option String
  | text s => some s
  | _ => none

def bool? : Value → Option Bool
  | bool b => some b
  | _ => none

def items? : Value → Option (List Value)
  | list items => some items
  | tables items => some (items.map (table .header))
  | _ => none

/-- The values of the named fields. A table has no other keys; a list holds the values in the order
of the names. -/
def fields? (names : List String) (v : Value) : Option (List (Option Value)) :=
  match v with
  | table _ entries =>
    if entries.all (names.contains ·.1) then some (names.map (entries.lookup ·)) else none
  | v => v.items?.map fun items => names.zipIdx.map fun (_, i) => items[i]?

def optional {α : Type} (read : Value → Option α) : Option Value → Option (Option α)
  | none => some none
  | some v => (read v).map some

def orStandard {α : Type} (standard : α) (read : Value → Option α) (v : Option Value) : Option α :=
  (optional read v).map (·.getD standard)

def listOf {α : Type} (read : Value → Option α) (v : Value) : Option (List α) := do
  (← v.items?).mapM read

end Toml.Value

open Toml.Value in
def PrefixSetting.ofToml? (v : Toml.Value) : Option PrefixSetting := do
  match ← v.fields? ["method", "path"] with
  | [method, path] => return ⟨← (← method).text?, ← (← path).text?⟩
  | _ => none

def ImportRoot.ofToml? (v : Toml.Value) : Option ImportRoot := do
  match ← v.fields? ["import", "dir"] with
  | [importPath, dir] => return ⟨← (← importPath).text?, ← (← dir).text?⟩
  | _ => none

open Toml.Value in
def Controller.Marker.ofToml? (v : Toml.Value) : Option Controller.Marker := do
  match ← v.fields? ["import", "name", "pointer"] with
  | [importPath, name, pointer] =>
    return ⟨← (← importPath).text?, ← (← name).text?, ← orStandard false bool? pointer⟩
  | _ => none

open Toml.Value in
def Controller.Markers.ofToml? (v : Toml.Value) : Option Controller.Markers := do
  match ← v.fields? ["action", "response_writer", "request"] with
  | [action, responseWriter, request] =>
    return ⟨← orStandard standard.action Marker.ofToml? action,
      ← orStandard standard.responseWriter Marker.ofToml? responseWriter,
      ← orStandard standard.request Marker.ofToml? request⟩
  | _ => none

open Toml.Value in
def HandlerSettings.ofToml? (v : Toml.Value) : Option HandlerSettings := do
  match ← (← v.fields? ["input", "output", "package", "output_import"]).mapM (optional text?) with
  | [input, output, package, outputImport] => return ⟨input, output, package, outputImport⟩
  | _ => none

open Toml.Value in
def ListingSettings.ofToml? (v : Toml.Value) : Option ListingSettings := do
  match ← (← v.fields? ["input", "output", "package"]).mapM (optional text?) with
  | [input, output, package] => return ⟨input, output, package⟩
  | _ => none

namespace Settings

open Toml.Value in
def ofToml? (v : Toml.Value) : Option Settings := do
  match ← v.fields? ["handlers", "listing", "markers", "strconv_import", "templates_dir",
    "prefixes", "roots"] with
  | [handlers, listing, markers, conversionImport, templates, prefixes, roots] =>
    return ⟨← orStandard standard.handlers HandlerSettings.ofToml? handlers,
      ← orStandard standard.listing ListingSettings.ofToml? listing,
      ← orStandard standard.markers Controller.Markers.ofToml? markers,
      ← optional text? conversionImport, ← optional text? templates,
      ← orStandard [] (listOf PrefixSetting.ofToml?) prefixes,
      ← orStandard [] (listOf ImportRoot.ofToml?) roots⟩
  | _ => none

def parse (text : String) : Except Fault Settings :=
  match (Toml.parse? text).bind ofToml? with
  | some settings => .ok settings
  | none => .error (.badSettings .badToml)

end Settings

/-- The word for the verbs may be in any case. -/
def PrefixSetting.read (p : PrefixSetting) : Except Fault Route.Prefix :=
  match Http.Scope.ofToken? (p.method.map Char.toLower) with
  | some scope => .ok ⟨scope, p.path⟩
  | none => .error (.unknownPrefixMethod p.method)

namespace Settings

def activePrefixes (s : Settings) : Except Fault (List Route.Prefix) :=
  s.prefixes.mapM fun p => p.read.mapError Fault.badPrefixEntry

def standardInput : String :=
  "./controllers"

def standardOutput : String :=
  "./assets/handlers"

def standardPackage : String :=
  "handlers"

/-- The first value that is given: on the command line, in the settings, or else the standard. -/
def pick {α : Type} (given configured : Option α) (standard : α) : α :=
  (given <|> configured).getD standard

def scanOptions (s : Settings) (input : Option String) : Except Fault Handlers.Options := do
  let prefixes ← s.activePrefixes
  return ⟨pick input s.handlers.input standardInput, standardOutput, standardPackage,
    s.handlers.outputImport, s.conversionImport, prefixes, s.markers, s.roots, s.templates, false⟩

end Settings

end Dispatchers
