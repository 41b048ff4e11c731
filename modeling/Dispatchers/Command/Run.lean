import Dispatchers.Command.Line
import Dispatchers.Handlers.Render
import Dispatchers.Listing
import Dispatchers.Log
import Dispatchers.RouteTable
import Dispatchers.Settings.File

namespace Dispatchers.Command

structure Outcome where
  disk : Disk
  output : String
  result : Except Fault Unit

def Outcome.ofFault (disk : Disk) (cause : Fault) : Outcome :=
  ⟨disk, "", .error cause⟩

def Outcome.silent {α : Type} (written : Disk × Except Fault α) : Outcome :=
  ⟨written.1, "", written.2.map fun _ => ()⟩

open Settings

def handlersOptions (disk : Disk) (args : GenerateArgs) : Except Fault Handlers.Options := do
  let s ← discover disk args.settings (args.input.getD standardInput)
  let o ← s.scanOptions args.input
  return { o with
    output := pick args.output s.handlers.output standardOutput
    package := pick args.package s.handlers.package standardPackage
    dryRun := args.dryRun }

def listingInput : String :=
  "./views"

def listingOutput : String :=
  "./assets/views"

def listingPackage : String :=
  "views"

def listingOptions (disk : Disk) (args : GenerateArgs) : Except Fault Listing.Options := do
  let s ← discover disk args.settings (args.input.getD listingInput)
  return ⟨pick args.input s.listing.input listingInput,
    pick args.output s.listing.output listingOutput,
    pick args.package s.listing.package listingPackage, s.templates, args.dryRun⟩

def routesText (disk : Disk) (environment : Environment) (input settings : Option String)
    (json : Bool) : Except Fault String := do
  let s ← discover disk settings (input.getD standardInput)
  let o ← s.scanOptions input
  let (_, resolution) ← Handlers.scan disk environment o
  let table := RouteTable.ofResolution resolution
  return if json then RouteTable.renderJson table else RouteTable.render (table.map (·.route))

def run (disk : Disk) (environment : Environment) (c : Command) : Outcome :=
  match c with
  | .handlers args =>
    match handlersOptions disk args with
    | .ok o => .silent (Handlers.generate disk environment o)
    | .error cause => .ofFault disk cause
  | .listing args =>
    match listingOptions disk args with
    | .ok o => .silent (Listing.generate disk o)
    | .error cause => .ofFault disk cause
  | .routes input settings json =>
    match routesText disk environment input settings json with
    | .ok text => ⟨disk, text, .ok ()⟩
    | .error cause => .ofFault disk cause

end Dispatchers.Command

namespace Dispatchers.CommandLine

def logOptions (line : CommandLine) (environment : Environment) : Log.Options :=
  if line.verbose then .verbose else .ofEnvironment environment

end Dispatchers.CommandLine
