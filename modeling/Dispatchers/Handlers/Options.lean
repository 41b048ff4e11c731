import Dispatchers.Resolve.Resolver

namespace Dispatchers.Handlers

open Controller Resolve

structure Options where
  input : String
  output : String
  package : String
  /-- The import path of the output directory, where it is not the one that its place gives. -/
  outputImport : Option String
  /-- The package with the conversion functions; without one they are generated. -/
  conversionImport : Option String
  prefixes : List Route.Prefix
  markers : Markers
  roots : List ImportRoot
  templates : Option String
  dryRun : Bool

def Options.of (input output package : String) : Options :=
  ⟨input, output, package, none, none, [], .standard, [], none, false⟩

def scan (disk : Disk) (environment : Environment) (o : Options) :
    Except Fault (Locator × Resolution) := do
  let locator ← Locator.discover disk environment o.input o.roots
  match resolve ⟨disk, locator, o.markers⟩ o.input o.prefixes with
  | .ok resolution => return (locator, resolution)
  | .error cause => .error (.resolution o.input cause)

end Dispatchers.Handlers
