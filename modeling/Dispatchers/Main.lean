import Dispatchers.Command.Run

namespace Dispatchers

def usage : String :=
  "Usage: handlergen [-v] <command>\n\n" ++
  "  generate handlers [-i DIR] [-o DIR] [-p NAME] [-c FILE] [--dry-run]\n" ++
  "  generate listing [-i DIR] [-o DIR] [-p NAME] [-c FILE] [--dry-run]\n" ++
  "  routes [-i DIR] [-c FILE] [--json]\n"

def version : String :=
  "handlergen 0.1.0-alpha.1\n"

def variableNames : List String :=
  ["GOPATH", "HOME", "RUST_LOG", "HANDLERGEN_LOG_LEVEL", "HANDLERGEN_LOG_FORMAT",
    "HANDLERGEN_LOG_TARGET_FILTER", "HANDLERGEN_LOG_INCLUDE_LOCATION"]

def readEnvironment : IO Environment :=
  variableNames.foldlM (fun found name => do
    match ← IO.getEnv name with
    | some value => return found.insert name value
    | none => return found) Dictionary.empty

def addFile (disk : Disk) (name : String) (content : ByteArray) : Disk :=
  let ready := (disk.makeDirectories ((Disk.parent? name).getD "")).toOption.getD disk
  (ready.writeFile name content).toOption.getD ready

partial def readNames (input : IO.FS.Stream) : IO (List String) := do
  let line ← input.getLine
  if line.isEmpty then return []
  let name := String.ofList (line.toList.filter (· ≠ '\n'))
  let rest ← readNames input
  return if name.isEmpty then rest else name :: rest

def readDisk (cwd : String) (names : List String) : IO Disk := do
  let bare : Disk := ⟨[], Disk.absoluteNames [] cwd⟩
  let start := (bare.makeDirectories cwd).toOption.getD bare
  names.foldlM (fun disk (name : String) => do
    return addFile disk name (← IO.FS.readBinFile name)) start

def writeChanges (before after : Disk) : IO Unit :=
  for (names, content) in before.changes after do
    IO.FS.createDirAll (Disk.absolutePath names.dropLast)
    IO.FS.writeBinFile (Disk.absolutePath names) content

def runCommand (line : CommandLine) : IO UInt32 := do
  let environment ← readEnvironment
  let cwd := (← IO.getEnv "PWD").getD "/"
  let disk ← readDisk cwd (← readNames (← IO.getStdin))
  let outcome := line.command.run disk environment
  writeChanges disk outcome.disk
  IO.print outcome.output
  if let .error cause := outcome.result then
    IO.eprintln ("Error: " ++ cause.message)
  return if outcome.result then 0 else 1

def refuse (r : Refusal) : IO UInt32 := do
  match r with
  | .version => IO.print version
  | .help => IO.print usage
  | .usage => IO.eprint usage
  return r.exitCode.toUInt32

end Dispatchers

/-- Reads the names of the project's files on standard input, one a line, runs the command of the
arguments on them, and writes the files that the command makes. -/
def main (args : List String) : IO UInt32 :=
  match Dispatchers.CommandLine.parse args with
  | .ok line => Dispatchers.runCommand line
  | .error r => Dispatchers.refuse r
