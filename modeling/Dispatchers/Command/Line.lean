
namespace Dispatchers

structure GenerateArgs where
  input : Option String
  output : Option String
  package : Option String
  settings : Option String
  dryRun : Bool
deriving DecidableEq

inductive Command where
  | handlers (args : GenerateArgs)
  | listing (args : GenerateArgs)
  | routes (input settings : Option String) (json : Bool)
deriving DecidableEq

structure CommandLine where
  command : Command
  verbose : Bool
deriving DecidableEq

inductive Refusal where
  | help
  | version
  | usage
deriving DecidableEq

def Refusal.name : Refusal → String
  | help => "help"
  | version => "version"
  | usage => "usage"

/-- Only a wrong usage is a failure. -/
def Refusal.exitCode : Refusal → Nat
  | usage => 2
  | _ => 0

namespace CommandLine

inductive FlagKind where
  | switch
  | text
  /-- A text that is not empty. -/
  | path
  | help
  | version
deriving DecidableEq

structure Flag where
  name : String
  short : Option Char
  kind : FlagKind
deriving DecidableEq

def verboseFlag : Flag :=
  ⟨"verbose", some 'v', .switch⟩

def helpFlag : Flag :=
  ⟨"help", some 'h', .help⟩

def inputFlag : Flag :=
  ⟨"input", some 'i', .path⟩

def settingsFlag : Flag :=
  ⟨"config", some 'c', .path⟩

def topFlags : List Flag :=
  [verboseFlag, helpFlag, ⟨"version", some 'V', .version⟩]

def groupFlags : List Flag :=
  [verboseFlag, helpFlag]

def generateFlags : List Flag :=
  [verboseFlag, helpFlag, inputFlag, ⟨"output", some 'o', .path⟩, ⟨"package", some 'p', .text⟩,
    settingsFlag, ⟨"dry-run", none, .switch⟩]

def routesFlags : List Flag :=
  [verboseFlag, helpFlag, inputFlag, settingsFlag, ⟨"json", none, .switch⟩]

abbrev Given := List (String × String)

def Given.value? (g : Given) (name : String) : Option String :=
  g.lookup name

def Given.isOn (g : Given) (name : String) : Bool :=
  (g.lookup name).isSome

/-- No flag is given twice, and no path is empty. -/
def give (g : Given) (flag : Flag) (value : String) : Except Refusal Given :=
  if g.isOn flag.name || (flag.kind = .path && value.isEmpty) then .error .usage
  else .ok (g ++ [(flag.name, value)])

def giveAlone (g : Given) (flag : Flag) : Except Refusal Given :=
  match flag.kind with
  | .help => .error .help
  | .version => .error .version
  | _ => give g flag ""

def Flag.takesValue (flag : Flag) : Bool :=
  flag.kind = .text || flag.kind = .path

def isFlag (arg : String) : Bool :=
  arg.toList.head? == some '-' && arg != "-"

/-- What an argument gives, and the flag whose value is the next argument, if there is one. -/
abbrev Reading := Given × Option Flag

def readLong (flags : List Flag) (g : Given) (body : List Char) : Except Refusal Reading :=
  let name := String.ofList (body.takeWhile (· ≠ '='))
  match flags.find? (·.name = name), body.dropWhile (· ≠ '=') with
  | none, _ => .error .usage
  | some flag, [] =>
    if flag.takesValue then .ok (g, some flag) else (giveAlone g flag).map (·, none)
  | some flag, _ :: value =>
    if flag.takesValue then (give g flag (String.ofList value)).map (·, none)
    else .error .usage

/-- Short flags behind one dash. The first that takes a value takes the rest for it, with or
without `=` before. -/
def readShort (flags : List Flag) (g : Given) : List Char → Except Refusal Reading
  | [] => .ok (g, none)
  | c :: rest =>
    match flags.find? (·.short = some c) with
    | none => .error .usage
    | some flag =>
      if flag.takesValue then
        match rest with
        | [] => .ok (g, some flag)
        | '=' :: value => (give g flag (String.ofList value)).map (·, none)
        | value => (give g flag (String.ofList value)).map (·, none)
      else do readShort flags (← giveAlone g flag) rest

def readFlag (flags : List Flag) (g : Given) (arg : String) : Except Refusal Reading :=
  match arg.toList with
  | '-' :: '-' :: body => readLong flags g body
  | '-' :: body => readShort flags g body
  | _ => .error .usage

def separator : String :=
  "--"

def readFlags (flags : List Flag) (g : Given) :
    List String → Except Refusal (Given × List String)
  | [] => .ok (g, [])
  | arg :: rest =>
    if !isFlag arg || arg = separator then .ok (g, arg :: rest)
    else do
      match ← readFlag flags g arg with
      | (g, none) => readFlags flags g rest
      | (g, some flag) =>
        match rest with
        | [] => .error .usage
        | value :: rest =>
          if isFlag value then .error .usage else readFlags flags (← give g flag value) rest

def readAll (flags : List Flag) (args : List String) : Except Refusal Given := do
  let (g, rest) ← readFlags flags [] args
  if rest = [] ∨ rest = [separator] then return g else .error .usage

def readGenerate (command : GenerateArgs → Command) (args : List String) :
    Except Refusal CommandLine := do
  let g ← readAll generateFlags args
  return ⟨command ⟨g.value? "input", g.value? "output", g.value? "package", g.value? "config",
    g.isOn "dry-run"⟩, g.isOn "verbose"⟩

def readRoutes (args : List String) : Except Refusal CommandLine := do
  let g ← readAll routesFlags args
  return ⟨.routes (g.value? "input") (g.value? "config") (g.isOn "json"), g.isOn "verbose"⟩

def topics : List (List String) :=
  [[], ["generate"], ["generate", "handlers"], ["generate", "listing"], ["generate", "help"],
    ["routes"], ["help"]]

def askHelp (topic : List String) : Refusal :=
  if topics.contains topic then .help else .usage

/-- Verbose before the name of a command counts like behind it. -/
def withFlags (g : Given) (line : CommandLine) : CommandLine :=
  { line with verbose := line.verbose || g.isOn "verbose" }

def readGroup (args : List String) : Except Refusal CommandLine := do
  let (g, rest) ← readFlags groupFlags [] args
  match rest with
  | "handlers" :: rest => withFlags g <$> readGenerate .handlers rest
  | "listing" :: rest => withFlags g <$> readGenerate .listing rest
  | "help" :: topic => .error (askHelp ("generate" :: topic))
  | _ => .error .usage

def parse (args : List String) : Except Refusal CommandLine := do
  let (g, rest) ← readFlags topFlags [] args
  match rest with
  | "generate" :: rest => withFlags g <$> readGroup rest
  | "routes" :: rest => withFlags g <$> readRoutes rest
  | "help" :: topic => .error (askHelp topic)
  | _ => .error .usage

end CommandLine

end Dispatchers
