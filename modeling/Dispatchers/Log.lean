import Dispatchers.Locator
import Dispatchers.Text.Blank
import Dispatchers.Text.Letter

namespace Dispatchers.Log

inductive Format where
  | json
  | pretty
  | compact
deriving DecidableEq

namespace Format

def name : Format → String
  | json => "Json"
  | pretty => "Pretty"
  | compact => "Compact"

/-- The format of a name in any case; other names mean the compact one. -/
def ofName (s : String) : Format :=
  match Text.lowercase s with
  | "json" => json
  | "pretty" => pretty
  | _ => compact

end Format

structure Options where
  level : String
  format : Format
  targets : Option String
  location : Bool
deriving DecidableEq

namespace Options

def ofEnvironment (environment : Environment) : Options :=
  let get (name : String) : Option String := environment.get? ("HANDLERGEN_LOG_" ++ name)
  ⟨(get "LEVEL").getD "info", Format.ofName ((get "FORMAT").getD "compact"), get "TARGET_FILTER",
    get "INCLUDE_LOCATION" == some "true"⟩

def verbose : Options :=
  ⟨"debug", .pretty, none, true⟩

end Options

inductive Level where
  | off
  | error
  | warn
  | info
  | debug
  | trace
deriving DecidableEq

namespace Level

def name : Level → String
  | off => "off"
  | error => "error"
  | warn => "warn"
  | info => "info"
  | debug => "debug"
  | trace => "trace"

def all : List Level :=
  [off, error, warn, info, debug, trace]

def ofText? (s : String) : Option Level :=
  if s.isEmpty then some error
  else if s.toList.all Char.isDigit then s.toNat?.bind (all[·]?)
  else all.find? (·.name = s.map Char.toLower)

/-- The level of the options; unknown names mean `info`. -/
def ofName (s : String) : Level :=
  let lower := Text.lowercase s
  ([trace, debug, warn, error].find? (·.name = lower)).getD info

end Level

structure Directive where
  target : Option String
  level : Level
deriving DecidableEq

namespace Directive

def isTargetStart (c : Char) : Bool :=
  Text.isWord c || c == ':' || c == '-'

/-- A level, a target or both with `=` between them; a target alone is logged in full. -/
def parse? (s : String) : Option Directive :=
  let target := s.toList.takeWhile (· ≠ '=')
  match target.head?, s.toList.drop target.length with
  | none, _ => none
  | some first, rest =>
    if !isTargetStart first || s.toList.contains '[' then none
    else
      let name := String.ofList target
      match rest with
      | [] => some ((Level.ofText? name).elim ⟨some name, .trace⟩ (⟨none, ·⟩))
      | [_] => some ⟨some name, .trace⟩
      | _ :: level => (Level.ofText? (String.ofList level)).map (⟨some name, ·⟩)

def render (d : Directive) : String :=
  match d.target with
  | some target => target ++ "=" ++ d.level.name
  | none => d.level.name

end Directive

/-- The directives in force, at most one for each target. -/
abbrev Filter := List Directive

namespace Filter

/-- Adds a directive in place of the one for its target. -/
def add (f : Filter) (d : Directive) : Filter :=
  f.filter (·.target ≠ d.target) ++ [d]

def pieces (s : String) : List String :=
  (Text.splitOn ',' s.toList).map String.ofList

/-- The filter of a text, if each of its directives is well formed. Without any, errors are
logged. -/
def parse? (s : String) : Option Filter := do
  let directives ← ((pieces s).filter (!·.isEmpty)).mapM Directive.parse?
  return if directives.isEmpty then [⟨none, .error⟩] else directives.foldl add []

/-- The filter that the environment states, or else the level of the options, with the directives
for targets added; malformed ones do not count. -/
def of (environment : Environment) (o : Options) : Filter :=
  let stated := (environment.get? "RUST_LOG").bind parse?
  let trimmed := (o.targets.elim [] pieces).map fun s => String.ofList (Text.trim s.toList)
  (trimmed.filterMap Directive.parse?).foldl add (stated.getD [⟨none, Level.ofName o.level⟩])

def render (f : Filter) : List String :=
  (f.map Directive.render).mergeSort fun a b => !(b < a)

end Filter

end Dispatchers.Log
