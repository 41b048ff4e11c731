import Dispatchers.Dictionary
import Dispatchers.Fault
import Dispatchers.Text.Blank
import Dispatchers.Text.Lines

namespace Dispatchers

structure ImportRoot where
  importPath : String
  dir : String
deriving DecidableEq

structure GoModule where
  path : String
  dir : String
deriving DecidableEq

namespace GoModule

/-- What a line of a module file names as the module path, without comments and quotes. -/
def pathOfLine? (line : List Char) : Option String :=
  let upToComment : List Char → List Char :=
    let rec go : List Char → List Char
      | '/' :: '/' :: _ => []
      | c :: r => c :: go r
      | [] => []
    go
  match "module".toList.isPrefixOf? (Text.trim (upToComment line)) with
  | some (c :: r) =>
    if c = ' ' ∨ c = '\t' then
      let isQuote : Char → Bool := (· == '"')
      let path := (((Text.trim r).dropWhile isQuote).reverse.dropWhile isQuote).reverse
      if path.isEmpty then none else some (String.ofList path)
    else none
  | _ => none

def pathOf? (text : String) : Option String :=
  (Text.lines text.toList).findSome? pathOfLine?

def inDirectory (disk : Disk) (names : List String) : Except Fault (Option GoModule) :=
  let dir := Disk.absolutePath names
  let file := Disk.join dir "go.mod"
  if disk.isFile file then
    match disk.readText file with
    | .error cause => .error (.during .readModule file (.io cause))
    | .ok text =>
      match pathOf? text with
      | none => .error (.namelessModule file)
      | some path => .ok (some ⟨path, dir⟩)
  else .ok none

/-- The module whose file is nearest above the directory that reversed names lead to. -/
def above (disk : Disk) : List String → Except Fault (Option GoModule)
  | [] => inDirectory disk []
  | name :: rest =>
    match inDirectory disk (name :: rest).reverse with
    | .ok none => above disk rest
    | found => found

def find (disk : Disk) (names : List String) : Except Fault (Option GoModule) :=
  above disk names.reverse

end GoModule

structure Locator where
  module : Option GoModule
  roots : List ImportRoot
  workspaces : List String
deriving DecidableEq

abbrev Environment := Dictionary String

namespace Locator

def absolute (disk : Disk) (path : String) : Except Fault (List String) :=
  match disk.absolute path with
  | .ok names => .ok names
  | .error cause => .error (.during .makeAbsolute path (.io cause))

/-- The entries of the workspace path, by default one in the home directory. -/
def workspacesOf (environment : Environment) : List String :=
  match environment.get? "GOPATH" with
  | some entries =>
    if entries.isEmpty then home
    else (Text.splitOn ':' entries.toList).map String.ofList
  | none => home
where
  home : List String :=
    match environment.get? "HOME" with
    | some dir => [Disk.join dir "go"]
    | none => []

def dropEndSlashes (s : String) : String :=
  String.ofList (s.toList.reverse.dropWhile (· == '/')).reverse

def absoluteRoot (disk : Disk) (root : ImportRoot) : Except Fault ImportRoot := do
  let names ← absolute disk root.dir
  return ⟨dropEndSlashes root.importPath, Disk.absolutePath names⟩

def discover (disk : Disk) (environment : Environment) (input : String)
    (roots : List ImportRoot) : Except Fault Locator := do
  let start ← absolute disk input
  let enclosing ← GoModule.find disk start
  let roots ← roots.mapM (absoluteRoot disk)
  return ⟨enclosing, roots, workspacesOf environment⟩

def below? (base path : String) : Option String :=
  match base.toList.isPrefixOf? path.toList with
  | some [] => some ""
  | some ('/' :: rest) => some (String.ofList rest)
  | _ => none

/-- The places where the directory of an import path may be: the enclosing module, its vendored
packages, the configured roots and the entries of the workspace path, in this order. -/
def candidates (l : Locator) (path : String) : List String :=
  let ofModule := match l.module with
    | none => []
    | some m =>
      ((below? m.path path).map (Disk.join m.dir)).toList ++
        [Disk.join (Disk.join m.dir "vendor") path]
  let ofRoots := l.roots.filterMap fun root =>
    (below? root.importPath path).map (Disk.join root.dir)
  ofModule ++ ofRoots ++ l.workspaces.map fun entry => Disk.join (Disk.join entry "src") path

def dirFor? (l : Locator) (disk : Disk) (path : String) : Option String :=
  (l.candidates path).find? disk.isDirectory

def relative? (base : String) (names : List String) : Option String :=
  ((Disk.components base).isPrefixOf? (Disk.root :: names)).map ("/".intercalate ·)

def extend (base rest : String) : String :=
  if rest.isEmpty then base else base ++ "/" ++ rest

def importForNames? (l : Locator) (names : List String) : Option String :=
  let nonempty (rest : Option String) : Option String := rest.filter (!·.isEmpty)
  let ofModule := l.module.bind fun m =>
    nonempty (relative? (Disk.join m.dir "vendor") names) <|>
      (relative? m.dir names).map (extend m.path)
  let ofRoots := l.roots.findSome? fun root =>
    (relative? root.dir names).map (extend root.importPath)
  let ofWorkspaces := l.workspaces.findSome? fun entry =>
    nonempty (relative? (Disk.join entry "src") names)
  ofModule <|> ofRoots <|> ofWorkspaces

/-- The import path of the package that lies or would lie in `dir`. -/
def importFor? (l : Locator) (disk : Disk) (dir : String) : Option String :=
  match disk.absolute dir with
  | .ok names => l.importForNames? names
  | .error _ => none

end Locator

end Dispatchers
