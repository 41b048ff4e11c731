import Dispatchers.Dictionary
import Dispatchers.Fault
import Dispatchers.Go.Source

namespace Dispatchers.Go

/-- Import paths by their aliases. -/
abbrev ImportTable := Dictionary String

structure Package where
  name : String
  funcs : List Func
  /-- Methods by the name of their receiver's type. -/
  methods : Dictionary (List Func)
  structs : List Struct
  imports : Dictionary ImportTable
deriving DecidableEq

namespace Package

def empty : Package :=
  ⟨"", [], .empty, [], .empty⟩

def methodsOf (p : Package) (typeName : String) : List Func :=
  (p.methods.get? typeName).getD []

def findStruct? (p : Package) (name : String) : Option Struct :=
  p.structs.find? (·.name = name)

def findFunc? (p : Package) (name : String) : Option Func :=
  p.funcs.find? (·.name = name)

def importOf? (p : Package) (file qualifier : String) : Option String :=
  (p.imports.get? file).bind (·.get? qualifier)

/-- The name under which methods of a receiver type are kept. The type arguments of a generic
receiver do not count, and other receiver types have no name. -/
def receiverName (receiver : Arg) : String :=
  match receiver.type.deref with
  | .named _ name => name
  | .other text => String.ofList (Text.trim (text.toList.takeWhile (· != '[')))
  | _ => ""

/-- Adds a method behind those of the same receiver; one without a receiver has the empty name. -/
def addMethod (f : Func) (methods : Dictionary (List Func)) : Dictionary (List Func) :=
  methods.alter ((f.receiver.map receiverName).getD "") fun known => known.getD [] ++ [f]

def add (p : Package) (table : ImportTable) : Declaration → Package × ImportTable
  | .package name => (⟨name, p.funcs, p.methods, p.structs, p.imports⟩, table)
  | .imports entries =>
    (p, entries.foldl (fun t (qualifier, path) => t.insert qualifier path) table)
  | .function f => (⟨p.name, p.funcs ++ [f], p.methods, p.structs, p.imports⟩, table)
  | .method f => (⟨p.name, p.funcs, addMethod f p.methods, p.structs, p.imports⟩, table)
  | .structs declared => (⟨p.name, p.funcs, p.methods, p.structs ++ declared, p.imports⟩, table)
  | .values => (p, table)

/-- Adds the declarations of `file`. Its import table takes the place of an earlier one. -/
def addAll (p : Package) (file : String) (declarations : List Declaration) : Package :=
  let (q, table) := declarations.foldl (fun (q, table) d => q.add table d) (p, .empty)
  ⟨q.name, q.funcs, q.methods, q.structs, q.imports.insert file table⟩

def addSource? (p : Package) (file source : String) : Option Package :=
  (Source.declarations? file source).map (p.addAll file)

def ofSource? (file source : String) : Option Package :=
  empty.addSource? file source

def parse (p : Package) (file source : String) : Except Fault Package :=
  match p.addSource? file source with
  | some q => .ok q
  | none => .error (.notGo file (Source.faultyLine source))

/-- One step of a session: the package is left as it was by a source that is no Go. -/
def step (p : Package) (file source : String) : Except Fault Unit × Package :=
  match p.parse file source with
  | .ok q => (.ok (), q)
  | .error cause => (.error cause, p)

end Package

end Dispatchers.Go
