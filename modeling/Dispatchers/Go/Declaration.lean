import Dispatchers.Go.TypeExpr
import Dispatchers.Text.Identifier

namespace Dispatchers.Go

/-- A parameter, result or struct field. Unnamed parameters and embedded fields have an empty
name, and only fields have a tag. -/
structure Arg where
  name : String
  tag : String
  type : TypeExpr
deriving DecidableEq

def Arg.isEmbedded (a : Arg) : Bool :=
  a.name.isEmpty

structure Func where
  name : String
  file : String
  comments : List String
  params : List Arg
  results : List Arg
  receiver : Option Arg
deriving DecidableEq

namespace Func

def isExported (f : Func) : Bool :=
  Text.isExported f.name

/-- The file and the name, behind the name of the receiver's type if it has one. -/
def location (f : Func) : String :=
  let receiver := (f.receiver.bind (·.type.name?)).getD ""
  if receiver.isEmpty then f.file ++ ":" ++ f.name
  else f.file ++ ":" ++ receiver ++ "." ++ f.name

end Func

structure Struct where
  name : String
  file : String
  comments : List String
  fields : List Arg
deriving DecidableEq

end Dispatchers.Go
