
namespace Dispatchers.Go

inductive TypeExpr where
  | named (package : Option String) (name : String)
  | pointer (inner : TypeExpr)
  | slice (element : TypeExpr)
  /-- The length is kept as it is written. -/
  | array (length : String) (element : TypeExpr)
  | map (key value : TypeExpr)
  | variadic (element : TypeExpr)
  /-- Any other type, kept as it is written. -/
  | other (text : String)
deriving DecidableEq, Inhabited

namespace TypeExpr

def render : TypeExpr → String
  | named none name => name
  | named (some package) name => package ++ "." ++ name
  | pointer inner => "*" ++ inner.render
  | slice element => "[]" ++ element.render
  | array length element => "[" ++ length ++ "]" ++ element.render
  | map key value => "map[" ++ key.render ++ "]" ++ value.render
  | variadic element => "..." ++ element.render
  | other text => text

def isPointer : TypeExpr → Bool
  | pointer _ => true
  | _ => false

def deref : TypeExpr → TypeExpr
  | pointer inner => inner
  | type => type

def name? (type : TypeExpr) : Option String :=
  match type.deref with
  | named _ name => some name
  | _ => none

def package? (type : TypeExpr) : Option String :=
  match type.deref with
  | named package _ => package
  | _ => none

/-- Exactly `package.name`, behind no pointer. -/
def isQualified (type : TypeExpr) (package name : String) : Bool :=
  match type with
  | named (some p) n => p == package && n == name
  | _ => false

end TypeExpr

end Dispatchers.Go
