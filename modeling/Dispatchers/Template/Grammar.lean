import Dispatchers.Template.Expression
import Dispatchers.Template.Segment

namespace Dispatchers.Template

open Reader

def expectMark (s : String) : Reader Token Unit :=
  exactly [.mark s]

def acceptMark (s : String) : Reader Token Bool :=
  accepting [.mark s]

def expectWord (s : String) : Reader Token Unit :=
  exactly [.name s]

def acceptWord (s : String) : Reader Token Bool :=
  accepting [.name s]

def readName : Reader Token String := do
  match ← take with
  | .name s => return s
  | _ => failure

namespace Expression

/-- Expressions between commas up to a closing mark, which a comma may precede. -/
def readUpTo (nested : Reader Token Expression) (closing : String) :
    Reader Token (List Expression) := do
  if ← acceptMark closing then return []
  else
    let found ← separatedBy (expectMark ",") nested
    let _ ← acceptMark ","
    expectMark closing
    return found

def ofName (s : String) : Expression :=
  match s with
  | "true" | "True" => .value (.bool true)
  | "false" | "False" => .value (.bool false)
  | "none" | "None" => .value .none
  | s => .reference s

/-- An expression between parentheses; with commas it is a list. -/
def readParenthesized (nested : Reader Token Expression) : Reader Token Expression := do
  if ← acceptMark ")" then return .list []
  else
    let first ← nested
    if ← acceptMark "," then return .list (first :: (← readUpTo nested ")"))
    else
      expectMark ")"
      return first

def readOperand (nested : Reader Token Expression) : Reader Token Expression := do
  match ← take with
  | .name s =>
    if ← acceptMark "(" then return .call s (← readUpTo nested ")")
    else return ofName s
  | .text s => return .value (.text s)
  | .number n => return .value (.number n)
  | .mark "(" => readParenthesized nested
  | .mark "[" => return .list (← readUpTo nested "]")
  | .mark _ => failure

def readSelector (nested : Reader Token Expression) (subject : Expression) :
    Reader Token Expression := do
  match ← take with
  | .mark "." => return .member subject (← readName)
  | .mark "[" =>
    let key ← nested
    expectMark "]"
    return .item subject key
  | _ => failure

def readFilter (nested : Reader Token Expression) (subject : Expression) :
    Reader Token Expression := do
  expectMark "|"
  let name ← readName
  let arguments ← if ← acceptMark "(" then readUpTo nested ")" else pure []
  return .filter subject name arguments

/-- Selectors stand directly behind an operand, and filters behind those. -/
def readFiltered (nested : Reader Token Expression) : Reader Token Expression := do
  let operand ← readOperand nested
  let selected ← iterate (readSelector nested) operand
  iterate (readFilter nested) selected

def joined (operator : Reader Token Unit) (join : Expression → Expression → Expression)
    (operand : Reader Token Expression) : Reader Token Expression := do
  let first ← operand
  iterate (fun left => do operator; return join left (← operand)) first

def readNegated (nested : Reader Token Expression) : Reader Token Expression := do
  let negations ← many (expectWord "not")
  let compared ← joined (expectMark "==") .equal (joined (expectMark "~") .concat
    (readFiltered nested))
  return negations.foldl (fun e _ => .not e) compared

def readDisjunction (nested : Reader Token Expression) : Reader Token Expression :=
  joined (expectWord "or") .or (joined (expectWord "and") .and (readNegated nested))

/-- A choice without an alternative is undefined where its test fails. -/
def readChoice (nested : Reader Token Expression) (yes : Expression) :
    Reader Token Expression := do
  expectWord "if"
  let test ← readDisjunction nested
  let no ← if ← acceptWord "else" then nested else pure (.value .undefined)
  return .choice test yes no

def read : Nat → Reader Token Expression
  | 0 => failure
  | depth + 1 => do
    let first ← readDisjunction (read depth)
    iterate (readChoice (read depth)) first

end Expression

inductive Target where
  | single (name : String)
  | several (names : List String)
deriving DecidableEq

inductive Statement where
  | ifTest (test : Expression)
  | elseIf (test : Expression)
  | otherwise
  | endIf
  | forEach (target : Target) (sequence : Expression)
  | endFor
  | assign (target : Target) (value : Expression)

namespace Statement

def reservedNames : List String :=
  ["true", "True", "false", "False", "none", "None", "loop", "self"]

def readBinder : Reader Token String := do
  let name ← readName
  guard (¬ reservedNames.contains name)
  return name

/-- A comma behind a single name makes it a list of one. -/
def readTarget : Reader Token Target := do
  let names ← separatedBy (expectMark ",") readBinder
  let trailing ← acceptMark ","
  match names, trailing with
  | [name], false => return .single name
  | names, _ => return .several names

def read (depth : Nat) : Reader Token Statement := do
  match ← readName with
  | "if" => return .ifTest (← Expression.read depth)
  | "elif" => return .elseIf (← Expression.read depth)
  | "else" => return .otherwise
  | "endif" => return .endIf
  | "for" =>
    let target ← readTarget
    expectWord "in"
    return .forEach target (← Expression.readDisjunction (Expression.read depth))
  | "endfor" => return .endFor
  | "set" =>
    let target ← readTarget
    expectMark "="
    return .assign target (← Expression.read depth)
  | _ => failure

end Statement

def Expression.ofTokens? (tokens : List Token) : Option Expression :=
  (Expression.read tokens.length).readAll? tokens

def Statement.ofTokens? (tokens : List Token) : Option Statement :=
  (Statement.read tokens.length).readAll? tokens

end Dispatchers.Template
