import Dispatchers.Go.Grammar.Expressions

namespace Dispatchers.Go.Grammar

open Reader TokenReader

variable (rules : Rules)

structure TypeSpec where
  name : String
  fields : Option (List Arg)

def typeSpec : TokenReader TypeSpec := do
  let declared ← name
  if ← accept "=" then
    let _ ← typeExpr rules
    return ⟨declared, none⟩
  let body : TokenReader (Option (List Arg)) := do
    if ← nextIs "struct" then some <$> structType rules
    else
      let _ ← typeExpr rules
      return none
  let fields ← if ← nextIs "[" then
    body <|> (do
      typeParams rules
      body)
    else body
  return ⟨declared, fields⟩

def expressions (header : Bool) : TokenReader Nat := do
  return (← separated "," (expression rules header)).length

def varSpec : TokenReader Unit := do
  let _ ← separated "," name
  if ← accept "=" then
    let _ ← expressions rules false
  else
    let _ ← typeExpr rules
    if ← accept "=" then
      let _ ← expressions rules false

/-- One line of a constant declaration; within parentheses the value may be left out. -/
def constSpec : TokenReader Unit := do
  let _ ← separated "," name
  if ← startsType then
    let _ ← typeExpr rules
    let _ ← expect "="
    let _ ← expressions rules false
  else if ← accept "=" then
    let _ ← expressions rules false

def specs {α : Type} (spec : TokenReader α) : TokenReader (List α) := do
  if ← accept "(" then terminated ")" spec else return [← spec]

def localDeclaration : TokenReader Unit := do
  let t ← take
  match t.text with
  | "type" => do let _ ← specs (typeSpec rules)
  | "var" => do let _ ← specs (varSpec rules)
  | "const" => do let _ ← specs (constSpec rules)
  | _ => failure

def assignments : List String :=
  ["=", ":=", "+=", "-=", "*=", "/=", "%=", "&=", "|=", "^=", "<<=", ">>=", "&^="]

/-- An expression, assignment, increment or send, and whether it is an expression. -/
def simple (header : Bool) : TokenReader Bool := do
  let count ← expressions rules header
  let t ← peek
  if t.kind = .operator ∧ assignments.contains t.text then
    let _ ← take
    let _ ← expressions rules header
    return false
  else
    guard (count = 1)
    if (← accept "++") || (← accept "--") then return false
    else if ← accept "<-" then
      expression rules header
      return false
    else return true

def clauseBody : TokenReader Unit := do
  let _ ← many terminator
  let _ ← many (do
    rules.statement
    if !((← nextIs "\x7d") || (← nextIs "case") || (← nextIs "default")) then
      let _ ← terminator
      let _ ← many terminator)

def clauses (label : TokenReader Unit) : TokenReader Unit := do
  let _ ← expect "\x7b"
  let _ ← many (do
    if ← accept "case" then label else
      let _ ← expect "default"
    let _ ← expect ":"
    clauseBody rules)
  let _ ← expect "\x7d"

def ifStatement : TokenReader Unit := do
  let _ ← expect "if"
  let start ← maybe (simple rules true)
  if ← accept ";" then expression rules true
  else guard (start = some true)
  block rules
  if ← accept "else" then
    if ← nextIs "if" then rules.statement else block rules

def typeGuard : TokenReader Unit := do
  let _ ← expect "."
  let _ ← expect "("
  let _ ← expect "type"
  let _ ← expect ")"

def subject : TokenReader Unit := do
  let start ← maybe (simple rules true)
  typeGuard <|> guard (start ≠ some false)

def switchStatement : TokenReader Unit := do
  let _ ← expect "switch"
  (do
    let _ ← maybe (simple rules true)
    let _ ← expect ";"
    subject rules) <|> subject rules
  clauses rules (do let _ ← expressions rules false)

def selectStatement : TokenReader Unit := do
  let _ ← expect "select"
  clauses rules (do let _ ← simple rules false)

def rangeClause : TokenReader Unit := do
  if !(← nextIs "range") then
    let _ ← expressions rules true
    if !(← accept ":=") then
      let _ ← expect "="
  let _ ← expect "range"
  expression rules true

def loopClause : TokenReader Unit := do
  let start ← maybe (simple rules true)
  if ← accept ";" then
    let _ ← maybe (expression rules true)
    let _ ← expect ";"
    let _ ← maybe (simple rules true)
  else guard (start ≠ some false)

def forStatement : TokenReader Unit := do
  let _ ← expect "for"
  rangeClause rules <|> loopClause rules
  block rules

def labeled : TokenReader Unit := do
  let _ ← name
  let _ ← expect ":"
  let _ ← maybe rules.statement

def statement : TokenReader Unit := do
  let t ← peek
  match t.kind, t.text with
  | .keyword, "type" | .keyword, "var" | .keyword, "const" => localDeclaration rules
  | .keyword, "go" | .keyword, "defer" =>
    let _ ← take
    expression rules false
  | .keyword, "return" =>
    let _ ← take
    let _ ← maybe (expressions rules false)
  | .keyword, "break" | .keyword, "continue" =>
    let _ ← take
    let _ ← maybe name
  | .keyword, "goto" =>
    let _ ← take
    let _ ← name
  | .keyword, "fallthrough" => do let _ ← take
  | .keyword, "if" => ifStatement rules
  | .keyword, "switch" => switchStatement rules
  | .keyword, "select" => selectStatement rules
  | .keyword, "for" => forStatement rules
  | .operator, "\x7b" => block rules
  | .name, _ => labeled rules <|> (do let _ ← simple rules false)
  | _, _ => do let _ ← simple rules false

def deeper : Rules :=
  ⟨typeExpr rules, expression rules false, elements rules, statement rules⟩

def Rules.ofDepth : Nat → Rules
  | 0 => .none
  | depth + 1 => deeper (Rules.ofDepth depth)

end Dispatchers.Go.Grammar
