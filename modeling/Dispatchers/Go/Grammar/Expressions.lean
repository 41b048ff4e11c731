import Dispatchers.Go.Grammar.Types

namespace Dispatchers.Go.Grammar

open Reader TokenReader

variable (rules : Rules)

inductive Operand where
  | name
  | qualified
  | indexed
  | literalType
  | value
deriving DecidableEq

/-- Before a block, as in the header of a loop, braces after a name open the block. -/
def Operand.takesElements (header : Bool) : Operand → Bool
  | .name | .qualified | .indexed => !header
  | .literalType => true
  | .value => false

def block : TokenReader Unit := do
  let _ ← expect "\x7b"
  let _ ← many terminator
  let _ ← many (do
    rules.statement
    if !(← nextIs "\x7d") then
      let _ ← terminator
      let _ ← many terminator)
  let _ ← expect "\x7d"

def function : TokenReader Unit := do
  let _ ← expect "func"
  let _ ← signature rules
  if ← nextIs "\x7b" then block rules

/-- An array or slice type; the length of an array may be left to its elements. -/
def elementsType : TokenReader Unit := do
  (do
    let _ ← expect "["
    let _ ← expect "..."
    let _ ← expect "]"
    let _ ← rules.type) <|>
  (do let _ ← bracketed rules)

def operand : TokenReader Operand := do
  let t ← peek
  match t.kind, t.text with
  | .name, _ =>
    let _ ← take
    return .name
  | .number, _ | .rune, _ | .string, _ =>
    let _ ← take
    return .value
  | .operator, "(" =>
    let _ ← take
    rules.expression
    let _ ← expect ")"
    return .value
  | .operator, "[" =>
    elementsType rules
    return .literalType
  | .keyword, "map" =>
    let _ ← mapType rules
    return .literalType
  | .keyword, "struct" =>
    let _ ← structType rules
    return .literalType
  | .keyword, "func" =>
    function rules
    return .value
  | .keyword, "chan" =>
    channel rules
    return .value
  | .keyword, "interface" =>
    interfaceType rules
    return .value
  | _, _ => failure

/-- The bounds of a slice after its first colon. The third bound needs the second. -/
def sliceBounds : TokenReader Unit := do
  let second ← maybe rules.expression
  if ← accept ":" then
    guard second.isSome
    rules.expression

def index : TokenReader Unit := do
  let _ ← expect "["
  if ← accept ":" then sliceBounds rules
  else
    let _ ← separated "," rules.expression
    if ← accept ":" then sliceBounds rules
    else
      let _ ← accept ","
  let _ ← expect "]"

def callArguments : TokenReader Unit := do
  let _ ← expect "("
  if !(← nextIs ")") then
    let _ ← separated "," rules.expression
    let _ ← accept "..."
    let _ ← accept ","
  let _ ← expect ")"

def element : TokenReader Unit := do
  let part : TokenReader Unit := do
    if ← accept "\x7b" then rules.elements else rules.expression
  part
  if ← accept ":" then part

def elements : TokenReader Unit := do
  if !(← nextIs "\x7d") then
    let _ ← separated "," (element rules)
    let _ ← accept ","
  let _ ← expect "\x7d"

def suffix (header : Bool) (before : Operand) : TokenReader Operand := do
  let t ← peek
  guard (t.kind = .operator)
  match t.text with
  | "." =>
    let _ ← take
    if ← accept "(" then
      let _ ← rules.type
      let _ ← expect ")"
      return .value
    else
      let _ ← name
      return if before = .name then .qualified else .value
  | "[" =>
    index rules
    return if before = .name ∨ before = .qualified then .indexed else .value
  | "(" =>
    callArguments rules
    return .value
  | "\x7b" =>
    guard (before.takesElements header)
    let _ ← take
    elements rules
    return .value
  | _ => failure

def prefixOperators : List String :=
  ["+", "-", "!", "^", "*", "&", "<-", "~"]

def binaryOperators : List String :=
  ["||", "&&", "==", "!=", "<", "<=", ">", ">=", "+", "-", "|", "^", "*", "/", "%", "<<", ">>",
    "&", "&^"]

def operatorIn (operators : List String) : TokenReader Unit := do
  let t ← take
  guard (t.kind = .operator ∧ operators.contains t.text)

def unary (header : Bool) : TokenReader Unit := do
  let _ ← many (operatorIn prefixOperators)
  let first ← operand rules
  let _ ← iterate (suffix rules header) first

/-- Only the extent of an expression matters, so operators are read without precedence and types
stand wherever an operand does. In the header of a statement braces after a name are not part of it. -/
def expression (header : Bool) : TokenReader Unit := do
  unary rules header
  let _ ← many (do
    operatorIn binaryOperators
    unary rules header)

end Dispatchers.Go.Grammar
