import Dispatchers.Go.Grammar.Basic

namespace Dispatchers.Go.Grammar

open Reader TokenReader

variable (rules : Rules)

def typeArguments : TokenReader Unit := do
  let _ ← expect "["
  let _ ← separated "," rules.type
  let _ ← accept ","
  let _ ← expect "]"

def typeName : TokenReader TypeExpr := do
  let ((plain, arguments), tokens) ← takenBy (do
    let first ← name
    let plain ← if ← accept "." then TypeExpr.named (some first) <$> name
      else pure (.named none first)
    let arguments ← if ← nextIs "[" then some <$> typeArguments rules else pure none
    return (plain, arguments))
  return if arguments.isSome then .other (Token.source tokens) else plain

/-- The type behind a star or an opening parenthesis. A comment in front takes its place. -/
def behindMark : TokenReader TypeExpr := do
  let next ← peek
  let inner ← rules.type
  return match next.comments with
    | [] => inner
    | comment :: _ => .other comment.text

def bracketed : TokenReader TypeExpr := do
  let _ ← expect "["
  if ← accept "]" then return .slice (← rules.type)
  else
    let length ← sourceOf rules.expression
    let _ ← expect "]"
    return .array length (← rules.type)

def mapType : TokenReader TypeExpr := do
  let _ ← expect "map"
  let _ ← expect "["
  let key ← rules.type
  let _ ← expect "]"
  return .map key (← rules.type)

def channel : TokenReader Unit := do
  if ← accept "<-" then
    let _ ← expect "chan"
    let _ ← rules.type
  else
    let _ ← expect "chan"
    let _ ← accept "<-"
    let _ ← rules.type

inductive ParamEntry where
  /-- A name alone, which is a parameter or a type. -/
  | single (name : String)
  | unnamed (type : TypeExpr)
  | named (name : String) (type : TypeExpr)

def paramType : TokenReader TypeExpr := do
  if ← accept "..." then .variadic <$> rules.type else rules.type

def paramEntry : TokenReader ParamEntry := do
  if ← nextIsKind .name then
    (do
      let first ← name
      if (← nextIs ",") || (← nextIs ")") then return .single first
      guard !(← nextIs ".")
      return .named first (← paramType rules)) <|>
    .unnamed <$> typeName rules
  else .unnamed <$> paramType rules

/-- A parameter with a name and a type, behind names that wait for a type. They share the type,
but in front of a variadic parameter they are types of their own. -/
def typed (waiting : List String) (n : String) : TypeExpr → List Arg
  | .variadic element =>
    waiting.map (fun w => ⟨"", "", .named none w⟩) ++ [⟨n, "", .variadic element⟩]
  | type => (waiting ++ [n]).map (⟨·, "", type⟩)

def namedParams : List String → List ParamEntry → Option (List Arg)
  | [], [] => some []
  | _ :: _, [] => none
  | waiting, .single n :: rest => namedParams (waiting ++ [n]) rest
  | _, .unnamed _ :: _ => none
  | waiting, .named n type :: rest => (namedParams [] rest).map (typed waiting n type ++ ·)

def ParamEntry.isNamed : ParamEntry → Bool
  | .named .. => true
  | _ => false

def ParamEntry.asType : ParamEntry → TypeExpr
  | .single n => .named none n
  | .unnamed type => type
  | .named _ type => type

/-- A list names all of its parameters or none of them. -/
def paramsOf (entries : List ParamEntry) : Option (List Arg) :=
  if entries.any (·.isNamed) then namedParams [] entries
  else some (entries.map fun e => ⟨"", "", e.asType⟩)

def params : TokenReader (List Arg) := do
  let _ ← expect "("
  if ← accept ")" then return []
  let entries ← separated "," (paramEntry rules)
  let _ ← accept ","
  let _ ← expect ")"
  liftM (paramsOf entries)

def startsType : TokenReader Bool := do
  let t ← peek
  return match t.kind with
    | .name => true
    | .keyword => ["map", "chan", "func", "struct", "interface"].contains t.text
    | .operator => ["*", "[", "(", "<-"].contains t.text
    | _ => false

def results : TokenReader (List Arg) := do
  if ← nextIs "(" then params rules
  else if ← startsType then return [⟨"", "", ← rules.type⟩]
  else return []

def signature : TokenReader (List Arg × List Arg) := do
  let inputs ← params rules
  return (inputs, ← results rules)

def fieldTag : TokenReader String := do
  if ← nextIsKind .string then
    return String.ofList (Text.literalValue (← take).text.toList)
  else return ""

def endsField : TokenReader Bool := do
  let t ← peek
  return t.kind == .newline || t.kind == .string ||
    (t.kind == .operator && [";", "\x7d"].contains t.text)

def embedded : TokenReader TypeExpr := do
  if ← accept "*" then .pointer <$> typeName rules else typeName rules

def fieldNames : TokenReader (List String × TypeExpr) := do
  if ← nextIs "*" then return ([], ← embedded rules)
  (do
    let names ← separated "," name
    guard !(← nextIs ".")
    guard !(← endsField)
    return (names, ← rules.type)) <|>
  (do return ([], ← embedded rules))

def field : TokenReader (List Arg) := do
  let (names, type) ← fieldNames rules
  let tag ← fieldTag
  return if names.isEmpty then [⟨"", tag, type⟩] else names.map (⟨·, tag, type⟩)

/-- Items that each end with a terminator, up to a closing mark that may stand for the last
terminator. -/
def terminated {α : Type} (close : String) (item : TokenReader α) : TokenReader (List α) := do
  let found ← many (do
    let a ← item
    if !(← nextIs close) then
      let _ ← terminator
    return a)
  let _ ← expect close
  return found

def structType : TokenReader (List Arg) := do
  let _ ← expect "struct"
  let _ ← expect "\x7b"
  return (← terminated "\x7d" (field rules)).flatten

def union : TokenReader Unit := do
  let _ ← separated "|" (do
    let _ ← accept "~"
    let _ ← rules.type)

def interfaceElement : TokenReader Unit :=
  (do
    let _ ← name
    guard (← nextIs "(")
    let _ ← signature rules) <|>
  union rules

def interfaceType : TokenReader Unit := do
  let _ ← expect "interface"
  let _ ← expect "\x7b"
  let _ ← terminated "\x7d" (interfaceElement rules)

def typeExpr : TokenReader TypeExpr := do
  let t ← peek
  match t.kind, t.text with
  | .name, _ => typeName rules
  | .operator, "*" =>
    let _ ← take
    .pointer <$> behindMark rules
  | .operator, "(" =>
    let _ ← take
    let inner ← behindMark rules
    let _ ← expect ")"
    return inner
  | .operator, "[" => bracketed rules
  | .keyword, "map" => mapType rules
  | .operator, "<-" => .other <$> sourceOf (channel rules)
  | .keyword, "chan" => .other <$> sourceOf (channel rules)
  | .keyword, "func" => .other <$> sourceOf (do
      let _ ← take
      let _ ← signature rules)
  | .keyword, "struct" => .other <$> sourceOf (structType rules)
  | .keyword, "interface" => .other <$> sourceOf (interfaceType rules)
  | _, _ => failure

def typeParams : TokenReader Unit := do
  let _ ← expect "["
  let _ ← separated "," (do
    let _ ← separated "," name
    union rules)
  let _ ← accept ","
  let _ ← expect "]"

end Dispatchers.Go.Grammar
