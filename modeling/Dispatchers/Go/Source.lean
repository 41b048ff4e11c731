import Dispatchers.Go.Grammar.Statements
import Dispatchers.Go.Lexer
import Dispatchers.Go.LeadingComments
import Dispatchers.Path.Clean

namespace Dispatchers.Go

open Reader TokenReader Grammar

inductive Declaration where
  | package (name : String)
  | imports (entries : List (String × String))
  | function (f : Func)
  | method (f : Func)
  | structs (declared : List Struct)
  | values
deriving DecidableEq

namespace Source

structure Placed (α : Type) where
  value : α
  before : List Comment
  row : Nat
  endRow : Nat
  after : List Comment

def placed {α : Type} (item : TokenReader α) (ending : α → TokenReader (List Comment)) :
    TokenReader (Placed α) := do
  let first ← peek
  let (value, tokens) ← takenBy item
  let after ← ending value
  return ⟨value, first.comments, first.row, (tokens.getLast?.map (·.endRow)).getD first.row, after⟩

/-- The siblings before each item, nearest first, beside the item; `before` stands before all. -/
def withSiblings {α : Type} (before : List Sibling) :
    List (Placed α) → List (Placed α × List Sibling)
  | [] => []
  | p :: rest =>
    let here := p.before.reverse.map Sibling.comment ++ before
    let next := p.after.reverse.map Sibling.comment ++ .declaration p.row p.endRow :: here
    (p, here) :: withSiblings next rest

def importSpec : TokenReader (String × String) := do
  let qualifier ← if ← accept "." then pure (some ".")
    else if ← nextIsKind .name then some <$> name
    else pure none
  let path := String.ofList (Text.literalValue (← ofKind .string).text.toList)
  return (qualifier.getD (Path.lastSegment path), path)

structure Header where
  receiver : Option (List Arg)
  name : String
  params : List Arg
  results : List Arg

def functionHeader (rules : Rules) : TokenReader Header := do
  let _ ← expect "func"
  let receiver ← if ← nextIs "(" then some <$> params rules else pure none
  let declared ← name
  if receiver.isNone ∧ (← nextIs "[") then typeParams rules
  let (inputs, outputs) ← signature rules
  if ← nextIs "\x7b" then block rules
  return ⟨receiver, declared, inputs, outputs⟩

/-- Type specifications, and whether they stand between parentheses. Comments behind the keyword
and before the parenthesis stand before the first specification. -/
structure TypeGroup where
  grouped : Bool
  opening : List Comment
  specs : List (Placed TypeSpec)

def typeGroup (rules : Rules) : TokenReader TypeGroup := do
  let _ ← expect "type"
  let first ← peek
  if ← accept "(" then
    let ending : TypeSpec → TokenReader (List Comment) := fun _ => do
      if ← nextIs ")" then return [] else return (← terminator).comments
    let found ← many (placed (typeSpec rules) ending)
    let _ ← expect ")"
    return ⟨true, first.comments, found⟩
  else
    return ⟨false, [], [← placed (typeSpec rules) fun _ => pure []]⟩

inductive Item where
  | package (name : String)
  | imports (entries : List (String × String))
  | function (header : Header)
  | types (group : TypeGroup)
  | values

def item (rules : Rules) : TokenReader Item := do
  let t ← peek
  guard (t.kind = .keyword)
  match t.text with
  | "package" =>
    let _ ← take
    .package <$> name
  | "import" =>
    let _ ← take
    .imports <$> specs importSpec
  | "func" => .function <$> functionHeader rules
  | "type" => .types <$> typeGroup rules
  | "var" | "const" =>
    localDeclaration rules
    return .values
  | _ => failure

/-- Package clauses, imports and functions may end the file; other declarations need a terminator
behind them. -/
def Item.ending : Item → TokenReader (List Comment)
  | .types _ | .values => do return (← terminator).comments
  | _ => do if ← nextIsKind .eof then return [] else return (← terminator).comments

/-- Above a single specification stand the comments behind the keyword, or else those above the
keyword; specifications in a group have only those inside it. -/
def structsOf (file : String) (row : Nat) (before : List Sibling) (group : TypeGroup) :
    List Struct :=
  let above := if group.grouped then [] else leadingComments row before
  (withSiblings (group.opening.reverse.map Sibling.comment) group.specs).filterMap
    fun (spec, siblings) =>
      spec.value.fields.map fun fields =>
        let inner := leadingComments spec.row siblings
        ⟨spec.value.name, file, if inner.isEmpty then above else inner, fields⟩

def Item.declaration (file : String) (row : Nat) (before : List Sibling) : Item → Declaration
  | .package name => .package name
  | .imports entries => .imports entries
  | .function header =>
    let f : Func := ⟨header.name, file, leadingComments row before, header.params, header.results,
      header.receiver.bind List.head?⟩
    if header.receiver.isSome then .method f else .function f
  | .types group => .structs (structsOf file row before group)
  | .values => .values

def items (rules : Rules) : TokenReader (List (Placed Item)) := do
  let found ← many (placed (item rules) Item.ending)
  let _ ← ofKind .eof
  return found

/-- The declarations of a source file, or `none` where the source is no Go. A source is Go if the
language's own grammar reads it, where package clauses may be absent, repeated or late. What only a
lenient parser takes, such as statements outside of functions, is none. -/
def declarations? (file source : String) : Option (List Declaration) := do
  let tokens ← Lexer.tokens? source
  let (found, _) ← items (Rules.ofDepth tokens.length) tokens
  return (withSiblings [] found).map fun (p, before) =>
    p.value.declaration file p.row before

/-- The line near which a source is no Go: the first one of the first declaration that is not read,
or the first of all where there are no tokens. It is where reading stops, not where a parser that
recovers from errors would put the fault. -/
def faultyLine (source : String) : Nat :=
  let unread := (Lexer.tokens? source).bind fun tokens =>
    (many (placed (item (Rules.ofDepth tokens.length)) Item.ending) tokens).bind (·.2.head?)
  (unread.map (·.row + 1)).getD 1

end Source

end Dispatchers.Go
