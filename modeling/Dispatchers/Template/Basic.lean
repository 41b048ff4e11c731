import Dispatchers.Template.Grammar

namespace Dispatchers.Template

inductive Node where
  | text (s : String)
  | output (e : Expression)
  | branch (test : Expression) (yes no : List Node)
  /-- `empty` is rendered where there is nothing to go through. -/
  | loop (target : Target) (sequence : Expression) (body empty : List Node)
  | assign (target : Target) (value : Expression)

/-- A statement that is open, and what was read inside it before the part that is being read. -/
inductive Opening where
  /-- Alternatives that are complete, last first, and the test of the one being read; the last
  alternative has none. -/
  | branch (finished : List (Expression × List Node)) (test : Option Expression)
  /-- The body, once the part for no elements is being read. -/
  | loop (target : Target) (sequence : Expression) (body : Option (List Node))

/-- Nodes of the part being read, last first, inside what is open, innermost first. -/
structure Partial where
  nodes : List Node
  outer : List (Opening × List Node)

namespace Partial

def start : Partial :=
  ⟨[], []⟩

def add (p : Partial) (node : Node) : Partial :=
  { p with nodes := node :: p.nodes }

def enter (p : Partial) (opening : Opening) : Partial :=
  ⟨[], (opening, p.nodes) :: p.outer⟩

def nest (finished : List (Expression × List Node)) (last : List Node) : List Node :=
  finished.foldl (fun no (test, yes) => [.branch test yes no]) last

def step? (p : Partial) : Statement → Option Partial
  | .assign target value => some (p.add (.assign target value))
  | .ifTest test => some (p.enter (.branch [] (some test)))
  | .forEach target sequence => some (p.enter (.loop target sequence none))
  | .elseIf next =>
    match p.outer with
    | (.branch finished (some test), before) :: rest =>
      some ⟨[], (.branch ((test, p.nodes.reverse) :: finished) (some next), before) :: rest⟩
    | _ => none
  | .otherwise =>
    match p.outer with
    | (.branch finished (some test), before) :: rest =>
      some ⟨[], (.branch ((test, p.nodes.reverse) :: finished) none, before) :: rest⟩
    | (.loop target sequence none, before) :: rest =>
      some ⟨[], (.loop target sequence (some p.nodes.reverse), before) :: rest⟩
    | _ => none
  | .endIf =>
    match p.outer with
    | (.branch finished (some test), before) :: rest =>
      some ⟨nest ((test, p.nodes.reverse) :: finished) [] ++ before, rest⟩
    | (.branch finished none, before) :: rest =>
      some ⟨nest finished p.nodes.reverse ++ before, rest⟩
    | _ => none
  | .endFor =>
    match p.outer with
    | (.loop target sequence none, before) :: rest =>
      some ⟨.loop target sequence p.nodes.reverse [] :: before, rest⟩
    | (.loop target sequence (some body), before) :: rest =>
      some ⟨.loop target sequence body p.nodes.reverse :: before, rest⟩
    | _ => none

def segment? (p : Partial) : Segment → Option Partial
  | .text s => some (p.add (.text s))
  | .output tokens => (Expression.ofTokens? tokens).map fun e => p.add (.output e)
  | .statement tokens => do p.step? (← Statement.ofTokens? tokens)

def nodes? (p : Partial) : Option (List Node) :=
  if p.outer.isEmpty then some p.nodes.reverse else none

end Partial

def ofSource? (source : String) : Option (List Node) := do
  let segments ← Segment.ofSource? source
  let read ← segments.foldlM Partial.segment? Partial.start
  read.nodes?

namespace Scopes

def bind (scopes : Scopes) (name : String) (v : Value) : Scopes :=
  match scopes with
  | [] => [Dictionary.empty.insert name v]
  | scope :: outer => scope.insert name v :: outer

def bindTarget (scopes : Scopes) (target : Target) (v : Value) : Rendering Scopes :=
  match target, v with
  | .single name, v => .ok (scopes.bind name v)
  | .several names, .list items =>
    if names.length = items.length then
      .ok ((names.zip items).foldl (fun s (name, item) => s.bind name item) scopes)
    else .error .cannotUnpack
  | .several _, _ => .error .cannotUnpack

end Scopes

def loopState (i size : Nat) : Value :=
  .record [("first", .bool (i = 0)), ("last", .bool (i + 1 = size)), ("index", .ofNumber (i + 1)),
    ("index0", .ofNumber i), ("length", .ofNumber size)]

/-- The texts of a body, rendered once for each element in the innermost scope. -/
def renderPasses (body : Scopes → Rendering (String × Scopes)) (target : Target) (size : Nat) :
    Scopes → List (Value × Nat) → Rendering String
  | _, [] => .ok ""
  | scopes, (element, i) :: rest => do
    let bound ← (scopes.bind "loop" (loopState i size)).bindTarget target element
    let (first, after) ← body bound
    return first ++ (← renderPasses body target size after rest)

mutual

def Node.render (scopes : Scopes) : Node → Rendering (String × Scopes)
  | .text s => .ok (s, scopes)
  | .output e => do return ((← e.eval scopes).display, scopes)
  | .assign target value => do return ("", ← scopes.bindTarget target (← value.eval scopes))
  | .branch test yes no => do
    if (← test.eval scopes).isTrue then renderAll scopes yes else renderAll scopes no
  | .loop target sequence body empty => do
    let elements ← (← sequence.eval scopes).elements
    if elements.isEmpty then renderAll scopes empty
    else
      let inside := Dictionary.empty :: scopes
      let text ← renderPasses (fun s => renderAll s body) target elements.length inside
        elements.zipIdx
      return (text, scopes)

def renderAll (scopes : Scopes) : List Node → Rendering (String × Scopes)
  | [] => .ok ("", scopes)
  | node :: rest => do
    let (first, after) ← node.render scopes
    let (others, last) ← renderAll after rest
    return (first ++ others, last)

end

end Template

structure Template where
  nodes : List Template.Node

namespace Template

def parse (source : String) : Rendering Template :=
  match ofSource? source with
  | some nodes => .ok ⟨nodes⟩
  | none => .error .badSyntax

/-- The context of a template is the map whose entries it starts with. -/
def scopesOf : Value → Scopes
  | .map entries => [.ofList entries]
  | _ => []

def render (t : Template) (context : Value) : Rendering String := do
  return (← renderAll (scopesOf context) t.nodes).1

end Template

end Dispatchers
