
namespace Dispatchers

abbrev Reader (τ : Type) := StateT (List τ) Option

namespace Reader

variable {τ α β : Type}

def peek : Reader τ τ := fun input =>
  input.head?.map fun t => (t, input)

def take : Reader τ τ := fun input =>
  match input with
  | [] => none
  | t :: rest => some (t, rest)

def satisfying (p : τ → Bool) : Reader τ τ := do
  let t ← take
  guard (p t)
  return t

/-- Takes the longest run of elements that satisfy `p`, which may be empty. -/
def run (p : τ → Bool) : Reader τ (List τ) := fun input =>
  some (input.takeWhile p, input.dropWhile p)

def exactly [DecidableEq τ] (expected : List τ) : Reader τ Unit := fun input =>
  (expected.isPrefixOf? input).map fun rest => ((), rest)

def startsWith [DecidableEq τ] (expected : List τ) : Reader τ Bool := fun input =>
  some (expected.isPrefixOf input, input)

def accepting [DecidableEq τ] (expected : List τ) : Reader τ Bool := do
  if ← startsWith expected then
    exactly expected
    return true
  else return false

def maybe (p : Reader τ α) : Reader τ (Option α) :=
  some <$> p <|> pure none

/-- Repeats a step on its own results until it fails or takes nothing. -/
def iterate (step : α → Reader τ α) (a : α) : Reader τ α := fun input =>
  match step a input with
  | none => some (a, input)
  | some (next, rest) =>
    if rest.length < input.length then iterate step next rest else some (a, input)
termination_by input => input.length

def many (p : Reader τ α) : Reader τ (List α) := do
  let found ← iterate (fun (found : List α) => do return (← p) :: found) []
  return found.reverse

def separatedBy (mark : Reader τ β) (p : Reader τ α) : Reader τ (List α) := do
  let first ← p
  let rest ← many (do let _ ← mark; p)
  return first :: rest

def takenBy (p : Reader τ α) : Reader τ (α × List τ) := fun input =>
  (p input).map fun (a, rest) => ((a, input.take (input.length - rest.length)), rest)

def readAll? (p : Reader τ α) (input : List τ) : Option α :=
  match p input with
  | some (a, []) => some a
  | _ => none

end Reader

end Dispatchers
