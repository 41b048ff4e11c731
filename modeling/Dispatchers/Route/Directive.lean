import Dispatchers.Http.Verb
import Dispatchers.Text.Blank
import Dispatchers.Text.Letter

namespace Dispatchers.Route

open Http

/-- A comment line above an action, such as `//@get /users/:id user_show`. -/
structure Directive where
  scope : Scope
  pattern : String
  label : Option String
deriving DecidableEq

namespace Directive

def tokenAndRest? (line : List Char) : Option (List Char × List Char) :=
  match Text.trimEnd line with
  | '/' :: '/' :: '@' :: s =>
    let token := s.takeWhile Text.isWord
    let rest := Text.trimStart (s.dropWhile Text.isWord)
    if token = [] ∨ '\n' ∈ rest then none else some (token, rest)
  | _ => none

/-- Reads one comment line: `none` if it is no directive, and the unknown word if it names no
verb. The first word after the verb is the pattern and the second the label. -/
def parse? (line : String) : Option (Except String Directive) :=
  (tokenAndRest? line.toList).map fun (token, rest) =>
    match Scope.ofToken? (String.ofList token) with
    | none => .error (String.ofList token)
    | some scope =>
      let words := (Text.words rest).map String.ofList
      .ok ⟨scope, words.head?.getD "", words[1]?⟩

end Directive

end Dispatchers.Route
