import Dispatchers.Go.Token
import Dispatchers.Text.Blank
import Dispatchers.Text.Lines

namespace Dispatchers.Go

inductive Sibling where
  | comment (c : Comment)
  | declaration (row endRow : Nat)
deriving DecidableEq

namespace Sibling

def row : Sibling → Nat
  | comment c => c.row
  | declaration row _ => row

def endRow : Sibling → Nat
  | comment c => c.endRow
  | declaration _ endRow => endRow

end Sibling

/-- The comments directly above `row`, nearest first, among the siblings before it, nearest first.
A comment that starts where the sibling before it ends trails that sibling. -/
def commentsAbove (row : Nat) : List Sibling → List Comment
  | .comment c :: rest =>
    if c.endRow + 1 ≠ row then []
    else if rest.head?.any (·.endRow = c.row) then []
    else c :: commentsAbove c.row rest
  | _ => []

def leadingComments (row : Nat) (before : List Sibling) : List String :=
  (commentsAbove row before).reverse.flatMap fun c =>
    (Text.lines c.text.toList).map fun line => String.ofList (Text.trimEnd line)

end Dispatchers.Go
