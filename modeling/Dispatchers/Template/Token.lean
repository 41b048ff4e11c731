
namespace Dispatchers.Template

inductive Token where
  | name (s : String)
  | text (s : String)
  | number (n : Nat)
  | mark (s : String)
deriving DecidableEq

/-- What a tag does to the blanks on one of its sides. -/
inductive Margin where
  /-- A statement or comment drops the line end behind it, and the blanks before it if it starts
  its line. -/
  | standard
  | strip
  | keep
deriving DecidableEq

/-- Statements stand between `<%` and `%>`, expressions to print between `<@` and `@>`, and comments
between `<#` and `#>`. -/
inductive TagKind where
  | statement
  | output
  | comment
deriving DecidableEq

def TagKind.mark : TagKind → Char
  | statement => '%'
  | output => '@'
  | comment => '#'

def TagKind.ofMark? (c : Char) : Option TagKind :=
  [statement, output, comment].find? (·.mark = c)

/-- A comment has no tokens. -/
structure Tag where
  kind : TagKind
  before : Margin
  tokens : List Token
  after : Margin
deriving DecidableEq

end Dispatchers.Template
