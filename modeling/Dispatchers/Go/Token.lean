import Dispatchers.Text.Letter

namespace Dispatchers.Go

structure Comment where
  text : String
  row : Nat
  endRow : Nat
deriving DecidableEq

inductive TokenKind where
  | name
  | keyword
  | number
  | rune
  | string
  | operator
  | newline
  | eof
deriving DecidableEq

structure Token where
  kind : TokenKind
  text : String
  /-- The blanks and comments between the token before and this one. -/
  gap : String
  comments : List Comment
  row : Nat
  endRow : Nat
deriving DecidableEq

namespace Token

def keywords : List String :=
  ["break", "case", "chan", "const", "continue", "default", "defer", "else", "fallthrough", "for",
    "func", "go", "goto", "if", "import", "interface", "map", "package", "range", "return",
    "select", "struct", "switch", "type", "var"]

/-- Longer operators stand before their own beginnings. -/
def operators : List (List Char) :=
  ["<<=", ">>=", "&^=", "...", "&&", "||", "<-", "++", "--", "==", "!=", "<=", ">=", ":=", "+=",
    "-=", "*=", "/=", "%=", "&=", "|=", "^=", "<<", ">>", "&^", "+", "-", "*", "/", "%", "&", "|",
    "^", "<", ">", "=", "!", "(", ")", "[", "]", "\x7b", "\x7d", ",", ";", ".", ":",
    "~"].map String.toList

def endsStatement (kind : TokenKind) (text : String) : Bool :=
  match kind with
  | .name | .number | .rune | .string => true
  | .keyword => ["break", "continue", "fallthrough", "return"].contains text
  | .operator => ["++", "--", ")", "]", "\x7d"].contains text
  | .newline | .eof => false

def isNameStart (c : Char) : Bool :=
  Text.isLetter c || c == '_'

def isNameChar (c : Char) : Bool :=
  isNameStart c || Text.isDecimalDigit c

def isName (text : String) : Bool :=
  match text.toList with
  | [] => false
  | first :: rest => isNameStart first && rest.all isNameChar

/-- The source from the first token to the last, without what precedes the first. -/
def source : List Token → String
  | [] => ""
  | first :: rest => rest.foldl (fun s t => s ++ t.gap ++ t.text) first.text

end Token

end Dispatchers.Go
